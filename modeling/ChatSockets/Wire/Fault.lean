/-!
# What can be wrong with the body of a frame

A `DecodeError` is a `Fault` and the places it was met in, the innermost first. The words of both
are in `Fault.message` and `DecodeError.message`.
-/

namespace ChatSockets.Wire

/-- How the payload of a field is laid out. -/
inductive WireType
  | varint
  | sixtyFourBit
  | lengthDelimited
  | startGroup
  | endGroup
  | thirtyTwoBit
  deriving DecidableEq, Repr

namespace WireType

/-- The number that stands for a layout in a key. -/
def code : WireType → Nat
  | varint => 0
  | sixtyFourBit => 1
  | lengthDelimited => 2
  | startGroup => 3
  | endGroup => 4
  | thirtyTwoBit => 5

/-- The layout that a number stands for. -/
def ofCode? : Nat → Option WireType
  | 0 => some varint
  | 1 => some sixtyFourBit
  | 2 => some lengthDelimited
  | 3 => some startGroup
  | 4 => some endGroup
  | 5 => some thirtyTwoBit
  | _ => none

@[simp] theorem ofCode?_code (w : WireType) : ofCode? w.code = some w := by cases w <;> rfl

/-- The name of a layout in messages. -/
def name : WireType → String
  | varint => "Varint"
  | sixtyFourBit => "SixtyFourBit"
  | lengthDelimited => "LengthDelimited"
  | startGroup => "StartGroup"
  | endGroup => "EndGroup"
  | thirtyTwoBit => "ThirtyTwoBit"

end WireType

/-- A way in which bytes are not a message. -/
inductive Fault
  /-- a number that the input ends in, or that does not fit 64 bits -/
  | varint
  /-- a key that does not fit 32 bits -/
  | key (value : Nat)
  /-- a layout that does not exist -/
  | wireType (code : Nat)
  /-- a field with the number 0 -/
  | fieldNumber
  /-- a known field in another layout than its own -/
  | layout (found expected : WireType)
  /-- a length or a payload beyond the end of the input -/
  | underflow
  /-- a message whose fields run past its length -/
  | overrun
  /-- a text that is not UTF-8 -/
  | text
  /-- the end of a group that was not the innermost one -/
  | endGroup
  /-- messages and groups nested too deeply -/
  | depth
  deriving DecidableEq, Repr

/-- The words for a fault. -/
def Fault.message : Fault → String
  | varint => "invalid varint"
  | key value => s!"invalid key value: {value}"
  | wireType code => s!"invalid wire type value: {code}"
  | fieldNumber => "invalid tag value: 0"
  | layout found expected => s!"invalid wire type: {found.name} (expected {expected.name})"
  | underflow => "buffer underflow"
  | overrun => "delimited length exceeded"
  | text => "invalid string value: data is not UTF-8 encoded"
  | endGroup => "unexpected end group tag"
  | depth => "recursion limit reached"

/-- A field of a message, by the names messages use. -/
structure Place where
  message : String
  field : String
  deriving DecidableEq, Repr

/-- A fault and the known fields it lies in, the innermost first. -/
structure DecodeError where
  places : List Place
  fault : Fault
  deriving DecidableEq, Repr

namespace DecodeError

/-- The words for an error: the places, each with a colon, and then the fault. -/
def message (e : DecodeError) : String :=
  "failed to decode Protobuf message: " ++
    String.join (e.places.map fun p => s!"{p.message}.{p.field}: ") ++ e.fault.message

/-- The same error, seen from a field around it. -/
def within (place : Place) (e : DecodeError) : DecodeError :=
  { e with places := e.places ++ [place] }

end DecodeError

/-- A fault outside every known field. -/
def Fault.bare (f : Fault) : DecodeError := ⟨[], f⟩

end ChatSockets.Wire
