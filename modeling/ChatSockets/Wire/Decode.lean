import ChatSockets.Wire.Message
import ChatSockets.Wire.Varint

/-!
# Reading messages

A body is a row of fields in any order, each a key and a payload. A field that comes again replaces
what it gave before, or adds to it if it is a list or a message; a field with an unknown number is
skipped, whole groups included. `Message.decode` is the reader of a body.

A nested message is read from the body it lies in: its length says where its fields should end, and
whether they end there is asked after the last of them (`nested`). So a field may be read past the
end of the message around it before that is refused.
-/

namespace ChatSockets.Wire

/-- How deep messages and groups may lie in each other. -/
def maxDepth : Nat := 100

/-! ## Keys and payloads -/

/-- The number of a field and the layout of its payload. -/
structure Key where
  field : Nat
  layout : WireType
  deriving DecidableEq, Repr

/-- Reads the key of a field. -/
def readKey (i : Input) : Except Fault (Key × Input) := do
  let (n, i) ← Varint.read i
  if n ≥ UInt32.size then throw (.key n)
  match WireType.ofCode? (n % 8) with
  | none => throw (.wireType (n % 8))
  | some layout =>
    if n / 8 = 0 then throw .fieldNumber
    return (⟨n / 8, layout⟩, i)

/-- Refuses a layout that is not the one a field has. -/
def expect (expected found : WireType) : Except Fault Unit :=
  if found = expected then .ok () else .error (.layout found expected)

/-- Reads the payload of a field that holds a number. -/
def readNumber (layout : WireType) (i : Input) : Except Fault (Nat × Input) := do
  expect .varint layout
  Varint.read i

/-- Reads a number of bytes, and then as many. -/
def readChunk (i : Input) : Except Fault (List UInt8 × Input) := do
  let (n, i) ← Varint.read i
  match i.take? n with
  | none => throw .underflow
  | some r => return r

/-- Reads the payload of a field that holds bytes. -/
def readBytes (layout : WireType) (i : Input) : Except Fault (ByteArray × Input) := do
  expect .lengthDelimited layout
  let (bytes, i) ← readChunk i
  return (bytes.toByteArray, i)

/-- Reads the payload of a field that holds a text. -/
def readText (layout : WireType) (i : Input) : Except Fault (String × Input) := do
  let (bytes, i) ← readBytes layout i
  match String.fromUTF8? bytes with
  | none => throw .text
  | some s => return (s, i)

/-! ## Unknown fields -/

/-- Reads on until all open groups have ended; their numbers are given, the innermost first.
`budget` is how many levels the field that is skipped may open. Every round takes at least one byte,
so one more round than there are bytes is enough. -/
def skipGroups (budget : Nat) : Nat → List Nat → Input → Except Fault Input
  | 0, _, i => .ok i
  | _ + 1, [], i => .ok i
  | rounds + 1, group :: around, i => do
    let (key, i) ← readKey i
    if key.layout = .endGroup then
      if key.field ≠ group then throw .endGroup
      skipGroups budget rounds around i
    else
      if budget ≤ around.length + 1 then throw .depth
      match key.layout with
      | .startGroup => skipGroups budget rounds (key.field :: group :: around) i
      | .varint =>
        let (_, i) ← Varint.read i
        skipGroups budget rounds (group :: around) i
      | .lengthDelimited =>
        let (_, i) ← readChunk i
        skipGroups budget rounds (group :: around) i
      | .thirtyTwoBit =>
        match i.take? 4 with
        | none => throw .underflow
        | some (_, i) => skipGroups budget rounds (group :: around) i
      | _ =>
        match i.take? 8 with
        | none => throw .underflow
        | some (_, i) => skipGroups budget rounds (group :: around) i

/-- Skips the payload of a field with an unknown number. -/
def skip (budget : Nat) (key : Key) (i : Input) : Except Fault Input := do
  if budget = 0 then throw .depth
  match key.layout with
  | .varint => return (← Varint.read i).2
  | .lengthDelimited => return (← readChunk i).2
  | .thirtyTwoBit =>
    match i.take? 4 with
    | none => throw .underflow
    | some (_, i) => return i
  | .sixtyFourBit =>
    match i.take? 8 with
    | none => throw .underflow
    | some (_, i) => return i
  | .startGroup => skipGroups budget (i.left + 1) [key.field] i
  | .endGroup => throw .endGroup

/-! ## Messages -/

/-- A reader of one field's payload, which adds it to what has been read of a message. -/
abbrev FieldReader (μ : Type) := Key → μ → Input → Except DecodeError (μ × Input)

/-- What a reader gives, where a fault is met in no known field. -/
def bare (r : Except Fault α) : Except DecodeError α := r.mapError Fault.bare

/-- What a reader gives, where a fault is met in a known field. -/
def inField (message field : String) (r : Except Fault α) : Except DecodeError α :=
  r.mapError fun f => ⟨[⟨message, field⟩], f⟩

/-- Reads fields while more than `stop` bytes are left. Every field takes at least one byte, so as
many rounds as there are bytes are enough. -/
def readFields (field : FieldReader μ) (stop : Nat) :
    Nat → μ → Input → Except DecodeError (μ × Input)
  | 0, m, i => .ok (m, i)
  | rounds + 1, m, i =>
    if i.left ≤ stop then .ok (m, i)
    else do
      let (key, i) ← bare (readKey i)
      let (m, i) ← field key m i
      readFields field stop rounds m i

/-- Reads the payload of a field that holds a message, on top of what an earlier one gave. -/
def nested (field : FieldReader μ) (budget : Nat) (layout : WireType) (m : μ) (i : Input) :
    Except DecodeError (μ × Input) := do
  bare (expect .lengthDelimited layout)
  if budget = 0 then throw Fault.depth.bare
  let (n, i) ← bare (Varint.read i)
  if n > i.left then throw Fault.underflow.bare
  let (m, rest) ← readFields field (i.left - n) i.left m i
  if rest.left ≠ i.left - n then throw Fault.overrun.bare
  return (m, rest)

/-- Reads one field of a request. -/
def Request.readField (budget : Nat) : FieldReader Request := fun key r i =>
  match key.field with
  | 1 => do
    let (verb, i) ← inField "WireRequest" "verb" (readText key.layout i)
    return ({ r with verb }, i)
  | 2 => do
    let (path, i) ← inField "WireRequest" "path" (readText key.layout i)
    return ({ r with path }, i)
  | 3 => do
    let (body, i) ← inField "WireRequest" "body" (readBytes key.layout i)
    return ({ r with body }, i)
  | 4 => do
    let (id, i) ← inField "WireRequest" "id" (readNumber key.layout i)
    return ({ r with id := .ofNat id }, i)
  | 5 => do
    let (line, i) ← inField "WireRequest" "headers" (readText key.layout i)
    return ({ r with headers := r.headers ++ [line] }, i)
  | _ => do return (r, ← bare (skip budget key i))

/-- Reads one field of a response. -/
def Response.readField (budget : Nat) : FieldReader Response := fun key r i =>
  match key.field with
  | 1 => do
    let (id, i) ← inField "WireResponse" "id" (readNumber key.layout i)
    return ({ r with id := .ofNat id }, i)
  | 2 => do
    let (status, i) ← inField "WireResponse" "status" (readNumber key.layout i)
    return ({ r with status := .ofNat status }, i)
  | 3 => do
    let (message, i) ← inField "WireResponse" "message" (readText key.layout i)
    return ({ r with message }, i)
  | 4 => do
    let (body, i) ← inField "WireResponse" "body" (readBytes key.layout i)
    return ({ r with body }, i)
  | 5 => do
    let (line, i) ← inField "WireResponse" "headers" (readText key.layout i)
    return ({ r with headers := r.headers ++ [line] }, i)
  | _ => do return (r, ← bare (skip budget key i))

/-- Reads one field of a handshake. -/
def Handshake.readField (budget : Nat) : FieldReader Handshake := fun key h i =>
  match key.field with
  | 1 => do
    let (path, i) ← inField "Handshake" "path" (readText key.layout i)
    return ({ h with path }, i)
  | 2 => do
    let (login, i) ← inField "Handshake" "login" (readText key.layout i)
    return ({ h with login := some login }, i)
  | 3 => do
    let (password, i) ← inField "Handshake" "password" (readText key.layout i)
    return ({ h with password := some password }, i)
  | 4 => do
    let (userAgent, i) ← inField "Handshake" "user_agent" (readText key.layout i)
    return ({ h with userAgent }, i)
  | _ => do return (h, ← bare (skip budget key i))

/-- What a nested reader gives, where a fault is met inside a field of the message around it. -/
def under (field : String) (r : Except DecodeError α) : Except DecodeError α :=
  r.mapError (DecodeError.within ⟨"WireMessage", field⟩)

/-- Reads one field of a message. -/
def Message.readField (budget : Nat) : FieldReader Message := fun key m i =>
  match key.field with
  | 1 => do
    let (kind, i) ← inField "WireMessage" "kind" (readNumber key.layout i)
    return ({ m with kind := .ofNat kind }, i)
  | 2 => do
    let (r, i) ← under "request" (nested (Request.readField (budget - 1)) budget key.layout
      (m.request.getD {}) i)
    return ({ m with request := some r }, i)
  | 3 => do
    let (r, i) ← under "response" (nested (Response.readField (budget - 1)) budget key.layout
      (m.response.getD {}) i)
    return ({ m with response := some r }, i)
  | 4 => do
    let (h, i) ← under "handshake" (nested (Handshake.readField (budget - 1)) budget key.layout
      (m.handshake.getD {}) i)
    return ({ m with handshake := some h }, i)
  | _ => do return (m, ← bare (skip budget key i))

/-- The message of a body. -/
def Message.decode (body : ByteArray) : Except DecodeError Message :=
  (readFields (Message.readField maxDepth) 0 body.size {} (.ofBytes body)).map Prod.fst

end ChatSockets.Wire
