import ChatSockets.Wire.Message
import ChatSockets.Wire.Varint

/-!
# Writing messages

The fields of a message are written in the order of their numbers. A number, text or byte string
that is 0 or empty is left out; a field that may be absent is written whenever it is there, even
empty; a list is one field per element.
-/

namespace ChatSockets.Wire

/-- The bytes in front of a field: its number and the layout of its payload. -/
def writeKey (field : Nat) (layout : WireType) : ByteArray :=
  (Varint.write (8 * field + layout.code)).toByteArray

/-- A field that holds a number. -/
def numberField (field n : Nat) : ByteArray :=
  writeKey field .varint ++ (Varint.write n).toByteArray

/-- A field that holds bytes, behind their number. -/
def bytesField (field : Nat) (b : ByteArray) : ByteArray :=
  writeKey field .lengthDelimited ++ (Varint.write b.size).toByteArray ++ b

/-- A field that holds a text. -/
def textField (field : Nat) (s : String) : ByteArray := bytesField field s.toUTF8

/-- A number, unless it is 0. -/
def numberUnlessZero (field n : Nat) : ByteArray := if n = 0 then .empty else numberField field n

/-- A byte string, unless it is empty. -/
def bytesUnlessEmpty (field : Nat) (b : ByteArray) : ByteArray :=
  if b.isEmpty then .empty else bytesField field b

/-- A text, unless it is empty. -/
def textUnlessEmpty (field : Nat) (s : String) : ByteArray := bytesUnlessEmpty field s.toUTF8

/-- A field that may be absent. -/
def optionField (write : α → ByteArray) : Option α → ByteArray
  | none => .empty
  | some a => write a

/-- One text field per element. -/
def textFields (field : Nat) (l : List String) : ByteArray :=
  l.foldl (fun b s => b ++ textField field s) .empty

/-- The bytes of a request. -/
def Request.encode (r : Request) : ByteArray :=
  textUnlessEmpty 1 r.verb ++ textUnlessEmpty 2 r.path ++ bytesUnlessEmpty 3 r.body ++
    numberUnlessZero 4 r.id.toNat ++ textFields 5 r.headers

/-- The bytes of a response. -/
def Response.encode (r : Response) : ByteArray :=
  numberUnlessZero 1 r.id.toNat ++ numberUnlessZero 2 r.status.toNat ++
    textUnlessEmpty 3 r.message ++ bytesUnlessEmpty 4 r.body ++ textFields 5 r.headers

/-- The bytes of a handshake. -/
def Handshake.encode (h : Handshake) : ByteArray :=
  textUnlessEmpty 1 h.path ++ optionField (textField 2) h.login ++
    optionField (textField 3) h.password ++ textUnlessEmpty 4 h.userAgent

/-- The bytes of a message. A kind below 0 is written in its 64-bit two's complement. -/
def Message.encode (m : Message) : ByteArray :=
  numberUnlessZero 1 m.kind.toInt64.toUInt64.toNat ++
    optionField (fun r => bytesField 2 (Request.encode r)) m.request ++
    optionField (fun r => bytesField 3 (Response.encode r)) m.response ++
    optionField (fun h => bytesField 4 (Handshake.encode h)) m.handshake

end ChatSockets.Wire
