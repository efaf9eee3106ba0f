import ChatSockets.Paths

/-!
# The messages of a chat socket

A socket carries `Message`s in both directions. The kind of a message is a number, of which three
have a meaning (`Message.kindOf`); the three payloads are optional, whatever the kind is.
-/

namespace ChatSockets.Wire

/-- A request, from either end. -/
structure Request where
  verb : String := ""
  path : String := ""
  body : ByteArray := .empty
  id : UInt64 := 0
  headers : List String := []
  deriving Inhabited

/-- The answer to the request with the same id. -/
structure Response where
  id : UInt64 := 0
  status : UInt32 := 0
  message : String := ""
  body : ByteArray := .empty
  headers : List String := []
  deriving Inhabited

/-- What a client says first; with a login, it asks to be signed in. -/
structure Handshake where
  path : String := ""
  login : Option String := none
  password : Option String := none
  userAgent : String := ""
  deriving DecidableEq, Inhabited

/-- What a message is meant as. -/
inductive Kind
  | unknown
  | request
  | response
  | handshake
  deriving DecidableEq, Repr

/-- One message on a socket. -/
structure Message where
  kind : Int32 := 0
  request : Option Request := none
  response : Option Response := none
  handshake : Option Handshake := none
  deriving Inhabited

namespace Kind

/-- The number of a kind. -/
def code : Kind → Int32
  | unknown => 0
  | request => 1
  | response => 2
  | handshake => 3

/-- The kind of a number; a number without a meaning is of unknown kind. -/
def ofCode (n : Int32) : Kind :=
  if n = 1 then request else if n = 2 then response else if n = 3 then handshake else unknown

@[simp] theorem ofCode_code (k : Kind) : ofCode k.code = k := by cases k <;> rfl

/-- The name of a kind in messages. -/
def name : Kind → String
  | unknown => "Unknown"
  | request => "Request"
  | response => "Response"
  | handshake => "Handshake"

end Kind

namespace Message

/-- What a message is meant as. -/
def kindOf (m : Message) : Kind := .ofCode m.kind

/-- The message that carries a request. -/
def ofRequest (r : Request) : Message := { kind := Kind.request.code, request := some r }

/-- The message that carries a response. -/
def ofResponse (r : Response) : Message := { kind := Kind.response.code, response := some r }

/-- The message that carries a handshake. -/
def ofHandshake (h : Handshake) : Message := { kind := Kind.handshake.code, handshake := some h }

end Message

/-- Whether a response says that the request succeeded. -/
def Response.isSuccess (r : Response) : Bool := 200 ≤ r.status ∧ r.status < 300

/-- A response without a body. -/
def Response.plain (id : UInt64) (status : UInt32) (message : String) : Response :=
  { id, status, message }

/-- A request without a body. -/
def Request.plain (id : UInt64) (verb path : String) : Request := { id, verb, path }

/-- A handshake that asks for no account. -/
def Handshake.unidentified (userAgent : String) : Handshake :=
  { path := Path.webSocket, userAgent }

/-- A handshake that asks for an account. -/
def Handshake.identified (login password userAgent : String) : Handshake :=
  { path := Path.webSocket, login := some login, password := some password, userAgent }

/-- Whether a handshake asks for an account. -/
def Handshake.isIdentified (h : Handshake) : Bool := h.login.isSome

end ChatSockets.Wire
