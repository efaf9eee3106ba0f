import ChatSockets.Header
import ChatSockets.Wire.Message

/-!
# Requests, responses and the socket a request travels on

A client has two sockets, of which only one is signed in. A `Request` says by two flags which of
them it needs (`Request.route`): one that is anonymous or needs no authorization travels on the
unidentified socket. The flags can be set so that they contradict each other (`isConsistent`).
-/

namespace ChatSockets

/-- The two sockets of a client. -/
inductive SocketKind
  /-- signed in to an account -/
  | identified
  /-- without an account -/
  | unidentified
  deriving DecidableEq, Repr, Inhabited

/-- The word for a socket. -/
def SocketKind.name : SocketKind → String
  | identified => "identified"
  | unidentified => "unidentified"

/-- What an application asks of the server. -/
structure Request where
  verb : String
  path : String
  headers : List String := []
  body : ByteArray := .empty
  /-- must not be linked to the account -/
  isAnonymous : Bool := false
  /-- must travel on the signed-in socket -/
  requiresAuthorization : Bool := true
  /-- the longest wait for the response in milliseconds, if not the configured one -/
  timeout : Option Nat := none

namespace Request

/-- A request for what is at a path. -/
def get (path : String) : Request := { verb := "GET", path }

/-- A request that brings a body to a path. -/
def put (path : String) (body : ByteArray) : Request := { verb := "PUT", path, body }

/-- The request, not to be linked to the account. -/
def anonymous (r : Request) : Request :=
  { r with isAnonymous := true, requiresAuthorization := false }

/-- The request, without need of the account. -/
def withoutAuthorization (r : Request) : Request := { r with requiresAuthorization := false }

/-- The request with a body. -/
def withBody (r : Request) (body : ByteArray) : Request := { r with body }

/-- The request with one more header line. -/
def withHeader (r : Request) (name value : String) : Request :=
  { r with headers := r.headers ++ [Header.line name value] }

/-- The request with a timeout in milliseconds. -/
def withTimeout (r : Request) (ms : Nat) : Request := { r with timeout := some ms }

/-- No request is anonymous and needs authorization. -/
def isConsistent (r : Request) : Bool := !(r.isAnonymous && r.requiresAuthorization)

/-- The socket a request travels on. -/
def route (r : Request) : SocketKind :=
  if r.isAnonymous || !r.requiresAuthorization then .unidentified else .identified

/-- Whether the flags of a request allow a socket. -/
def allows (r : Request) : SocketKind → Bool
  | .unidentified => !r.requiresAuthorization
  | .identified => !r.isAnonymous

/-- What is said about a request whose flags do not allow the socket it travels on. -/
def routingWarning? (r : Request) : Option String :=
  if r.allows r.route then none
  else some (s!"Request {r.verb} {r.path} has is_anonymous={r.isAnonymous} " ++
    s!"requires_authorization_headers={r.requiresAuthorization}; routing to {r.route.name}")

/-- The request as it is sent under an id. -/
def toWire (r : Request) (id : UInt64) : Wire.Request :=
  { verb := r.verb, path := r.path, body := r.body, id, headers := r.headers }

end Request

/-- What the server answered to a request that succeeded. -/
structure Response where
  status : UInt32
  message : String
  headers : List String
  body : ByteArray

namespace Response

/-- A response without the id it came under. -/
def ofWire (r : Wire.Response) : Response :=
  { status := r.status, message := r.message, headers := r.headers, body := r.body }

/-- The value of the first header with the name. -/
def header? (r : Response) (name : String) : Option String := Header.find? r.headers name

end Response

/-- A message that the server pushed. -/
structure Incoming where
  socket : SocketKind
  body : ByteArray
  /-- when the server accepted the message, if it said so -/
  timestamp : Option Nat

end ChatSockets
