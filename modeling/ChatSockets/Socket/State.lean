/-!
# The states of a socket

What an application sees of a socket is one of three states. `SocketState.next?` says which event
leads where, and `none` for an event that cannot happen in a state.
-/

namespace ChatSockets

/-- What an application sees of a socket. -/
inductive SocketState
  | closed
  | connecting
  | open
  deriving DecidableEq, Repr, Inhabited

/-- What happens to a socket. -/
inductive SocketEvent
  /-- an attempt to connect began -/
  | connectStarted
  /-- the connection is there and the handshake is written -/
  | opened
  /-- the connection or the handshake failed -/
  | connectFailed
  /-- an open socket went away, or the socket is no longer wanted -/
  | closed
  deriving DecidableEq, Repr

namespace SocketState

/-- The state of a socket that nothing has happened to. -/
def start : SocketState := closed

/-- The word for a state. -/
def name : SocketState → String
  | closed => "closed"
  | connecting => "connecting"
  | «open» => "open"

/-- Whether requests can be sent. -/
def isOpen (s : SocketState) : Bool := s = .open

/-- The state after an event, if the event can happen. -/
def next? : SocketState → SocketEvent → Option SocketState
  | closed, .connectStarted => some connecting
  | connecting, .opened => some .open
  | connecting, .connectFailed => some closed
  | _, .closed => some closed
  | _, _ => none

/-- The state after an event; an event that cannot happen changes nothing. -/
def after (s : SocketState) (e : SocketEvent) : SocketState := (s.next? e).getD s

end SocketState

end ChatSockets
