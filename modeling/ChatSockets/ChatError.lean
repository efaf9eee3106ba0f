import ChatSockets.Request
import ChatSockets.Text.Duration
import ChatSockets.Wire.Frame

/-!
# Why a request or a wait failed

Only `serviceResponse` is an answer of the server; every other error means that none arrived
(`isTransportFailure`).
-/

namespace ChatSockets

/-- Why a request or a wait for a socket failed. -/
inductive ChatError
  /-- the socket was not open when the request was submitted -/
  | notConnected (socket : SocketKind)
  /-- the socket closed before the response -/
  | connectionClosed (socket : SocketKind)
  /-- the socket was shut down for good -/
  | connectionShutdown (socket : SocketKind)
  /-- no response came in time -/
  | timeout (path : String) (elapsed : Duration)
  /-- the server answered with another status than 2xx -/
  | serviceResponse (status : UInt32) (message : String) (body : ByteArray)
  /-- no connection, or a connection that failed before the server said anything -/
  | transport (reason : String)
  /-- a frame that could not be written or read -/
  | codec (cause : Wire.FrameError)
  /-- a stream that failed -/
  | io (reason : String)

namespace ChatError

/-- The words for an error. -/
def message : ChatError → String
  | notConnected socket => s!"{socket.name} socket is not open"
  | connectionClosed socket => s!"{socket.name} socket closed before a response arrived"
  | connectionShutdown socket => s!"{socket.name} connection has been shut down"
  | timeout path elapsed => s!"Request {path} timed out after {elapsed.text}"
  | serviceResponse status message _ => s!"Service responded {status}: {message}"
  | transport reason => s!"Transport error: {reason}"
  | codec cause => s!"Codec error: {cause.message}"
  | io reason => s!"I/O error: {reason}"

/-- Whether no response of the server arrived. -/
def isTransportFailure : ChatError → Bool
  | serviceResponse .. => false
  | _ => true

/-- The status of the response, if there was one. -/
def status? : ChatError → Option UInt32
  | serviceResponse status _ _ => some status
  | _ => none

/-- The words for a stream whose other end is gone. -/
def brokenPipe : ChatError := io "broken pipe"

end ChatError

end ChatSockets
