/-!
# Well-known paths, header names and delays

What both ends of a chat socket have to agree on, and the delays they use unless told otherwise, in
milliseconds.
-/

namespace ChatSockets

namespace Path

/-- The path of a handshake, on either socket. -/
def webSocket : String := "/v1/websocket/"

/-- A client's question whether the socket is alive. -/
def keepalive : String := "/v1/keepalive"

/-- A server's delivery of a message. -/
def message : String := "/api/v1/message"

/-- A server's word that the messages stored before the sign-in have all been sent. -/
def queueEmpty : String := "/api/v1/queue/empty"

/-- A client's question which account it is signed in to. -/
def whoami : String := "/v1/accounts/whoami"

/-- A client's message; the recipient's login follows. -/
def messagesTo : String := "/v1/messages/"

end Path

/-- The header with the time at which the server accepted a message, in milliseconds. -/
def serverTimestamp : String := "X-Server-Timestamp"

namespace Delay

/-- The longest wait of a request for its socket to open. -/
def openWait : Nat := 30000

/-- The time between two keepalive probes on an open socket. -/
def keepalive : Nat := 30000

/-- How long a push keeps the sockets wanted. -/
def push : Nat := 20000

/-- The longest wait for a connection, and of a server for a handshake. -/
def connect : Nat := 10000

/-- The wait after a first failure. -/
def reconnect : Nat := 1000

/-- The longest wait after a failure. -/
def maxReconnect : Nat := 30000

/-- The longest wait of a request for its response. -/
def request : Nat := 10000

end Delay

end ChatSockets
