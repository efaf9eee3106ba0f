import ChatSockets.Paths
import ChatSockets.Account

/-!
# Configurations

What a client and a server can be told, and what they do unless told. Delays are in milliseconds.
-/

namespace ChatSockets

/-- What both sockets of a client go by. -/
structure ClientConfig where
  serverAddress : String := "127.0.0.1:8443"
  userAgent : String := "chat-client/0.1.0"
  /-- the longest wait of a request for its socket to open -/
  openWait : Nat := Delay.openWait
  /-- the time between two probes on an open socket -/
  keepalive : Nat := Delay.keepalive
  /-- how long a push keeps the sockets wanted -/
  push : Nat := Delay.push
  /-- the longest wait for a connection -/
  connect : Nat := Delay.connect
  /-- the wait after a first failure -/
  reconnect : Nat := Delay.reconnect
  /-- the longest wait after a failure -/
  maxReconnect : Nat := Delay.maxReconnect
  /-- the longest wait for a response, for requests that do not set their own -/
  request : Nat := Delay.request
  deriving DecidableEq, Repr, Inhabited

/-- The configuration with the address that a setting names; a blank setting names none. -/
def ClientConfig.ofSetting : Option String → ClientConfig
  | none => {}
  | some address =>
    match Text.trim address.toList with
    | [] => {}
    | address => { serverAddress := String.ofList address }

/-- What a server goes by. -/
structure ServerConfig where
  bindAddress : String := "0.0.0.0:8443"
  accounts : Accounts := .empty

/-- The configuration of two settings, the second of which is a table of accounts. -/
def ServerConfig.ofSettings (bindAddress accounts : Option String) :
    Except AccountsError ServerConfig := do
  let config : ServerConfig := {}
  let config := { config with bindAddress := bindAddress.getD config.bindAddress }
  match accounts with
  | none => return config
  | some text => return { config with accounts := ← Accounts.parse text }

end ChatSockets
