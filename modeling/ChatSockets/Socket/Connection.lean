import ChatSockets.Config
import ChatSockets.Connector
import ChatSockets.Socket.Pending
import ChatSockets.Socket.Policy
import ChatSockets.Socket.State

/-!
# A client's connection

A `Connection` is one of the two sockets of a client: the reasons it is wanted for, the requests
that wait, and what its keeper is doing. The keeper is the task that opens the socket when it is
wanted, serves it, and waits after a failure; `Keeper.Phase` lists all points at which it can be.
This module holds what the application does to a connection; the keeper's own steps are in the next
one.
-/

namespace ChatSockets

namespace Keeper

/-- An open socket, as its keeper knows it. -/
structure Live where
  /-- the link it runs over -/
  link : Nat
  decoder : Wire.Decoder := .new
  /-- when the next probe is due -/
  probeAt : Nat
  /-- the probe that has not been answered -/
  awaiting : Option UInt64 := none
  /-- whether anything came from the server -/
  heard : Bool := false

/-- What a keeper goes on with after a frame is written. -/
inductive Purpose
  /-- a probe with an id -/
  | probe (id : UInt64)
  /-- a request of a caller -/
  | request
  /-- the answer to a request of the server -/
  | reply
  deriving DecidableEq, Repr

/-- The wait after a failure. -/
structure Backoff where
  /-- when it is over -/
  due : Nat
  /-- how many tokens there were when they were last looked at -/
  tokens : Nat
  /-- the count of requests to reconnect when they were last waited for -/
  joined : Nat
  deriving DecidableEq, Repr

/-- What the keeper of an open socket is about to look at, before it is suspended. -/
inductive Look
  /-- whether the socket is wanted, after the requests that wait were counted -/
  | whetherWanted (counted : Nat)
  /-- until when a push counts, after the socket was found wanted -/
  | untilWhen
  deriving DecidableEq, Repr

/-- Where a keeper is. It is about to go on at `atHead`, `looking` and `draining`; in the other
phases it is suspended until something happens, or ended. -/
inductive Phase
  /-- about to see whether the socket is wanted -/
  | atHead
  /-- waiting until the socket may be wanted -/
  | parked
  /-- waiting for a connection, with the handshake to write on it -/
  | dialing (hello : Wire.Handshake) (deadline : Nat) (attempt : Attempt)
  /-- writing the rest of the handshake -/
  | greeting (link : Nat) (rest : ByteArray)
  /-- about to look again whether an open socket is wanted, and for how long a push counts -/
  | looking (live : Live) (look : Look)
  /-- serving an open socket, until a push ceases to count if one does -/
  | serving (live : Live) (window : Option Nat)
  /-- about to take a message from the decoder -/
  | draining (live : Live)
  /-- writing the rest of a frame -/
  | writing (live : Live) (rest : ByteArray) (purpose : Purpose)
  /-- waiting after a failure -/
  | waiting (backoff : Backoff)
  | finished
  /-- ended by a fault, just after it made its socket known to be open -/
  | crashed

end Keeper

/-- One of the two sockets of a client. -/
structure Connection where
  socket : SocketKind
  config : ClientConfig
  policy : Policy
  /-- the requests that wait, each its own receiver -/
  pending : Pending UInt64 := .empty
  /-- outcomes that were not picked up yet, by request id -/
  replies : Table UInt64 Outcome := .empty
  state : SocketState := .start
  /-- the events that came when they could not happen; they were only noted -/
  ignored : List SocketEvent := []
  /-- the messages to write, while there is an open socket to write them on; one that a keeper left
  behind when it crashed takes none, and is as good as none -/
  outbox : Option (List Wire.Message) := none
  /-- whether the server said on this socket that all stored messages were sent -/
  queueEmptied : Bool := false
  /-- whether the socket is to be dropped and opened again -/
  cycling : Bool := false
  /-- how many attempts failed before the server said anything -/
  failures : Nat := 0
  /-- why the last of them failed -/
  lastFailure : String := ""
  /-- the next wait after a failure -/
  delay : Nat := config.reconnect
  phase : Keeper.Phase := .atHead
  /-- whether somebody waits, or has waited, for the keeper to finish -/
  claimed : Bool := false

namespace Connection

/-- A connection that nothing has happened to. -/
def new (socket : SocketKind) (config : ClientConfig) : Connection :=
  { socket, config, policy := { socket } }

/-- Whether the socket should be open, when the requests that wait were counted before. -/
def wantedBy (c : Connection) (counted : Nat) (stores : Stores) (now : Nat) : Bool :=
  c.policy.wants stores now counted

/-- Whether the socket should be open. -/
def wanted (c : Connection) (stores : Stores) (now : Nat) : Bool :=
  c.wantedBy c.pending.size stores now

/-- The connection with another policy. -/
def withPolicy (c : Connection) (f : Policy → Policy) : Connection :=
  { c with policy := f c.policy }

/-! ## What the application does -/

/-- The application went to the foreground or left it. -/
def setActive (c : Connection) (active : Bool) : Connection := c.withPolicy (·.setActive active)

/-- A push was heard of: the socket is wanted for a while, and a wait after a failure ends. -/
def push (c : Connection) (now : Nat) : Connection :=
  c.withPolicy fun p => (p.extendPush now c.config.push).requestReconnect

/-- The socket is to be dropped, and opened again if it is still wanted. -/
def cycle (c : Connection) : Connection :=
  { c with cycling := true }.withPolicy fun p => p.wake.requestReconnect

/-- A token is taken. -/
def acquire (c : Connection) : Connection := c.withPolicy Policy.acquire

/-- A token is given back. -/
def release (c : Connection) : Connection := c.withPolicy Policy.release

/-- The socket is never to be open again. -/
def shutDown (c : Connection) : Connection := c.withPolicy Policy.close

/-- A request waits under a new id. -/
def register (c : Connection) : UInt64 × Connection :=
  let (id, pending) := c.pending.draw
  let (_, pending) := pending.register id id
  (id, { c with pending })

/-- A request no longer waits. If it still did, that is a reason to look again whether the socket is
wanted. -/
def withdraw (c : Connection) (id : UInt64) : Connection :=
  match c.pending.remove id with
  | (none, _) => { c with replies := c.replies.erase id }
  | (some _, pending) =>
    { c with pending, replies := c.replies.erase id }.withPolicy Policy.wake

/-- A message is put into the outbox, if the socket is open. -/
def send? (c : Connection) (m : Wire.Message) : Option Connection :=
  c.outbox.map fun queue => { c with outbox := some (queue ++ [m]) }

end Connection

end ChatSockets
