import ChatSockets.Socket.Connection

/-!
# Calls

A `Call` is something an application asks of its two sockets and waits for: a request, a socket that
opens, a state, or a shutdown. It makes a step whenever what it waits for may be there
(`Call.ready`), and gives back what it holds when it is abandoned (`Call.cancel`).

A request holds a token of its socket until it is submitted, and from then on an entry among the
requests that wait; so it keeps its socket wanted from beginning to end.
-/

namespace ChatSockets

/-- The two connections of a client. -/
structure Sockets where
  identified : Connection
  unidentified : Connection

namespace Sockets

/-- Both connections, before anything has happened. -/
def new (config : ClientConfig) : Sockets :=
  ⟨.new .identified config, .new .unidentified config⟩

/-- The connection of a socket. -/
def get (s : Sockets) : SocketKind → Connection
  | .identified => s.identified
  | .unidentified => s.unidentified

/-- Another connection in the place of one. -/
def set (s : Sockets) (k : SocketKind) (c : Connection) : Sockets :=
  match k with
  | .identified => { s with identified := c }
  | .unidentified => { s with unidentified := c }

/-- A connection put through `f`. -/
def modify (s : Sockets) (k : SocketKind) (f : Connection → Connection) : Sockets :=
  s.set k (f (s.get k))

/-- Both connections put through `f`. -/
def both (s : Sockets) (f : Connection → Connection) : Sockets :=
  ⟨f s.identified, f s.unidentified⟩

@[simp] theorem get_set (s : Sockets) (k j : SocketKind) (c : Connection) :
    (s.set k c).get j = if j = k then c else s.get j := by
  cases k <;> cases j <;> rfl

end Sockets

/-- What an application asks for. -/
inductive Goal
  /-- a request, on the socket it needs -/
  | request (r : Request)
  /-- a request on a socket, with a token that was taken of a socket before -/
  | submit (socket : SocketKind) (token : SocketKind) (r : Request)
  /-- that a socket opens, or that an attempt to open it fails -/
  | opening (socket : SocketKind)
  /-- that a socket opens, for at most a number of milliseconds -/
  | openWithin (socket : SocketKind) (ms : Nat)
  /-- that a socket is in a state -/
  | state (socket : SocketKind) (state : SocketState)
  /-- the shutdown of some sockets -/
  | shutdown (sockets : List SocketKind)

/-- What a call ends in, if it does not fail. -/
inductive Achieved
  | response (r : Response)
  | opened
  | waited
  | inState
  | shutDown

/-- The result of a call. -/
abbrev CallResult := Except ChatError Achieved

namespace Call

/-- Where a call is. -/
inductive Phase
  /-- nothing was done for it -/
  | fresh (goal : Goal)
  /-- a request waits, with a token of its socket, for the socket to open, until a time -/
  | holding (socket : SocketKind) (r : Request) (limit : Nat)
  /-- a request was submitted under an id and waits for its response until a time -/
  | submitted (socket : SocketKind) (id : UInt64) (path : String) (timeout deadline : Nat)
  /-- it waits for an open socket or for a failure after the first `seen` ones -/
  | opening (socket : SocketKind) (seen : Nat)
  /-- it waits for an open socket until a time -/
  | openWithin (socket : SocketKind) (limit : Nat)
  | state (socket : SocketKind) (state : SocketState)
  /-- it waits for the keepers of these sockets to finish -/
  | shutdown (sockets : List SocketKind)
  | done (result : CallResult)
  /-- it was abandoned -/
  | abandoned

/-- Whether the wait for a socket is over, however it ends: the socket is open or shut down. -/
def openOrShut (c : Connection) : Bool := c.policy.shutDown || c.state.isOpen

/-- Whether the keeper of a connection has finished, or ended by a fault. -/
def keeperFinished (c : Connection) : Bool :=
  match c.phase with
  | .finished => true
  | .crashed => true
  | _ => false

/-- The result of waiting for a socket to open, if there is one yet. A shutdown counts before an
open socket, and an open socket before a failure. -/
def openingResult? (c : Connection) (seen : Nat) : Option CallResult :=
  if c.policy.shutDown then some (.error (.connectionShutdown c.socket))
  else if c.state.isOpen then some (.ok .opened)
  else if seen < c.failures then some (.error (.transport c.lastFailure))
  else none

/-- The result of a request. -/
def ofOutcome : Outcome → CallResult
  | .ok r => .ok (.response r)
  | .error e => .error e

/-- Submits a request on a socket and gives back a token of a socket. Without an open socket the
request fails at once. -/
def submit (s : Sockets) (now : Nat) (socket token : SocketKind) (r : Request) : Phase × Sockets :=
  let (id, c) := (s.get socket).register
  let s := (s.set socket c).modify token Connection.release
  let c := s.get socket
  match c.send? (.ofRequest (r.toWire id)) with
  | none => (.done (.error (.notConnected socket)), s.set socket (c.withdraw id))
  | some c =>
    let timeout := r.timeout.getD c.config.request
    (.submitted socket id r.path timeout (now + timeout), s.set socket c)

/-- Whether a step of a call would change anything. -/
def ready (s : Sockets) (now : Nat) : Phase → Bool
  | .fresh _ => true
  | .holding socket _ limit => openOrShut (s.get socket) || limit ≤ now
  | .submitted socket id _ _ deadline => (s.get socket).replies.contains id || deadline ≤ now
  | .opening socket seen => (openingResult? (s.get socket) seen).isSome
  | .openWithin socket limit => openOrShut (s.get socket) || limit ≤ now
  | .state socket state => (s.get socket).state = state
  | .shutdown sockets => sockets.all fun k => keeperFinished (s.get k)
  | .done _ => false
  | .abandoned => false

/-- Whether a call has to wait for a socket to open: it is wanted, and the wait is not over at once.
-/
def mustWait (c : Connection) (stores : Stores) (now limit : Nat) : Bool :=
  c.wanted stores now && !(openOrShut c || limit ≤ now)

/-- What a call does first. It looks at once whether what it would wait for is there already. -/
def begin (s : Sockets) (stores : Stores) (now : Nat) : Goal → Phase × Sockets
  | .request r =>
    let socket := r.route
    let s := s.modify socket Connection.acquire
    let c := s.get socket
    let limit := now + c.config.openWait
    if mustWait c stores now limit then (.holding socket r limit, s)
    else submit s now socket socket r
  | .submit socket token r => submit s now socket token r
  | .opening socket =>
    let seen := (s.get socket).failures
    match openingResult? (s.get socket) seen with
    | some result => (.done result, s)
    | none => (.opening socket seen, s)
  | .openWithin socket ms =>
    let limit := now + ms
    if mustWait (s.get socket) stores now limit then (.openWithin socket limit, s)
    else (.done (.ok .waited), s)
  | .state socket state =>
    if (s.get socket).state = state then (.done (.ok .inState), s) else (.state socket state, s)
  | .shutdown sockets =>
    let mine := sockets.filter fun k => !(s.get k).claimed
    let s := sockets.foldl (fun s k => s.modify k fun c => { c with claimed := true }.shutDown) s
    if mine.all fun k => keeperFinished (s.get k) then (.done (.ok .shutDown), s)
    else (.shutdown mine, s)

/-- One step of a call. A call that waits for nothing that is there stays as it is. -/
def step (s : Sockets) (stores : Stores) (now : Nat) (p : Phase) : Phase × Sockets :=
  match p with
  | .fresh goal => begin s stores now goal
  | .holding socket r limit =>
    if openOrShut (s.get socket) || limit ≤ now then submit s now socket socket r else (p, s)
  | .submitted socket id path timeout deadline =>
    match (s.get socket).replies.get? id with
    | some outcome => (.done (ofOutcome outcome), s.modify socket (·.withdraw id))
    | none =>
      if deadline ≤ now then
        (.done (.error (.timeout path (.ofMillis timeout))), s.modify socket (·.withdraw id))
      else (p, s)
  | .opening socket seen =>
    match openingResult? (s.get socket) seen with
    | some result => (.done result, s)
    | none => (p, s)
  | .openWithin socket limit =>
    if openOrShut (s.get socket) || limit ≤ now then (.done (.ok .waited), s) else (p, s)
  | .state socket state =>
    if (s.get socket).state = state then (.done (.ok .inState), s) else (p, s)
  | .shutdown sockets =>
    if sockets.all fun k => keeperFinished (s.get k) then (.done (.ok .shutDown), s) else (p, s)
  | .done _ => (p, s)
  | .abandoned => (p, s)

/-- A call is abandoned, and gives back what it holds. One that has ended stays as it is. -/
def cancel (s : Sockets) : Phase → Phase × Sockets
  | .done result => (.done result, s)
  | .fresh (.submit _ token _) => (.abandoned, s.modify token Connection.release)
  | .holding socket _ _ => (.abandoned, s.modify socket Connection.release)
  | .submitted socket id _ _ _ => (.abandoned, s.modify socket (·.withdraw id))
  | _ => (.abandoned, s)

end Call

end ChatSockets
