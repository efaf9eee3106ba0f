import ChatSockets.Script.Crew
import ChatSockets.Script.Peer
import ChatSockets.Script.WallClock
import ChatSockets.Server.Session
import ChatSockets.Socket.Call
import ChatSockets.Socket.Keeper

/-!
# A client and its server

A `ClientSide` is a client with everything it works with: its stores, its connector, the links it
opened, the calls of its application, and the server's end of each link, which is a scripted peer or
a session of a real server. A `Move` is a step of one of them, with the branch it takes where there
are several; `ClientSide.make` makes it. The crew of a client takes the first branch that can be
taken.
-/

namespace ChatSockets.Script

/-- The server's end of a link. -/
inductive Host
  | peer (p : Peer)
  | session (s : Session)

/-- What was seen since the last report. -/
structure Log where
  /-- calls that ended, with the time -/
  done : Array (String × Nat × CallResult) := #[]
  /-- what scripted peers noted, with the socket and the time -/
  noted : Array (String × Nat × Sighting) := #[]
  /-- what sessions ended in -/
  ended : Array (Except SessionError Unit) := #[]
  incoming : Array Incoming := #[]
  warnings : Array String := #[]

/-- A part that makes steps. -/
inductive ClientPart
  | keeper (socket : SocketKind)
  | call (index : Nat)
  | host (index : Nat)
  deriving DecidableEq, Repr

/-- A client with everything it works with. -/
structure ClientSide where
  clock : Clock ClientPart := {}
  stores : Stores := {}
  connector : Connector := {}
  sockets : Sockets
  /-- all links that were opened, each with the server's end -/
  links : Array (Link × Host) := #[]
  /-- the calls of the application, by name, in the order in which they began -/
  calls : Array (String × Call.Phase) := #[]
  /-- the tokens that the application holds -/
  tokens : Table String SocketKind := .empty
  /-- whether the application takes what is pushed -/
  listening : Bool := true
  /-- whether the server's ends are sessions of a real server -/
  real : Bool := false
  /-- what the real server keeps -/
  mailroom : Mailroom := .new .empty
  /-- whether scripted peers answer -/
  auto : Bool := true
  /-- the socket of each handshake that a scripted peer saw -/
  greeted : List SocketKind := []
  log : Log := {}

/-- A step of a part. -/
inductive Move
  | keeper (socket : SocketKind) (branch : Keeper.Branch)
  | call (index : Nat)
  | host (index : Nat) (branch : Session.Branch)
  deriving DecidableEq, Repr

namespace ClientSide

/-- The time. -/
def now (w : ClientSide) : Nat := w.clock.now

/-! ## The steps of keepers -/

/-- The link with a number; one that was never opened is empty. -/
def linkAt (w : ClientSide) (n : Nat) : Link := (w.links[n]?.map Prod.fst).getD {}

/-- The link of a connection's socket; an empty one if it has none. -/
def linkOf (w : ClientSide) (c : Connection) : Link :=
  match Keeper.linkOf? c with
  | none => {}
  | some n => w.linkAt n

/-- Another link under a number. -/
def setLink (w : ClientSide) (n : Nat) (link : Link) : ClientSide :=
  { w with links := w.links.modify n fun e => (link, e.2) }

/-- Another connection for a socket. -/
def setConnection (w : ClientSide) (k : SocketKind) (c : Connection) : ClientSide :=
  { w with sockets := w.sockets.set k c }

/-- What a keeper's step left behind; on a link with a number, if it has one. -/
def absorb (w : ClientSide) (k : SocketKind) (n : Option Nat) (t : Keeper.Turn) : ClientSide :=
  let w := w.setConnection k t.connection
  let w := match n with
    | none => w
    | some n => w.setLink n t.link
  match t.incoming with
  | none => w
  | some m =>
    if w.listening then { w with log := { w.log with incoming := w.log.incoming.push m } } else w

/-- A new server's end for a link. -/
def newHost (w : ClientSide) : Host :=
  if w.real then .session (.start (w.links.size + 1).toUInt64 w.now) else .peer {}

/-- A keeper at the head of its loop. The connector counts an attempt only if one is made. -/
def atHead (w : ClientSide) (k : SocketKind) : ClientSide :=
  let (attempt, connector) := w.connector.begin w.now
  let c := (w.sockets.get k).atHead w.stores w.now attempt
  match c.phase with
  | .dialing .. => { w.setConnection k c with connector }
  | _ => w.setConnection k c

/-- A keeper that waits for a connection. -/
def dial (w : ClientSide) (k : SocketKind) (hello : Wire.Handshake) (deadline : Nat)
    (attempt : Attempt) : ClientSide :=
  let c := w.sockets.get k
  let (attempt, connector) := w.connector.look w.now attempt
  let w := { w with connector }
  match attempt with
  | .connected =>
    let n := w.links.size
    let host := w.newHost
    let t := Keeper.connected w.stores w.now n hello ⟨c, {}, none⟩
    { w with links := w.links.push (t.link, host) }.absorb k (some n) t
  | .failed reason => w.setConnection k (c.connectFailed w.stores w.now (.transport reason))
  | _ =>
    if deadline ≤ w.now then w.setConnection k (c.connectFailed w.stores w.now c.dialTimeout)
    else w

/-- A step of a keeper. -/
def keep (w : ClientSide) (k : SocketKind) (branch : Keeper.Branch) : ClientSide :=
  let c := w.sockets.get k
  match c.phase with
  | .atHead => w.atHead k
  | .dialing hello deadline attempt => w.dial k hello deadline attempt
  | _ =>
    w.absorb k (Keeper.linkOf? c) (Keeper.step branch w.stores w.now ⟨c, w.linkOf c, none⟩)

/-! ## The steps of calls -/

/-- A step of a call. -/
def proceed (w : ClientSide) (i : Nat) : ClientSide :=
  match w.calls[i]? with
  | none => w
  | some (name, phase) =>
    let (phase, sockets) := Call.step w.sockets w.stores w.now phase
    let w := { w with sockets, calls := w.calls.modify i fun e => (e.1, phase) }
    match phase with
    | .done result =>
      { w with log := { w.log with done := w.log.done.push (name, w.now, result) } }
    | _ => w

/-! ## The steps of the server -/

/-- The name of a socket, by the handshakes of its kind so far. -/
def socketName (k : SocketKind) (greeted : List SocketKind) : String :=
  s!"{k.name}#{(greeted.filter (· = k)).length}"

/-- A scripted peer notes what it saw; a handshake names the socket. -/
def note (w : ClientSide) (p : Peer) (s : Sighting) : Peer × ClientSide :=
  let (p, w) := match s with
    | .frame { handshake := some h, .. } =>
      let k := if h.isIdentified then SocketKind.identified else .unidentified
      let greeted := w.greeted ++ [k]
      ({ p with name := some (socketName k greeted) }, { w with greeted })
    | _ => (p, w)
  let entry := (p.name.getD "no handshake", w.now, s)
  (p, { w with log := { w.log with noted := w.log.noted.push entry } })

/-- A step of a scripted peer, which writes what it has to write first. -/
def attend (w : ClientSide) (n : Nat) (link : Link) (p : Peer) : ClientSide :=
  if p.canWrite link then
    let (p, link) := p.write link
    { w with links := w.links.modify n fun _ => (link, .peer p) }
  else
    let (seen, p, link) := p.read w.auto link
    let (p, w) := seen.foldl (fun (p, w) s => note w p s) (p, w)
    { w with links := w.links.modify n fun _ => (link, .peer p) }

/-- A step of a session. -/
def serve (w : ClientSide) (n : Nat) (link : Link) (s : Session) (branch : Session.Branch) :
    ClientSide :=
  let t := Session.step branch w.now (wallClock w.now) ⟨s, w.mailroom, link⟩
  let w := { w with
    mailroom := t.mailroom
    links := w.links.modify n fun _ => (t.link, .session t.session) }
  match t.session.result? with
  | none => w
  | some r => { w with log := { w.log with ended := w.log.ended.push r } }

/-! ## Moves -/

/-- Makes a move. -/
def make (w : ClientSide) : Move → ClientSide
  | .keeper k branch => w.keep k branch
  | .call i => w.proceed i
  | .host n branch =>
    match w.links[n]? with
    | none => w
    | some (link, .peer p) => w.attend n link p
    | some (link, .session s) => w.serve n link s branch

/-- The move that a part makes: the first of the branches that can be taken. -/
def chosen (w : ClientSide) : ClientPart → Move
  | .keeper k =>
    let c := w.sockets.get k
    let link := w.linkOf c
    .keeper k ((Keeper.Branch.all.find? (Keeper.canTake w.now link c)).getD .woken)
  | .call i => .call i
  | .host n =>
    match w.links[n]? with
    | some (link, .session s) =>
      .host n (if s.canTake w.mailroom link .push then .push else .frame)
    | _ => .host n .frame

/-- Whether a part would change anything by its move. -/
def ready (w : ClientSide) : ClientPart → Bool
  | .keeper k =>
    let c := w.sockets.get k
    Keeper.ready w.now (w.linkOf c) c
  | .call i =>
    match w.calls[i]? with
    | none => false
    | some (_, phase) => Call.ready w.sockets w.now phase
  | .host n =>
    match w.links[n]? with
    | none => false
    | some (link, .peer p) => p.ready link
    | some (link, .session s) => s.ready w.now w.mailroom link

/-- The parts, keepers first and the server last. -/
def parts (w : ClientSide) : List ClientPart :=
  [.keeper .identified, .keeper .unidentified] ++ (List.range w.calls.size).map .call ++
    (List.range w.links.size).map .host

/-! ## Alarms -/

/-- The times at which a keeper may go on by itself. -/
def keeperAlarms (c : Connection) : List Nat :=
  match c.phase with
  | .dialing _ deadline (.arriving time) => [time, deadline]
  | .dialing _ deadline _ => [deadline]
  | .serving live window => live.probeAt :: window.toList
  | .waiting b => [b.due]
  | _ => []

/-- The time at which a call goes on by itself. -/
def callAlarms : Call.Phase → List Nat
  | .holding _ _ limit => [limit]
  | .submitted _ _ _ _ deadline => [deadline]
  | .openWithin _ limit => [limit]
  | _ => []

/-- The time at which a server's end goes on by itself. -/
def hostAlarms : Host → List Nat
  | .session { phase := .greeting deadline, .. } => [deadline]
  | _ => []

/-- The times at which a part goes on by itself. -/
def alarms (w : ClientSide) : ClientPart → List Nat
  | .keeper k => keeperAlarms (w.sockets.get k)
  | .call i => (w.calls[i]?.map fun e => callAlarms e.2).getD []
  | .host n => (w.links[n]?.map fun e => hostAlarms e.2).getD []

/-- The parts of a client and its server as tasks. -/
def crew : Crew ClientSide ClientPart where
  tasks := parts
  ready := ready
  step w p := w.make (w.chosen p)
  alarms := alarms
  clock := clock
  setClock w clock := { w with clock }

end ClientSide

end ChatSockets.Script
