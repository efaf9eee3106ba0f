import ChatSockets.Script.ClientSide

/-!
# Scripts of a client

A script is a list of `ClientAct`s: what the application, the server and the network do, and how
much time passes. After each of them the client settles, and a `ClientReport` says what there is to
see (`ClientSide.reports`); or the whole script is followed by a single report
(`ClientSide.lastReport`).
-/

namespace ChatSockets.Script

/-- One thing that happens to a client. Where a socket is optional and missing, both are meant. -/
inductive ClientAct
  | look
  | advance (ms : Nat)
  /-- the application went to the foreground or left it -/
  | active (on : Bool) (socket : Option SocketKind)
  /-- a push was heard of -/
  | push (socket : Option SocketKind)
  /-- a socket is to be dropped and opened again; the identified one unless another is named -/
  | cycle (socket : Option SocketKind)
  /-- a token is taken, and kept in place of an earlier one of the same name -/
  | token (name : String) (socket : SocketKind)
  | dropToken (name : String)
  /-- a request is made, on the socket that it needs -/
  | request (name : String) (r : Request)
  /-- a request is made on a socket, with a token that the application holds -/
  | submit (name : String) (token : String) (socket : SocketKind) (r : Request)
  /-- a call that is neither of these two -/
  | call (name : String) (goal : Goal)
  | cancel (name : String)
  /-- a scripted peer writes, and then lets go of the link if it is to -/
  | serverSend (socket : String) (bytes : ByteArray) (close : Bool)
  | serverClose (socket : String)
  /-- whether scripted peers answer -/
  | auto (on : Bool)
  /-- the real server accepts a message -/
  | deliver (login : String) (body : ByteArray)
  | credentials (held : Option Credentials)
  | expired (on : Bool)
  | connector (mode : ConnectorMode)
  /-- nobody listens any more -/
  | dropListener
  /-- the application takes no more of what is pushed -/
  | dropIncoming

/-- What the one who did something is told at once. -/
inductive Reply
  | nothing
  | yes (answer : Bool)
  | socket (k : SocketKind)
  | delivery (d : Delivery)

/-- What there is to see of a socket. -/
structure SocketView where
  state : SocketState
  wanted : Bool
  tokens : Nat
  pending : Nat
  queueEmptied : Bool
  /-- whether the socket is known to be open, so that requests can be made on it -/
  canRequest : Bool

/-- What there is to see of a client. -/
structure ClientReport where
  now : Nat
  reply : Reply
  attempts : Nat
  identified : SocketView
  unidentified : SocketView
  log : Log
  /-- what the real server keeps, if there is one -/
  mailroom : Option Mailroom

namespace ClientSide

/-! ## What happens -/

/-- Connections put through `f`: that of a socket, or both. -/
def withSockets (w : ClientSide) (k : Option SocketKind) (f : Connection → Connection) :
    ClientSide :=
  match k with
  | none => { w with sockets := w.sockets.both f }
  | some k => { w with sockets := w.sockets.modify k f }

/-- A call begins. -/
def start (w : ClientSide) (name : String) (goal : Goal) : ClientSide :=
  { w with calls := w.calls.push (name, .fresh goal) }

/-- The token of a name is given back. -/
def dropToken (w : ClientSide) (name : String) : Bool × ClientSide :=
  match w.tokens.get? name with
  | none => (false, w)
  | some k =>
    (true, { w.withSockets (some k) Connection.release with tokens := w.tokens.erase name })

/-- A token is taken, and then the earlier one of the same name is given back. -/
def takeToken (w : ClientSide) (name : String) (k : SocketKind) : ClientSide :=
  let (_, w) := (w.withSockets (some k) Connection.acquire).dropToken name
  { w with tokens := w.tokens.insert name k }

/-- The last call of a name is abandoned. -/
def cancel (w : ClientSide) (name : String) : ClientSide :=
  match (List.range w.calls.size).reverse.find? fun i => w.calls[i]?.any fun e => e.1 = name with
  | none => w
  | some i =>
    match w.calls[i]? with
    | none => w
    | some (_, phase) =>
      let (phase, sockets) := Call.cancel w.sockets phase
      { w with sockets, calls := w.calls.modify i fun e => (e.1, phase) }

/-- The number of the link of a socket with a scripted peer. -/
def peerLink? (w : ClientSide) (socket : String) : Option Nat :=
  (List.range w.links.size).find? fun n =>
    match w.links[n]? with
    | some (_, .peer p) => p.name = some socket
    | _ => false

/-- A scripted peer does something, unless the link is gone. -/
def direct (w : ClientSide) (socket : String) (f : Link → Peer → Link × Peer) :
    Bool × ClientSide :=
  match w.peerLink? socket with
  | none => (false, w)
  | some n =>
    match w.links[n]? with
    | some (link, .peer p) =>
      if p.gone then (false, w)
      else
        let (link, p) := f link p
        (true, { w with links := w.links.modify n fun _ => (link, .peer p) })
    | _ => (false, w)

/-- The real server accepts a message. -/
def deliver (w : ClientSide) (login : String) (body : ByteArray) : Reply × ClientSide :=
  let (delivery, mailroom) := w.mailroom.deliver (wallClock w.now) login body
  (match delivery with
    | none => .nothing
    | some d => .delivery d, { w with mailroom })

/-- One thing happens, and the client does not go on yet. -/
def act (w : ClientSide) : ClientAct → Reply × ClientSide
  | .look => (.nothing, w)
  | .advance ms => (.nothing, crew.advance w ms)
  | .active on k => (.nothing, w.withSockets k (·.setActive on))
  | .push k => (.nothing, w.withSockets k (·.push w.now))
  | .cycle k => (.nothing, w.withSockets (some (k.getD .identified)) Connection.cycle)
  | .token name k => (.socket k, w.takeToken name k)
  | .dropToken name =>
    let (held, w) := w.dropToken name
    (.yes held, w)
  | .request name r =>
    let warnings := match r.routingWarning? with
      | none => w.log.warnings
      | some warning => w.log.warnings.push warning
    (.nothing, { w with log := { w.log with warnings } }.start name (.request r))
  | .submit name token k r =>
    match w.tokens.get? token with
    | none => (.nothing, w)
    | some held =>
      (.nothing, { w with tokens := w.tokens.erase token }.start name (.submit k held r))
  | .call name goal => (.nothing, w.start name goal)
  | .cancel name => (.nothing, w.cancel name)
  | .serverSend socket bytes close =>
    let (there, w) := w.direct socket fun link p =>
      (link, { p with output := p.output ++ bytes, closing := p.closing || close })
    (.yes there, w)
  | .serverClose socket =>
    let (there, w) := w.direct socket fun link p => (link, { p with closing := true })
    (.yes there, w)
  | .auto auto => (.nothing, { w with auto })
  | .deliver login body => w.deliver login body
  | .credentials held => (.nothing, { w with stores := { w.stores with credentials := held } })
  | .expired expired => (.nothing, { w with stores := { w.stores with expired } })
  | .connector mode => (.nothing, { w with connector := { w.connector with mode } })
  | .dropListener => (.nothing, { w with connector := { w.connector with listening := false } })
  | .dropIncoming => (.nothing, { w with listening := false })

/-! ## What there is to see -/

/-- What there is to see of a connection. -/
def view (w : ClientSide) (c : Connection) : SocketView where
  state := c.state
  wanted := c.wanted w.stores w.now
  tokens := c.policy.tokens
  pending := c.pending.size
  queueEmptied := c.queueEmptied
  canRequest := c.state.isOpen

/-- What there is to see after something that was answered. -/
def report (w : ClientSide) (reply : Reply) : ClientReport where
  now := w.now
  reply
  attempts := w.connector.attempts
  identified := w.view w.sockets.identified
  unidentified := w.view w.sockets.unidentified
  log := w.log
  mailroom := if w.real then some w.mailroom else none

/-- One thing happens, and the client settles. -/
def perform (w : ClientSide) (a : ClientAct) : Reply × ClientSide :=
  let (reply, w) := w.act a
  (reply, crew.settle w)

/-- A report for each thing that happens, after the client settled for the first time. -/
def reports (w : ClientSide) (script : List ClientAct) : List ClientReport :=
  let begun := crew.settle w
  (script.foldl (fun (reports, w) a =>
    let (reply, w) := perform w a
    (reports.push (w.report reply), { w with log := {} }))
    ((#[] : Array ClientReport), begun)).1.toList

/-- The report after the last thing that happens, on all that was seen since the beginning; warnings
are only those about the last. -/
def lastReport (w : ClientSide) (script : List ClientAct) : ClientReport :=
  let (reply, w) := script.foldl (fun (_, w) a =>
    perform { w with log := { w.log with warnings := #[] } } a) (.nothing, crew.settle w)
  w.report reply

end ClientSide

end ChatSockets.Script
