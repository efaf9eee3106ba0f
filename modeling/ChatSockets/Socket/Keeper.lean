import ChatSockets.Link
import ChatSockets.Socket.Connection
import ChatSockets.Text.Decimal

/-!
# The keeper of a socket

The keeper is a loop. It parks while the socket is not wanted, dials when it is, writes the
handshake, and serves the open socket: it writes what callers submit, probes the server from time to
time, reads frames and answers those that are requests. When the socket fails it waits, each time
twice as long as before up to a limit, unless something calls it back earlier.

A keeper that is suspended may have several reasons to go on at once, and any of them may be the
one it goes on for. They are the values of `Keeper.Branch`; a step is told which one it takes, and
`Keeper.canTake` says which there are. After each of them the keeper looks whether the socket is to
be dropped or is no longer wanted (`Turn.resume`, `Turn.look`).

A keeper is not alone. Between two things that it looks at while its socket is open, calls and the
application may change what it has looked at already, and time may go by; so each of these readings
is a step of its own: of the flag that asks for a drop and of the number of requests that wait, of
the other reasons for the socket, and of the time until which a push counts. While no socket is open
no request waits (`Connection.tearDown`), so it does not matter there when they are counted, and
`Connection.wanted` looks at everything at once.

The steps work on the connection and the link of its socket (`Keeper.Turn`). Dialing needs a new
link instead, so its steps stand apart: `dial`, `connected` and `connectFailed`.
-/

namespace ChatSockets.Keeper

/-- What a suspended keeper can go on for. -/
inductive Branch
  /-- a wake-up -/
  | woken
  /-- the end of the time for which a push counts -/
  | window
  /-- a probe that is due -/
  | probe
  /-- a message to write -/
  | send
  /-- something to read -/
  | receive
  /-- the end of the wait after a failure -/
  | timer
  /-- a request to reconnect -/
  | nudge
  /-- the shutdown -/
  | shutdown
  deriving DecidableEq, Repr

/-- The branches, in the order in which they are declared. -/
def Branch.all : List Branch := [woken, window, probe, send, receive, timer, nudge, shutdown]

/-- A connection with the link of its socket, and the message that was pushed during the step. -/
structure Turn where
  connection : Connection
  link : Link
  incoming : Option Incoming := none

end Keeper

namespace Connection

open Keeper

/-! ## Between sockets -/

/-- The state after an event. One that cannot happen is noted and changes nothing else. -/
def transition (c : Connection) (e : SocketEvent) : Connection :=
  { c with
    state := c.state.after e
    ignored := if (c.state.next? e).isSome then c.ignored else c.ignored ++ [e] }

/-- A failure is made known to those who wait for the socket to open. -/
def recordFailure (c : Connection) (reason : String) : Connection :=
  { c with failures := c.failures + 1, lastFailure := reason }

/-- The connection without a socket: there is no outbox, and whoever waits for a response fails. -/
def tearDown (c : Connection) : Connection :=
  let (receivers, pending) := c.pending.failAll
  let outcome : Outcome := .error (.connectionClosed c.socket)
  { c with
    outbox := none
    pending
    replies := receivers.foldl (fun t id => t.insert id outcome) c.replies
    queueEmptied := false }.transition .closed

/-- The wait after a failure begins, if the socket is still wanted. -/
def backOff (c : Connection) (stores : Stores) (now : Nat) : Connection :=
  if c.wanted stores now then
    { c with phase := .waiting ⟨now + c.delay, c.policy.tokens, c.policy.reconnects⟩ }
  else { c with phase := .atHead }

/-- The next wait after a failure is the shortest one again. -/
def resetDelay (c : Connection) : Connection := { c with delay := c.config.reconnect }

/-- The handshake of a socket; the identified one needs credentials. -/
def hello? (c : Connection) (stores : Stores) : Option Wire.Handshake :=
  match c.socket with
  | .identified =>
    stores.credentials.map fun k => .identified k.login k.password c.config.userAgent
  | .unidentified => some (.unidentified c.config.userAgent)

/-- An attempt to connect failed. -/
def connectFailed (c : Connection) (stores : Stores) (now : Nat) (e : ChatError) : Connection :=
  ((c.transition .connectFailed).recordFailure e.message).backOff stores now

/-- The head of the loop: the keeper finishes, parks, or dials with an attempt that begins now. -/
def atHead (c : Connection) (stores : Stores) (now : Nat) (attempt : Attempt) : Connection :=
  if c.policy.shutDown then { c.tearDown with phase := .finished }
  else if c.wanted stores now then
    let c := { c with cycling := false }.transition .connectStarted
    match c.hello? stores with
    | none => c.connectFailed stores now (.transport "no credentials for the identified socket")
    | some hello => { c with phase := .dialing hello (now + c.config.connect) attempt }
  else { c.transition .closed with phase := .parked }

/-- The failure of an attempt that took too long. -/
def dialTimeout (c : Connection) : ChatError :=
  .transport s!"connect timed out after {(Duration.ofMillis c.config.connect).text}"

end Connection

namespace Keeper.Turn

/-! ## An open socket -/

/-- Why an open socket is closed. -/
inductive Close
  /-- nothing needs it -/
  | unwanted
  /-- it is to be opened again -/
  | cycled
  /-- the link or the server failed -/
  | failed (reason : String)
  deriving DecidableEq, Repr

/-- Lets go of the link and of what belonged to the socket. A failure is followed by a wait; it is
made known, and the wait grows, only if the server never said anything. -/
def close (t : Turn) (stores : Stores) (now : Nat) (heard : Bool) (why : Close) : Turn :=
  let c := t.connection.tearDown
  let c := match why with
    | .failed reason =>
      (if heard then c.resetDelay else c.recordFailure reason).backOff stores now
    | _ => { c.resetDelay with phase := .atHead }
  { t with connection := c, link := t.link.close }

/-- The loop of an open socket begins anew: it is dropped if that is asked for; otherwise the
requests that wait are counted, to see whether it is still wanted. -/
def resume (t : Turn) (stores : Stores) (now : Nat) (live : Live) : Turn :=
  let c := t.connection
  if c.cycling then
    { t with connection := { c with cycling := false } }.close stores now live.heard .cycled
  else { t with connection := { c with phase := .looking live (.whetherWanted c.pending.size) } }

/-- Goes on to look: the socket is dropped if it is no longer wanted, and the keeper is suspended
once it knows until when a push counts. -/
def look (t : Turn) (stores : Stores) (now : Nat) (live : Live) : Look → Turn
  | .whetherWanted counted =>
    if t.connection.wantedBy counted stores now then
      { t with connection := { t.connection with phase := .looking live .untilWhen } }
    else t.close stores now live.heard .unwanted
  | .untilWhen =>
    { t with connection := { t.connection with
        phase := .serving live (t.connection.policy.pushDeadline? now) } }

/-- The last moment that a clock can tell, which counts its seconds with 63 bits. -/
def lastInstant : Nat := UInt64.size / 2 * 1000 - 1

/-- Whether a timer can be set that goes off after a period, and after each further one. -/
def canRepeat (now period : Nat) : Bool := 0 < period && now + period ≤ lastInstant

/-- The handshake is written: the socket is open. If no timer can be set for its probes the keeper
ends there, and lets go of the link; but the socket is known to be open by then. -/
def opened (t : Turn) (stores : Stores) (now link : Nat) : Turn :=
  let c := { t.connection with outbox := some [] }.transition .opened
  if canRepeat now c.config.keepalive then
    { t with connection := c }.resume stores now { link, probeAt := now + c.config.keepalive }
  else
    { t with
      connection := { c with outbox := none, phase := .crashed }
      link := t.link.close }

/-- Writes as much of the handshake as there is room for. -/
def greet (t : Turn) (stores : Stores) (now link : Nat) (b : ByteArray) : Turn :=
  match t.link.up.write? b with
  | none =>
    { t with
      connection := t.connection.connectFailed stores now .brokenPipe
      link := t.link.close }
  | some (rest, up) =>
    let t := { t with link := { t.link with up } }
    if rest.isEmpty then t.opened stores now link
    else { t with connection := { t.connection with phase := .greeting link rest } }

/-- The failure of a frame that could not be written. -/
def writeFailure (purpose : Purpose) (e : ChatError) : Close :=
  match purpose with
  | .probe _ => .failed s!"keepalive write failed: {e.message}"
  | _ => .failed s!"write failed: {e.message}"

/-- A frame is written. -/
def written (t : Turn) (stores : Stores) (now : Nat) (live : Live) (purpose : Purpose) : Turn :=
  match purpose with
  | .probe id => t.resume stores now { live with awaiting := some id }
  | .request => t.resume stores now live
  | .reply => { t with connection := { t.connection with phase := .draining live } }

/-- Writes as much of a frame as there is room for. -/
def write (t : Turn) (stores : Stores) (now : Nat) (live : Live) (purpose : Purpose)
    (b : ByteArray) : Turn :=
  match t.link.up.write? b with
  | none => t.close stores now live.heard (writeFailure purpose .brokenPipe)
  | some (rest, up) =>
    let t := { t with link := { t.link with up } }
    if rest.isEmpty then t.written stores now live purpose
    else { t with connection := { t.connection with phase := .writing live rest purpose } }

/-- Writes a message. -/
def writeMessage (t : Turn) (stores : Stores) (now : Nat) (live : Live) (purpose : Purpose)
    (m : Wire.Message) : Turn :=
  match Wire.Frame.encode m with
  | .error e => t.close stores now live.heard (writeFailure purpose (.codec e))
  | .ok frame => t.write stores now live purpose frame

/-! ## What the server says -/

/-- The message that a push of the server carries. -/
def incomingOf (socket : SocketKind) (r : Wire.Request) : Incoming where
  socket
  body := r.body
  timestamp := (Header.find? r.headers serverTimestamp).bind fun v =>
    Text.unsigned? UInt64.size v.toList

/-- Answers a request of the server. -/
def answer (t : Turn) (r : Wire.Request) : Wire.Response × Turn :=
  if r.verb = "PUT" ∧ r.path = Path.message then
    (.plain r.id 200 "OK", { t with incoming := some (incomingOf t.connection.socket r) })
  else if r.verb = "PUT" ∧ r.path = Path.queueEmpty then
    (.plain r.id 200 "OK", { t with connection := { t.connection with queueEmptied := true } })
  else (.plain r.id 400 "Unsupported request", t)

/-- Takes a response: it answers the probe, or a request that waits, or nothing. -/
def accept (t : Turn) (live : Live) (r : Wire.Response) : Turn :=
  if live.awaiting = some r.id then
    { t with connection := { t.connection with phase := .draining { live with awaiting := none } } }
  else
    let c := t.connection
    let (receiver, pending) := c.pending.complete r
    let replies := match receiver with
      | none => c.replies
      | some (id, outcome) => c.replies.insert id outcome
    { t with connection := { c with pending, replies, phase := .draining live } }

/-- Handles a message of the server. -/
def handle (t : Turn) (stores : Stores) (now : Nat) (live : Live) (m : Wire.Message) : Turn :=
  match m.kindOf, m.request, m.response with
  | .response, _, some r => t.accept live r
  | .request, some r, _ =>
    let (response, t) := t.answer r
    t.writeMessage stores now live .reply (.ofResponse response)
  | _, _, _ => { t with connection := { t.connection with phase := .draining live } }

/-- Takes one message from the decoder; when there is none left, the loop begins anew. -/
def drain (t : Turn) (stores : Stores) (now : Nat) (live : Live) : Turn :=
  match live.decoder.next with
  | (.ok none, _) => t.resume stores now live
  | (.error e, _) => t.close stores now live.heard (.failed s!"bad frame: {e.message}")
  | (.ok (some m), decoder) => t.handle stores now { live with decoder, heard := true } m

/-! ## What an open socket goes on for -/

/-- When the next probe is due. One that came more than 5 ms late shifts those after it. -/
def nextProbe (due now period : Nat) : Nat := if now > due + 5 then now + period else due + period

/-- Probes the server, unless the probe before was not answered. -/
def probe (t : Turn) (stores : Stores) (now : Nat) (live : Live) : Turn :=
  match live.awaiting with
  | some id => t.close stores now live.heard (.failed s!"keepalive {id} went unanswered")
  | none =>
    let c := t.connection
    let (id, pending) := c.pending.draw
    let live := { live with probeAt := nextProbe live.probeAt now c.config.keepalive }
    { t with connection := { c with pending } }.writeMessage stores now live (.probe id)
      (.ofRequest (.plain id "GET" Path.keepalive))

/-- Writes the first message of the outbox. -/
def sendNext (t : Turn) (stores : Stores) (now : Nat) (live : Live) : Turn :=
  match t.connection.outbox with
  | some (m :: rest) =>
    { t with connection := { t.connection with outbox := some rest } }.writeMessage stores now live
      .request m
  | _ => t

/-- Reads a piece of the stream. The end of the stream closes the socket as a failure. A read that
fails, which would do so for a reason of its own, is left out (`Pipe.read`). -/
def receive (t : Turn) (stores : Stores) (now : Nat) (live : Live) : Turn :=
  match t.link.down.read Pipe.readSize with
  | (.nothing, _) => t
  | (.ended, _) => t.close stores now live.heard (.failed "server closed connection")
  | (.bytes b, down) =>
    let live := { live with decoder := live.decoder.extend b }
    { t with
      connection := { t.connection with phase := .draining live }
      link := { t.link with down } }

/-- A wake-up is taken. -/
def takeWake (t : Turn) : Turn :=
  { t with connection := t.connection.withPolicy Policy.takeWake }

/-- Goes on with an open socket. -/
def serve (t : Turn) (stores : Stores) (now : Nat) (live : Live) : Branch → Turn
  | .woken => t.takeWake.resume stores now live
  | .window => t.resume stores now live
  | .probe => t.probe stores now live
  | .send => t.sendNext stores now live
  | .receive => t.receive stores now live
  | _ => t

end Keeper.Turn

namespace Connection

open Keeper

/-! ## The wait after a failure -/

/-- Goes on after a failure. The end of the wait doubles the next one; a request to reconnect resets
it. A wake-up ends the wait only if the socket is no longer wanted or a token was taken meanwhile.
-/
def goOn (c : Connection) (stores : Stores) (now : Nat) (b : Backoff) : Branch → Connection
  | .timer => { c with delay := min (2 * c.delay) c.config.maxReconnect, phase := .atHead }
  | .nudge => { c.resetDelay with phase := .atHead }
  | .woken =>
    let c := c.withPolicy Policy.takeWake
    if c.wanted stores now ∧ c.policy.tokens ≤ b.tokens then
      { c with phase := .waiting ⟨b.due, c.policy.tokens, c.policy.reconnects⟩ }
    else { c with phase := .atHead }
  | .shutdown => { c with phase := .atHead }
  | _ => c

end Connection

namespace Keeper

/-! ## Steps -/

/-- Whether a keeper can go on for a reason, with its link as it is. -/
def canTake (now : Nat) (link : Link) (c : Connection) : Branch → Bool
  | .woken =>
    match c.phase with
    | .parked | .serving .. | .waiting _ => c.policy.woken
    | _ => false
  | .window =>
    match c.phase with
    | .serving _ (some t) => t ≤ now
    | _ => false
  | .probe =>
    match c.phase with
    | .serving live _ => live.probeAt ≤ now
    | _ => false
  | .send =>
    match c.phase, c.outbox with
    | .serving .., some (_ :: _) => true
    | _, _ => false
  | .receive =>
    match c.phase with
    | .serving .. => link.down.readable
    | _ => false
  | .timer =>
    match c.phase with
    | .waiting b => b.due ≤ now
    | _ => false
  | .nudge =>
    match c.phase with
    | .waiting b => c.policy.reconnectSince b.joined
    | _ => false
  | .shutdown =>
    match c.phase with
    | .waiting _ => c.policy.shutDown
    | _ => false

/-- The link of a connection's socket, if it has one. -/
def linkOf? (c : Connection) : Option Nat :=
  match c.phase with
  | .greeting link _ => some link
  | .looking live _ => some live.link
  | .serving live _ => some live.link
  | .draining live => some live.link
  | .writing live _ _ => some live.link
  | _ => none

/-- Whether an attempt to connect has ended, or has taken too long. -/
def dialEnded (now deadline : Nat) : Attempt → Bool
  | .hanging => deadline ≤ now
  | .arriving time => time ≤ now || deadline ≤ now
  | _ => true

/-- Whether a step would change anything. -/
def ready (now : Nat) (link : Link) (c : Connection) : Bool :=
  match c.phase with
  | .atHead => true
  | .looking .. => true
  | .draining _ => true
  | .dialing _ deadline attempt => dialEnded now deadline attempt
  | .greeting .. => link.up.writable
  | .writing .. => link.up.writable
  | .finished => false
  | .crashed => false
  | _ => Branch.all.any (canTake now link c)

/-- One step of a keeper that is not at the head of its loop and not dialing. A branch that cannot
be taken changes nothing. -/
def step (branch : Branch) (stores : Stores) (now : Nat) (t : Turn) : Turn :=
  let c := t.connection
  match c.phase with
  | .parked =>
    if canTake now t.link c branch then
      { t.takeWake with connection := { t.takeWake.connection with phase := .atHead } }
    else t
  | .greeting link rest => t.greet stores now link rest
  | .looking live look => t.look stores now live look
  | .serving live _ =>
    if canTake now t.link c branch then t.serve stores now live branch else t
  | .draining live => t.drain stores now live
  | .writing live rest purpose => t.write stores now live purpose rest
  | .waiting b =>
    if canTake now t.link c branch then { t with connection := c.goOn stores now b branch } else t
  | _ => t

/-- The connection is there: the handshake is written on the new link, which has a number. -/
def connected (stores : Stores) (now link : Nat) (hello : Wire.Handshake) (t : Turn) : Turn :=
  match Wire.Frame.encode (.ofHandshake hello) with
  | .error e =>
    { t with connection := t.connection.connectFailed stores now (.codec e), link := t.link.close }
  | .ok frame => t.greet stores now link frame

end Keeper

end ChatSockets
