import ChatSockets.Proofs.Socket.Keeper

/-!
# What calls can see of a keeper's step

The `Ledger` of a connection is all that decides how a call ends, and what the keeper is doing as
far as that matters. Seen from there a keeper with an open socket settles at the end of each step:
it still has the socket and the ledger is as it was, or it has torn the socket down (`Settles`).
Before that it may write one message (`Keeper.utters`) or take one (`Keeper.hears`). `Acts` lists
what a step does to the ledger and to the link at once, and `step_acts` says that there is nothing
else.
-/

namespace ChatSockets

namespace Keeper

/-- The state that a keeper has to show. -/
def Phase.shown : Phase → SocketState
  | .dialing .. | .greeting .. => .connecting
  | .looking .. | .serving .. | .draining _ | .writing .. | .crashed => .open
  | _ => .closed

/-- The link of an open socket. -/
def Phase.openLink? (p : Phase) : Option Nat := p.live?.map Live.link

/-- The probe that a frame is about, if it is about one. -/
def Purpose.probe? : Purpose → Option UInt64
  | .probe id => some id
  | _ => none

/-- The probes that a keeper is writing or has not seen answered. -/
def Phase.probes : Phase → List UInt64
  | .looking live _ => live.awaiting.toList
  | .serving live _ => live.awaiting.toList
  | .draining live => live.awaiting.toList
  | .writing live _ purpose => live.awaiting.toList ++ purpose.probe?.toList
  | _ => []

/-- A keeper has an open socket exactly if it has to show one, unless it crashed. -/
theorem Phase.isSome_openLink?_iff (p : Phase) :
    p.openLink?.isSome = true ↔ p.shown = .open ∧ p ≠ .crashed := by
  cases p <;> simp [Phase.shown, Phase.openLink?, Phase.live?]

theorem Phase.shown_of_openLink? {p : Phase} (h : p.openLink?.isSome = true) : p.shown = .open :=
  (p.isSome_openLink?_iff.1 h).1

theorem Phase.openLink?_of_shown {p : Phase} (h : p.shown ≠ .open) : p.openLink? = none := by
  cases p <;> first | rfl | exact absurd rfl h

theorem Phase.probes_of_shown {p : Phase} (h : p.shown ≠ .open) : p.probes = [] := by
  cases p <;> first | rfl | exact absurd rfl h

/-- The link that a keeper works on. -/
def Phase.link? : Phase → Option Nat
  | .greeting link _ => some link
  | .looking live _ => some live.link
  | .serving live _ => some live.link
  | .draining live => some live.link
  | .writing live _ _ => some live.link
  | _ => none

theorem linkOf?_eq (c : Connection) : linkOf? c = c.phase.link? := rfl

theorem Phase.link?_of_openLink? {p : Phase} {n : Nat} (h : p.openLink? = some n) :
    p.link? = some n := by
  cases p <;> first | exact h | cases h

theorem Phase.link?_of_closed {p : Phase} (h : p.shown = .closed) : p.link? = none := by
  cases p <;> first | rfl | cases h

end Keeper

/-- What decides how the calls of a connection end. -/
structure Ledger where
  socket : SocketKind
  pending : Pending UInt64
  replies : Table UInt64 Outcome
  state : SocketState
  ignored : List SocketEvent
  outbox : Option (List Wire.Message)
  queueEmptied : Bool
  /-- the state that the keeper has to show -/
  shown : SocketState
  /-- the link of the open socket -/
  link? : Option Nat
  /-- the probes that were not seen answered -/
  probes : List UInt64

namespace Ledger

/-- The ledger after an event, with a keeper that has to show some state. -/
def event (l : Ledger) (e : SocketEvent) (shown : SocketState) : Ledger :=
  { l with
    state := l.state.after e
    ignored := if (l.state.next? e).isSome then l.ignored else l.ignored ++ [e]
    shown }

/-- The ledger of a socket that opens on a link. -/
def opens (l : Ledger) (link : Nat) : Ledger :=
  { l.event .opened .open with outbox := some [], link? := some link, probes := [] }

/-- The ledger of a keeper that crashes as it opens its socket: the socket is shown all the same. -/
def crashes (l : Ledger) : Ledger :=
  { l.event .opened .open with outbox := none, link? := none, probes := [] }

/-- The ledger without a socket: whoever waits for a response is told that the socket closed. -/
def tornDown (l : Ledger) : Ledger where
  socket := l.socket
  pending := l.pending.failAll.2
  replies :=
    l.pending.failAll.1.foldl (fun t id => t.insert id (.error (.connectionClosed l.socket)))
      l.replies
  state := .closed
  ignored := l.ignored
  outbox := none
  queueEmptied := false
  shown := .closed
  link? := none
  probes := []

/-- The ledger after a response is taken that is for no probe. -/
def accept (l : Ledger) (r : Wire.Response) : Ledger :=
  { l with
    pending := (l.pending.complete r).2
    replies := match (l.pending.complete r).1 with
      | none => l.replies
      | some (id, outcome) => l.replies.insert id outcome }

end Ledger

namespace Connection

/-- The ledger of a connection. -/
def ledger (c : Connection) : Ledger where
  socket := c.socket
  pending := c.pending
  replies := c.replies
  state := c.state
  ignored := c.ignored
  outbox := c.outbox
  queueEmptied := c.queueEmptied
  shown := c.phase.shown
  link? := c.phase.openLink?
  probes := c.phase.probes

/-- Keepers without a socket look all the same. -/
theorem ledger_of_closed (c : Connection) (phase : Keeper.Phase) (h : phase.shown = .closed) :
    ({ c with phase } : Connection).ledger =
      { c.ledger with shown := .closed, link? := none, probes := [] } := by
  have hlink := Keeper.Phase.openLink?_of_shown (p := phase) (by rw [h]; nofun)
  have hprobes := Keeper.Phase.probes_of_shown (p := phase) (by rw [h]; nofun)
  simp only [ledger, h, hlink, hprobes]

/-- A keeper without a socket goes on without one. -/
theorem ledger_apart (c : Connection) (phase : Keeper.Phase) (hclosed : c.phase.shown = .closed)
    (h : phase.shown = .closed) : ({ c with phase } : Connection).ledger = c.ledger :=
  (c.ledger_of_closed phase h).trans (c.ledger_of_closed c.phase hclosed).symm

/-- A socket that is torn down leaves nothing for calls to wait for, wherever the keeper goes on. -/
theorem ledger_tearDown (c : Connection) (phase : Keeper.Phase) (h : phase.shown = .closed) :
    ({ c.tearDown with phase } : Connection).ledger = c.ledger.tornDown := by
  rw [ledger_of_closed _ phase h]
  simp only [ledger, Ledger.tornDown, tearDown, transition]
  cases c.state <;> rfl

/-- The wait after a failure shows a closed socket. -/
theorem ledger_backOff (c : Connection) (stores : Stores) (now : Nat) :
    (c.backOff stores now).ledger =
      { c.ledger with shown := .closed, link? := none, probes := [] } := by
  unfold backOff
  split <;> rfl

/-- An attempt that failed is noted. -/
theorem ledger_connectFailed (c : Connection) (stores : Stores) (now : Nat) (e : ChatError) :
    (c.connectFailed stores now e).ledger =
      { c.ledger.event .connectFailed .closed with link? := none, probes := [] } :=
  ledger_backOff _ stores now

/-- A keeper that goes on after a failure has no socket yet. -/
theorem ledger_goOn (c : Connection) (stores : Stores) (now : Nat) (b : Keeper.Backoff)
    (branch : Keeper.Branch) (hclosed : c.phase.shown = .closed) :
    (c.goOn stores now b branch).ledger = c.ledger := by
  cases branch with
  | woken =>
    unfold goOn
    dsimp only
    split
    · exact (c.withPolicy Policy.takeWake).ledger_apart _ hclosed rfl
    · exact (c.withPolicy Policy.takeWake).ledger_apart _ hclosed rfl
  | timer | nudge | shutdown => exact c.ledger_apart .atHead hclosed rfl
  | window | probe | send | receive => rfl

end Connection

namespace Keeper

open Wire

/-! ## How an open socket settles -/

/-- What became of an open socket on a link with a ledger: the keeper still has it, and no probes
but some, or it tore it down. -/
inductive Settles (l : Ledger) (link : Nat) (probes : List UInt64) (l' : Ledger) : Prop
  | stays (rest : List UInt64) (hprobes : ∀ id ∈ rest, id ∈ probes)
    (h : l' = { l with shown := .open, link? := some link, probes := rest })
  | falls (h : l' = l.tornDown)

/-- A keeper with an open socket offered bytes to its link and settled. -/
structure Turn.GoesOn (t : Turn) (link : Nat) (decoder : Decoder) (probes : List UInt64)
    (b : ByteArray) (t' : Turn) : Prop where
  leaves : t.Leaves link decoder b t'
  settles : Settles t.connection.ledger link probes t'.connection.ledger

section

variable {t t' : Turn} {link : Nat} {decoder : Decoder} {probes : List UInt64} {b : ByteArray}

theorem Turn.GoesOn.of_connection {c : Connection} (hledger : c.ledger = t.connection.ledger)
    (h : { t with connection := c }.GoesOn link decoder probes b t') :
    t.GoesOn link decoder probes b t' := by
  have hqueued : c.queued = t.connection.queued :=
    congrArg (fun l : Ledger => l.outbox.getD []) hledger
  refine ⟨h.leaves.of_connection (fun m hm => hqueued ▸ hm) (congrArg Ledger.socket hledger), ?_⟩
  rw [← hledger]
  exact h.settles

/-- A socket that is closed is torn down. -/
theorem Turn.close_goesOn (t : Turn) (stores : Stores) (now : Nat) (heard : Bool) (why : Close)
    (link : Nat) (decoder : Decoder) (probes : List UInt64) (b : ByteArray) :
    t.GoesOn link decoder probes b (t.close stores now heard why) := by
  refine ⟨t.close_leaves stores now heard why link decoder b, .falls ?_⟩
  have hdown := t.connection.ledger_tearDown .atHead rfl
  cases why with
  | unwanted => exact hdown
  | cycled => exact hdown
  | failed reason =>
    refine (Connection.ledger_backOff _ stores now).trans ?_
    rw [← hdown]
    split <;> rfl

/-- A loop that begins anew goes on with its socket or closes it. -/
theorem Turn.resume_goesOn (t : Turn) (stores : Stores) (now : Nat) (live : Live)
    (hprobes : ∀ id ∈ live.awaiting.toList, id ∈ probes) :
    t.GoesOn live.link live.decoder probes .empty (t.resume stores now live) := by
  refine ⟨t.resume_leaves stores now live, ?_⟩
  unfold Turn.resume
  dsimp only
  split
  · exact (Turn.GoesOn.of_connection (c := { t.connection with cycling := false }) rfl
      (Turn.close_goesOn _ stores now live.heard .cycled live.link live.decoder probes
        .empty)).settles
  · exact .stays live.awaiting.toList hprobes rfl

/-- So does a keeper that looks. -/
theorem Turn.look_goesOn (t : Turn) (stores : Stores) (now : Nat) (live : Live) (look : Look)
    (hprobes : ∀ id ∈ live.awaiting.toList, id ∈ probes) :
    t.GoesOn live.link live.decoder probes .empty (t.look stores now live look) := by
  refine ⟨t.look_leaves stores now live look, ?_⟩
  cases look with
  | whetherWanted counted =>
    unfold Turn.look
    dsimp only
    split
    · exact .stays live.awaiting.toList hprobes rfl
    · exact (t.close_goesOn stores now live.heard .unwanted live.link live.decoder probes
        .empty).settles
  | untilWhen => exact .stays live.awaiting.toList hprobes rfl

/-- After a frame is written the probe in it is the one that waits. -/
theorem Turn.written_goesOn (t : Turn) (stores : Stores) (now : Nat) (live : Live)
    (purpose : Purpose)
    (hprobes : ∀ id ∈ live.awaiting.toList ++ purpose.probe?.toList, id ∈ probes) :
    t.GoesOn live.link live.decoder probes .empty (t.written stores now live purpose) := by
  cases purpose with
  | probe id =>
    exact t.resume_goesOn stores now { live with awaiting := some id } fun id' hid' =>
      hprobes id' (List.mem_append_right _ hid')
  | request =>
    exact t.resume_goesOn stores now live fun id hid => hprobes id (List.mem_append_left _ hid)
  | reply =>
    exact ⟨t.written_leaves stores now live .reply, .stays live.awaiting.toList
      (fun id hid => hprobes id (List.mem_append_left _ hid)) rfl⟩

theorem Turn.write_goesOn (t : Turn) (stores : Stores) (now : Nat) (live : Live)
    (purpose : Purpose) (b : ByteArray)
    (hprobes : ∀ id ∈ live.awaiting.toList ++ purpose.probe?.toList, id ∈ probes) :
    t.GoesOn live.link live.decoder probes b (t.write stores now live purpose b) := by
  refine ⟨t.write_leaves stores now live purpose b, ?_⟩
  unfold Turn.write
  split
  · exact (t.close_goesOn stores now live.heard _ live.link live.decoder probes b).settles
  · next rest up hwrite =>
    dsimp only
    split
    · exact (Turn.written_goesOn { t with link := { t.link with up } } stores now live purpose
        hprobes).settles
    · exact .stays (live.awaiting.toList ++ purpose.probe?.toList) hprobes rfl

/-- A message is offered in its frame; without a frame the socket is closed. -/
theorem Turn.writeMessage_goesOn (t : Turn) (stores : Stores) (now : Nat) (live : Live)
    (purpose : Purpose) (m : Message)
    (hprobes : ∀ id ∈ live.awaiting.toList ++ purpose.probe?.toList, id ∈ probes) :
    t.GoesOn live.link live.decoder probes (offer m)
      (t.writeMessage stores now live purpose m) := by
  unfold Turn.writeMessage
  by_cases hfit : m.length ≤ Frame.maxLength
  · rw [Frame.encode_of_le hfit, offer_of_le hfit]
    exact t.write_goesOn stores now live purpose _ hprobes
  · rw [Frame.encode_of_lt (by omega)]
    exact t.close_goesOn stores now live.heard _ live.link live.decoder probes _

end

/-! ## How a socket opens -/

/-- What became of a connection that writes its handshake on a link: it failed, it still writes, the
socket was opened, or its keeper crashed as it opened it. -/
inductive Greets (l : Ledger) (link : Nat) (l' : Ledger) : Prop
  | fails (h : l' = { l.event .connectFailed .closed with link? := none, probes := [] })
  | waits (h : l' = { l with shown := .connecting, link? := none, probes := [] })
  | opens (h : Settles (l.opens link) link [] l')
  | crashes (h : l' = l.crashes)

/-- Once the handshake is written the socket is opened, or its keeper crashes. -/
theorem Turn.opened_greets (t : Turn) (stores : Stores) (now link : Nat) :
    Greets t.connection.ledger link (t.opened stores now link).connection.ledger := by
  unfold Turn.opened
  dsimp only
  split
  · have hopens : Settles _ link [] _ := (Turn.resume_goesOn
      { t with connection := { t.connection with outbox := some [] }.transition .opened }
      stores now { link, probeAt := now + t.connection.config.keepalive } nofun).settles
    refine .opens ?_
    cases hopens with
    | stays rest hprobes h => exact .stays rest hprobes h
    | falls h => exact .falls h
  · exact .crashes rfl

theorem Turn.greet_greets (t : Turn) (stores : Stores) (now link : Nat) (b : ByteArray) :
    Greets t.connection.ledger link (t.greet stores now link b).connection.ledger := by
  unfold Turn.greet
  split
  · exact .fails (t.connection.ledger_connectFailed stores now _)
  · next rest up hwrite =>
    dsimp only
    split
    · exact Turn.opened_greets { t with link := { t.link with up } } stores now link
    · exact .waits rfl

theorem connected_greets (stores : Stores) (now link : Nat) (hello : Handshake) (t : Turn) :
    Greets t.connection.ledger link
      (connected stores now link hello t).connection.ledger := by
  unfold connected
  split
  · exact .fails (t.connection.ledger_connectFailed stores now _)
  · exact t.greet_greets stores now link _

end Keeper

end ChatSockets
