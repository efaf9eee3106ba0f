import ChatSockets.Proofs.Entries
import ChatSockets.Proofs.Socket.Ledger
import ChatSockets.Socket.Call

/-!
# What a step of a call does

Most steps of a call leave no trace that another call or a keeper could see. The others are two: a
request is submitted, and a request that was submitted is withdrawn, with its outcome or without
one. `Call.Does` lists them by what they do to the ledgers of the two sockets; `Call.step_does` and
`Call.cancel_does` say that there is nothing else.
-/

namespace ChatSockets

namespace Ledger

/-- The id that the next request gets. -/
def nextId (l : Ledger) : UInt64 := l.pending.draw.1

/-- The ledger with one more request that waits, under the next id. -/
def register (l : Ledger) : Ledger :=
  { l with pending := (l.pending.draw.2.register l.nextId l.nextId).2 }

/-- The ledger after nobody waits under an id any more. -/
def withdraw (l : Ledger) (id : UInt64) : Ledger :=
  { l with pending := (l.pending.remove id).2, replies := l.replies.erase id }

/-- The ledger with one more message to write. -/
def enqueue (l : Ledger) (m : Wire.Message) : Ledger :=
  { l with outbox := l.outbox.map (· ++ [m]) }

end Ledger

namespace Connection

/-- A connection that calls cannot tell from another, with the keeper at the same place. -/
structure Alike (c c' : Connection) : Prop where
  ledger : c'.ledger = c.ledger
  phase : c'.phase = c.phase

theorem Alike.refl (c : Connection) : c.Alike c := ⟨rfl, rfl⟩

theorem Alike.trans {c c' c'' : Connection} (h : c.Alike c') (h' : c'.Alike c'') : c.Alike c'' :=
  ⟨h'.ledger.trans h.ledger, h'.phase.trans h.phase⟩

theorem phase_withdraw (c : Connection) (id : UInt64) : (c.withdraw id).phase = c.phase := by
  unfold withdraw
  split <;> rfl

theorem ledger_withdraw (c : Connection) (id : UInt64) :
    (c.withdraw id).ledger = c.ledger.withdraw id := by
  cases hwaits : c.pending.receivers.get? id with
  | some r =>
    have hremove : c.pending.remove id = (some r, (c.pending.remove id).2) :=
      Prod.ext hwaits rfl
    rw [withdraw, hremove]
    rfl
  | none =>
    have hremove : c.pending.remove id = (none, c.pending) := by
      refine Prod.ext hwaits ?_
      rw [Pending.remove, Table.erase_of_get?_eq_none hwaits]
    have hsame : (c.ledger.pending.remove id).2 = c.pending := congrArg Prod.snd hremove
    rw [withdraw, hremove, Ledger.withdraw, hsame]
    rfl

end Connection

/-- An operation that is a part of a call, and of nothing else. -/
def Operation.ofCall : Operation → Bool
  | .register | .withdraw _ | .send .. => true
  | _ => false

/-- What an application does outside of its calls changes nothing that calls see. -/
theorem Connection.perform_alike (c : Connection) {op : Operation} (h : op.ofCall = false) :
    c.Alike (c.perform op) := by
  cases op <;> first | exact ⟨rfl, rfl⟩ | cases h

namespace Sockets

/-- The sockets after a change of which calls can tell nothing. -/
def Alike (s s' : Sockets) : Prop := ∀ k, (s.get k).Alike (s'.get k)

/-- The sockets after a change of which calls can tell only on one of them, and there only by the
ledger. -/
structure Changes (s : Sockets) (k : SocketKind) (l : Ledger) (s' : Sockets) : Prop where
  ledger : (s'.get k).ledger = l
  phase : (s'.get k).phase = (s.get k).phase
  elsewhere : ∀ j, j ≠ k → (s.get j).Alike (s'.get j)

theorem Alike.refl (s : Sockets) : s.Alike s := fun k => .refl (s.get k)

theorem Changes.trans_alike {s s' s'' : Sockets} {k : SocketKind} {l : Ledger}
    (h : s.Changes k l s') (h' : s'.Alike s'') : s.Changes k l s'' :=
  ⟨(h' k).ledger.trans h.ledger, (h' k).phase.trans h.phase,
    fun j hj => (h.elsewhere j hj).trans (h' j)⟩

theorem Changes.set {s s' : Sockets} {k : SocketKind} {l : Ledger} (h : s.Changes k l s')
    {c : Connection} (hphase : c.phase = (s'.get k).phase) : s.Changes k c.ledger (s'.set k c) := by
  refine ⟨?_, ?_, fun j hj => ?_⟩
  · rw [get_set, if_pos rfl]
  · rw [get_set, if_pos rfl]
    exact hphase.trans h.phase
  · rw [get_set, if_neg hj]
    exact h.elsewhere j hj

theorem Alike.trans {s s' s'' : Sockets} (h : s.Alike s') (h' : s'.Alike s'') : s.Alike s'' :=
  fun k => (h k).trans (h' k)

theorem get_modify (s : Sockets) (k j : SocketKind) (f : Connection → Connection) :
    (s.modify k f).get j = if j = k then f (s.get j) else s.get j := by
  rw [modify, get_set]
  split
  · next heq => rw [heq]
  · rfl

theorem modify_alike (s : Sockets) (k : SocketKind) {f : Connection → Connection}
    (h : ∀ c : Connection, c.Alike (f c)) : s.Alike (s.modify k f) := by
  intro j
  rw [get_modify]
  split
  · exact h _
  · exact .refl _

theorem foldl_modify_alike (s : Sockets) (ks : List SocketKind) {f : Connection → Connection}
    (h : ∀ c : Connection, c.Alike (f c)) : s.Alike (ks.foldl (fun s k => s.modify k f) s) := by
  induction ks generalizing s with
  | nil => exact .refl s
  | cons k ks ih => exact (s.modify_alike k h).trans (ih _)

end Sockets

/-- The request that a goal asks for, with the socket for it. -/
def Goal.asks? : Goal → Option (SocketKind × Request)
  | .request r => some (r.route, r)
  | .submit socket _ r => some (socket, r)
  | _ => none

/-- Whether a goal is only to be told something of a socket. -/
def Goal.onlyLooks : Goal → Bool
  | .opening _ | .openWithin .. | .state .. => true
  | _ => false

namespace Call

/-- The request that a call is about to submit, with the socket for it. -/
def Phase.asks? : Phase → Option (SocketKind × Request)
  | .fresh goal => goal.asks?
  | .holding socket r _ => some (socket, r)
  | _ => none

/-- The socket and the id of a request that was submitted and waits. -/
def Phase.waitsFor? : Phase → Option (SocketKind × UInt64)
  | .submitted socket id _ _ _ => some (socket, id)
  | _ => none

/-- A call that is about to submit a request does not wait for one. -/
theorem Phase.waitsFor?_of_asks? {p : Phase} {x : SocketKind × Request} (h : p.asks? = some x) :
    p.waitsFor? = none := by
  cases p <;> first | rfl | cases h

/-- Whether a phase is the end of a request: its outcome, or that there was no socket for it. -/
def Phase.isOutcome : Phase → Bool
  | .done (.ok (.response _)) | .done (.error (.notConnected _))
  | .done (.error (.serviceResponse ..)) => true
  | _ => false

/-- The request that a step of a call submits. -/
def submits? (s : Sockets) (stores : Stores) (now : Nat) : Phase → Option (SocketKind × Request)
  | .fresh (.request r) =>
    let c := (s.modify r.route Connection.acquire).get r.route
    if mustWait c stores now (now + c.config.openWait) then none else some (r.route, r)
  | .fresh (.submit socket _ r) => some (socket, r)
  | .holding socket r limit =>
    if openOrShut (s.get socket) || limit ≤ now then some (socket, r) else none
  | _ => none

/-- What comes of a request that is submitted on a socket: it waits in the outbox of the open
socket, or it fails. An id is drawn for it in any case. -/
inductive Submits (s : Sockets) (k : SocketKind) (r : Request) : Phase → Sockets → Prop
  | queued (timeout deadline : Nat) (s' : Sockets) (hopen : (s.get k).outbox.isSome = true)
    (h : s.Changes k
      ((s.get k).ledger.register.enqueue (.ofRequest (r.toWire (s.get k).ledger.nextId))) s') :
    Submits s k r (.submitted k (s.get k).ledger.nextId r.path timeout deadline) s'
  | refused (s' : Sockets) (hclosed : (s.get k).outbox = none)
    (h : s.Changes k ((s.get k).ledger.register.withdraw (s.get k).ledger.nextId) s') :
    Submits s k r (.done (.error (.notConnected k))) s'

/-- What a call does. -/
inductive Does (s : Sockets) (p : Phase) : Option (SocketKind × Request) → Phase → Sockets → Prop
  /-- it stays where it is, or goes on without a request that was submitted -/
  | waits (p' : Phase) (s' : Sockets) (halike : s.Alike s')
    (hphase : p' = p ∨ p.waitsFor? = none ∧ p'.waitsFor? = none ∧ p'.isOutcome = false ∧
      ∀ x, p'.asks? = some x → p.asks? = some x) : Does s p none p' s'
  | submits (k : SocketKind) (r : Request) (p' : Phase) (s' : Sockets)
    (hasks : p.asks? = some (k, r)) (h : Submits s k r p' s') : Does s p (some (k, r)) p' s'
  /-- a request is withdrawn, and its outcome is the result if there is one -/
  | withdraws (k : SocketKind) (id : UInt64) (p' : Phase) (s' : Sockets)
    (hwaits : p.waitsFor? = some (k, id))
    (hresult : (∃ outcome, (s.get k).replies.get? id = some outcome ∧
        p' = .done (ofOutcome outcome)) ∨
      p'.isOutcome = false ∧ p'.waitsFor? = none ∧ p'.asks? = none)
    (h : s.Changes k ((s.get k).ledger.withdraw id) s') : Does s p none p' s'

/-- A call goes on that has no request any more and submitted none. -/
theorem Does.goesOn {s : Sockets} {p : Phase} (p' : Phase) {s' : Sockets} (halike : s.Alike s')
    (hp : p.waitsFor? = none) (hwaits : p'.waitsFor? = none) (houtcome : p'.isOutcome = false)
    (hasks : p'.asks? = none) : Does s p none p' s' :=
  .waits p' s' halike (.inr ⟨hp, hwaits, houtcome, by rw [hasks]; nofun⟩)

/-- A call leaves the keepers where they are. -/
theorem Does.phase {s s' : Sockets} {p p' : Phase} {submitted : Option (SocketKind × Request)}
    (h : Does s p submitted p' s') (k : SocketKind) : (s'.get k).phase = (s.get k).phase := by
  have hchanges : ∀ {j : SocketKind} {l : Ledger}, s.Changes j l s' →
      (s'.get k).phase = (s.get k).phase := by
    intro j l h
    by_cases heq : k = j
    · exact heq ▸ h.phase
    · exact (h.elsewhere k heq).phase
  cases h with
  | waits _ _ halike => exact (halike k).phase
  | submits _ r _ _ hasks h =>
    cases h with
    | queued timeout deadline _ hopen h => exact hchanges h
    | refused _ hclosed h => exact hchanges h
  | withdraws _ id _ _ hwaits hresult h => exact hchanges h

theorem withdraw_changes (s : Sockets) (k : SocketKind) (id : UInt64) :
    s.Changes k ((s.get k).ledger.withdraw id) (s.modify k (·.withdraw id)) := by
  refine ⟨?_, ?_, fun j hj => ?_⟩
  · rw [Sockets.get_modify, if_pos rfl, Connection.ledger_withdraw]
  · rw [Sockets.get_modify, if_pos rfl, Connection.phase_withdraw]
  · rw [Sockets.get_modify, if_neg hj]
    exact .refl _

/-- The sockets once a request is registered on one of them. -/
def registered (s : Sockets) (k : SocketKind) : Sockets := s.set k (s.get k).register.2

theorem get_registered (s : Sockets) (k j : SocketKind) :
    (registered s k).get j = if j = k then (s.get k).register.2 else s.get j :=
  Sockets.get_set ..

/-- The sockets once the token of a registered request is given back, too. -/
def handedOver (s : Sockets) (k token : SocketKind) : Sockets :=
  (registered s k).modify token Connection.release

/-- A request that was handed over is put into the outbox, or withdrawn. -/
theorem submit_eq (s : Sockets) (now : Nat) (k token : SocketKind) (r : Request) :
    submit s now k token r =
      (((handedOver s k token).get k).send? (.ofRequest (r.toWire (s.get k).register.1))).elim
        (.done (.error (.notConnected k)), (handedOver s k token).set k
          (((handedOver s k token).get k).withdraw (s.get k).register.1))
        fun c => (.submitted k (s.get k).register.1 r.path
          (r.timeout.getD c.config.request) (now + r.timeout.getD c.config.request),
          (handedOver s k token).set k c) := by
  unfold submit
  dsimp only
  split
  · next hsend =>
    rw [show ((handedOver s k token).get k).send? _ = none from hsend]
    rfl
  · next hsend =>
    rw [show ((handedOver s k token).get k).send? _ = some _ from hsend]
    rfl

/-- A request is submitted on a socket, and a token is given back. -/
theorem submit_submits {s₀ s : Sockets} (halike : s₀.Alike s) (now : Nat) (k token : SocketKind)
    (r : Request) :
    Submits s₀ k r (submit s now k token r).1 (submit s now k token r).2 := by
  let s₁ := handedOver s k token
  have hid : (s.get k).register.1 = (s₀.get k).ledger.nextId :=
    congrArg Ledger.nextId (halike k).ledger
  have hregistered : s₀.Changes k (s₀.get k).ledger.register s₁ := by
    refine .trans_alike ⟨?_, ?_, fun j hj => ?_⟩
      (Sockets.modify_alike _ token fun c => ⟨rfl, rfl⟩)
    · rw [get_registered, if_pos rfl, ← (halike k).ledger]
      rfl
    · rw [get_registered, if_pos rfl]
      exact (halike k).phase
    · rw [get_registered, if_neg hj]
      exact halike j
  have houtbox : (s₁.get k).outbox = (s₀.get k).outbox :=
    congrArg Ledger.outbox hregistered.ledger
  rw [submit_eq, hid]
  cases hqueue : (s₁.get k).outbox with
  | none =>
    rw [Connection.send?, hqueue]
    refine .refused _ (houtbox.symm.trans hqueue) ?_
    rw [← hregistered.ledger, ← Connection.ledger_withdraw]
    exact hregistered.set (Connection.phase_withdraw _ _)
  | some queue =>
    rw [Connection.send?, hqueue]
    refine .queued _ _ _ (by rw [← houtbox, hqueue]; rfl) ?_
    have hledger : ({ s₁.get k with
          outbox := some (queue ++ [.ofRequest (r.toWire (s₀.get k).ledger.nextId)]) } :
        Connection).ledger = (s₀.get k).ledger.register.enqueue
          (.ofRequest (r.toWire (s₀.get k).ledger.nextId)) := by
      rw [← hregistered.ledger, Ledger.enqueue,
        show (s₁.get k).ledger.outbox = some queue from hqueue]
      rfl
    rw [← hledger]
    exact hregistered.set rfl

theorem isOutcome_openingResult? {c : Connection} {seen : Nat} {result : CallResult}
    (h : openingResult? c seen = some result) : (Phase.done result).isOutcome = false := by
  unfold openingResult? at h
  split at h
  · cases h
    rfl
  · split at h
    · cases h
      rfl
    · split at h
      · cases h
        rfl
      · cases h

/-- A call that asks for nothing but to be told only looks at the sockets at first. -/
theorem begin_looks (s : Sockets) (stores : Stores) (now : Nat) {goal : Goal}
    (h : goal.onlyLooks = true) : (begin s stores now goal).2 = s := by
  cases goal with
  | request | submit | shutdown => cases h
  | opening | openWithin | state =>
    unfold begin
    dsimp only
    split <;> rfl

/-- A shutdown claims its sockets at first, and shuts them down. -/
theorem begin_shutdown (s : Sockets) (stores : Stores) (now : Nat) (ks : List SocketKind) :
    (begin s stores now (.shutdown ks)).2 =
      ks.foldl (fun s k => s.modify k fun c => { c with claimed := true }.shutDown) s := by
  unfold begin
  dsimp only
  split <;> rfl

/-- What a call does first. -/
theorem begin_does (s : Sockets) (stores : Stores) (now : Nat) (goal : Goal) :
    Does s (.fresh goal) (submits? s stores now (.fresh goal)) (begin s stores now goal).1
      (begin s stores now goal).2 := by
  cases goal with
  | request r =>
    have halike : s.Alike (s.modify r.route Connection.acquire) :=
      s.modify_alike r.route fun c => ⟨rfl, rfl⟩
    unfold submits? begin
    dsimp only
    split
    · refine .waits _ _ halike (.inr ⟨rfl, rfl, rfl, fun x hx => hx⟩)
    · exact .submits r.route r _ _ rfl (submit_submits halike now r.route r.route r)
  | submit socket token r =>
    exact .submits socket r _ _ rfl (submit_submits (.refl s) now socket token r)
  | opening socket =>
    simp only [submits?, begin]
    split
    · next result hresult =>
      exact .goesOn _ (.refl s) rfl rfl (isOutcome_openingResult? hresult) rfl
    · exact .goesOn _ (.refl s) rfl rfl rfl rfl
  | openWithin socket ms =>
    simp only [submits?, begin]
    split
    · exact .goesOn _ (.refl s) rfl rfl rfl rfl
    · exact .goesOn _ (.refl s) rfl rfl rfl rfl
  | state socket state =>
    simp only [submits?, begin]
    split
    · exact .goesOn _ (.refl s) rfl rfl rfl rfl
    · exact .goesOn _ (.refl s) rfl rfl rfl rfl
  | shutdown sockets =>
    have halike := s.foldl_modify_alike sockets
      (f := fun c => { c with claimed := true }.shutDown) fun c => ⟨rfl, rfl⟩
    simp only [submits?, begin]
    split
    · exact .goesOn _ halike rfl rfl rfl rfl
    · exact .goesOn _ halike rfl rfl rfl rfl

/-- **A step of a call does one of these things.** -/
theorem step_does (s : Sockets) (stores : Stores) (now : Nat) (p : Phase) :
    Does s p (submits? s stores now p) (step s stores now p).1 (step s stores now p).2 := by
  have hstays : Does s p none p s := .waits p s (.refl s) (.inl rfl)
  cases p with
  | fresh goal => exact begin_does s stores now goal
  | holding socket r limit =>
    simp only [submits?, step]
    split
    · exact .submits socket r _ _ rfl (submit_submits (.refl s) now socket socket r)
    · exact hstays
  | submitted socket id path timeout deadline =>
    simp only [submits?, step]
    split
    · next outcome hreply =>
      exact .withdraws socket id _ _ rfl (.inl ⟨outcome, hreply, rfl⟩)
        (withdraw_changes s socket id)
    · split
      · exact .withdraws socket id _ _ rfl (.inr ⟨rfl, rfl, rfl⟩) (withdraw_changes s socket id)
      · exact hstays
  | opening socket seen =>
    simp only [submits?, step]
    split
    · next result hresult =>
      exact .goesOn _ (.refl s) rfl rfl (isOutcome_openingResult? hresult) rfl
    · exact hstays
  | openWithin socket limit =>
    simp only [submits?, step]
    split
    · exact .goesOn _ (.refl s) rfl rfl rfl rfl
    · exact hstays
  | state socket state =>
    simp only [submits?, step]
    split
    · exact .goesOn _ (.refl s) rfl rfl rfl rfl
    · exact hstays
  | shutdown sockets =>
    simp only [submits?, step]
    split
    · exact .goesOn _ (.refl s) rfl rfl rfl rfl
    · exact hstays
  | done result => exact hstays
  | abandoned => exact hstays

/-- A call that is abandoned withdraws the request that it submitted. -/
theorem cancel_does (s : Sockets) (p : Phase) :
    Does s p none (cancel s p).1 (cancel s p).2 := by
  have hreleased : ∀ k, s.Alike (s.modify k Connection.release) :=
    fun k => s.modify_alike k fun c => ⟨rfl, rfl⟩
  cases p with
  | fresh goal =>
    cases goal with
    | submit socket token r => exact .goesOn _ (hreleased token) rfl rfl rfl rfl
    | _ => exact .goesOn _ (.refl s) rfl rfl rfl rfl
  | holding socket r limit => exact .goesOn _ (hreleased socket) rfl rfl rfl rfl
  | submitted socket id path timeout deadline =>
    exact .withdraws socket id _ _ rfl (.inr ⟨rfl, rfl, rfl⟩) (withdraw_changes s socket id)
  | done result => exact .waits _ _ (.refl s) (.inl rfl)
  | _ => exact .goesOn _ (.refl s) rfl rfl rfl rfl

end Call

end ChatSockets
