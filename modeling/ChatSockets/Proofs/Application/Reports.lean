import ChatSockets.Proofs.Application.Callers
import ChatSockets.Proofs.Device.Schedule
import ChatSockets.Proofs.Socket.Failures

/-!
# What a call reports that waits for a socket to open

Such a call looks at three things that change at different times: whether the socket is shut down,
whether it is open, and the failures that were made known since it began (`Application.failures`).
It sees them only when it has its turn, as in its first step, and ends in the first turn in which it
has something to report (`opening_reports`). What was made known before it began is not among that:
the connection counts its failures (`learns_makeAll`), so those after the call are told from those
before it.
-/

namespace ChatSockets

open Keeper

namespace Keeper

end Keeper

/-- A call that waits for a socket to open ends when there is a result. -/
theorem Call.step_opening (s : Sockets) (stores : Stores) (now : Nat) (k : SocketKind)
    (seen : Nat) : Call.step s stores now (.opening k seen) =
      ((Call.openingResult? (s.get k) seen).elim (.opening k seen) .done, s) := by
  cases hresult : Call.openingResult? (s.get k) seen <;>
    simp only [Call.step, hresult, Option.elim]

namespace Application

variable {a : Application} {move : Move} {k : SocketKind} {j : Nat}

/-! ## The failures of a socket -/

/-- Why the attempt of a keeper to open its socket fails in a move, if it does. -/
def connectError? (a : Application) (k : SocketKind) (move : Move) : Option ChatError :=
  if a.stirs? move = some k then
    match move, (a.connection k).phase with
    | .atHead _ stores now _, _ => (a.connection k).headError? stores now
    | .connectFailed _ _ _ e, _ => some e
    | .connected _ _ _ _ link, .dialing hello _ _ =>
      connectedError? hello ⟨a.connection k, link, none⟩
    | .keeper _ _ _ _ link, _ => error? ⟨a.connection k, link, none⟩
    | _, _ => none
  else none

/-- The failure of a socket that is made known in a move, if one is. -/
def failure? (a : Application) (k : SocketKind) (move : Move) : Option Failure :=
  ((a.connectError? k move).map .attempt).or ((a.event? k move).bind Event.failure?)

/-- All failures of a socket that are made known in a run. -/
def failures (a : Application) (k : SocketKind) : List Move → List Failure
  | [] => []
  | move :: rest => (a.failure? k move).toList ++ (a.make move).failures k rest

theorem failures_append (a : Application) (k : SocketKind) (before after : List Move) :
    a.failures k (before ++ after) =
      a.failures k before ++ (a.makeAll before).failures k after := by
  induction before generalizing a with
  | nil => rfl
  | cons move rest ih =>
    simp only [List.cons_append, failures, ih, List.append_assoc]
    rfl

theorem failures_snoc (a : Application) (k : SocketKind) (moves : List Move) (move : Move) :
    a.failures k (moves ++ [move]) =
      a.failures k moves ++ ((a.makeAll moves).failure? k move).toList := by
  rw [failures_append, failures, failures, List.append_nil]

/-- **What a connection knows of its failures** after a move. -/
theorem make_learns (a : Application) (move : Move) (k : SocketKind) :
    (a.connection k).Learns (a.failure? k move) ((a.make move).connection k) := by
  by_cases hk : a.stirs? move = some k
  · have hstirs := stirs_of_stirs? hk
    cases hstirs with
    | atHead stores now attempt hphase =>
      rw [connection_atHead hphase]
      simp only [failure?, connectError?, hk, if_true, event?, Option.bind_none, Option.or_none]
      exact (a.connection k).atHead_learns stores now attempt
    | connectFailed stores now e hello deadline attempt hphase =>
      rw [connection_connectFailed hphase]
      simp only [failure?, connectError?, hk, if_true, event?, Option.map_some, Option.some_or]
      exact Connection.connectFailed_learns (.refl _) stores now e
    | connected stores now others link hello deadline attempt hphase =>
      have hopens := connected_opens stores now (a.opened + others) hello
        ⟨a.connection k, link, none⟩
      rw [connection_connected stores now others link hphase]
      simp only [failure?, connectError?, hk, if_true, event?, hphase]
      exact hopens.learns
    | keeper branch stores now link hgoes =>
      rw [connection_keeper]
      simp only [failure?, connectError?, hk, if_true, event?]
      exact step_learns branch stores now ⟨a.connection k, link, none⟩
  · have hnone : a.failure? k move = none := by
      have herror : a.connectError? k move = none := if_neg hk
      rw [failure?, herror, event?_of_stirs? hk]
      rfl
    rw [hnone]
    exact (a.worked_of_stirs? hk).keeps.2.1.learns

/-- **And after any moves**: it counts all failures, and remembers the reason of the last one. -/
theorem learns_makeAll (a : Application) (moves : List Move) (k : SocketKind) :
    let c := a.connection k
    let c' := (a.makeAll moves).connection k
    c'.failures = c.failures + (a.failures k moves).length ∧
      c'.lastFailure = ((a.failures k moves).getLast?.map Failure.reason).getD c.lastFailure := by
  induction moves using List.reverseRecOn with
  | nil => exact ⟨rfl, rfl⟩
  | append_singleton moves move ih =>
    obtain ⟨hfailures, hlast⟩ := (a.makeAll moves).make_learns move k
    obtain ⟨ihfailures, ihlast⟩ := ih
    dsimp only
    rw [makeAll_snoc, failures_snoc, hfailures, hlast, ihfailures, ihlast]
    cases (a.makeAll moves).failure? k move with
    | none => simp
    | some f => simp [Nat.add_assoc]

/-- Every keeper knows what was heard on its link. -/
def Heeds (a : Application) : Prop :=
  ∀ k, (a.records k).Heeds (a.connection k).phase a.opened

theorem heeds_makeAll (config : ClientConfig) (moves : List Move) :
    ((start config).makeAll moves).Heeds := by
  induction moves using List.reverseRecOn with
  | nil =>
    refine fun k => ⟨nofun, fun n hn => ?_⟩
    cases k <;> cases hn
  | append_singleton moves move ih =>
    rw [makeAll_snoc]
    exact fun k => (((start config).makeAll moves).onLink_make move k).heeds
      (wired_makeAll (wired_start config) moves) (ih k)

/-- What a call has to report that waits for a socket to open, if it has anything, when some
failures were made known since it began. A shutdown counts before an open socket, and an open socket
before a failure, of which the last one is told. -/
def report? (a : Application) (k : SocketKind) (since : List Failure) : Option CallResult :=
  if (a.connection k).policy.shutDown then some (.error (.connectionShutdown k))
  else if (a.connection k).state = .open then some (.ok .opened)
  else since.getLast?.map fun f => .error (.transport f.reason)

/-- In a move a call is abandoned, or has its turn and something to report. -/
def Settles (a : Application) (j : Nat) (k : SocketKind) (before : List Move) (move : Move) :
    Prop :=
  move = .cancel j ∨
    move.IsTurn j ∧ ((a.makeAll before).report? k (a.failures k before)).isSome = true

/-- In none of its turns in some moves a call has anything to report, and it is not abandoned. -/
def Unreported (a : Application) (j : Nat) (k : SocketKind) (moves : List Move) : Prop :=
  Clear (a.Settles j k) moves

/-! ## A whole call -/

theorem socket_makeAll (a : Application) (moves : List Move) (k : SocketKind) :
    ((a.makeAll moves).connection k).socket = (a.connection k).socket := by
  induction moves generalizing a with
  | nil => rfl
  | cons move rest ih => exact (ih (a.make move)).trans ((make_does a move).socket k)

/-- What a call finds that has counted the failures is what there is to report. -/
theorem openingResult?_eq (hsocket : (a.connection k).socket = k) (moves : List Move) :
    Call.openingResult? ((a.makeAll moves).connection k) (a.connection k).failures =
      (a.makeAll moves).report? k (a.failures k moves) := by
  obtain ⟨hfailures, hlast⟩ := a.learns_makeAll moves k
  have hsocket' := (a.socket_makeAll moves k).trans hsocket
  unfold Call.openingResult? report? SocketState.isOpen
  rw [hsocket', hfailures, hlast]
  simp only [decide_eq_true_eq]
  cases a.failures k moves using List.reverseRecOn with
  | nil => simp
  | append_singleton since f => simp

/-- A call has just begun to wait for a socket to open, when some failures had been made known. -/
structure Begun (a : Application) (j : Nat) (k : SocketKind) (seen : Nat) : Prop where
  caller : a.callers[j]? = some ⟨.opening k, .opening k seen⟩
  failures : (a.connection k).failures = seen
  socket : (a.connection k).socket = k

namespace Begun

variable {seen : Nat} {moves : List Move}

/-- **The call has its turn**: it ends if it has something to report. -/
theorem turn (h : a.Begun j k seen)
    (hwaits : (a.makeAll moves).callers[j]? = some ⟨.opening k, .opening k seen⟩)
    (stores : Stores) (now : Nat) :
    ((a.makeAll moves).make (.step j stores now)).callers[j]? = some ⟨.opening k,
      ((a.makeAll moves).report? k (a.failures k moves)).elim (.opening k seen) .done⟩ := by
  rw [caller_step hwaits, ← openingResult?_eq h.socket moves, h.failures]
  show some (Caller.mk _ (Call.step _ stores now (.opening k seen)).1) = _
  rw [Call.step_opening]
  rfl

/-- As long as it has nothing to report in its turns it waits. -/
theorem waits (h : a.Begun j k seen) (hno : a.Unreported j k moves) :
    (a.makeAll moves).callers[j]? = some ⟨.opening k, .opening k seen⟩ := by
  induction moves using List.reverseRecOn with
  | nil => exact h.caller
  | append_singleton moves move ih =>
    obtain ⟨hmoves, hmove⟩ := clear_snoc_iff.1 hno
    have hwaits := ih hmoves
    rw [makeAll_snoc]
    by_cases hturn : move.IsTurn j
    · have hnone : (a.makeAll moves).report? k (a.failures k moves) = none :=
        Option.not_isSome_iff_eq_none.1 fun hsome => hmove (.inr ⟨hturn, hsome⟩)
      obtain ⟨stores, now, rfl⟩ := hturn
      rw [h.turn hwaits, hnone]
      rfl
    · exact caller_stays hwaits hturn fun hcancel => hmove (.inl hcancel)

/-- It ends in the first turn in which it has something to report, and with that. -/
theorem ends (h : a.Begun j k seen) (hno : a.Unreported j k moves) {r : CallResult}
    (hreport : (a.makeAll moves).report? k (a.failures k moves) = some r) (stores : Stores)
    (now : Nat) (later : List Move) :
    (a.makeAll (moves ++ .step j stores now :: later)).callers[j]? =
      some ⟨.opening k, .done r⟩ := by
  have hturn := h.turn (h.waits hno) stores now
  rw [hreport] at hturn
  rw [makeAll, List.foldl_append]
  exact caller_ended_makeAll hturn (.inl ⟨r, rfl⟩) later

theorem abandons (h : a.Begun j k seen) (hno : a.Unreported j k moves) (later : List Move) :
    (a.makeAll (moves ++ .cancel j :: later)).callers[j]? = some ⟨.opening k, .abandoned⟩ := by
  have hcancelled := caller_cancel (h.waits hno)
  rw [makeAll, List.foldl_append]
  exact caller_ended_makeAll hcancelled (.inr rfl) later

/-- **One of three**: nothing was reported yet, or the call has ended in the first turn in which it
had something to report, or it was abandoned before that. -/
theorem trichotomy (h : a.Begun j k seen) (moves : List Move) :
    a.Unreported j k moves ∧
      (a.makeAll moves).callers[j]? = some ⟨.opening k, .opening k seen⟩ ∨
    (∃ before stores now later r, moves = before ++ .step j stores now :: later ∧
      a.Unreported j k before ∧
      (a.makeAll before).report? k (a.failures k before) = some r ∧
      (a.makeAll moves).callers[j]? = some ⟨.opening k, .done r⟩) ∨
    (a.makeAll moves).callers[j]? = some ⟨.opening k, .abandoned⟩ := by
  rcases clear_or_first (a.Settles j k) moves with hno | ⟨before, move, later, rfl, hno, hmove⟩
  · exact .inl ⟨hno, h.waits hno⟩
  · rcases hmove with rfl | ⟨⟨stores, now, rfl⟩, hsome⟩
    · exact .inr (.inr (h.abandons hno later))
    · obtain ⟨r, hreport⟩ := Option.isSome_iff_exists.1 hsome
      exact .inr (.inl ⟨before, stores, now, later, r, rfl, hno, hreport,
        h.ends hno hreport stores now later⟩)

end Begun

end Application

end ChatSockets
