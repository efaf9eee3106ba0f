import ChatSockets.Proofs.Application.Submissions
import ChatSockets.Proofs.Device.Schedule
import Mathlib.Order.Bounds.Basic

/-!
# How long a call waits for a socket to open

A request waits for its socket to open before it is submitted, and an application may wait for one
by itself; either waits for a limited time, and only if the socket is wanted and not open or shut
down already as the call begins (`Device.begins`). The wait is over when the call has its turn and
finds the socket open or shut down or the limit reached (`Device.Over`), and nothing else counts:
not how often the socket failed meanwhile, nor whether it is still wanted. In a run in which time
does not go by while the call could go on, and not past its limit (`Device.Punctual`), it ends at
the least of the times at which there was a reason for that (`open_wait_ends_on_time`). A request is
submitted once as the wait ends, whatever it ends for.
-/

namespace ChatSockets

open Keeper

/-! ## What stays as it is -/

theorem Policy.shutDown_extendPush (p : Policy) (now ms : Nat) :
    (p.extendPush now ms).shutDown = p.shutDown := by
  rw [Policy.extendPush, Policy.wake]
  dsimp only
  rw [apply_ite Policy.shutDown, ite_self]

namespace Application

variable {a : Application} {k : SocketKind}

/-- A socket that is shut down stays so. -/
theorem shutDown_make (h : (a.connection k).policy.shutDown = true) (move : Move) :
    ((a.make move).connection k).policy.shutDown = true := by
  by_cases hk : a.stirs? move = some k
  · obtain ⟨stores, now, hmove⟩ := move.exists_finding
    have htreats := a.make_treats move stores now k
    rw [hmove] at htreats
    cases htreats with
    | stirs _ _ hpolicy =>
      rcases hpolicy with hsame | htaken
      · rw [hsame]
        exact h
      · rw [htaken]
        exact h
    | touches hno => exact absurd hk hno
  · refine (a.worked_of_stirs? hk).induct (P := fun c => c.policy.shutDown = true) h ?_ fun _ h => h
    intro c op hc
    cases op with
    | setActive active =>
      unfold Connection.perform Connection.setActive Connection.withPolicy Policy.setActive
      dsimp only
      split <;> exact hc
    | push now => exact (Policy.shutDown_extendPush ..).trans hc
    | withdraw id =>
      unfold Connection.perform Connection.withdraw
      dsimp only
      split <;> exact hc
    | send r id =>
      unfold Connection.perform Connection.send?
      cases c.outbox <;> exact hc
    | acquire | release | cycle | register => exact hc
    | shutDown => rfl

end Application

/-! ## The wait of one call -/

namespace Goal

/-- The socket that a call waits for to open, and for how many milliseconds at most. -/
def openWait? (config : ClientConfig) : Goal → Option (SocketKind × Nat)
  | .openWithin k ms => some (k, ms)
  | .request r => some (r.route, config.openWait)
  | _ => none

/-- Only requests and waits for a socket wait for one to open. -/
theorem openWait?_eq_some {config : ClientConfig} {goal : Goal} {k : SocketKind} {ms : Nat}
    (h : goal.openWait? config = some (k, ms)) :
    (∃ r, goal = .request r ∧ r.route = k ∧ config.openWait = ms) ∨ goal = .openWithin k ms := by
  cases goal with
  | request r => exact .inl ⟨r, rfl, by simpa [openWait?] using h⟩
  | openWithin socket ms' => exact .inr (by cases h; rfl)
  | submit | opening | state | shutdown => cases h

/-- Where a call is that waits for a socket to open until a time. -/
def waiting (limit : Nat) : Goal → Call.Phase
  | .request r => .holding r.route r limit
  | .openWithin k _ => .openWithin k limit
  | goal => .fresh goal

/-- What a call does when its wait is over: it submits its request, or is done. -/
def finish (s : Sockets) (now : Nat) : Goal → Call.Phase × Sockets
  | .request r => Call.submit s now r.route r.route r
  | _ => (.done (.ok .waited), s)

/-- The sockets as a call looks whether to wait: a request has taken a token by then. -/
def enter (s : Sockets) : Goal → Sockets
  | .request r => s.modify r.route Connection.acquire
  | _ => s

end Goal

namespace Call

variable {config : ClientConfig} {goal : Goal} {k : SocketKind} {ms : Nat}

/-- A call waits only if its socket is wanted and the wait is not over as it begins. -/
theorem begin_openWait (hgoal : goal.openWait? config = some (k, ms)) {s : Sockets}
    (hconfig : (s.get k).config = config) (stores : Stores) (now : Nat) :
    begin s stores now goal = (if mustWait ((goal.enter s).get k) stores now (now + ms) then
      (goal.waiting (now + ms), goal.enter s) else goal.finish (goal.enter s) now) ∧
    submits? s stores now (.fresh goal) =
      if mustWait ((goal.enter s).get k) stores now (now + ms) then none else goal.asks? := by
  obtain ⟨r, rfl, rfl, rfl⟩ | rfl := Goal.openWait?_eq_some hgoal
  · have hsame : ((s.modify r.route Connection.acquire).get r.route).config = config := by
      rw [Sockets.get_modify, if_pos rfl]
      exact hconfig
    unfold begin submits?
    dsimp only
    rw [hsame]
    exact ⟨rfl, rfl⟩
  · refine ⟨rfl, ?_⟩
    simp only [submits?, Goal.asks?, ite_self]

/-- A call that waits goes on when the socket is open or shut down or the limit is reached. -/
theorem step_waiting (hgoal : goal.openWait? config = some (k, ms)) (s : Sockets) (stores : Stores)
    (now limit : Nat) :
    step s stores now (goal.waiting limit) = (if openOrShut (s.get k) || limit ≤ now then
      goal.finish s now else (goal.waiting limit, s)) ∧
    submits? s stores now (goal.waiting limit) =
      (if openOrShut (s.get k) || limit ≤ now then goal.asks? else none) ∧
    ready s now (goal.waiting limit) = (openOrShut (s.get k) || limit ≤ now) := by
  obtain ⟨r, rfl, rfl, -⟩ | rfl := Goal.openWait?_eq_some hgoal
  · exact ⟨rfl, rfl, rfl⟩
  · refine ⟨rfl, ?_, rfl⟩
    simp only [submits?, Goal.waiting, Goal.asks?, ite_self]

/-- When a call goes on by itself at the latest. -/
def Phase.due? : Phase → Option Nat
  | .holding _ _ limit | .openWithin _ limit => some limit
  | .submitted _ _ _ _ deadline => some deadline
  | _ => none

theorem due?_waiting (hgoal : goal.openWait? config = some (k, ms)) (limit : Nat) :
    (goal.waiting limit).due? = some limit := by
  obtain ⟨r, rfl, -⟩ | rfl := Goal.openWait?_eq_some hgoal <;> rfl

end Call

namespace Device

variable {d : Device} {config : ClientConfig} {j ms limit : Nat} {goal : Goal} {k : SocketKind}
  {move : Move} {moves : List Move} {p : Call.Phase}

/-! ### Turns -/

/-- A move is a turn of a call. -/
def Move.IsTurn (j : Nat) (move : Move) : Prop := ∃ stores now, move = .act (.step j stores now)

/-- The wait for a socket is over: it is open, or shut down, or the limit is reached. -/
def Over (d : Device) (k : SocketKind) (limit : Nat) : Prop :=
  (d.connection k).state = .open ∨ (d.connection k).policy.shutDown = true ∨ limit ≤ d.now

/-- In a move a call is abandoned, or has its turn and finds its wait over. -/
def Ends (d : Device) (j : Nat) (k : SocketKind) (limit : Nat) (before : List Move) (move : Move) :
    Prop :=
  move = .act (.cancel j) ∨ move.IsTurn j ∧ (d.makeAll before).Over k limit

/-- In none of its turns in some moves a call finds its wait over, and it is not abandoned. -/
def Unended (d : Device) (j : Nat) (k : SocketKind) (limit : Nat) (moves : List Move) : Prop :=
  Clear (d.Ends j k limit) moves

theorem over_iff : (Call.openOrShut (d.app.sockets.get k) || decide (limit ≤ d.now)) = true ↔
    d.Over k limit := by
  rw [Bool.or_eq_true, Call.openOrShut, Bool.or_eq_true, decide_eq_true_iff, SocketState.isOpen,
    decide_eq_true_iff]
  exact ⟨fun h => h.elim (fun h => h.elim (fun h => .inr (.inl h)) .inl) fun h => .inr (.inr h),
    fun h => h.elim (fun h => .inl (.inr h)) fun h => h.imp_left .inl⟩

/-- A call that neither has a turn nor is abandoned stays where it is, and submits nothing. -/
theorem caller_stays (h : d.app.callers[j]? = some ⟨goal, p⟩) (hturn : ¬move.IsTurn j)
    (hcancel : move ≠ .act (.cancel j)) :
    (d.make move).app.callers[j]? = some ⟨goal, p⟩ ∧
      ∀ k, (d.make move).app.submissions j k = d.app.submissions j k := by
  cases move with
  | act move =>
    have hturn' : ¬(move.finding d.stores d.now).IsTurn j := by
      rintro ⟨stores, now, hmove⟩
      cases move with
      | step i =>
        cases hmove
        exact hturn ⟨_, _, rfl⟩
      | operate i op => cases op <;> cases hmove
      | _ => cases hmove
    have hcancel' : move.finding d.stores d.now ≠ .cancel j := by
      intro hmove
      cases move with
      | cancel i =>
        cases hmove
        exact hcancel rfl
      | operate i op => cases op <;> cases hmove
      | _ => cases hmove
    exact ⟨Application.caller_stays h hturn' hcancel', Application.submissions_make hturn'⟩
  | reregister credentials =>
    have hturn' : ¬(Application.Move.operate .identified .cycle).IsTurn j := nofun
    exact ⟨Application.caller_stays h hturn' nofun, Application.submissions_make hturn'⟩
  | store | wait => exact ⟨h, fun k => rfl⟩

/-- What happens to the application of a device are moves of an application. -/
theorem exists_app_makeAll (d : Device) (moves : List Move) :
    ∃ moves', (d.makeAll moves).app = d.app.makeAll moves' := by
  induction moves generalizing d with
  | nil => exact ⟨[], rfl⟩
  | cons move rest ih =>
    obtain ⟨moves', hmoves⟩ := ih (d.make move)
    rcases d.app_make move .identified with hsame | ⟨move', hmove, -⟩
    · exact ⟨moves', hmoves.trans (congrArg (Application.makeAll · moves') hsame)⟩
    · exact ⟨move' :: moves', hmoves.trans (congrArg (Application.makeAll · moves') hmove)⟩

/-! ### What comes of a call -/

/-- A call has done what it waited for: its request was submitted once, and only on its socket; or
it is done. -/
def Settled (d : Device) (j : Nat) : Goal → Prop
  | .request r => (∃ i, d.app.submissions j r.route = [i] ∧ i.request = r.toWire i.id) ∧
      ∀ k, k ≠ r.route → d.app.submissions j k = []
  | goal => d.app.callers[j]? = some ⟨goal, .done (.ok .waited)⟩

/-- A call has done nothing yet: it has submitted no request, and has no result. -/
def Unsettled (d : Device) (j : Nat) : Goal → Prop
  | .request _ => ∀ k, d.app.submissions j k = []
  | goal => ∀ result, d.app.callers[j]? ≠ some ⟨goal, .done result⟩

/-- A call waits for its socket until a time. -/
structure Waiting (d : Device) (j : Nat) (goal : Goal) (limit : Nat) : Prop where
  caller : d.app.callers[j]? = some ⟨goal, goal.waiting limit⟩
  unsent : goal.asks?.isSome = true → ∀ k, d.app.submissions j k = []

/-- A call has gone on after its wait. -/
structure Finished (d : Device) (j : Nat) (goal : Goal) : Prop where
  settled : d.Settled j goal
  caller : ∃ p, d.app.callers[j]? = some ⟨goal, p⟩ ∧ p.asks? = none

theorem Settled.not_unsettled (h : d.Settled j goal) : ¬d.Unsettled j goal := by
  intro hno
  cases goal with
  | request r =>
    obtain ⟨i, hi, -⟩ := h.1
    rw [hno r.route] at hi
    cases hi
  | submit | opening | openWithin | state | shutdown => exact hno _ h

/-- What a call has done stays done. -/
theorem Finished.makeAll (hgoal : goal.openWait? config = some (k, ms)) (h : d.Finished j goal)
    (moves : List Move) : (d.makeAll moves).Finished j goal := by
  obtain ⟨moves', hmoves⟩ := d.exists_app_makeAll moves
  obtain ⟨p, hp, hnone⟩ := h.caller
  have hsettled := h.settled
  have hcaller := Application.asks?_makeAll hp hnone moves'
  rw [← hmoves] at hcaller
  refine ⟨?_, hcaller⟩
  obtain ⟨r, rfl, -⟩ | rfl := Goal.openWait?_eq_some hgoal
  · have hsame : ∀ k, (d.makeAll moves).app.submissions j k = d.app.submissions j k := fun k => by
      rw [hmoves]
      exact Application.submissions_makeAll hp hnone moves' k
    simp only [Settled, hsame]
    exact hsettled
  · unfold Settled
    rw [hmoves]
    exact Application.caller_ended_makeAll hsettled (.inl ⟨_, rfl⟩) moves'

/-- A call that has gone on does not wait. -/
theorem Finished.not_waiting (hgoal : goal.openWait? config = some (k, ms))
    (h : d.Finished j goal) (limit : Nat) :
    d.app.callers[j]? ≠ some ⟨goal, goal.waiting limit⟩ := by
  intro hwaits
  obtain ⟨p, hp, hnone⟩ := h.caller
  have hsettled := h.settled
  obtain ⟨r, rfl, -⟩ | rfl := Goal.openWait?_eq_some hgoal
  · cases hwaits.symm.trans hp
    cases hnone
  · cases hwaits.symm.trans hsettled

/-- **A call that goes on** after its wait does what it waited for. -/
theorem finished_of_finish (hgoal : goal.openWait? config = some (k, ms)) {s : Sockets}
    {stores : Stores} {now : Nat} (hcaller : d.app.callers[j]? = some ⟨goal, p⟩)
    (hunsent : goal.asks?.isSome = true → ∀ k, d.app.submissions j k = [])
    (hstep : Call.step d.app.sockets d.stores d.now p = goal.finish s d.now)
    (hsubmits : Call.submits? d.app.sockets d.stores d.now p = goal.asks?) :
    (d.make (.act (.step j stores now))).Finished j goal := by
  have hcaller' := Application.caller_step hcaller d.stores d.now
  have hsubmitted := Application.submissions_step hcaller d.stores d.now
  rw [hstep] at hcaller'
  rw [hsubmits] at hsubmitted
  obtain ⟨r, rfl, -⟩ | rfl := Goal.openWait?_eq_some hgoal
  · let i := d.app.issueOf j r.route r
    have hall : ∀ k, (d.make (.act (.step j stores now))).app.submissions j k =
        if k = r.route then [i] else [] := fun k =>
      (hsubmitted k).trans (by rw [hunsent rfl k]; rfl)
    have hafter : (Call.submit s d.now r.route r.route r).1.asks? = none := by
      have hsent := Call.submit_submits (.refl s) d.now r.route r.route r
      generalize (Call.submit s d.now r.route r.route r).1 = p' at hsent ⊢
      generalize (Call.submit s d.now r.route r.route r).2 = s' at hsent
      cases hsent <;> rfl
    exact ⟨⟨⟨i, by rw [hall, if_pos rfl], rfl⟩, fun k hk => by rw [hall, if_neg hk]⟩,
      _, hcaller', hafter⟩
  · exact ⟨hcaller', _, hcaller', rfl⟩

namespace Waiting

theorem unsettled (hgoal : goal.openWait? config = some (k, ms)) (h : d.Waiting j goal limit) :
    d.Unsettled j goal := by
  obtain ⟨r, rfl, -⟩ | rfl := Goal.openWait?_eq_some hgoal
  · exact h.unsent rfl
  · intro result hdone
    cases h.caller.symm.trans hdone

/-- The call has its turn and finds its wait over. -/
theorem finishes (hgoal : goal.openWait? config = some (k, ms)) (h : d.Waiting j goal limit)
    (hover : d.Over k limit) (stores : Stores) (now : Nat) :
    (d.make (.act (.step j stores now))).Finished j goal := by
  obtain ⟨hstep, hsubmits, -⟩ := Call.step_waiting hgoal d.app.sockets d.stores d.now limit
  have hready := over_iff.2 hover
  rw [if_pos hready] at hstep hsubmits
  exact finished_of_finish hgoal h.caller h.unsent hstep hsubmits

/-- In any other move in which it is not abandoned it waits on. -/
theorem make (hgoal : goal.openWait? config = some (k, ms)) (h : d.Waiting j goal limit)
    (hcancel : move ≠ .act (.cancel j)) (hover : move.IsTurn j → ¬d.Over k limit) :
    (d.make move).Waiting j goal limit := by
  by_cases hturn : move.IsTurn j
  · have hno := hover hturn
    obtain ⟨stores, now, rfl⟩ := hturn
    obtain ⟨hstep, hsubmits, -⟩ := Call.step_waiting hgoal d.app.sockets d.stores d.now limit
    rw [if_neg (fun hready => hno (over_iff.1 hready))] at hstep hsubmits
    have hcaller := Application.caller_step h.caller d.stores d.now
    have hsubmitted := Application.submissions_step h.caller d.stores d.now
    rw [hstep] at hcaller
    rw [hsubmits] at hsubmitted
    exact ⟨hcaller, fun hasks k =>
      (hsubmitted k).trans (by rw [h.unsent hasks k]; rfl)⟩
  · obtain ⟨hcaller, hsame⟩ := caller_stays h.caller hturn hcancel
    exact ⟨hcaller, fun hasks k => (hsame k).trans (h.unsent hasks k)⟩

/-- As long as its turns do not find its wait over, it waits. -/
theorem makeAll (hgoal : goal.openWait? config = some (k, ms)) (h : d.Waiting j goal limit)
    (hno : d.Unended j k limit moves) : (d.makeAll moves).Waiting j goal limit := by
  induction moves using List.reverseRecOn with
  | nil => exact h
  | append_singleton moves move ih =>
    obtain ⟨hmoves, hmove⟩ := clear_snoc_iff.1 hno
    rw [makeAll_snoc]
    exact (ih hmoves).make hgoal (fun hcancel => hmove (.inl hcancel))
      fun hturn hover => hmove (.inr ⟨hturn, hover⟩)

/-- A call that is abandoned while it waits has done nothing, and does nothing any more. -/
theorem abandons (hgoal : goal.openWait? config = some (k, ms)) (h : d.Waiting j goal limit)
    (later : List Move) :
    (d.makeAll (.act (.cancel j) :: later)).app.callers[j]? = some ⟨goal, .abandoned⟩ ∧
      (d.makeAll (.act (.cancel j) :: later)).Unsettled j goal := by
  have hcancel : (d.make (.act (.cancel j))).app.callers[j]? = some ⟨goal, .abandoned⟩ := by
    have hcaller := Application.caller_cancel h.caller
    obtain ⟨r, rfl, -⟩ | rfl := Goal.openWait?_eq_some hgoal <;> exact hcaller
  have hsame : ∀ k, (d.make (.act (.cancel j))).app.submissions j k = d.app.submissions j k :=
    Application.submissions_make nofun
  obtain ⟨moves', hmoves⟩ := (d.make (.act (.cancel j))).exists_app_makeAll later
  have hgone : (d.makeAll (.act (.cancel j) :: later)).app.callers[j]? =
      some ⟨goal, .abandoned⟩ := by
    show ((d.make (.act (.cancel j))).makeAll later).app.callers[j]? = _
    rw [hmoves]
    exact Application.caller_ended_makeAll hcancel (.inr rfl) moves'
  refine ⟨hgone, ?_⟩
  obtain ⟨r, rfl, -⟩ | rfl := Goal.openWait?_eq_some hgoal
  · intro k
    show ((d.make (.act (.cancel j))).makeAll later).app.submissions j k = []
    rw [hmoves, Application.submissions_makeAll hcancel rfl, hsame]
    exact h.unsent rfl k
  · intro result hdone
    cases hgone.symm.trans hdone

/-- **One of three**: the call waits, or it has gone on after the first turn that found its wait
over, or it was abandoned before that. -/
theorem trichotomy (hgoal : goal.openWait? config = some (k, ms)) (h : d.Waiting j goal limit)
    (moves : List Move) :
    d.Unended j k limit moves ∧ (d.makeAll moves).Waiting j goal limit ∨
    (∃ before stores now later, moves = before ++ .act (.step j stores now) :: later ∧
      d.Unended j k limit before ∧ (d.makeAll before).Over k limit ∧
      (d.makeAll moves).Finished j goal) ∨
    (d.makeAll moves).app.callers[j]? = some ⟨goal, .abandoned⟩ ∧
      (d.makeAll moves).Unsettled j goal := by
  rcases clear_or_first (d.Ends j k limit) moves with hno | ⟨before, move, later, rfl, hno, hmove⟩
  · exact .inl ⟨hno, h.makeAll hgoal hno⟩
  · have hwaits := h.makeAll hgoal hno
    rw [makeAll_append]
    rcases hmove with rfl | ⟨⟨stores, now, rfl⟩, hover⟩
    · exact .inr (.inr (hwaits.abandons hgoal later))
    · exact .inr (.inl ⟨before, stores, now, later, rfl, hno, hover,
        (hwaits.finishes hgoal hover stores now).makeAll hgoal later⟩)

theorem waiting_iff (hgoal : goal.openWait? config = some (k, ms)) (h : d.Waiting j goal limit) :
    (d.makeAll moves).app.callers[j]? = some ⟨goal, goal.waiting limit⟩ ↔
      d.Unended j k limit moves := by
  refine ⟨fun hwaits => ?_, fun hno => (h.makeAll hgoal hno).caller⟩
  rcases h.trichotomy hgoal moves with ⟨hno, -⟩ | ⟨_, _, _, _, -, -, -, hfinished⟩ | ⟨hgone, -⟩
  · exact hno
  · exact absurd hwaits (hfinished.not_waiting hgoal limit)
  · obtain ⟨r, rfl, -⟩ | rfl := Goal.openWait?_eq_some hgoal <;> cases hwaits.symm.trans hgone

theorem settled_iff (hgoal : goal.openWait? config = some (k, ms)) (h : d.Waiting j goal limit)
    (moves : List Move) :
    ((d.makeAll moves).Settled j goal ↔
      ∃ before stores now later, moves = before ++ .act (.step j stores now) :: later ∧
        d.Unended j k limit before ∧ (d.makeAll before).Over k limit) ∧
    ((d.makeAll moves).Settled j goal ∨ (d.makeAll moves).Unsettled j goal) := by
  rcases h.trichotomy hgoal moves with ⟨hno, hwaits⟩ |
      ⟨before, stores, now, later, hsplit, hno, hover, hfinished⟩ | ⟨hgone, hunsettled⟩
  · have hunsettled := hwaits.unsettled hgoal
    refine ⟨⟨fun hsettled => absurd hunsettled hsettled.not_unsettled, ?_⟩, .inr hunsettled⟩
    rintro ⟨before, stores, now, later, rfl, -, hover⟩
    exact absurd (.inr ⟨⟨stores, now, rfl⟩, hover⟩) (hno before _ later rfl)
  · exact ⟨⟨fun _ => ⟨before, stores, now, later, hsplit, hno, hover⟩, fun _ => hfinished.settled⟩,
      .inl hfinished.settled⟩
  · refine ⟨⟨fun hsettled => absurd hunsettled hsettled.not_unsettled, ?_⟩, .inr hunsettled⟩
    rintro ⟨before, stores, now, later, rfl, hno, hover⟩
    have hfinished := ((h.makeAll hgoal hno).finishes hgoal hover stores now).makeAll hgoal later
    rw [makeAll_append] at hunsettled
    exact absurd hunsettled hfinished.settled.not_unsettled

end Waiting

/-! ### When it is over -/

/-- In a move time goes by although a call could go on, or past the time at which it does so by
itself. -/
def Oversleeps (d : Device) (j : Nat) (before : List Move) (move : Move) : Prop :=
  ∃ ms c, move = .wait ms ∧ (d.makeAll before).app.callers[j]? = some c ∧
    (Call.ready (d.makeAll before).app.sockets (d.makeAll before).now c.phase = true ∨
      ∃ due, c.phase.due? = some due ∧ due < (d.makeAll before).now + ms)

/-- Time never goes by in some moves while a call could go on, nor past the time at which it does so
by itself. -/
def Punctual (d : Device) (j : Nat) (moves : List Move) : Prop := Clear (d.Oversleeps j) moves

/-- The times at which there is a reason for the wait of a call to be over: its limit, and those at
which its socket is shut down in a run or found open in a turn of the call. -/
def reasons (d : Device) (j : Nat) (k : SocketKind) (limit : Nat) (moves : List Move) : Set Nat :=
  {t | t = limit ∨ ∃ before after, moves = before ++ after ∧ (d.makeAll before).now = t ∧
    (((d.makeAll before).connection k).policy.shutDown = true ∨
      ((d.makeAll before).connection k).state = .open ∧
        ∃ turn later, after = turn :: later ∧ turn.IsTurn j)}

theorem now_make (d : Device) (move : Move) :
    (d.make move).now = d.now ∨ ∃ ms, move = .wait ms ∧ (d.make move).now = d.now + ms := by
  cases move with
  | wait ms => exact .inr ⟨ms, rfl, rfl⟩
  | act | store | reregister => exact .inl rfl

theorem now_le_makeAll (d : Device) (moves : List Move) : d.now ≤ (d.makeAll moves).now := by
  induction moves generalizing d with
  | nil => exact Nat.le_refl _
  | cons move rest ih =>
    refine Nat.le_trans ?_ (ih (d.make move))
    rcases d.now_make move with hsame | ⟨ms, -, hlater⟩
    · exact Nat.le_of_eq hsame.symm
    · exact hlater ▸ Nat.le_add_right _ _

theorem shutDown_makeAll (h : (d.connection k).policy.shutDown = true) (moves : List Move) :
    ((d.makeAll moves).connection k).policy.shutDown = true := by
  induction moves generalizing d with
  | nil => exact h
  | cons move rest ih =>
    refine ih ?_
    rcases d.app_make move k with hsame | ⟨move', hmove, -⟩
    · rw [connection, hsame]
      exact h
    · rw [connection, hmove]
      exact Application.shutDown_make h move'

namespace Waiting

/-- In a punctual run time does not go past the limit of a call that waits. -/
theorem now_le (hgoal : goal.openWait? config = some (k, ms)) (h : d.Waiting j goal limit)
    (hle : d.now ≤ limit) (hno : d.Unended j k limit moves) (hpunctual : d.Punctual j moves) :
    (d.makeAll moves).now ≤ limit := by
  induction moves using List.reverseRecOn with
  | nil => exact hle
  | append_singleton moves move ih =>
    have hbefore := ih hno.of_append hpunctual.of_append
    have hwaits := h.makeAll hgoal hno.of_append
    rw [makeAll_snoc]
    rcases (d.makeAll moves).now_make move with hsame | ⟨ms', rfl, hlater⟩
    · exact hsame ▸ hbefore
    · rw [hlater]
      by_contra hpast
      exact (clear_snoc_iff.1 hpunctual).2 ⟨ms', _, rfl, hwaits.caller,
        .inr ⟨limit, Call.due?_waiting hgoal limit, by omega⟩⟩

/-- And it stands still while the socket is shut down and the call has not had its turn. -/
theorem now_eq (hgoal : goal.openWait? config = some (k, ms)) (h : d.Waiting j goal limit)
    (hno : d.Unended j k limit moves) (hpunctual : d.Punctual j moves)
    (hshut : (d.connection k).policy.shutDown = true) : (d.makeAll moves).now = d.now := by
  induction moves using List.reverseRecOn with
  | nil => rfl
  | append_singleton moves move ih =>
    have hbefore := ih hno.of_append hpunctual.of_append
    have hwaits := h.makeAll hgoal hno.of_append
    rw [makeAll_snoc]
    rcases (d.makeAll moves).now_make move with hsame | ⟨ms', rfl, hlater⟩
    · exact hsame.trans hbefore
    · refine absurd ⟨ms', _, rfl, hwaits.caller, .inl ?_⟩ (clear_snoc_iff.1 hpunctual).2
      rw [(Call.step_waiting hgoal _ (d.makeAll moves).stores _ limit).2.2, over_iff]
      exact .inr (.inl (shutDown_makeAll hshut moves))

/-- **As long as a call waits**, no time has gone by since there was a reason for its wait to be
over. -/
theorem now_le_of_mem_reasons (hgoal : goal.openWait? config = some (k, ms))
    (h : d.Waiting j goal limit) (hle : d.now ≤ limit) (hno : d.Unended j k limit moves)
    (hpunctual : d.Punctual j moves) {t : Nat} (ht : t ∈ d.reasons j k limit moves) :
    (d.makeAll moves).now ≤ t := by
  rcases ht with rfl | ⟨before, after, rfl, rfl, hshut | ⟨hopen, turn, later, rfl, hturn⟩⟩
  · exact h.now_le hgoal hle hno hpunctual
  · have hwaits := h.makeAll hgoal hno.of_append
    have hno' : (d.makeAll before).Unended j k limit after := fun b move a heq hends =>
      hno (before ++ b) move a (by rw [heq, List.append_assoc])
        (by rwa [Ends, makeAll_append])
    have hpunctual' : (d.makeAll before).Punctual j after := fun b move a heq hsleeps =>
      hpunctual (before ++ b) move a (by rw [heq, List.append_assoc])
        (by rwa [Oversleeps, makeAll_append])
    rw [makeAll_append]
    exact Nat.le_of_eq (hwaits.now_eq hgoal hno' hpunctual' hshut)
  · exact absurd (.inr ⟨hturn, .inl hopen⟩) (hno before turn later rfl)

/-- **The wait ends at the least of the times** at which there is a reason for that. -/
theorem isLeast_reasons (hgoal : goal.openWait? config = some (k, ms))
    (h : d.Waiting j goal limit) (hle : d.now ≤ limit) {before later : List Move}
    {stores : Stores} {now : Nat} (hno : d.Unended j k limit before)
    (hover : (d.makeAll before).Over k limit)
    (hpunctual : d.Punctual j (before ++ .act (.step j stores now) :: later)) :
    IsLeast (d.reasons j k limit (before ++ .act (.step j stores now) :: later))
      (d.makeAll before).now := by
  have hbefore := h.now_le hgoal hle hno hpunctual.of_append
  constructor
  · rcases hover with hopen | hshut | hlimit
    · exact .inr ⟨before, _, rfl, rfl, .inr ⟨hopen, _, later, rfl, stores, now, rfl⟩⟩
    · exact .inr ⟨before, _, rfl, rfl, .inl hshut⟩
    · exact .inl (Nat.le_antisymm hbefore hlimit)
  · rintro t (rfl | ⟨b, a, hsplit, rfl, hreason⟩)
    · exact hbefore
    · rcases List.append_eq_append_iff.1 hsplit with ⟨c, rfl, -⟩ | ⟨c, rfl, ha⟩
      · rw [makeAll_append]
        exact now_le_makeAll _ c
      · cases c with
        | nil => exact Nat.le_of_eq (by rw [List.append_nil])
        | cons x c =>
          -- a reason before the turn in which the wait ends was one while the call waited
          refine h.now_le_of_mem_reasons hgoal hle hno hpunctual.of_append
            (.inr ⟨b, x :: c, rfl, rfl, hreason.imp_right ?_⟩)
          rintro ⟨hopen, turn, rest, hturn, hmine⟩
          obtain rfl := (List.cons.inj (ha.symm.trans hturn)).1
          exact ⟨hopen, x, c, rfl, hmine⟩

end Waiting

/-! ### From the call on -/

/-- Whether the socket of a call is wanted as it begins, for a request with its token. -/
def needs (d : Device) (k : SocketKind) (goal : Goal) : Bool :=
  ((goal.enter d.app.sockets).get k).wanted d.stores d.now

/-- A token that is taken neither opens a socket nor shuts it down. -/
theorem openOrShut_enter (s : Sockets) (k : SocketKind) (goal : Goal) :
    Call.openOrShut ((goal.enter s).get k) = Call.openOrShut (s.get k) := by
  cases goal with
  | request r =>
    rw [Goal.enter, Sockets.get_modify]
    split <;> rfl
  | _ => rfl

/-- A call has to wait if its socket is wanted and the wait is not over. -/
theorem mustWait_iff (d : Device) (k : SocketKind) (goal : Goal) (limit : Nat) :
    Call.mustWait ((goal.enter d.app.sockets).get k) d.stores d.now limit = true ↔
      d.needs k goal = true ∧ ¬d.Over k limit := by
  rw [Call.mustWait, openOrShut_enter, Bool.and_eq_true, Bool.not_eq_true', ← over_iff,
    Bool.not_eq_true]
  rfl

/-- **The first step of a call** that may have to wait for its socket. -/
theorem begins (hgoal : goal.openWait? config = some (k, ms))
    (hconfig : (d.connection k).config = config) (hspent : d.app.Spent)
    (hfresh : d.app.callers[j]? = some ⟨goal, .fresh goal⟩) (stores : Stores) (now : Nat) :
    let d' := d.make (.act (.step j stores now))
    (d.needs k goal = true ∧ ¬d.Over k (d.now + ms) → d'.Waiting j goal (d.now + ms)) ∧
      (¬(d.needs k goal = true ∧ ¬d.Over k (d.now + ms)) → d'.Finished j goal) := by
  intro d'
  have hunsent : goal.asks?.isSome = true → ∀ k, d.app.submissions j k = [] := by
    intro hasks k
    by_contra hsome
    obtain ⟨goal', p, hp, hnone⟩ := hspent j k hsome
    cases hfresh.symm.trans hp
    rw [show goal.asks? = none from hnone] at hasks
    cases hasks
  obtain ⟨hbegin, hsubmits⟩ := Call.begin_openWait hgoal hconfig d.stores d.now
  refine ⟨fun hmust => ?_, fun hno => ?_⟩
  · rw [if_pos ((d.mustWait_iff k goal _).2 hmust)] at hbegin hsubmits
    have hcaller := Application.caller_step hfresh d.stores d.now
    have hsubmitted := Application.submissions_step hfresh d.stores d.now
    rw [show Call.step d.app.sockets d.stores d.now (.fresh goal) = _ from hbegin] at hcaller
    rw [hsubmits] at hsubmitted
    exact ⟨hcaller, fun hasks k => (hsubmitted k).trans (by rw [hunsent hasks k]; rfl)⟩
  · rw [if_neg fun hmust => hno ((d.mustWait_iff k goal _).1 hmust)] at hbegin hsubmits
    exact finished_of_finish hgoal hfresh hunsent hbegin hsubmits

/-- **How long a call waits for a socket to open**, in any run. If the socket is not wanted as the
call begins, or open, or shut down, or if the call may not wait any time, it does in its first step
what it has to do. Otherwise it waits until the first of its turns that finds the socket open or
shut down or the limit reached; what it has to do is done then, and nothing of it before: a request
is submitted once and only on its socket. In a punctual run the call goes on at the least of the
times at which there is a reason for that, and as long as it waits that time has not gone by. -/
theorem open_wait_ends_on_time (config : ClientConfig) (stores : Stores) (past : List Move)
    (j : Nat) (goal : Goal) (k : SocketKind) (ms : Nat)
    (hgoal : goal.openWait? config = some (k, ms))
    (hfresh : ((start config stores).makeAll past).app.callers[j]? = some ⟨goal, .fresh goal⟩)
    (moves : List Move) :
    let d := (start config stores).makeAll past
    let limit := d.now + ms
    let d₁ := d.make (.act (.step j {} 0))
    let d₂ := d₁.makeAll moves
    (d.needs k goal = false ∨ d.Over k limit → d₁.Settled j goal ∧ d₂.Settled j goal) ∧
    (d.needs k goal = true → ¬d.Over k limit →
      d₁.Unsettled j goal ∧
      (d₂.app.callers[j]? = some ⟨goal, goal.waiting limit⟩ ↔ d₁.Unended j k limit moves) ∧
      (d₂.Settled j goal ↔
        ∃ before stores now later, moves = before ++ .act (.step j stores now) :: later ∧
          d₁.Unended j k limit before ∧ (d₁.makeAll before).Over k limit) ∧
      (d₂.Settled j goal ∨ d₂.Unsettled j goal) ∧
      (Call.ready d₂.app.sockets d₂.now (goal.waiting limit) = true ↔ d₂.Over k limit) ∧
      (d₁.Punctual j moves →
        (d₁.Unended j k limit moves → ∀ t ∈ d₁.reasons j k limit moves, d₂.now ≤ t) ∧
        ∀ before stores now later, moves = before ++ .act (.step j stores now) :: later →
          d₁.Unended j k limit before → (d₁.makeAll before).Over k limit →
          IsLeast (d₁.reasons j k limit moves) (d₁.makeAll before).now)) := by
  intro d limit d₁ d₂
  obtain ⟨moves', hpast⟩ := (start config stores).exists_app_makeAll past
  have hconfig : (d.connection k).config = config := by
    rw [connection, hpast]
    exact Application.config_makeAll config moves' k
  have hspent : d.app.Spent := by
    rw [hpast]
    exact Application.spent_makeAll config moves'
  obtain ⟨hmust, hdone⟩ := begins hgoal hconfig hspent hfresh {} 0
  refine ⟨fun hneedless => ?_, fun hneeds hover => ?_⟩
  · have hfinished : d₁.Finished j goal := by
      refine hdone ?_
      rintro ⟨hneeds, hno⟩
      rcases hneedless with hunwanted | hover
      · cases hneeds.symm.trans hunwanted
      · exact hno hover
    exact ⟨hfinished.settled, (hfinished.makeAll hgoal moves).settled⟩
  · have hwaits : d₁.Waiting j goal limit := hmust ⟨hneeds, hover⟩
    have hle : d₁.now ≤ limit := Nat.le_add_right _ _
    obtain ⟨hsettled, hsome⟩ := hwaits.settled_iff hgoal moves
    refine ⟨hwaits.unsettled hgoal, hwaits.waiting_iff hgoal, hsettled, hsome, ?_,
      fun hpunctual => ⟨fun hno t => ?_, ?_⟩⟩
    · rw [(Call.step_waiting hgoal _ d₂.stores _ limit).2.2]
      exact over_iff
    · exact hwaits.now_le_of_mem_reasons hgoal hle hno hpunctual
    · rintro before stores now later rfl hno hover
      exact hwaits.isLeast_reasons hgoal hle hno hover hpunctual

/-- A request waits while an attempt to open its socket fails and the build expires. -/
def expiringMeanwhile : List Move × List Move :=
  ([.act (.call (.request (Request.get "/").anonymous))],
    [.act (.atHead .unidentified {} 0 .hanging),
      .act (.connectFailed .unidentified {} 0 .brokenPipe), .wait 2,
      .store { expired := true }, .act (.step 0 {} 0), .wait 3])

/-- The request is submitted when its limit is reached, and not before. On a socket that is open
already a call waits no time. -/
theorem submits_at_limit :
    let goal : Goal := .request (Request.get "/").anonymous
    let d := (start { openWait := 5 } {}).makeAll expiringMeanwhile.1
    let d₁ := d.make (.act (.step 0 {} 0))
    let moves := expiringMeanwhile.2 ++ [.act (.step 0 {} 0)]
    goal.openWait? { openWait := 5 } = some (.unidentified, 5) ∧
      d.app.callers[0]? = some ⟨goal, .fresh goal⟩ ∧ d.needs .unidentified goal = true ∧
      ¬d.Over .unidentified 5 ∧ d₁.Punctual 0 moves ∧
      (d₁.makeAll expiringMeanwhile.2).Unsettled 0 goal ∧ (d₁.makeAll moves).Settled 0 goal ∧
      IsLeast (d₁.reasons 0 .unidentified 5 moves) 5 ∧
      let past := attending .unidentified ++ [.act (.call (.openWithin .unidentified 5))]
      let opened := (start {} {}).makeAll past
      (opened.connection .unidentified).state = .open ∧
        (opened.make (.act (.step 0 {} 0))).Settled 0 (.openWithin .unidentified 5) := by
  intro goal d d₁ moves
  have hgoal : goal.openWait? { openWait := 5 } = some (.unidentified, 5) := rfl
  have hfresh : d.app.callers[0]? = some ⟨goal, .fresh goal⟩ := rfl
  have hneeds : d.needs .unidentified goal = true := rfl
  have hyet : ¬d.Over .unidentified 5 := by
    rintro (hopen | hshut | hlimit)
    · cases hopen
    · cases hshut
    · exact absurd hlimit (by decide)
  have hpunctual : d₁.Punctual 0 moves := by
    simp only [moves, expiringMeanwhile, List.cons_append, List.nil_append, Punctual,
      clear_cons_iff, clear_nil, and_true]
    refine ⟨?_, ?_, ?_, ?_, ?_, ?_, ?_⟩ <;> rintro ⟨ms, c, hmove, hc, hsleeps⟩ <;> cases hmove
    all_goals
      obtain rfl : c = ⟨goal, goal.waiting 5⟩ := Option.some.inj (hc.symm.trans rfl)
      rcases hsleeps with hready | ⟨due, hdue, hlate⟩
      · exact absurd hready (by decide)
      · cases hdue
        exact absurd hlate (by decide)
  have hall := fun moves => (open_wait_ends_on_time { openWait := 5 } {} expiringMeanwhile.1 0 goal
    .unidentified 5 hgoal hfresh moves).2 hneeds hyet
  have hno : d₁.Unended 0 .unidentified 5 expiringMeanwhile.2 :=
    (hall expiringMeanwhile.2).2.1.1 rfl
  have hover : (d₁.makeAll expiringMeanwhile.2).Over .unidentified 5 := .inr (.inr (by decide))
  refine ⟨hgoal, hfresh, hneeds, hyet, hpunctual, ?_, ?_, ?_, ?_⟩
  · exact fun k => by cases k <;> rfl
  · exact (hall moves).2.2.1.2 ⟨expiringMeanwhile.2, {}, 0, [], rfl, hno, hover⟩
  · exact ((hall moves).2.2.2.2.2 hpunctual).2 expiringMeanwhile.2 {} 0 [] rfl hno hover
  · intro past opened
    have hopen : (opened.connection .unidentified).state = .open := rfl
    exact ⟨hopen, ((open_wait_ends_on_time {} {} past 0 (.openWithin .unidentified 5) .unidentified
      5 rfl rfl []).1 (.inr (.inl hopen))).1⟩

end Device

end ChatSockets
