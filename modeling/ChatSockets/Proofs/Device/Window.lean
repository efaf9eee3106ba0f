import ChatSockets.Proofs.Device.Notice
import ChatSockets.Proofs.Device.OpenWait
import ChatSockets.Proofs.Socket.Window

/-!
# How long a socket is wanted for pushes

What an application does besides pushing, and all that its calls and keepers do, leaves the time
that a policy keeps (`Connection.Tended.pushUntil`, `Application.counts_make`). So of a device, as
of a policy by itself, the pushes and the clock alone tell until when a socket is wanted for them:
until the latest of the times at which they cease to count, whatever happened in between
(`window_ends_with_latest_push`).
-/

namespace ChatSockets

open Keeper

namespace Connection

variable {c c' : Connection}

/-- Only a push changes the time that a policy keeps. -/
theorem pushUntil_perform (c : Connection) {op : Operation} (hop : op.pushes = false) :
    (c.perform op).policy.pushUntil = c.policy.pushUntil := by
  cases op with
  | push now => cases hop
  | withdraw id =>
    unfold perform withdraw
    dsimp only
    split <;> rfl
  | send r id =>
    unfold perform send?
    dsimp only
    cases c.outbox <;> rfl
  | setActive active =>
    unfold perform setActive withPolicy Policy.setActive
    dsimp only
    split <;> rfl
  | acquire | release | cycle | shutDown | register => rfl

theorem Tended.pushUntil (h : c.Tended c') : c'.policy.pushUntil = c.policy.pushUntil := by
  induction h with
  | refl => rfl
  | performs _ op hop ih => exact (pushUntil_perform _ hop).trans ih
  | claims _ ih => exact ih

end Connection

namespace Application

/-- When the pushes of a move on a socket cease to count. -/
def Move.ends (config : ClientConfig) (k : SocketKind) : Move → List Nat
  | .operate j (.push now) => if j = k then [now + config.push] else []
  | _ => []

variable {a : Application} {k : SocketKind} {config : ClientConfig} {ends : List Nat}

theorem pushUntil_make (a : Application) {move : Move} (k : SocketKind)
    (hpush : ∀ now, move ≠ .operate k (.push now)) :
    ((a.make move).connection k).policy.pushUntil = (a.connection k).policy.pushUntil := by
  by_cases hk : a.stirs? move = some k
  · obtain ⟨stores, now, hmove⟩ := move.exists_finding
    have htreats := a.make_treats move stores now k
    rw [hmove] at htreats
    cases htreats with
    | stirs _ _ hpolicy => exact hpolicy.elim (congrArg _) (congrArg _)
    | touches hno => exact absurd hk hno
  · exact (a.tended_of_stirs? hk hpush).pushUntil

/-- **A move of the application** pushes on a socket, or leaves the time that its policy keeps. -/
theorem counts_make (hconfig : (a.connection k).config = config)
    (h : (a.connection k).policy.Counts ends) (move : Move) :
    ((a.make move).connection k).policy.Counts (ends ++ move.ends config k) := by
  by_cases hpush : ∃ now, move = .operate k (.push now)
  · obtain ⟨now, rfl⟩ := hpush
    have hpushed : (a.make (.operate k (.push now))).connection k = (a.connection k).push now :=
      (a.connection_modify k k _).trans (if_pos rfl)
    rw [hpushed, Move.ends, if_pos rfl, ← hconfig]
    exact h.extendPush now (a.connection k).config.push
  · have hnone : move.ends config k = [] := by
      unfold Move.ends
      split
      · next j now =>
        refine if_neg ?_
        rintro rfl
        exact hpush ⟨now, rfl⟩
      · rfl
    rw [hnone]
    exact (a.pushUntil_make k (not_exists.1 hpush)).trans h.append_nil

end Application

namespace Device

/-- When the pushes of a move on a socket cease to count, at the time that it finds. -/
def Move.ends (config : ClientConfig) (k : SocketKind) (now : Nat) : Move → List Nat
  | .act (.operate j (.push _)) => if j = k then [now + config.push] else []
  | _ => []

/-- The time after a move. -/
def Move.clock (now : Nat) : Move → Nat
  | .wait ms => now + ms
  | _ => now

/-- When the pushes of some moves on a socket cease to count, in their order. -/
def pushEnds (config : ClientConfig) (k : SocketKind) (now : Nat) : List Move → List Nat
  | [] => []
  | move :: rest => move.ends config k now ++ pushEnds config k (move.clock now) rest

variable {d : Device} {k : SocketKind} {config : ClientConfig} {ends : List Nat}

theorem clock_make (d : Device) (move : Move) : (d.make move).now = move.clock d.now := by
  cases move <;> rfl

theorem config_make (d : Device) (move : Move) (k : SocketKind) :
    ((d.make move).connection k).config = (d.connection k).config := by
  rcases d.app_make move k with hsame | ⟨move', hmove, -⟩
  · rw [connection, connection, hsame]
  · rw [connection, connection, hmove]
    exact Application.config_make d.app move' k

/-- So does a move of the device. -/
theorem counts_make (hconfig : (d.connection k).config = config)
    (h : (d.connection k).policy.Counts ends) (move : Move) :
    ((d.make move).connection k).policy.Counts (ends ++ move.ends config k d.now) := by
  cases move with
  | act move =>
    have hends : Move.ends config k d.now (.act move) =
        (move.finding d.stores d.now).ends config k := by
      cases move with
      | operate j op => cases op <;> rfl
      | _ => rfl
    rw [hends]
    exact Application.counts_make hconfig h _
  | reregister credentials => exact Application.counts_make hconfig h (.operate .identified .cycle)
  | store | wait => exact h.append_nil

/-- **What the policy of a socket counts** after some moves is what it counted before, and the
pushes among them. -/
theorem counts_makeAll (hconfig : (d.connection k).config = config)
    (h : (d.connection k).policy.Counts ends) (moves : List Move) :
    ((d.makeAll moves).connection k).policy.Counts (ends ++ pushEnds config k d.now moves) := by
  induction moves generalizing d ends with
  | nil => exact h.append_nil
  | cons move rest ih =>
    have hrest := ih ((d.config_make move k).trans hconfig) (counts_make hconfig h move)
    rwa [clock_make, List.append_assoc] at hrest

theorem deadline_makeAll (config : ClientConfig) (stores : Stores) (moves : List Move)
    (k : SocketKind) (now : Nat) :
    (((start config stores).makeAll moves).connection k).policy.pushDeadline? now =
      latestAhead? now (pushEnds config k 0 moves) := by
  have hstart : ((start config stores).connection k).config = config ∧
      ((start config stores).connection k).policy.Counts [] := by
    cases k <;> exact ⟨rfl, rfl⟩
  exact (counts_makeAll hstart.1 hstart.2 moves).deadline now

/-- A keeper that serves an open socket without a wake-up has set its timer to what is read of the
policy, as long as it is not due. -/
theorem window_of_serving {config : ClientConfig} {stores : Stores} {moves : List Move}
    {k : SocketKind} {live : Live} {window : Option Nat} :
    let d := (start config stores).makeAll moves
    (d.connection k).phase = .serving live window → (d.connection k).policy.woken = false →
      (∀ t, window = some t → d.now < t) →
        window = (d.connection k).policy.pushDeadline? d.now := by
  intro d hphase hasleep hahead
  have hwatched : d.Watched := watched_makeAll (watched_start config stores) moves
  have hsaw := (hwatched.vigilant k).saw hasleep
  rw [Connection.Saw, hphase] at hsaw
  obtain ⟨-, -, hwindow⟩ := hsaw
  cases window with
  | some t =>
    obtain ⟨huntil, -⟩ := (Policy.pushDeadline?_eq_some_iff _ _ t).1 hwindow.symm
    exact ((Policy.pushDeadline?_eq_some_iff _ d.now t).2 ⟨huntil, hahead t rfl⟩).symm
  | none =>
    rw [deadline_makeAll] at hwindow ⊢
    exact (latestAhead?_of_le hwindow.symm (hwatched.vigilant k).went).symm

end Device

/-- **A window ends with the push that counts longest.** After any script, what is read of its
policy is the latest of the times at which a push ceases to count, the time that the policy kept
before among them, as long as that is ahead, and nothing from then on. So a window stays until it
passes, and then ends no earlier whatever was pushed, and one that has passed does not come back
without a push. The same is read of the policy of each socket of a device after any moves, and a
keeper that serves an open socket has set its timer to it. -/
theorem window_ends_with_latest_push :
    (∀ (w : Script.PolicySide) (script : List Script.PolicyAct),
      (w.after script).deadline? = latestAhead? (w.after script).now
        (w.policy.pushUntil.toList ++ Script.ends w.now script)) ∧
    (∀ (w : Script.PolicySide) (script : List Script.PolicyAct) (t : Nat),
      w.deadline? = some t → (w.after script).now < t →
        ∃ t', (w.after script).deadline? = some t' ∧ t ≤ t') ∧
    (∀ (w : Script.PolicySide) (script : List Script.PolicyAct),
      w.deadline? = none → (∀ ms, .extend ms ∉ script) → (w.after script).deadline? = none) ∧
    ∀ (config : ClientConfig) (stores : Stores) (moves : List Device.Move) (k : SocketKind),
      let d := (Device.start config stores).makeAll moves
      let c := d.connection k
      c.policy.pushDeadline? d.now = latestAhead? d.now (Device.pushEnds config k 0 moves) ∧
      ∀ live window, c.phase = .serving live window → c.policy.woken = false →
        (∀ t, window = some t → d.now < t) → window = c.policy.pushDeadline? d.now := by
  refine ⟨Script.PolicySide.deadline_after, fun w script t h hahead => ?_, fun w script h hno => ?_,
    fun config stores moves k => ⟨Device.deadline_makeAll config stores moves k _,
      fun live window => Device.window_of_serving⟩⟩
  · rw [Script.PolicySide.deadline_after]
    exact latestAhead?_append ((w.policy.counts_toList.deadline w.now).symm.trans h) _ hahead
  · rw [Script.PolicySide.deadline_after, Script.ends_eq_nil hno, List.append_nil]
    exact latestAhead?_of_le ((w.policy.counts_toList.deadline w.now).symm.trans h)
      (w.now_le_after script)

/-- A push that counts for 20 milliseconds and two shorter ones after it, the last of which ends
earlier: the window stays until 20, and nothing is left then. A socket that is opened for a push
alone is served until the push ceases to count. -/
theorem window_of_shorter_pushes :
    let w : Script.PolicySide := { policy := { socket := .unidentified }, stores := {} }
    let pushed := w.after [.extend 20, .extend 5, .advance 10, .extend 3]
    let later : List Script.PolicyAct := [.advance 9, .extend 0]
    let passed := pushed.after [.advance 10]
    let quiet : List Script.PolicyAct := [.acquire "next", .advance 5]
    let d := (Device.start {} {}).makeAll ([.act (.operate .unidentified (.push 0)),
      .act (.atHead .unidentified {} 0 .connected), .act (.connected .unidentified {} 0 0 {})] ++
      Device.looks .unidentified ++ [.act (.keeper .unidentified .woken {} 0 {})] ++
      Device.looks .unidentified ++ [.wait 7])
    (pushed.deadline? = some 20 ∧ (pushed.after later).now < 20 ∧
      ∃ t', (pushed.after later).deadline? = some t' ∧ 20 ≤ t') ∧
    (passed.deadline? = none ∧ (∀ ms, .extend ms ∉ quiet) ∧
      (passed.after quiet).deadline? = none) ∧
    ∃ live, (d.connection .unidentified).phase = .serving live (some 20000) := by
  intro w pushed later passed quiet d
  obtain ⟨hread, hstays, hgone, hdevice⟩ := window_ends_with_latest_push
  have hpushed : pushed.deadline? = some 20 := hread w _
  have hpassed : passed.deadline? = none := hread pushed _
  have hbefore : (pushed.after later).now < 20 := by decide
  have hquiet : ∀ ms, .extend ms ∉ quiet := by simp [quiet]
  refine ⟨⟨hpushed, hbefore, hstays pushed later 20 hpushed hbefore⟩,
    ⟨hpassed, hquiet, hgone passed quiet hpassed hquiet⟩, ?_⟩
  obtain ⟨hserves, hopen, hrest⟩ : (d.connection .unidentified).phase.watches = true ∧
      (d.connection .unidentified).phase.shown = .open ∧
      Keeper.ready d.now {} (d.connection .unidentified) = false := by decide +kernel
  obtain ⟨live, window, hserving⟩ := Phase.serving_of_watches hserves hopen
  obtain ⟨hends, htimer⟩ := hdevice {} {} _ .unidentified
  refine ⟨live, hserving.trans (congrArg (Phase.serving live) ?_)⟩
  exact (htimer live window hserving (Device.asleep_of_rest hrest hserves)
    (Device.window_of_rest hrest hserving)).trans hends

end ChatSockets
