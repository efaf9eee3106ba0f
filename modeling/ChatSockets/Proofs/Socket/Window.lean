import ChatSockets.Proofs.Socket.Vigilance
import ChatSockets.Script.Policy

/-!
# How long pushes count

A push counts for some time from when it is heard of, and a policy keeps one time only for all
pushes: the latest of the times at which they cease to count (`Policy.Counts`). A push that counts
longer takes its place, and any other leaves it (`Counts.extendPush`). What is read of it is that
latest time as long as it is ahead (`Counts.deadline`). So a script tells by its pushes and its
clock alone what its policy will say (`PolicySide.deadline_after`), whatever else happens in it.
-/

namespace ChatSockets

/-- The latest of some times, if it is still ahead. -/
def latestAhead? (now : Nat) (ends : List Nat) : Option Nat :=
  match ends.max? with
  | some t => if now < t then some t else none
  | none => none

section
variable {now now' t : Nat} {ends : List Nat}

theorem latestAhead?_eq_some_iff :
    latestAhead? now ends = some t ↔ t ∈ ends ∧ (∀ e ∈ ends, e ≤ t) ∧ now < t := by
  rw [← and_assoc, ← List.max?_eq_some_iff]
  unfold latestAhead?
  cases ends.max? with
  | none => simp
  | some latest =>
    dsimp only
    split
    · next hahead =>
      simp only [Option.some.injEq]
      exact ⟨fun h => ⟨h, h ▸ hahead⟩, And.left⟩
    · next hpassed =>
      simp only [Option.some.injEq, reduceCtorEq, false_iff, not_and]
      exact fun h => h ▸ hpassed

theorem latestAhead?_eq_none_iff : latestAhead? now ends = none ↔ ∀ e ∈ ends, e ≤ now := by
  unfold latestAhead?
  cases hmax : ends.max? with
  | none =>
    rw [List.max?_eq_none_iff] at hmax
    simp [hmax]
  | some latest =>
    obtain ⟨hmem, hle⟩ := List.max?_eq_some_iff.1 hmax
    dsimp only
    split
    · next hahead =>
      simp only [reduceCtorEq, false_iff]
      exact fun h => Nat.not_le_of_gt hahead (h latest hmem)
    · next hpassed =>
      simp only [true_iff]
      exact fun e he => Nat.le_trans (hle e he) (Nat.le_of_not_gt hpassed)

/-- With more times there is one ahead at least as late, until the first one passes. -/
theorem latestAhead?_append (h : latestAhead? now ends = some t) (more : List Nat)
    (hahead : now' < t) : ∃ t', latestAhead? now' (ends ++ more) = some t' ∧ t ≤ t' := by
  have hmem : t ∈ ends ++ more := List.mem_append_left more (latestAhead?_eq_some_iff.1 h).1
  cases hlater : latestAhead? now' (ends ++ more) with
  | none => exact absurd hahead (Nat.not_lt.2 (latestAhead?_eq_none_iff.1 hlater t hmem))
  | some t' => exact ⟨t', rfl, (latestAhead?_eq_some_iff.1 hlater).2.1 t hmem⟩

/-- When none is ahead, none is later. -/
theorem latestAhead?_of_le (h : latestAhead? now ends = none) (hle : now ≤ now') :
    latestAhead? now' ends = none :=
  latestAhead?_eq_none_iff.2 fun e he => Nat.le_trans (latestAhead?_eq_none_iff.1 h e he) hle

end

namespace Policy

/-- The time that a policy keeps is the latest of those at which some pushes cease to count. -/
def Counts (p : Policy) (ends : List Nat) : Prop := p.pushUntil = ends.max?

variable {p : Policy} {ends : List Nat}

/-- A policy counts what it has. -/
theorem counts_toList (p : Policy) : p.Counts p.pushUntil.toList := by
  unfold Counts
  cases p.pushUntil <;> rfl

theorem Counts.append_nil (h : p.Counts ends) : p.Counts (ends ++ []) := by
  rwa [List.append_nil]

/-- **What is read of a policy** is the latest of the times that it counts, if that is ahead. -/
theorem Counts.deadline (h : p.Counts ends) (now : Nat) :
    p.pushDeadline? now = latestAhead? now ends := by
  rw [pushDeadline?, h, latestAhead?]
  cases ends.max? with
  | none => rfl
  | some t => simp [Option.filter]

/-- A push that counts longer takes the place of the others. -/
theorem pushUntil_extendPush (p : Policy) (now ms : Nat) :
    (p.extendPush now ms).pushUntil =
      some (p.pushUntil.elim (now + ms) (max · (now + ms))) := by
  unfold extendPush wake
  cases huntil : p.pushUntil with
  | none => rfl
  | some t =>
    by_cases hlonger : t < now + ms
    · simp [hlonger, Nat.max_eq_right (Nat.le_of_lt hlonger)]
    · simp [hlonger, huntil, Nat.max_eq_left (Nat.le_of_not_lt hlonger)]

/-- **One more push** is counted among the others. -/
theorem Counts.extendPush (h : p.Counts ends) (now ms : Nat) :
    (p.extendPush now ms).Counts (ends ++ [now + ms]) := by
  have hlatest : (ends ++ [now + ms]).max? =
      some (ends.max?.elim (now + ms) (max · (now + ms))) := by
    cases ends with
    | nil => rfl
    | cons e ends =>
      rw [List.cons_append, List.max?_cons', List.foldl_append, List.max?_cons']
      rfl
  rw [Counts, pushUntil_extendPush, h, hlatest]

end Policy

namespace Script

/-- When the pushes of an act cease to count. -/
def PolicyAct.ends (now : Nat) : PolicyAct → List Nat
  | .extend ms => [now + ms]
  | _ => []

/-- The time after an act. -/
def PolicyAct.clock (now : Nat) : PolicyAct → Nat
  | .advance ms => now + ms
  | _ => now

/-- When the pushes of a script that begins at a time cease to count, in their order. -/
def ends (now : Nat) : List PolicyAct → List Nat
  | [] => []
  | a :: script => a.ends now ++ ends (a.clock now) script

/-- A script without pushes. -/
theorem ends_eq_nil {script : List PolicyAct} (h : ∀ ms, .extend ms ∉ script) (now : Nat) :
    ends now script = [] := by
  induction script generalizing now with
  | nil => rfl
  | cons a script ih =>
    have hnone : a.ends now = [] := by
      cases a with
      | extend ms => exact absurd List.mem_cons_self (h ms)
      | _ => rfl
    rw [ends, hnone, ih fun ms hmem => h ms (List.mem_cons_of_mem a hmem)]
    rfl

namespace PolicySide

/-- A policy with all that belongs to it, after a script. -/
def after (w : PolicySide) (script : List PolicyAct) : PolicySide :=
  script.foldl (fun w a => (w.act a).2) w

/-- The end of the window that is read of the policy now. -/
def deadline? (w : PolicySide) : Option Nat := w.policy.pushDeadline? w.now

variable {w : PolicySide} {ends : List Nat}

theorem now_act (w : PolicySide) (a : PolicyAct) : (w.act a).2.now = a.clock w.now := by
  cases a with
  | acquire name | release name =>
    unfold act
    dsimp only
    split <;> rfl
  | _ => rfl

/-- Nothing but a push changes the time that the policy keeps. -/
theorem pushUntil_act (w : PolicySide) {a : PolicyAct} (ha : ∀ ms, a ≠ .extend ms) :
    (w.act a).2.policy.pushUntil = w.policy.pushUntil := by
  cases a with
  | extend ms => exact absurd rfl (ha ms)
  | active on =>
    show (w.policy.setActive on).pushUntil = _
    unfold Policy.setActive
    split <;> rfl
  | acquire name | release name =>
    unfold act
    dsimp only
    split <;> rfl
  | _ => rfl

theorem counts_act (h : w.policy.Counts ends) (a : PolicyAct) :
    (w.act a).2.policy.Counts (ends ++ a.ends w.now) := by
  cases a with
  | extend ms => exact h.extendPush w.now ms
  | _ => exact (pushUntil_act w (by nofun)).trans h.append_nil

/-- **What a policy counts after a script** is what it counted before, and the pushes of the
script. -/
theorem counts_after (h : w.policy.Counts ends) (script : List PolicyAct) :
    (w.after script).policy.Counts (ends ++ Script.ends w.now script) := by
  induction script generalizing w ends with
  | nil => exact h.append_nil
  | cons a script ih =>
    have hact := ih (counts_act h a)
    rwa [now_act, List.append_assoc] at hact

theorem deadline_after (w : PolicySide) (script : List PolicyAct) :
    (w.after script).deadline? = latestAhead? (w.after script).now
      (w.policy.pushUntil.toList ++ Script.ends w.now script) :=
  (counts_after w.policy.counts_toList script).deadline _

theorem now_le_after (w : PolicySide) (script : List PolicyAct) : w.now ≤ (w.after script).now := by
  induction script generalizing w with
  | nil => exact Nat.le_refl _
  | cons a script ih =>
    refine Nat.le_trans ?_ (ih (w.act a).2)
    rw [now_act]
    cases a with
    | advance ms => exact Nat.le_add_right _ _
    | _ => exact Nat.le_refl _

end PolicySide

end Script

end ChatSockets
