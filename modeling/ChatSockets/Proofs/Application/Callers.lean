import ChatSockets.Proofs.Application.Written
import Mathlib.Data.List.Induction

/-!
# Where the calls are

A move makes a call, lets one go on, or leaves all of them where they are: `Becomes` says how a call
came to be where it is (`caller_make`), and from that what holds of all calls at any time is shown
with one case for each of the ways. So a call is never anywhere but where its goal leads
(`serves_makeAll`), and nothing is issued for it but what it asks for (`Faithful`).
-/

namespace ChatSockets

namespace Call

/-- The places to which a goal leads a call. -/
def Phase.Serves (goal : Goal) : Phase → Prop
  | .fresh goal' => goal' = goal
  | .holding k r _ => goal = .request r ∧ k = r.route
  | .submitted k _ _ _ _ => ∃ r, goal.asks? = some (k, r)
  | .opening k _ => goal = .opening k
  | .openWithin k _ => ∃ ms, goal = .openWithin k ms
  | .state k shown => goal = .state k shown
  | .shutdown mine => ∃ ks, goal = .shutdown ks ∧ ∀ k ∈ mine, k ∈ ks
  | .done _ | .abandoned => True

variable {goal : Goal}

theorem submit_serves {k : SocketKind} {r : Request} (h : goal.asks? = some (k, r)) (s : Sockets)
    (now : Nat) (token : SocketKind) : (submit s now k token r).1.Serves goal := by
  unfold submit
  dsimp only
  split
  · trivial
  · exact ⟨r, h⟩

theorem begin_serves (s : Sockets) (stores : Stores) (now : Nat) (goal : Goal) :
    (begin s stores now goal).1.Serves goal := by
  cases goal with
  | request r =>
    unfold begin
    dsimp only
    split
    · exact ⟨rfl, rfl⟩
    · exact submit_serves rfl _ now r.route
  | submit socket token r => exact submit_serves rfl s now token
  | opening | state =>
    unfold begin
    dsimp only
    split
    · trivial
    · rfl
  | openWithin socket ms =>
    unfold begin
    dsimp only
    split
    · exact ⟨ms, rfl⟩
    · trivial
  | shutdown ks =>
    unfold begin
    dsimp only
    split
    · trivial
    · exact ⟨ks, rfl, fun k hk => List.mem_of_mem_filter hk⟩

/-- **A call goes where its goal leads.** -/
theorem step_serves {p : Phase} (h : p.Serves goal) (s : Sockets) (stores : Stores) (now : Nat) :
    (step s stores now p).1.Serves goal := by
  cases p with
  | fresh goal' =>
    obtain rfl : goal' = goal := h
    exact begin_serves s stores now goal'
  | holding k r limit =>
    unfold step
    dsimp only
    split
    · obtain ⟨rfl, rfl⟩ := h
      exact submit_serves rfl s now r.route
    · exact h
  | submitted =>
    unfold step
    dsimp only
    split
    · trivial
    · split
      · trivial
      · exact h
  | opening | openWithin | state | shutdown =>
    unfold step
    dsimp only
    split
    · trivial
    · exact h
  | done | abandoned => exact h

/-- A call asks for what its goal asks for. -/
theorem Phase.Serves.asks {p : Phase} (h : p.Serves goal) {x : SocketKind × Request}
    (hasks : p.asks? = some x) : goal.asks? = some x := by
  cases p with
  | fresh goal' =>
    obtain rfl : goal' = goal := h
    exact hasks
  | holding k r limit =>
    obtain ⟨rfl, rfl⟩ := h
    exact hasks
  | _ => cases hasks

theorem cancel_serves (p : Phase) (s : Sockets) : (cancel s p).1.Serves goal := by
  unfold cancel
  split <;> trivial

end Call

namespace Application

variable {a : Application} {move : Move} {i : Nat} {c : Caller}

/-- Whether a move is about a call. -/
def Move.ofCall : Move → Bool
  | .call _ | .step .. | .cancel _ => true
  | _ => false

/-- How a call came to where it is after a move. -/
inductive Becomes (a : Application) (move : Move) (i : Nat) : Caller → Prop
  /-- it was made -/
  | made (goal : Goal) (hmove : move = .call goal) (hi : i = a.callers.length) :
    Becomes a move i ⟨goal, .fresh goal⟩
  /-- it made a step -/
  | stepped (stores : Stores) (now : Nat) (goal : Goal) (p : Call.Phase)
    (hmove : move = .step i stores now) (hi : a.callers[i]? = some ⟨goal, p⟩) :
    Becomes a move i ⟨goal, (Call.step a.sockets stores now p).1⟩
  /-- it was abandoned -/
  | cancelled (goal : Goal) (p : Call.Phase) (hmove : move = .cancel i)
    (hi : a.callers[i]? = some ⟨goal, p⟩) : Becomes a move i ⟨goal, (Call.cancel a.sockets p).1⟩
  /-- it is where it was -/
  | stayed (c : Caller) (hi : a.callers[i]? = some c) : Becomes a move i c

/-- The keepers, and what the application does outside of its calls, leave the calls where they are.
-/
theorem callers_make (a : Application) (h : move.ofCall = false) :
    (a.make move).callers = a.callers := by
  cases move with
  | call | step | cancel => cases h
  | operate | atHead | connectFailed | connected =>
    unfold make
    dsimp only
    split <;> rfl
  | keeper => rfl

/-- **How a call came to where it is.** -/
theorem caller_make (h : (a.make move).callers[i]? = some c) : a.Becomes move i c := by
  cases move with
  | call goal =>
    rcases getElem?_append_cases h with ⟨rfl, rfl⟩ | h
    · exact .made goal rfl rfl
    · exact .stayed c h
  | step j stores now =>
    unfold make at h
    dsimp only at h
    split at h
    · exact .stayed c h
    · next goal p hj =>
      rcases getElem?_set_cases h with ⟨rfl, rfl⟩ | ⟨-, h⟩
      · exact .stepped stores now goal p rfl hj
      · exact .stayed c h
  | cancel j =>
    unfold make at h
    dsimp only at h
    split at h
    · exact .stayed c h
    · next goal p hj =>
      rcases getElem?_set_cases h with ⟨rfl, rfl⟩ | ⟨-, h⟩
      · exact .cancelled goal p rfl hj
      · exact .stayed c h
  | operate | atHead | connectFailed | connected | keeper =>
    rw [a.callers_make rfl] at h
    exact .stayed c h

/-- No call is forgotten. -/
theorem length_callers_make (a : Application) (move : Move) :
    a.callers.length ≤ (a.make move).callers.length := by
  cases move with
  | call goal => simp [make]
  | step j stores now =>
    unfold make
    dsimp only
    split
    · exact Nat.le_refl _
    · exact Nat.le_of_eq List.length_set.symm
  | cancel j =>
    unfold make
    dsimp only
    split
    · exact Nat.le_refl _
    · exact Nat.le_of_eq List.length_set.symm
  | operate | atHead | connectFailed | connected | keeper =>
    exact Nat.le_of_eq (congrArg List.length (a.callers_make rfl).symm)

/-- A call that was made is somewhere after the next move, too. -/
theorem exists_caller_make (h : a.callers[i]? = some c) (move : Move) :
    ∃ c', (a.make move).callers[i]? = some c' ∧ a.Becomes move i c' := by
  have hlt := Nat.lt_of_lt_of_le (List.getElem?_eq_some_iff.1 h).1 (a.length_callers_make move)
  exact ⟨_, List.getElem?_eq_getElem hlt, caller_make (List.getElem?_eq_getElem hlt)⟩

section

variable {j : Nat} {goal : Goal} {p : Call.Phase}

/-- A move is a turn of a call. -/
def Move.IsTurn (j : Nat) (move : Move) : Prop := ∃ stores now, move = .step j stores now

theorem caller_step (h : a.callers[j]? = some ⟨goal, p⟩) (stores : Stores) (now : Nat) :
    (a.make (.step j stores now)).callers[j]? =
      some ⟨goal, (Call.step a.sockets stores now p).1⟩ := by
  simp only [make, h, goOn]
  exact List.getElem?_set_self (List.getElem?_eq_some_iff.1 h).1

theorem caller_cancel (h : a.callers[j]? = some ⟨goal, p⟩) :
    (a.make (.cancel j)).callers[j]? = some ⟨goal, (Call.cancel a.sockets p).1⟩ := by
  simp only [make, h, goOn]
  exact List.getElem?_set_self (List.getElem?_eq_some_iff.1 h).1

/-- A call that neither has a turn nor is abandoned stays where it is. -/
theorem caller_stays (h : a.callers[j]? = some ⟨goal, p⟩) (hturn : ¬move.IsTurn j)
    (hcancel : move ≠ .cancel j) : (a.make move).callers[j]? = some ⟨goal, p⟩ := by
  obtain ⟨c, hc, hbecomes⟩ := exists_caller_make h move
  cases hbecomes with
  | made _ _ hlast =>
    rw [hlast, List.getElem?_eq_none (Nat.le_refl _)] at h
    cases h
  | stepped stores now _ _ hmove => exact absurd ⟨stores, now, hmove⟩ hturn
  | cancelled _ _ hmove => exact absurd hmove hcancel
  | stayed _ hstays => rw [hc, ← hstays, h]

/-- A call that has ended stays where it is. -/
theorem caller_ended (h : a.callers[j]? = some ⟨goal, p⟩)
    (hended : (∃ r, p = .done r) ∨ p = .abandoned) (move : Move) :
    (a.make move).callers[j]? = some ⟨goal, p⟩ := by
  by_cases hturn : move.IsTurn j
  · obtain ⟨stores, now, rfl⟩ := hturn
    rw [caller_step h]
    obtain ⟨r, rfl⟩ | rfl := hended <;> rfl
  · by_cases hcancel : move = .cancel j
    · rw [hcancel, caller_cancel h]
      obtain ⟨r, rfl⟩ | rfl := hended <;> rfl
    · exact caller_stays h hturn hcancel

theorem caller_ended_makeAll (h : a.callers[j]? = some ⟨goal, p⟩)
    (hended : (∃ r, p = .done r) ∨ p = .abandoned) (moves : List Move) :
    (a.makeAll moves).callers[j]? = some ⟨goal, p⟩ := by
  induction moves generalizing a with
  | nil => exact h
  | cons move rest ih => exact ih (caller_ended h hended move)

end

theorem makeAll_snoc (a : Application) (moves : List Move) (move : Move) :
    a.makeAll (moves ++ [move]) = (a.makeAll moves).make move :=
  List.foldl_append

/-- A call asks for the same as ever. -/
theorem Becomes.asks (h : a.Becomes move i c) {c₀ : Caller} (hi : a.callers[i]? = some c₀) :
    c.goal = c₀.goal := by
  cases h with
  | made goal hmove hlast =>
    rw [hlast, List.getElem?_eq_none (Nat.le_refl _)] at hi
    cases hi
  | stepped _ _ goal p _ hp | cancelled goal p _ hp =>
    rw [hp] at hi
    cases hi
    rfl
  | stayed _ hc =>
    rw [hc] at hi
    cases hi
    rfl

/-- What a move issues for a call is what the call asks for. -/
theorem issued_make {k : SocketKind} {issue : Issue} (h : issue ∈ ((a.make move).records k).issued)
    (hcaller : issue.caller? = some i) : issue ∈ (a.records k).issued ∨
      ∃ goal p r, a.callers[i]? = some ⟨goal, p⟩ ∧ p.asks? = some (k, r) ∧
        issue.request = r.toWire issue.id := by
  have hdoes := make_does a move
  generalize a.make move = a' at h hdoes
  cases hdoes with
  | waits _ _ hrecords => exact .inl (hrecords ▸ h)
  | calls goal => exact .inl h
  | goes j goal p p' submitted s' hj hgoes =>
    cases hgoes with
    | waits | withdraws => exact .inl h
    | submits k' r _ _ hasks =>
      refine (issued_goOn_cases h).imp_right fun ⟨hk, hissue⟩ => ?_
      subst hk hissue
      obtain rfl : j = i := Option.some.inj hcaller
      exact ⟨goal, p, r, hj, hasks, rfl⟩
  | turns j _ hshifts _ hrecords =>
    by_cases hk : k = j
    · subst hk
      obtain ⟨more, hmore, hnone⟩ := (hshifts.induct (P := Keeper.Grows (a.ledger k) (a.records k))
        (.refl _ _) fun hshift hgrows => hgrows.trans hshift.grows).issued
      rw [hmore] at h
      refine .inl ((List.mem_append.1 h).resolve_right fun hmem => ?_)
      rw [hnone issue hmem] at hcaller
      cases hcaller
    · exact .inl (hrecords k hk ▸ h)

/-- Every call is where its goal leads, and what was issued for it is what its goal asks for, on the
socket for it. -/
structure Faithful (a : Application) : Prop where
  serves : ∀ (i : Nat) (c : Caller), a.callers[i]? = some c → c.phase.Serves c.goal
  issued : ∀ (k : SocketKind) (issue : Issue) (i : Nat), issue ∈ (a.records k).issued →
    issue.caller? = some i → ∃ c r, a.callers[i]? = some c ∧ c.goal.asks? = some (k, r) ∧
      issue.request = r.toWire issue.id

/-- **It is kept by every move.** -/
theorem Faithful.make (h : a.Faithful) (move : Move) : (a.make move).Faithful := by
  refine ⟨fun i c hi => ?_, fun k issue i hissue hcaller => ?_⟩
  · cases caller_make hi with
    | made goal => rfl
    | stepped stores now goal p _ hp => exact Call.step_serves (h.serves i _ hp) _ stores now
    | cancelled goal p => exact Call.cancel_serves p _
    | stayed _ hc => exact h.serves i c hc
  · obtain ⟨c, r, hi, hasks, hrequest⟩ : ∃ c r, a.callers[i]? = some c ∧
        c.goal.asks? = some (k, r) ∧ issue.request = r.toWire issue.id := by
      rcases issued_make hissue hcaller with hbefore | ⟨goal, p, r, hi, hasks, hrequest⟩
      · exact h.issued k issue i hbefore hcaller
      · exact ⟨⟨goal, p⟩, r, hi, (h.serves i _ hi).asks hasks, hrequest⟩
    obtain ⟨c', hi', hbecomes⟩ := exists_caller_make hi move
    exact ⟨c', r, hi', (hbecomes.asks hi).symm ▸ hasks, hrequest⟩

theorem faithful_start (config : ClientConfig) : (start config).Faithful := by
  refine ⟨fun i c hi => ?_, fun k issue i hissue _ => ?_⟩
  · cases hi
  · cases hissue

theorem faithful_makeAll (h : a.Faithful) (moves : List Move) : (a.makeAll moves).Faithful := by
  induction moves generalizing a with
  | nil => exact h
  | cons move rest ih => exact ih (h.make move)

/-- **Every call is where its goal leads**, after any moves. -/
theorem serves_makeAll (config : ClientConfig) (moves : List Move) (i : Nat) (c : Caller)
    (h : ((start config).makeAll moves).callers[i]? = some c) : c.phase.Serves c.goal :=
  (faithful_makeAll (faithful_start config) moves).serves i c h

end Application

end ChatSockets
