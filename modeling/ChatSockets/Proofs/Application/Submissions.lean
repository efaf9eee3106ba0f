import ChatSockets.Proofs.Application.Callers
import ChatSockets.Proofs.Device.Dialing

/-!
# What a call submits

A record holds the requests of all calls and the probes of the keeper. `Application.submissions`
picks out those of one call on one socket: each turn of the call adds what it submits in it
(`submissions_step`), and nothing else adds anything. A call that submitted its request, or had
none, has none to submit any more (`Spent`), so that what it submitted is settled
(`submissions_makeAll`).
-/

namespace ChatSockets

open Keeper

/-- The requests on a record that were issued for a call. -/
def Record.ofCaller (r : Record) (j : Nat) : List Issue := r.issued.filter (·.caller? = some j)

/-- A keeper issues nothing for a call. -/
theorem Record.ofCaller_after (r : Record) (n : Nat) (uttered : Option (Purpose × Wire.Message))
    (heard : Option Wire.Message) (b : ByteArray) (j : Nat) :
    ((r.after n uttered heard).put n b).ofCaller j = r.ofCaller j := by
  have hprobe : ∀ (r : Record) (id : UInt64) (since : Nat),
      (r.issue (.probe id n since)).ofCaller j = r.ofCaller j := fun r id since => by
    simp [Record.ofCaller, Record.issue, Issue.probe]
  cases uttered with
  | none => cases heard <;> rfl
  | some x =>
    obtain ⟨purpose, m⟩ := x
    cases purpose with
    | probe id => cases heard <;> exact hprobe ..
    | request | reply => cases heard <;> rfl

namespace Call

variable {s s' : Sockets} {p p' : Phase} {submitted : Option (SocketKind × Request)}

/-- A call that has submitted its request, or had none to submit, has none to submit any more. -/
theorem Does.asks?_eq_none (h : Does s p submitted p' s')
    (hp : p.asks? = none ∨ submitted.isSome = true) : p'.asks? = none := by
  cases h with
  | waits _ _ halike hphase =>
    have hnone : p.asks? = none := hp.resolve_right nofun
    rcases hphase with rfl | ⟨-, -, -, hsame⟩
    · exact hnone
    · cases hasks : p'.asks? with
      | none => rfl
      | some x => cases hnone.symm.trans (hsame x hasks)
  | submits k r _ _ hasks h => cases h <;> rfl
  | withdraws k id _ _ hwaits hresult h =>
    rcases hresult with ⟨outcome, -, rfl⟩ | ⟨-, -, hnone⟩
    · rfl
    · exact hnone

theorem submits?_of_asks? (stores : Stores) (now : Nat) (h : p.asks? = none) :
    submits? s stores now p = none := by
  cases p with
  | fresh goal => cases goal <;> first | rfl | cases h
  | holding => cases h
  | _ => rfl

theorem asks?_cancel (s : Sockets) (p : Phase) : (cancel s p).1.asks? = none := by
  cases p with
  | fresh goal => cases goal <;> rfl
  | _ => rfl

end Call

namespace Application

variable {a : Application} {move : Move} {i j : Nat} {k : SocketKind} {goal : Goal}
  {p : Call.Phase}

/-- The requests that a call submitted on a socket. -/
def submissions (a : Application) (j : Nat) (k : SocketKind) : List Issue :=
  (a.records k).ofCaller j

theorem submissions_goOn (a : Application) (i j : Nat) (goal : Goal) (x : SocketKind × Request)
    (after : Call.Phase × Sockets) (k : SocketKind) :
    (a.goOn i goal (some x) after).submissions j k =
      a.submissions j k ++ if i = j ∧ k = x.1 then [a.issueOf i x.1 x.2] else [] := by
  obtain ⟨k', r⟩ := x
  by_cases hk : k = k'
  · subst hk
    rw [submissions, records_goOn_self, Record.issue, Record.ofCaller, List.filter_append]
    by_cases hij : i = j
    · simp [hij, issueOf, submissions, Record.ofCaller]
    · simp [hij, issueOf, submissions, Record.ofCaller]
  · rw [submissions, a.records_goOn_of_ne i goal r after hk, if_neg fun h => hk h.2,
      List.append_nil]
    rfl

/-- **A turn of a call** adds what it submits in it. -/
theorem submissions_step (h : a.callers[j]? = some ⟨goal, p⟩) (stores : Stores) (now : Nat)
    (k : SocketKind) : (a.make (.step j stores now)).submissions j k = a.submissions j k ++
      match Call.submits? a.sockets stores now p with
      | none => []
      | some x => if k = x.1 then [a.issueOf j x.1 x.2] else [] := by
  simp only [make, h]
  cases Call.submits? a.sockets stores now p with
  | none => exact (List.append_nil _).symm
  | some x =>
    rw [submissions_goOn]
    simp only [true_and]

/-- Nothing else does. -/
theorem submissions_make (h : ¬move.IsTurn j) (k : SocketKind) :
    (a.make move).submissions j k = a.submissions j k := by
  cases move with
  | call => rfl
  | step i stores now =>
    have hne : i ≠ j := fun heq => h ⟨stores, now, by rw [heq]⟩
    unfold make
    dsimp only
    split
    · rfl
    · next goal p hi =>
      cases Call.submits? a.sockets stores now p with
      | none => rfl
      | some x => rw [submissions_goOn, if_neg fun hboth => hne hboth.1, List.append_nil]
  | cancel i | operate i | atHead i | connectFailed i =>
    unfold make
    dsimp only
    split <;> rfl
  | connected i stores now others link =>
    unfold make
    dsimp only
    split
    · by_cases hk : k = i
      · subst hk
        simp [submissions, connect, Record.ofCaller, Record.say, Record.put]
      · simp [submissions, connect, Function.update_of_ne hk]
    · rfl
  | keeper i branch stores now link =>
    by_cases hk : k = i
    · subst hk
      cases hlink : linkOf? (a.connection k) with
      | none =>
        simp only [make, turn, hlink]
        rfl
      | some n =>
        rw [submissions, records_keeper hlink]
        exact Record.ofCaller_after ..
    · exact congrArg (Record.ofCaller · j) (a.records_turn_of_ne _ _ _ _ _ hk)

/-- A call that has no request to submit stays without one. -/
theorem asks?_make (h : a.callers[j]? = some ⟨goal, p⟩) (hp : p.asks? = none) (move : Move) :
    ∃ p', (a.make move).callers[j]? = some ⟨goal, p'⟩ ∧ p'.asks? = none := by
  by_cases hturn : move.IsTurn j
  · obtain ⟨stores, now, rfl⟩ := hturn
    exact ⟨_, caller_step h stores now, (Call.step_does ..).asks?_eq_none (.inl hp)⟩
  · by_cases hcancel : move = .cancel j
    · rw [hcancel]
      exact ⟨_, caller_cancel h, Call.asks?_cancel ..⟩
    · exact ⟨p, caller_stays h hturn hcancel, hp⟩

theorem asks?_makeAll (h : a.callers[j]? = some ⟨goal, p⟩) (hp : p.asks? = none)
    (moves : List Move) :
    ∃ p', (a.makeAll moves).callers[j]? = some ⟨goal, p'⟩ ∧ p'.asks? = none := by
  induction moves generalizing a p with
  | nil => exact ⟨p, h, hp⟩
  | cons move rest ih =>
    obtain ⟨p', h', hp'⟩ := asks?_make h hp move
    exact ih h' hp'

/-- **A call without a request to submit** submits nothing any more. -/
theorem submissions_makeAll (h : a.callers[j]? = some ⟨goal, p⟩) (hp : p.asks? = none)
    (moves : List Move) (k : SocketKind) :
    (a.makeAll moves).submissions j k = a.submissions j k := by
  induction moves generalizing a p with
  | nil => rfl
  | cons move rest ih =>
    have hsame : (a.make move).submissions j k = a.submissions j k := by
      by_cases hturn : move.IsTurn j
      · obtain ⟨stores, now, rfl⟩ := hturn
        rw [submissions_step h, Call.submits?_of_asks? stores now hp, List.append_nil]
      · exact submissions_make hturn k
    obtain ⟨p', h', hp'⟩ := asks?_make h hp move
    exact (ih h' hp').trans hsame

/-- A call that has submitted something has no request to submit. -/
def Spent (a : Application) : Prop :=
  ∀ j k, a.submissions j k ≠ [] → ∃ goal p, a.callers[j]? = some ⟨goal, p⟩ ∧ p.asks? = none

theorem Spent.make (h : a.Spent) (move : Move) : (a.make move).Spent := by
  intro j k hsome
  by_cases hbefore : a.submissions j k = []
  · by_cases hturn : move.IsTurn j
    · obtain ⟨stores, now, rfl⟩ := hturn
      cases hj : a.callers[j]? with
      | none =>
        simp only [Application.make, hj] at hsome
        exact absurd hbefore hsome
      | some c =>
        obtain ⟨goal, p⟩ := c
        rw [submissions_step hj, hbefore, List.nil_append] at hsome
        refine ⟨goal, _, caller_step hj stores now, (Call.step_does ..).asks?_eq_none (.inr ?_)⟩
        cases hsubmits : Call.submits? a.sockets stores now p with
        | none => rw [hsubmits] at hsome; exact absurd rfl hsome
        | some x => rfl
    · exact absurd ((submissions_make hturn k).trans hbefore) hsome
  · obtain ⟨goal, p, hj, hp⟩ := h j k hbefore
    obtain ⟨p', hj', hp'⟩ := asks?_make hj hp move
    exact ⟨goal, p', hj', hp'⟩

theorem spent_makeAll (config : ClientConfig) (moves : List Move) :
    ((start config).makeAll moves).Spent := by
  induction moves using List.reverseRecOn with
  | nil => exact fun j k hsome => absurd rfl hsome
  | append_singleton moves move ih =>
    rw [makeAll_snoc]
    exact ih.make move

end Application

end ChatSockets
