import ChatSockets.Proofs.Office.Lines

/-!
# Whose lines they are

A line that was given to the session of one login, and to no other session, belongs to this login
(`Owned`): it carries the backlog of the login, the signal, and then messages that were posted to
it. This stays so as long as the line is not given away again (`Owned.append`). What is received
from any line was sent down it before (`Reached.received_prefix`).
-/

namespace ChatSockets

namespace Office

variable {accounts : Accounts} {o o' : Office} {σ es : List Entry} {line : Nat} {login : String}

/-- An office with its story, after some moves. -/
def Reached (accounts : Accounts) (o : Office) (σ : List Entry) : Prop :=
  ∃ moves, o = (start accounts).makeAll moves ∧ σ = (start accounts).story moves

theorem reached_start (accounts : Accounts) : Reached accounts (start accounts) [] := ⟨[], rfl, rfl⟩

theorem Reached.makeAll (h : Reached accounts o σ) (moves : List Move) :
    Reached accounts (o.makeAll moves) (σ ++ o.story moves) := by
  obtain ⟨before, rfl, rfl⟩ := h
  exact ⟨before ++ moves, (makeAll_append _ _ _).symm, (story_append _ _ _).symm⟩

theorem Reached.sound (h : Reached accounts o σ) : Sound o σ := by
  obtain ⟨moves, rfl, rfl⟩ := h
  exact Office.sound accounts moves

theorem Reached.lined (h : Reached accounts o σ) : Lined o σ := by
  obtain ⟨moves, rfl, rfl⟩ := h
  exact Office.lined accounts moves

theorem Reached.accounts_eq (h : Reached accounts o σ) : o.room.accounts = accounts := by
  obtain ⟨moves, rfl, rfl⟩ := h
  exact (kept accounts moves).1

theorem Reached.mailbox (h : Reached accounts o σ) (login : String) :
    o.room.mailbox login = σ.foldl (boxAfter login) [] := by
  obtain ⟨moves, rfl, rfl⟩ := h
  exact mailbox_eq_held accounts moves login

/-! ## Messages -/

/-- What is held for a login was posted to it. -/
theorem posted_of_held {q : Queued} (h : q ∈ σ.foldl (boxAfter login) []) :
    (login, q) ∈ posts σ := by
  induction σ using List.reverseRecOn with
  | nil => cases h
  | append_singleton σ e ih =>
    rw [List.foldl_append, List.foldl_cons, List.foldl_nil] at h
    rw [posts_append]
    have hold : q ∈ σ.foldl (boxAfter login) [] → (login, q) ∈ posts σ ++ posts [e] :=
      fun hq => List.mem_append_left _ (ih hq)
    cases e with
    | posted l p =>
      change q ∈ (if l = login then _ else _ : List Queued) at h
      split at h
      · next hl =>
        rcases List.mem_append.1 h with hq | hq
        · exact hold hq
        · rw [List.mem_singleton.1 hq, ← hl]
          exact List.mem_append_right _ List.mem_cons_self
      · exact hold h
    | acknowledged l id =>
      change q ∈ (if l = login then _ else _ : List Queued) at h
      split at h
      · exact hold (List.mem_of_mem_eraseP h)
      · exact hold h
    | drew | registered | unregistered | received => exact hold h

/-- A message in a mailbox was posted to its login. -/
theorem Reached.posted (h : Reached accounts o σ) {q : Queued} (hq : q ∈ o.room.mailbox login) :
    (login, q) ∈ posts σ := posted_of_held (h.mailbox login ▸ hq)

/-! ## Lines -/

/-- A line from which something is received has a receiver. -/
theorem Does.received (h : o.Does es o') (line : Nat) :
    receivedFrom line es = [] ∨ o'.room.isListening line = true := by
  cases h with
  | receives l r room hreceive =>
    by_cases heq : l = line
    · obtain ⟨rest, hline, -⟩ := Mailroom.receive?_eq_some hreceive
      refine .inr ?_
      rw [Mailroom.isListening_receive? hreceive, ← heq]
      exact (o.room.isListening_iff l).2 ⟨_, hline⟩
    · exact .inl (by simp [receivedFrom, heq])
  | idle | opens | hangsUp | draws | registers | unregisters | acknowledges | accepts | posts =>
    exact .inl rfl

/-- **What was received from a line was sent down it**, in this order. -/
theorem Reached.received_prefix (h : Reached accounts o σ) (line : Nat) :
    receivedFrom line σ <+: sentDown line [] σ := by
  obtain ⟨moves, rfl, rfl⟩ := h
  have hall := induct
    (P := fun o σ => Lined o σ ∧ ∀ line, receivedFrom line σ <+: sentDown line [] σ)
    accounts ⟨Office.lined accounts [], fun _ => List.prefix_rfl⟩
    (fun o σ es o' hP hdoes => ?_) moves
  · exact hall.2 line
  · obtain ⟨hlined, hfront⟩ := hP
    have hlined' := hlined.does hdoes
    refine ⟨hlined', fun line => ?_⟩
    rcases hdoes.received line with hnone | hlisten
    · rw [receivedFrom_append, hnone, List.append_nil, sentDown_append]
      exact (hfront line).trans (List.prefix_append _ _)
    · rw [← hlined'.flow line hlisten]
      exact List.prefix_append _ _

/-- A line belongs to a login, whose session was registered for it with a backlog: no session of
another login has the line, and it carries the backlog, the signal, and messages to the login. -/
structure Owned (σ : List Entry) (line : Nat) (login : String) (backlog : List Queued)
    (signal : UInt64) : Prop where
  alone : ∀ l k, sessionOf l σ = some k → k.line = line → l = login
  sent : ∃ rest : List Queued, sentDown line [] σ = backlog.map Queued.request ++
      queueEmptyRequest signal :: rest.map Queued.request ∧
    ∀ q ∈ backlog ++ rest, (login, q) ∈ posts σ

variable {backlog : List Queued} {signal : UInt64}

/-- **A line belongs to its login as long as it is not given away again.** -/
theorem Owned.append (h : Owned σ line login backlog signal)
    (hes : ∀ l k b s, .registered l k b s ∈ es → k.line ≠ line) :
    Owned (σ ++ es) line login backlog signal := by
  induction es using List.reverseRecOn with
  | nil => rwa [List.append_nil]
  | append_singleton es e ih =>
    have hbefore := ih fun l k b s hmem => hes l k b s (List.mem_append_left _ hmem)
    have hgiven : ∀ l k b s, e = .registered l k b s → k.line ≠ line := fun l k b s heq =>
      hes l k b s (List.mem_append_right _ (heq ▸ List.mem_cons_self))
    obtain ⟨rest, hsent, hposted⟩ := hbefore.sent
    rw [← List.append_assoc]
    have hmore : ∀ more : List Queued, sentBy line (σ ++ es) e = more.map Queued.request →
        (∀ q ∈ more, (login, q) ∈ posts [e]) →
        ∃ rest : List Queued, sentDown line [] (σ ++ es ++ [e]) = backlog.map Queued.request ++
            queueEmptyRequest signal :: rest.map Queued.request ∧
          ∀ q ∈ backlog ++ rest, (login, q) ∈ posts (σ ++ es ++ [e]) := by
      intro more hby hmem
      refine ⟨rest ++ more, ?_, fun q hq => ?_⟩
      · rw [sentDown_snoc, hsent, hby, List.append_assoc, List.cons_append, List.map_append]
      · rw [posts_append]
        rw [← List.append_assoc] at hq
        rcases List.mem_append.1 hq with hq | hq
        · exact List.mem_append_left _ (hposted q hq)
        · exact List.mem_append_right _ (hmem q hq)
    refine ⟨fun l k hk hline => ?_, ?_⟩
    · rw [sessionOf_snoc] at hk
      rcases sessionAfter_eq_some hk with hold | ⟨b, s, heq⟩
      · exact hbefore.alone l k hold hline
      · exact absurd hline (hgiven l k b s heq)
    · cases e with
      | registered l k b s => exact hmore [] (if_neg (hgiven l k b s rfl)) (by simp)
      | posted l q =>
        by_cases hany : (sessionOf l (σ ++ es)).any (·.line = line) = true
        · obtain ⟨k, hk, hline⟩ := (Option.any_eq_true _ _).1 hany
          have hl : l = login := hbefore.alone l k hk (by simpa using hline)
          refine hmore [q] (if_pos hany) fun p hp => ?_
          rw [List.mem_singleton.1 hp, hl]
          exact List.mem_cons_self
        · exact hmore [] (if_neg hany) (by simp)
      | drew | unregistered | acknowledged | received => exact hmore [] rfl (by simp)

/-- A line that is opened for a session belongs to its login. -/
theorem Reached.owned (h : Reached accounts o σ) (login : String) (session : UInt64) :
    Owned
      (σ ++ [.drew o.room.nextId (.queueEmpty login),
        .registered login ⟨session, o.room.nextLine⟩ (o.room.mailbox login) o.room.nextId])
      o.room.nextLine login (o.room.mailbox login) o.room.nextId := by
  have hsplit : ∀ d e : Entry, σ ++ [d, e] = σ ++ [d] ++ [e] := fun d e => by simp
  rw [hsplit]
  refine ⟨fun l k hk hline => ?_, [], ?_, fun q hq => ?_⟩
  · rw [sessionOf_snoc] at hk
    change (if login = l then some _ else sessionOf l _) = some k at hk
    split at hk
    · next hl => exact hl.symm
    · rw [sessionOf_snoc] at hk
      exact absurd hline (Nat.ne_of_lt (h.lined.named l k hk))
  · rw [sentDown_snoc, sentDown_snoc, (h.lined.unopened _ (Nat.le_refl _)).1]
    exact if_pos rfl
  · rw [List.append_nil] at hq
    rw [posts_append, posts_append]
    exact List.mem_append_left _ (List.mem_append_left _ (h.posted hq))

/-- A line that belongs to a login was opened. -/
theorem Owned.opened (h : Owned σ line login backlog signal) (hlined : Lined o σ) :
    line < o.room.nextLine := by
  by_contra hnot
  obtain ⟨rest, hsent, -⟩ := h.sent
  rw [(hlined.unopened line (Nat.le_of_not_lt hnot)).1] at hsent
  exact absurd hsent.symm (by simp)

end Office

end ChatSockets
