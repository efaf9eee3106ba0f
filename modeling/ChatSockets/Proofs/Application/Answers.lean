import ChatSockets.Proofs.Application.State

/-!
# Which call gets which response

A call submits the request that it was made for, and only once; while it waits, what is known under
the id of its request is how it stands with this request (`Issue.Stands`); and when it ends with an
outcome of the server, this was decided by the first response to the request (`Ends`).
`Application.Inv` says so of all calls. It is kept by every move as long as the ids last
(`Does.inv`, `inv_makeAll`), with a lemma for each thing that a call does and one for the keepers.
-/

namespace ChatSockets.Application

open Keeper

variable {a a' : Application} {k : SocketKind} {j : Nat}

/-- What the result of a call says is so: an outcome of the server is that of the first response to
its request, and a request for which there was no socket was submitted without one. -/
def Ends (a : Application) (j : Nat) : CallResult → Prop
  | .error (.notConnected k) =>
    ∃ i ∈ (a.records k).issued, i.caller? = some j ∧ i.link? = none
  | .ok (.response r) => ∃ k, ∃ i ∈ (a.records k).issued, i.caller? = some j ∧
    ∃ p w, (a.records k).Decides i p w ∧ w.isSuccess = true ∧ r = .ofWire w
  | .error (.serviceResponse status message body) => ∃ k, ∃ i ∈ (a.records k).issued,
    i.caller? = some j ∧ ∃ p w, (a.records k).Decides i p w ∧ w.isSuccess = false ∧
      status = w.status ∧ message = w.message ∧ body = w.body
  | _ => True

/-- What holds of the calls of an application at any time. -/
structure Inv (a : Application) : Prop where
  sound : a.Sound
  /-- a call that is about to submit a request submits the one that it was made for -/
  asks : ∀ (j : Nat) (c : Caller) (x : SocketKind × Request), a.callers[j]? = some c →
    c.phase.asks? = some x → c.goal.asks? = some x
  /-- a request that was submitted is that of a call which submits no more -/
  issued : ∀ (k : SocketKind) (i : Issue) (j : Nat), i ∈ (a.records k).issued →
    i.caller? = some j → ∃ c r, a.callers[j]? = some c ∧ c.goal.asks? = some (k, r) ∧
      i.request = r.toWire i.id ∧ c.phase.asks? = none
  /-- a call submits one request -/
  once : ∀ (k k' : SocketKind) (i i' : Issue) (j : Nat), i ∈ (a.records k).issued →
    i.caller? = some j → i' ∈ (a.records k').issued → i'.caller? = some j → k = k' ∧ i = i'
  waits : ∀ (j : Nat) (c : Caller) (k : SocketKind) (id : UInt64), a.callers[j]? = some c →
    c.phase.waitsFor? = some (k, id) → ∃ i ∈ (a.records k).issued, i.caller? = some j ∧
      i.id = id ∧ i.Stands (a.ledger k) (a.records k)
  ended : ∀ (j : Nat) (c : Caller) (result : CallResult), a.callers[j]? = some c →
    c.phase = .done result → a.Ends j result
  /-- whoever waits under an id is a call that waits for its response -/
  held : ∀ (k : SocketKind) (id receiver : UInt64),
    (a.ledger k).pending.receivers.get? id = some receiver →
    ∃ (j : Nat) (c : Caller), a.callers[j]? = some c ∧ c.phase.waitsFor? = some (k, id)

/-- The ids that were drawn are still told apart. -/
def Fits (a : Application) : Prop := ∀ k, (a.records k).issued.length ≤ UInt64.size

/-- What was issued and heard on every socket, seen from later. -/
structure Grown (a a' : Application) : Prop where
  issued : ∀ k, (a.records k).issued <+: (a'.records k).issued
  heard : ∀ k, (a.records k).heard <+: (a'.records k).heard

theorem Grown.fits (h : a.Grown a') (hfits : a'.Fits) : a.Fits :=
  fun k => Nat.le_trans (h.issued k).length_le (hfits k)

theorem Grown.refl (a : Application) : a.Grown a :=
  ⟨fun _ => List.prefix_rfl, fun _ => List.prefix_rfl⟩

theorem Grown.trans {a'' : Application} (h : a.Grown a') (h' : a'.Grown a'') : a.Grown a'' :=
  ⟨fun k => (h.issued k).trans (h'.issued k), fun k => (h.heard k).trans (h'.heard k)⟩

theorem Grown.mem (h : a.Grown a') {i : Issue} (hi : i ∈ (a.records k).issued) :
    i ∈ (a'.records k).issued := (h.issued k).subset hi

/-- What a result says stays so. -/
theorem Ends.grown {result : CallResult} (h : a.Ends j result) (hg : a.Grown a') :
    a'.Ends j result := by
  unfold Ends at h ⊢
  split at h
  · next k =>
    obtain ⟨i, hi, h⟩ := h
    exact ⟨i, hg.mem hi, h⟩
  · obtain ⟨k, i, hi, hcaller, p, w, hdecides, h⟩ := h
    exact ⟨k, i, hg.mem hi, hcaller, p, w, hdecides.mono (hg.heard k), h⟩
  · obtain ⟨k, i, hi, hcaller, p, w, hdecides, h⟩ := h
    exact ⟨k, i, hg.mem hi, hcaller, p, w, hdecides.mono (hg.heard k), h⟩
  · exact h

/-- A result that is no outcome of the server says nothing. -/
theorem Ends.of_not_isOutcome {result : CallResult}
    (h : (Call.Phase.done result).isOutcome = false) : a.Ends j result := by
  unfold Ends
  split
  · cases h
  · cases h
  · cases h
  · trivial

theorem grown_goOn (a : Application) (j : Nat) (goal : Goal)
    (submitted : Option (SocketKind × Request)) (after : Call.Phase × Sockets) :
    a.Grown (a.goOn j goal submitted after) := by
  cases submitted with
  | none => exact ⟨fun _ => List.prefix_rfl, fun _ => List.prefix_rfl⟩
  | some x =>
    obtain ⟨k, r⟩ := x
    have hrecord : ∀ k', (a.records k').issued <+:
          ((a.goOn j goal (some (k, r)) after).records k').issued ∧
        (a.records k').heard <+: ((a.goOn j goal (some (k, r)) after).records k').heard := by
      intro k'
      by_cases heq : k' = k
      · rw [heq, records_goOn_self]
        exact ⟨List.prefix_append _ _, List.prefix_rfl⟩
      · rw [a.records_goOn_of_ne j goal r after heq]
        exact ⟨List.prefix_rfl, List.prefix_rfl⟩
    exact ⟨fun k' => (hrecord k').1, fun k' => (hrecord k').2⟩

/-! ## A step of a call -/

section

variable {goal : Goal} {p p' : Call.Phase} {s' : Sockets}

/-- A call that goes on submits nothing but what it was made for. -/
theorem Inv.asks_set (ha : a.Inv) (hj : a.callers[j]? = some ⟨goal, p⟩)
    (hasks : ∀ x, p'.asks? = some x → p.asks? = some x) (j' : Nat) (c : Caller)
    (x : SocketKind × Request) (hc : (a.callers.set j ⟨goal, p'⟩)[j']? = some c)
    (hx : c.phase.asks? = some x) : c.goal.asks? = some x := by
  rcases getElem?_set_cases hc with ⟨-, rfl⟩ | ⟨-, hc⟩
  · exact ha.asks j ⟨goal, p⟩ x hj (hasks x hx)
  · exact ha.asks j' c x hc hx

/-- A call that submitted a request submits no more. -/
theorem Inv.issued_set (ha : a.Inv) (hj : a.callers[j]? = some ⟨goal, p⟩)
    (hasks : ∀ x, p'.asks? = some x → p.asks? = some x) {i : Issue} {j' : Nat}
    (hi : i ∈ (a.records k).issued) (hcaller : i.caller? = some j') :
    ∃ c r, (a.callers.set j ⟨goal, p'⟩)[j']? = some c ∧ c.goal.asks? = some (k, r) ∧
      i.request = r.toWire i.id ∧ c.phase.asks? = none := by
  obtain ⟨c, r, hc, hgoal, hrequest, hnone⟩ := ha.issued k i j' hi hcaller
  by_cases heq : j' = j
  · subst heq
    rw [hj] at hc
    cases hc
    refine ⟨_, r, getElem?_set_of_some hj, hgoal, hrequest, ?_⟩
    rw [Option.eq_none_iff_forall_ne_some]
    intro x hx
    rw [hasks x hx] at hnone
    cases hnone
  · exact ⟨c, r, by rw [List.getElem?_set_ne (Ne.symm heq)]; exact hc, hgoal, hrequest, hnone⟩

/-- Whoever waits under an id still does after a call went on that did not. -/
theorem Inv.held_set (ha : a.Inv) (hj : a.callers[j]? = some ⟨goal, p⟩) {id receiver : UInt64}
    (hget : (a.ledger k).pending.receivers.get? id = some receiver)
    (hother : p.waitsFor? ≠ some (k, id)) :
    ∃ (j' : Nat) (c : Caller), (a.callers.set j ⟨goal, p'⟩)[j']? = some c ∧
      c.phase.waitsFor? = some (k, id) := by
  obtain ⟨j', c, hc, hwaits⟩ := ha.held k id receiver hget
  refine ⟨j', c, ?_, hwaits⟩
  rw [List.getElem?_set_ne]
  · exact hc
  · rintro rfl
    rw [hj] at hc
    cases hc
    exact hother hwaits

/-- A call goes on without a request. -/
theorem Inv.goes_waits (ha : a.Inv) (hj : a.callers[j]? = some ⟨goal, p⟩)
    (hsound : (a.goOn j goal none (p', s')).Sound) (halike : a.sockets.Alike s')
    (hphase : p' = p ∨ p.waitsFor? = none ∧ p'.waitsFor? = none ∧ p'.isOutcome = false ∧
      ∀ x, p'.asks? = some x → p.asks? = some x) : (a.goOn j goal none (p', s')).Inv := by
  have hasks : ∀ x, p'.asks? = some x → p.asks? = some x := by
    rcases hphase with rfl | ⟨-, -, -, hasks⟩
    · exact fun _ h => h
    · exact hasks
  have hledger : ∀ k, (a.goOn j goal none (p', s')).ledger k = a.ledger k :=
    fun k => (halike k).ledger
  refine ⟨hsound, ha.asks_set hj hasks, fun k i j' hi hcaller => ha.issued_set hj hasks hi hcaller,
    ha.once, ?_, ?_, ?_⟩
  · intro j' c k id hc hwaits
    rw [hledger]
    rcases getElem?_set_cases hc with ⟨rfl, rfl⟩ | ⟨-, hc⟩
    · rcases hphase with rfl | ⟨-, hnone, -⟩
      · exact ha.waits j' _ k id hj hwaits
      · rw [hnone] at hwaits
        cases hwaits
    · exact ha.waits j' c k id hc hwaits
  · intro j' c result hc hdone
    rcases getElem?_set_cases hc with ⟨rfl, rfl⟩ | ⟨-, hc⟩
    · rcases hphase with rfl | ⟨-, -, hno, -⟩
      · exact ha.ended j' _ result hj hdone
      · exact .of_not_isOutcome (hdone ▸ hno)
    · exact ha.ended j' c result hc hdone
  · intro k id receiver hget
    rw [hledger] at hget
    obtain ⟨j', c, hc, hwaits⟩ := ha.held k id receiver hget
    by_cases heq : j' = j
    · subst heq
      rw [hj] at hc
      cases hc
      rcases hphase with rfl | ⟨hnone, -⟩
      · exact ⟨j', _, getElem?_set_of_some hj, hwaits⟩
      · rw [hnone] at hwaits
        cases hwaits
    · exact ⟨j', c, by rw [← hc]; exact List.getElem?_set_ne (Ne.symm heq), hwaits⟩

/-- A submitted request changes nothing under other ids. It waits on the open socket, or there is
none and the call ends. -/
theorem Sound.submits_cases (ha : a.Sound) {r : Request} (h : Call.Submits a.sockets k r p' s') :
    ∃ l, a.sockets.Changes k l s' ∧ l.link? = (a.ledger k).link? ∧
      l.socket = (a.ledger k).socket ∧ p'.asks? = none ∧
      (∀ id, id ≠ (a.ledger k).nextId →
        l.pending.receivers.get? id = (a.ledger k).pending.receivers.get? id ∧
          l.replies.get? id = (a.ledger k).replies.get? id) ∧
      (p'.waitsFor? = some (k, (a.ledger k).nextId) ∧ p'.isOutcome = false ∧
          l.pending.receivers.get? (a.ledger k).nextId = some (a.ledger k).nextId ∧
          l.replies = (a.ledger k).replies ∧ (a.ledger k).link?.isSome = true ∨
        p' = .done (.error (.notConnected k)) ∧
          l.pending.receivers.get? (a.ledger k).nextId = none ∧ (a.ledger k).link? = none) := by
  cases h with
  | queued timeout deadline _ hopen h =>
    obtain ⟨n, hn⟩ := ha.link?_of_outbox hopen
    refine ⟨_, h, rfl, rfl, rfl, fun id hid => ⟨?_, rfl⟩, .inl ⟨rfl, rfl, ?_, rfl, by rw [hn]; rfl⟩⟩
    · exact (Ledger.receivers_register _ id).trans (if_neg hid)
    · exact (Ledger.receivers_register _ _).trans (if_pos rfl)
  | refused _ hclosed h =>
    refine ⟨_, h, rfl, rfl, rfl, fun id hid => ⟨?_, ?_⟩, .inr ⟨rfl, ?_, ha.link?_of_closed hclosed⟩⟩
    · exact ((Ledger.receivers_withdraw _ _ id).trans (if_neg hid)).trans
        ((Ledger.receivers_register _ id).trans (if_neg hid))
    · exact (Ledger.replies_withdraw _ _ id).trans (if_neg hid)
    · exact (Ledger.receivers_withdraw _ _ _).trans (if_pos rfl)

/-- What is issued once a call submitted a request was issued before, or is this request. -/
theorem issued_goOn_cases {r : Request} {after : Call.Phase × Sockets} {k' : SocketKind} {i : Issue}
    (hi : i ∈ ((a.goOn j goal (some (k, r)) after).records k').issued) :
    i ∈ (a.records k').issued ∨ k' = k ∧ i = a.issueOf j k r := by
  by_cases heq : k' = k
  · subst heq
    rw [a.records_goOn_self] at hi
    exact (List.mem_append.1 hi).imp_right fun hi => ⟨rfl, List.mem_singleton.1 hi⟩
  · rw [a.records_goOn_of_ne j goal r after heq] at hi
    exact .inl hi

/-- A submitted request takes an id that no request took before. -/
theorem Sound.fresh_goOn (ha : a.Sound) {r : Request} {after : Call.Phase × Sockets}
    (hfits : (a.goOn j goal (some (k, r)) after).Fits) {i : Issue}
    (hi : i ∈ (a.records k).issued) : i.id ≠ (a.ledger k).nextId := by
  have hlast := hfits k
  rw [a.records_goOn_self, Record.issue, List.length_append] at hlast
  exact (ha.record k).ne_nextId (Nat.lt_of_succ_le hlast) hi

/-- A call that has a request to submit has not submitted one. -/
theorem Inv.not_issued (ha : a.Inv) (hj : a.callers[j]? = some ⟨goal, p⟩)
    {x : SocketKind × Request} (hasks : p.asks? = some x) {i : Issue}
    (hi : i ∈ (a.records k).issued) : i.caller? ≠ some j := by
  intro hcaller
  obtain ⟨c, -, hc, -, -, hnone⟩ := ha.issued k i j hi hcaller
  rw [hj] at hc
  cases hc
  rw [hasks] at hnone
  cases hnone

/-- The request a call submits is the only one of that call. -/
theorem Inv.once_goOn (ha : a.Inv) (hj : a.callers[j]? = some ⟨goal, p⟩) {r : Request}
    (hasks : p.asks? = some (k, r)) {after : Call.Phase × Sockets} (k₁ k₂ : SocketKind)
    (i₁ i₂ : Issue) (j' : Nat)
    (h₁ : i₁ ∈ ((a.goOn j goal (some (k, r)) after).records k₁).issued)
    (hc₁ : i₁.caller? = some j')
    (h₂ : i₂ ∈ ((a.goOn j goal (some (k, r)) after).records k₂).issued)
    (hc₂ : i₂.caller? = some j') : k₁ = k₂ ∧ i₁ = i₂ := by
  rcases issued_goOn_cases h₁ with hold₁ | ⟨hk₁, hi₁⟩
  · rcases issued_goOn_cases h₂ with hold₂ | ⟨hk₂, hi₂⟩
    · exact ha.once k₁ k₂ i₁ i₂ j' hold₁ hc₁ hold₂ hc₂
    · rw [hi₂] at hc₂
      cases hc₂
      exact absurd hc₁ (ha.not_issued hj hasks hold₁)
  · rw [hi₁] at hc₁
    cases hc₁
    rcases issued_goOn_cases h₂ with hold₂ | ⟨hk₂, hi₂⟩
    · exact absurd hc₂ (ha.not_issued hj hasks hold₂)
    · exact ⟨hk₁.trans hk₂.symm, hi₁.trans hi₂.symm⟩

/-- A call submits its request. -/
theorem Inv.goes_submits (ha : a.Inv) (hj : a.callers[j]? = some ⟨goal, p⟩) {r : Request}
    (hasks : p.asks? = some (k, r)) (h : Call.Submits a.sockets k r p' s')
    (hsound : (a.goOn j goal (some (k, r)) (p', s')).Sound)
    (hfits : (a.goOn j goal (some (k, r)) (p', s')).Fits) :
    (a.goOn j goal (some (k, r)) (p', s')).Inv := by
  obtain ⟨l, hchanges, hlink, hsocket, hnone, hsame, hcases⟩ := ha.sound.submits_cases h
  have hgrown := a.grown_goOn j goal (some (k, r)) (p', s')
  have hself := a.records_goOn_self (k := k) j goal r (p', s')
  have hledger : (a.goOn j goal (some (k, r)) (p', s')).ledger k = l := hchanges.ledger
  have helsewhere : ∀ k', k' ≠ k →
      (a.goOn j goal (some (k, r)) (p', s')).ledger k' = a.ledger k' :=
    fun k' hk => (hchanges.elsewhere k' hk).ledger
  have hne : ∀ {i : Issue}, i ∈ (a.records k).issued → i.id ≠ (a.ledger k).nextId :=
    ha.sound.fresh_goOn hfits
  have hmine : a.issueOf j k r ∈ ((a.goOn j goal (some (k, r)) (p', s')).records k).issued := by
    rw [hself]
    exact Record.issue_mem _ _
  have hless : ∀ x, p'.asks? = some x → p.asks? = some x := by
    intro x hx
    rw [hnone] at hx
    cases hx
  refine ⟨hsound, ha.asks_set hj hless, ?_, ha.once_goOn hj hasks, ?_, ?_, ?_⟩
  · intro k' i j' hi hcaller
    rcases issued_goOn_cases hi with hi | ⟨rfl, rfl⟩
    · exact ha.issued_set hj hless hi hcaller
    · cases hcaller
      exact ⟨_, r, getElem?_set_of_some hj, ha.asks j ⟨goal, p⟩ _ hj hasks, rfl, hnone⟩
  · intro j' c k' id hc hwaits
    rcases getElem?_set_cases hc with ⟨rfl, rfl⟩ | ⟨-, hc⟩
    · rcases hcases with ⟨hwaits', -, hreceiver, hreplies, hopen⟩ | ⟨hdone, -⟩
      · rw [show p'.waitsFor? = some (k', id) from hwaits] at hwaits'
        cases hwaits'
        refine ⟨_, hmine, rfl, rfl, ?_⟩
        rw [hledger, hself]
        refine .waits hreceiver ?_ hlink.symm hopen (Nat.le_refl _) ?_
        · rw [hreplies, Option.eq_none_iff_forall_ne_some]
          intro outcome hreply
          obtain ⟨i, hi, hid⟩ := (ha.sound.record k).replies _ outcome hreply
          exact hne hi hid
        · intro q h' hq hh
          exact absurd (List.getElem?_eq_some_iff.1 hh).1 (Nat.not_lt.2 hq)
      · rw [hdone] at hwaits
        cases hwaits
    · obtain ⟨i, hi, hcaller, hid, hstands⟩ := ha.waits j' c k' id hc hwaits
      refine ⟨i, hgrown.mem hi, hcaller, hid, ?_⟩
      by_cases heq : k' = k
      · subst heq
        rw [hledger, hself]
        exact hstands.of_eq (hsame i.id (hne hi)).1 (hsame i.id (hne hi)).2 hsocket
          (fun _ _ => hlink) (.inl rfl)
      · rw [helsewhere k' heq, a.records_goOn_of_ne j goal r _ heq]
        exact hstands
  · intro j' c result hc hdone
    rcases getElem?_set_cases hc with ⟨rfl, rfl⟩ | ⟨-, hc⟩
    · rcases hcases with ⟨-, hno, -⟩ | ⟨hdone', -, hclosed⟩
      · exact .of_not_isOutcome (hdone ▸ hno)
      · rw [hdone'] at hdone
        cases hdone
        exact ⟨_, hmine, rfl, hclosed⟩
    · exact (ha.ended j' c result hc hdone).grown hgrown
  · intro k' id receiver hget
    have hother : p.waitsFor? ≠ some (k', id) := by
      rw [Call.Phase.waitsFor?_of_asks? hasks]
      exact Option.some_ne_none _ |>.symm
    by_cases heq : k' = k
    · subst heq
      rw [hledger] at hget
      by_cases hid : id = (a.ledger k').nextId
      · rcases hcases with ⟨hwaits, -⟩ | ⟨-, hgone, -⟩
        · exact ⟨j, _, getElem?_set_of_some hj, hid ▸ hwaits⟩
        · rw [hid, hgone] at hget
          cases hget
      · exact ha.held_set hj ((hsame id hid).1 ▸ hget) hother
    · rw [helsewhere k' heq] at hget
      exact ha.held_set hj hget hother

/-- The outcome that waits for a call says the truth. -/
theorem ends_of_reply {i : Issue} (hi : i ∈ (a.records k).issued)
    (hcaller : i.caller? = some j) (h : i.Stands (a.ledger k) (a.records k)) {outcome : Outcome}
    (hreply : (a.ledger k).replies.get? i.id = some outcome) :
    a.Ends j (Call.ofOutcome outcome) := by
  cases h with
  | waits hwaits hnone => rw [hnone] at hreply; cases hreply
  | closed hwaits hclosed =>
    rw [hclosed] at hreply
    cases hreply
    trivial
  | answered q w hwaits hanswered hdecides =>
    rw [hanswered] at hreply
    obtain rfl := Option.some.inj hreply
    unfold Outcome.ofWire
    by_cases hsuccess : w.isSuccess = true
    · rw [if_pos hsuccess]
      exact ⟨k, i, hi, hcaller, q, w, hdecides, hsuccess, rfl⟩
    · rw [if_neg hsuccess]
      exact ⟨k, i, hi, hcaller, q, w, hdecides, by simpa using hsuccess, rfl, rfl, rfl⟩

/-- A call withdraws its request, with its outcome or without one. -/
theorem Inv.goes_withdraws (ha : a.Inv) (hj : a.callers[j]? = some ⟨goal, p⟩) {id : UInt64}
    (hwaits : p.waitsFor? = some (k, id))
    (hresult : (∃ outcome, (a.ledger k).replies.get? id = some outcome ∧
        p' = .done (Call.ofOutcome outcome)) ∨
      p'.isOutcome = false ∧ p'.waitsFor? = none ∧ p'.asks? = none)
    (h : a.sockets.Changes k ((a.ledger k).withdraw id) s')
    (hsound : (a.goOn j goal none (p', s')).Sound) (hfits : a.Fits) :
    (a.goOn j goal none (p', s')).Inv := by
  obtain ⟨i, hi, hcaller, hid, hstands⟩ := ha.waits j _ k id hj hwaits
  have hledger : (a.goOn j goal none (p', s')).ledger k = (a.ledger k).withdraw id := h.ledger
  have helsewhere : ∀ k', k' ≠ k → (a.goOn j goal none (p', s')).ledger k' = a.ledger k' :=
    fun k' hk => (h.elsewhere k' hk).ledger
  have hafter : p'.waitsFor? = none ∧ p'.asks? = none := by
    rcases hresult with ⟨outcome, -, rfl⟩ | ⟨-, hafter⟩
    · exact ⟨rfl, rfl⟩
    · exact hafter
  have hless : ∀ x, p'.asks? = some x → p.asks? = some x := by
    intro x hx
    rw [hafter.2] at hx
    cases hx
  refine ⟨hsound, ha.asks_set hj hless, fun k i j' hi hcaller => ha.issued_set hj hless hi hcaller,
    ha.once, ?_, ?_, ?_⟩
  · intro j' c k' id' hc hwaits'
    rcases getElem?_set_cases hc with ⟨rfl, rfl⟩ | ⟨hne, hc⟩
    · rw [show p'.waitsFor? = some (k', id') from hwaits'] at hafter
      cases hafter.1
    · obtain ⟨i', hi', hcaller', hid', hstands'⟩ := ha.waits j' c k' id' hc hwaits'
      refine ⟨i', hi', hcaller', hid', ?_⟩
      by_cases heq : k' = k
      · subst heq
        have hother : i'.id ≠ id := by
          rintro hsame
          have hsame := (ha.sound.record k').unique (hfits k') hi' hi (hsame.trans hid.symm)
          rw [hsame, hcaller] at hcaller'
          exact hne (Option.some.inj hcaller').symm
        rw [hledger]
        exact hstands'.of_eq ((Ledger.receivers_withdraw _ id i'.id).trans (if_neg hother))
          ((Ledger.replies_withdraw _ id i'.id).trans (if_neg hother)) rfl (fun _ _ => rfl)
          (.inl rfl)
      · rw [helsewhere k' heq]
        exact hstands'
  · intro j' c result hc hdone
    rcases getElem?_set_cases hc with ⟨rfl, rfl⟩ | ⟨-, hc⟩
    · rcases hresult with ⟨outcome, hreply, hdone'⟩ | ⟨hno, -⟩
      · rw [hdone'] at hdone
        cases hdone
        exact (ends_of_reply hi hcaller hstands (hid ▸ hreply)).grown (a.grown_goOn ..)
      · exact .of_not_isOutcome (hdone ▸ hno)
    · exact (ha.ended j' c result hc hdone).grown (a.grown_goOn ..)
  · intro k' id' receiver hget
    by_cases heq : k' = k
    · subst heq
      rw [hledger, Ledger.receivers_withdraw] at hget
      split at hget
      · cases hget
      · next hne =>
        refine ha.held_set hj hget fun hother => hne ?_
        rw [hwaits] at hother
        exact (congrArg Prod.snd (Option.some.inj hother)).symm
    · rw [helsewhere k' heq] at hget
      refine ha.held_set hj hget fun hother => heq ?_
      rw [hwaits] at hother
      exact (congrArg Prod.fst (Option.some.inj hother)).symm

end

/-! ## A step of a keeper -/

/-- What a step of a keeper leaves of the record. -/
theorem Sound.keeps (ha : a.Sound)
    (h : Shifts (a.ledger k) (a.records k) (a'.ledger k) (a'.records k)) :
    Grows (a.ledger k) (a.records k) (a'.ledger k) (a'.records k) ∧
      ((a'.records k).issued.length ≤ UInt64.size → ∀ i ∈ (a.records k).issued,
        i.caller?.isSome = true → i.Stands (a.ledger k) (a.records k) →
        i.Stands (a'.ledger k) (a'.records k)) :=
  h.keeps (ha.published k) (ha.record k)

theorem Does.grown (h : Does a a') (ha : a.Sound) : a.Grown a' := by
  cases h with
  | waits _ hledger hrecords hcallers =>
    exact ⟨fun k => hrecords ▸ List.prefix_rfl, fun k => hrecords ▸ List.prefix_rfl⟩
  | calls goal => exact ⟨fun _ => List.prefix_rfl, fun _ => List.prefix_rfl⟩
  | goes j goal p p' submitted s' hj h => exact a.grown_goOn ..
  | turns k _ h hledger hrecords hcallers =>
    obtain ⟨⟨⟨more, hmore, -⟩, hheard, -⟩, -⟩ := ha.keeps h
    have hrecord : ∀ k', (a.records k').issued <+: (a'.records k').issued ∧
        (a.records k').heard <+: (a'.records k').heard := by
      intro k'
      by_cases heq : k' = k
      · rw [heq, hmore]
        exact ⟨List.prefix_append _ _, hheard⟩
      · rw [hrecords k' heq]
        exact ⟨List.prefix_rfl, List.prefix_rfl⟩
    exact ⟨fun k' => (hrecord k').1, fun k' => (hrecord k').2⟩

/-- A keeper makes a step. -/
theorem Inv.turns (ha : a.Inv)
    (h : Shifts (a.ledger k) (a.records k) (a'.ledger k) (a'.records k))
    (hledger : ∀ k', k' ≠ k → a'.ledger k' = a.ledger k')
    (hrecords : ∀ k', k' ≠ k → a'.records k' = a.records k') (hcallers : a'.callers = a.callers)
    (hgrown : a.Grown a') (hsound : a'.Sound) (hfits : a'.Fits) : a'.Inv := by
  obtain ⟨⟨⟨more, hmore, hprobes⟩, -, hreceivers⟩, hstands⟩ := ha.sound.keeps h
  have hissued : ∀ {k' : SocketKind} {i : Issue} {j : Nat}, i ∈ (a'.records k').issued →
      i.caller? = some j → i ∈ (a.records k').issued := by
    intro k' i j hi hcaller
    by_cases heq : k' = k
    · subst heq
      rw [hmore] at hi
      rcases List.mem_append.1 hi with hi | hi
      · exact hi
      · rw [hprobes i hi] at hcaller
        cases hcaller
    · rwa [hrecords k' heq] at hi
  refine ⟨hsound, ?_, ?_, ?_, ?_, ?_, ?_⟩
  · rw [hcallers]
    exact ha.asks
  · intro k' i j hi hcaller
    rw [hcallers]
    exact ha.issued k' i j (hissued hi hcaller) hcaller
  · intro k₁ k₂ i₁ i₂ j h₁ hc₁ h₂ hc₂
    exact ha.once k₁ k₂ i₁ i₂ j (hissued h₁ hc₁) hc₁ (hissued h₂ hc₂) hc₂
  · intro j c k' id hc hwaits
    rw [hcallers] at hc
    obtain ⟨i, hi, hcaller, hid, hi'⟩ := ha.waits j c k' id hc hwaits
    refine ⟨i, hgrown.mem hi, hcaller, hid, ?_⟩
    by_cases heq : k' = k
    · subst heq
      exact hstands (hfits k') i hi (by rw [hcaller]; rfl) hi'
    · rw [hledger k' heq, hrecords k' heq]
      exact hi'
  · intro j c result hc hdone
    rw [hcallers] at hc
    exact (ha.ended j c result hc hdone).grown hgrown
  · intro k' id receiver hget
    rw [hcallers]
    by_cases heq : k' = k
    · subst heq
      exact ha.held k' id receiver (hreceivers id receiver hget)
    · rw [hledger k' heq] at hget
      exact ha.held k' id receiver hget

/-- **What holds of the calls of an application** is kept by every move, as long as the ids last. -/
theorem Does.inv (h : Does a a') (ha : a.Inv) (hfits : a'.Fits) : a'.Inv := by
  have hsound := h.sound ha.sound
  have hgrown := h.grown ha.sound
  cases h with
  | waits _ hledger hrecords hcallers =>
    refine ⟨hsound, ?_, ?_, ?_, ?_, ?_, ?_⟩
    · rw [hcallers]
      exact ha.asks
    · rw [hcallers, hrecords]
      exact ha.issued
    · rw [hrecords]
      exact ha.once
    · intro j c k id hc hwaits
      rw [hcallers] at hc
      rw [hrecords, hledger]
      exact ha.waits j c k id hc hwaits
    · intro j c result hc hdone
      rw [hcallers] at hc
      exact (ha.ended j c result hc hdone).grown hgrown
    · intro k id receiver hget
      rw [hledger] at hget
      rw [hcallers]
      exact ha.held k id receiver hget
  | calls goal =>
    have hkept : ∀ {j : Nat} {c : Caller}, a.callers[j]? = some c →
        (a.callers ++ [⟨goal, .fresh goal⟩])[j]? = some c := by
      intro j c hc
      rw [List.getElem?_append_left (List.getElem?_eq_some_iff.1 hc).1]
      exact hc
    refine ⟨hsound, ?_, ?_, ha.once, ?_, ?_, ?_⟩
    · intro j c x hc hx
      rcases getElem?_append_cases hc with ⟨-, rfl⟩ | hc
      · exact hx
      · exact ha.asks j c x hc hx
    · intro k i j hi hcaller
      obtain ⟨c, r, hc, hrest⟩ := ha.issued k i j hi hcaller
      exact ⟨c, r, hkept hc, hrest⟩
    · intro j c k id hc hwaits
      rcases getElem?_append_cases hc with ⟨-, rfl⟩ | hc
      · cases hwaits
      · exact ha.waits j c k id hc hwaits
    · intro j c result hc hdone
      rcases getElem?_append_cases hc with ⟨-, rfl⟩ | hc
      · cases hdone
      · exact (ha.ended j c result hc hdone).grown hgrown
    · intro k id receiver hget
      obtain ⟨j, c, hc, hwaits⟩ := ha.held k id receiver hget
      exact ⟨j, c, hkept hc, hwaits⟩
  | goes j goal p p' submitted s' hj h =>
    cases h with
    | waits _ _ halike hphase => exact ha.goes_waits hj hsound halike hphase
    | submits k r _ _ hasks h => exact ha.goes_submits hj hasks h hsound hfits
    | withdraws k id _ _ hwaits hresult h =>
      exact ha.goes_withdraws hj hwaits hresult h hsound (hgrown.fits hfits)
  | turns k _ h hledger hrecords hcallers =>
    exact ha.turns h hledger hrecords hcallers hgrown hsound hfits

theorem inv_start (config : ClientConfig) : (start config).Inv := by
  have hcallers : ∀ j : Nat, (start config).callers[j]? = none := fun _ => List.getElem?_nil
  have hissued : ∀ k, ((start config).records k).issued = [] := fun _ => rfl
  refine ⟨sound_start config, ?_, ?_, ?_, ?_, ?_, ?_⟩
  · intro j c x hc
    rw [hcallers] at hc
    cases hc
  · intro k i j hi
    rw [hissued] at hi
    cases hi
  · intro k k' i i' j hi
    rw [hissued] at hi
    cases hi
  · intro j c k id hc
    rw [hcallers] at hc
    cases hc
  · intro j c result hc
    rw [hcallers] at hc
    cases hc
  · intro k id receiver hget
    have hnone : ((start config).ledger k).pending.receivers.get? id = none := by cases k <;> rfl
    rw [hnone] at hget
    cases hget

theorem grown_makeAll (ha : a.Sound) (moves : List Move) : a.Grown (a.makeAll moves) := by
  induction moves generalizing a with
  | nil => exact .refl a
  | cons move rest ih =>
    have hdoes := make_does a move
    exact (hdoes.grown ha).trans (ih (hdoes.sound ha))

/-- **It holds after any moves**, as long as the ids last. -/
theorem inv_makeAll (ha : a.Inv) (moves : List Move) (hfits : (a.makeAll moves).Fits) :
    (a.makeAll moves).Inv := by
  induction moves generalizing a with
  | nil => exact ha
  | cons move rest ih =>
    have hdoes := make_does a move
    have hlater := grown_makeAll (hdoes.sound ha.sound) rest
    exact ih (hdoes.inv ha (hlater.fits hfits)) hfits

end ChatSockets.Application
