import ChatSockets.Proofs.Entries
import ChatSockets.Proofs.Network.Sockets

/-!
# The invariant of a network

`Network.Inv` is what holds of a network at any time, as regards the messages of one login: every id
belongs to one message, clients and sockets belong together, and every socket that a client opened
is sound (`Visit.Sound`). It is kept by each move as long as the ids last (`Inv.make`). And a
network only grows (`Grown.make`): no socket is forgotten, and nothing is taken back from a channel.
-/

namespace ChatSockets.Network

open Wire Keeper

variable {w w' : Network} {login : String} {past : Queued → Prop}

/-- What is known of the messages of a login: those in its mailbox, those about to be posted, and
some of the past. -/
def book (w : Network) (login : String) (past : Queued → Prop) : Book where
  drawn := w.drawn
  known q := q ∈ w.mailroom.mailbox login ∨ (login, q) ∈ w.accepted ∨ past q

/-- What holds of a network at any time, as regards the messages of a login. -/
structure Inv (login : String) (past : Queued → Prop) (w : Network) : Prop where
  nextId : w.mailroom.nextId = .ofNat (w.drawn + 1)
  sound : (w.book login past).Sound
  live : w.mailroom.LiveOpened
  /-- clients only write requests of their own accord -/
  queued : ∀ (k : Nat) (c : Client), w.clients[k]? = some c →
    ∀ m ∈ c.connection.queued, ∃ r, m = .ofRequest r
  /-- a client works on a link that it opened -/
  linked : ∀ (k : Nat) (c : Client) (n : Nat), w.clients[k]? = some c →
    linkOf? c.connection = some n → ∃ v, w.visits[n]? = some v ∧ v.owner = some k
  /-- a session that waits for its handshake was never signed in -/
  waiting : ∀ (n : Nat) (v : Visit) (deadline : Nat), w.visits[n]? = some v →
    v.session.phase = .greeting deadline → v.login = none
  remembered : ∀ (n : Nat) (v : Visit) (i : SignIn), w.visits[n]? = some v →
    v.session.phase.signIn? = some i → v.login = some i.login
  owned : ∀ (n : Nat) (v : Visit) (k : Nat), w.visits[n]? = some v → v.owner = some k →
    ∃ c, w.clients[k]? = some c ∧ v.Sound (w.book login past) w.mailroom login n c

/-- A network has grown: sockets and clients are still there, signed in as whom they were, and no
channel lost anything. -/
structure Grown (w w' : Network) : Prop where
  drawn : w.drawn ≤ w'.drawn
  visits : ∀ (n : Nat) (v : Visit), w.visits[n]? = some v → ∃ v', w'.visits[n]? = some v' ∧
    v'.owner = v.owner ∧ ∀ login, v.login = some login → v'.login = some login
  clients : ∀ (k : Nat) (c : Client), w.clients[k]? = some c → ∃ c', w'.clients[k]? = some c' ∧
    ∀ q, c.HasReceived q → c'.HasReceived q

theorem Received.grown {q : Queued} (h : w.Received login q) (hg : w.Grown w') :
    w'.Received login q := by
  obtain ⟨v, hv, hlogin, k, c, howner, hc, hq⟩ := h
  obtain ⟨n, hn⟩ := List.mem_iff_getElem?.1 hv
  obtain ⟨v', hv', howner', hlogin'⟩ := hg.visits n v hn
  obtain ⟨c', hc', hreceived⟩ := hg.clients k c hc
  exact ⟨v', List.mem_of_getElem? hv', hlogin' login hlogin, k, c', howner'.trans howner, hc',
    hreceived q hq⟩

/-! ## Growth -/

theorem Grown.refl (w : Network) : w.Grown w :=
  ⟨Nat.le_refl _, fun _ v hv => ⟨v, hv, rfl, fun _ h => h⟩, fun _ c hc => ⟨c, hc, fun _ h => h⟩⟩

theorem Grown.trans {w'' : Network} (h : w.Grown w') (h' : w'.Grown w'') : w.Grown w'' := by
  refine ⟨Nat.le_trans h.drawn h'.drawn, fun n v hv => ?_, fun k c hc => ?_⟩
  · obtain ⟨v', hv', howner, hlogin⟩ := h.visits n v hv
    obtain ⟨v'', hv'', howner', hlogin'⟩ := h'.visits n v' hv'
    exact ⟨v'', hv'', howner'.trans howner, fun l hl => hlogin' l (hlogin l hl)⟩
  · obtain ⟨c', hc', hreceived⟩ := h.clients k c hc
    obtain ⟨c'', hc'', hreceived'⟩ := h'.clients k c' hc'
    exact ⟨c'', hc'', fun q hq => hreceived' q (hreceived q hq)⟩

/-- A network grows with one of its sockets. -/
theorem Grown.set_visit {n : Nat} {v : Visit} (v' : Visit) (hv : w.visits[n]? = some v)
    (howner : v'.owner = v.owner) (hlogin : ∀ login, v.login = some login → v'.login = some login) :
    w.Grown { w with visits := w.visits.set n v' } := by
  refine ⟨Nat.le_refl _, fun j u hu => ?_, fun _ c hc => ⟨c, hc, fun _ h => h⟩⟩
  by_cases hj : n = j
  · subst hj
    rw [hv] at hu
    cases hu
    exact ⟨v', getElem?_set_of_some hv, howner, hlogin⟩
  · exact ⟨u, by rw [List.getElem?_set, if_neg hj]; exact hu, rfl, fun _ h => h⟩

/-- A network grows with one of its clients. -/
theorem Grown.set_client {k : Nat} {c c' : Client} (hc : w.clients[k]? = some c)
    (hreceived : ∀ q, c.HasReceived q → c'.HasReceived q) :
    w.Grown { w with clients := w.clients.set k c' } := by
  refine ⟨Nat.le_refl _, fun _ v hv => ⟨v, hv, rfl, fun _ h => h⟩, fun j u hu => ?_⟩
  by_cases hj : k = j
  · subst hj
    rw [hc] at hu
    cases hu
    exact ⟨c', getElem?_set_of_some hc, hreceived⟩
  · exact ⟨u, by rw [List.getElem?_set, if_neg hj]; exact hu, fun _ h => h⟩

/-- A network grows by a new socket. -/
theorem Grown.append_visit (w : Network) (v : Visit) :
    w.Grown { w with visits := w.visits ++ [v] } := by
  refine ⟨Nat.le_refl _, fun j u hu => ?_, fun _ c hc => ⟨c, hc, fun _ h => h⟩⟩
  have hlt : j < w.visits.length := (List.getElem?_eq_some_iff.1 hu).1
  exact ⟨u, by rw [List.getElem?_append_left hlt]; exact hu, rfl, fun _ h => h⟩

/-- A network grows by what its mailroom accepts and draws. -/
theorem Grown.of_drawn (m : Mailroom) (accepted : List (String × Queued)) {drawn : Nat}
    (hle : w.drawn ≤ drawn) : w.Grown { w with mailroom := m, accepted, drawn } :=
  ⟨hle, fun _ v hv => ⟨v, hv, rfl, fun _ h => h⟩, fun _ c hc => ⟨c, hc, fun _ h => h⟩⟩

theorem Grown.atVisit (n : Nat) {f : Visit → Visit}
    (hf : ∀ v, (f v).owner = v.owner ∧ (f v).login = v.login) : w.Grown (w.atVisit n f) := by
  unfold Network.atVisit
  split
  · exact .refl w
  · next v hv => exact .set_visit (f v) hv (hf v).1 fun _ hl => (hf v).2.trans hl

theorem Grown.atClient (k : Nat) (f : Connection → Connection) : w.Grown (w.atClient k f) := by
  unfold Network.atClient
  split
  · exact .refl w
  · next c hc => exact .set_client hc fun _ hq => hq

theorem Grown.length_visits (hg : w.Grown w') : w.visits.length ≤ w'.visits.length := by
  by_contra hlt
  obtain ⟨v, hv, -⟩ := hg.visits _ _ (List.getElem?_eq_getElem (Nat.lt_of_not_le hlt))
  exact absurd (List.getElem?_eq_some_iff.1 hv).1 (Nat.lt_irrefl _)

/-- Who owns a socket does not change. -/
theorem Grown.owned (hg : w.Grown w') {n k : Nat}
    (h : ∃ v, w.visits[n]? = some v ∧ v.owner = some k) :
    ∃ v, w'.visits[n]? = some v ∧ v.owner = some k := by
  obtain ⟨v, hv, howner⟩ := h
  obtain ⟨v', hv', howner', -⟩ := hg.visits n v hv
  exact ⟨v', hv', howner'.trans howner⟩

/-! ## The mailroom -/

/-- The invariant is kept by what happens to the mailroom outside the sockets. -/
theorem Inv.of_mailroom (h : Inv login past w) {m : Mailroom} {accepted : List (String × Queued)}
    {drawn : Nat} (hf : w.mailroom.Follows m) (hnextId : m.nextId = .ofNat (drawn + 1))
    (hnext : (w.book login past).Next
      (book { w with mailroom := m, accepted, drawn } login past))
    (hmax : drawn ≤ UInt64.size) :
    Inv login past { w with mailroom := m, accepted, drawn } := by
  obtain ⟨hle, hsound⟩ := hnext.sound h.sound hmax
  refine ⟨hnextId, hsound, h.live.follows hf, h.queued, h.linked, h.waiting, h.remembered, ?_⟩
  intro n v k hv howner
  obtain ⟨c, hc, hvisit⟩ := h.owned n v k hv howner
  exact ⟨c, hc, hvisit.follows hf hle hsound fun q hq => .inl hq⟩

theorem Inv.accept (h : Inv login past w) (recipient : String) (body : ByteArray) (now : Nat)
    (hmax : (w.make (.accept recipient body now)).drawn ≤ UInt64.size) :
    Inv login past (w.make (.accept recipient body now)) := by
  unfold make at hmax ⊢
  by_cases haccount : w.mailroom.hasAccount recipient = true
  · dsimp only at hmax ⊢
    rw [if_pos haccount] at hmax ⊢
    refine h.of_mailroom ⟨Nat.le_refl _, fun _ _ => .inl, fun _ _ _ => .inl⟩ ?_ ?_ hmax
    · show w.mailroom.nextId + 1 = _
      rw [h.nextId, UInt64.ofNat_add (w.drawn + 1) 1]
      rfl
    · refine .inr ⟨rfl, ⟨w.mailroom.nextId, body, now⟩, h.nextId, ?_⟩
      rintro q (hq | hq | hq)
      · exact .inl (.inl hq)
      · rcases List.mem_append.1 hq with hq | hq
        · exact .inl (.inr (.inl hq))
        · have hpair := List.mem_singleton.1 hq
          exact .inr (congrArg Prod.snd hpair)
      · exact .inl (.inr (.inr hq))
  · dsimp only at hmax ⊢
    rw [if_neg haccount]
    exact h

theorem Inv.post (h : Inv login past w) (n : Nat)
    (hmax : (w.make (.post n)).drawn ≤ UInt64.size) : Inv login past (w.make (.post n)) := by
  unfold make at hmax ⊢
  dsimp only at hmax ⊢
  split at hmax
  · exact h
  · next recipient q hsome =>
    refine h.of_mailroom (w.mailroom.follows_post recipient q) ?_ ?_ hmax
    · rw [(w.mailroom.post_next recipient q).1]
      exact h.nextId
    · refine .inl ⟨rfl, ?_⟩
      rintro q' (hq' | hq' | hq')
      · rw [Mailroom.mailbox_post] at hq'
        split at hq'
        · next hlogin =>
          subst hlogin
          rcases List.mem_append.1 hq' with hq' | hq'
          · exact .inl hq'
          · rw [List.mem_singleton.1 hq']
            exact .inr (.inl (List.mem_of_getElem? hsome))
        · exact .inl hq'
      · exact .inr (.inl (List.mem_of_mem_eraseIdx hq'))
      · exact .inr (.inr hq')

/-! ## Steps of a session -/

theorem stepSession_of_none {n : Nat} (hv : w.visits[n]? = none) (branch : Session.Branch)
    (now wallClock : Nat) : w.stepSession n branch now wallClock = w := by
  unfold stepSession
  rw [hv]

theorem stepSession_of_some {n : Nat} {v : Visit} (hv : w.visits[n]? = some v)
    (branch : Session.Branch) (now wallClock : Nat) :
    let t := Session.step branch now wallClock ⟨v.session, w.mailroom, v.far⟩
    w.stepSession n branch now wallClock =
      { w with
        mailroom := t.mailroom
        visits := w.visits.set n (v.after t)
        drawn := w.drawn + (t.mailroom.nextId - w.mailroom.nextId).toNat } := by
  unfold stepSession
  rw [hv]

/-- How a session's step moves on the count of ids, the mailbox and the lines. -/
theorem session_mailroom (h : w.mailroom.nextId = .ofNat (w.drawn + 1)) (login : String)
    {wallClock : Nat} {t t' : Session.Turn} {heard : Option Message}
    (ht : t.mailroom = w.mailroom) (hdoes : Session.Does wallClock t heard t') :
    let drawn := w.drawn + (t'.mailroom.nextId - w.mailroom.nextId).toNat
    w.mailroom.Follows t'.mailroom ∧ t'.mailroom.nextId = .ofNat (drawn + 1) ∧
      (drawn = w.drawn ∧ (∀ q ∈ t'.mailroom.mailbox login, q ∈ w.mailroom.mailbox login) ∨
        drawn = w.drawn + 1 ∧ ∃ q₀ : Queued, q₀.id = .ofNat (w.drawn + 1) ∧
          ∀ q ∈ t'.mailroom.mailbox login, q ∈ w.mailroom.mailbox login ∨ q = q₀) := by
  obtain ⟨m, hchanges, hleaves⟩ := hdoes.changes
  have hfollows := hchanges.follows
  have hnext := hchanges.next login
  rw [ht] at hfollows hnext
  have hm : w.mailroom.Follows t'.mailroom ∧ t'.mailroom.nextId = m.nextId ∧
      ∀ login, t'.mailroom.mailbox login = m.mailbox login := by
    rcases hleaves with hsame | ⟨i, hleft⟩
    · rw [hsame]
      exact ⟨hfollows, rfl, fun _ => rfl⟩
    · obtain ⟨-, hid, -, -, hmailbox⟩ := m.leave_spec i.line i.login t.session.id
      rw [hleft]
      exact ⟨hfollows.leave _ _ _, hid, hmailbox⟩
  obtain ⟨hfollows', hid, hmailbox⟩ := hm
  rw [hid, hmailbox]
  refine ⟨hfollows', ?_⟩
  rcases hnext with ⟨hsame, hbox⟩ | ⟨hone, q₀, hq₀, hbox⟩
  · have hzero : (m.nextId - w.mailroom.nextId).toNat = 0 := by
      rw [hsame, UInt64.sub_self]
      rfl
    rw [hzero, hsame, Nat.add_zero]
    exact ⟨h, .inl ⟨rfl, hbox⟩⟩
  · have hdrawn : (m.nextId - w.mailroom.nextId).toNat = 1 := by
      rw [hone, UInt64.add_comm, UInt64.add_sub_cancel]
      rfl
    rw [hdrawn]
    refine ⟨?_, .inr ⟨rfl, q₀, hq₀.trans h, hbox⟩⟩
    rw [hone, h, UInt64.ofNat_add (w.drawn + 1) 1]
    rfl

/-- What a session's step puts into a mailbox is all that the book learns from it. -/
theorem book_next {m : Mailroom} {visits : List Visit} {drawn : Nat}
    (h : drawn = w.drawn ∧ (∀ q ∈ m.mailbox login, q ∈ w.mailroom.mailbox login) ∨
      drawn = w.drawn + 1 ∧ ∃ q₀ : Queued, q₀.id = .ofNat (w.drawn + 1) ∧
        ∀ q ∈ m.mailbox login, q ∈ w.mailroom.mailbox login ∨ q = q₀) :
    (w.book login past).Next
      (({ w with mailroom := m, visits, drawn } : Network).book login past) := by
  rcases h with ⟨hsame, hbox⟩ | ⟨hone, q₀, hq₀, hbox⟩
  · refine .inl ⟨hsame, ?_⟩
    rintro q (hq | hq)
    · exact .inl (hbox q hq)
    · exact .inr hq
  · refine .inr ⟨hone, q₀, hq₀, ?_⟩
    rintro q (hq | hq)
    · rcases hbox q hq with hold | hnew
      · exact .inl (.inl hold)
      · exact .inr hnew
    · exact .inl (.inr hq)

/-- The login that is remembered of a socket after a step of its session. -/
theorem Inv.after_login (h : Inv login past w) {n : Nat} {v : Visit} (hv : w.visits[n]? = some v)
    {wallClock : Nat} {t' : Session.Turn} {heard : Option Message}
    (hdoes : Session.Does wallClock ⟨v.session, w.mailroom, v.far⟩ heard t') :
    (∀ deadline, (v.after t').session.phase = .greeting deadline → (v.after t').login = none) ∧
      ∀ i, (v.after t').session.phase.signIn? = some i → (v.after t').login = some i.login := by
  have hafter : (v.after t').login = (v.login <|> t'.session.phase.signIn?.map SignIn.login) := rfl
  cases hdoes.passage with
  | ended result hended => exact ⟨by simp [hended], by simp [hended]⟩
  | waits deadline hbefore hwaits =>
    refine ⟨fun _ _ => ?_, by simp [hwaits]⟩
    rw [hafter, h.waiting n v deadline hv hbefore, hwaits]
    rfl
  | serves deadline hbefore hserves => exact ⟨by simp [hserves], by simp [hserves]⟩
  | enters deadline login' hbefore henters =>
    refine ⟨by simp [henters], fun i hi => ?_⟩
    rw [Visit.after_session] at hi
    rw [hafter, h.waiting n v deadline hv hbefore, hi]
    rfl
  | goesOn hbefore hgoes hsame =>
    refine ⟨fun deadline' hphase => absurd hphase (hgoes deadline'), fun i hi => ?_⟩
    rw [hafter, h.remembered n v i hv (hsame.symm.trans hi)]
    rfl

/-- **The invariant is kept by a step of a session.** -/
theorem Inv.session (h : Inv login past w) {n : Nat} {v : Visit} (hv : w.visits[n]? = some v)
    (branch : Session.Branch) (now wallClock : Nat)
    (hmax : (w.stepSession n branch now wallClock).drawn ≤ UInt64.size) :
    Inv login past (w.stepSession n branch now wallClock) := by
  rw [stepSession_of_some hv] at hmax ⊢
  have hdoes := Session.step_does branch now wallClock ⟨v.session, w.mailroom, v.far⟩
  generalize Session.step branch now wallClock ⟨v.session, w.mailroom, v.far⟩ = t' at hdoes hmax ⊢
  dsimp only at hmax ⊢
  obtain ⟨hf, hnextId, hnext⟩ := session_mailroom h.nextId login rfl hdoes
  generalize hdrawn : w.drawn + (t'.mailroom.nextId - w.mailroom.nextId).toNat = drawn
    at hmax hnextId hnext ⊢
  generalize hw' : ({ w with
    mailroom := t'.mailroom, visits := w.visits.set n (v.after t'), drawn } : Network) = w'
  have hmailroom : w'.mailroom = t'.mailroom := by rw [← hw']
  have hbook : (w.book login past).Next (w'.book login past) := by
    rw [← hw']
    exact book_next hnext
  obtain ⟨hle, hsound⟩ := hbook.sound h.sound (by rw [← hw']; exact hmax)
  have hlogin := h.after_login hv hdoes
  have hvisits : ∀ {j u}, w'.visits[j]? = some u → j = n ∧ u = v.after t' ∨
      j ≠ n ∧ w.visits[j]? = some u := by
    intro j u hu
    rw [← hw'] at hu
    exact getElem?_set_cases hu
  constructor
  · rw [hmailroom, ← hw']
    exact hnextId
  · exact hsound
  · rw [hmailroom]
    exact h.live.follows hf
  · rw [← hw']
    exact h.queued
  · intro k c j hc hlinked
    rw [← hw'] at hc ⊢
    exact (Grown.set_visit (v.after t') hv rfl fun _ hl => by rw [Visit.after, hl]; rfl).owned
      (h.linked k c j hc hlinked)
  · intro j u deadline hu hphase
    rcases hvisits hu with ⟨-, rfl⟩ | ⟨-, hold⟩
    · exact hlogin.1 deadline hphase
    · exact h.waiting j u deadline hold hphase
  · intro j u i hu hi
    rcases hvisits hu with ⟨-, rfl⟩ | ⟨-, hold⟩
    · exact hlogin.2 i hi
    · exact h.remembered j u i hold hi
  · intro j u k hu howner
    have hclients : w'.clients = w.clients := by rw [← hw']
    rw [hclients, hmailroom]
    have hknown : ∀ q ∈ t'.mailroom.mailbox login, (w'.book login past).known q := by
      intro q hq
      refine .inl ?_
      rw [hmailroom]
      exact hq
    rcases hvisits hu with ⟨rfl, rfl⟩ | ⟨-, hold⟩
    · obtain ⟨c, hc, hvisit⟩ := h.owned j v k hv howner
      refine ⟨c, hc, hvisit.session hdoes hf hle hsound hknown fun henters => ?_⟩
      have hone : drawn = w.drawn + 1 := by
        have hid : t'.mailroom.nextId = w.mailroom.nextId + 1 := by
          rw [henters]
          rfl
        rw [← hdrawn, hid, UInt64.add_comm, UInt64.add_sub_cancel]
        rfl
      rw [henters]
      refine Visit.serves_enter v.session.id h.live h.sound h.nextId ?_ ?_ ?_ fun q hq => .inl hq
      · rw [← hw']
        exact hone
      · rw [← hw']
        exact hmax
      · intro q
        rw [← hw']
        show q ∈ t'.mailroom.mailbox login ∨ _ ↔ _
        rw [henters]
        rfl
    · obtain ⟨c, hc, hvisit⟩ := h.owned j u k hold howner
      exact ⟨c, hc, hvisit.follows hf hle hsound hknown⟩

/-! ## Links and strangers -/

/-- The invariant is kept by what happens to a link. -/
theorem Inv.of_link (h : Inv login past w) {n : Nat} {v : Visit} (v' : Visit)
    (hv : w.visits[n]? = some v) (hsession : v'.session = v.session) (howner : v'.owner = v.owner)
    (hlogin : v'.login = v.login)
    (hsound : ∀ (b : Book) (m : Mailroom) (k : Nat) (c : Client), v.owner = some k →
      v.Sound b m login n c → v'.Sound b m login n c) :
    Inv login past { w with visits := w.visits.set n v' } := by
  refine ⟨h.nextId, h.sound, h.live, h.queued, ?_, ?_, ?_, ?_⟩
  · intro k c j hc hlinked
    exact (Grown.set_visit v' hv howner fun _ hl => hlogin.trans hl).owned
      (h.linked k c j hc hlinked)
  · intro j u deadline hu hphase
    rcases getElem?_set_cases hu with ⟨-, rfl⟩ | ⟨-, hold⟩
    · rw [hlogin]
      exact h.waiting n v deadline hv (hsession ▸ hphase)
    · exact h.waiting j u deadline hold hphase
  · intro j u i hu hi
    rcases getElem?_set_cases hu with ⟨-, rfl⟩ | ⟨-, hold⟩
    · rw [hlogin]
      exact h.remembered n v i hv (hsession ▸ hi)
    · exact h.remembered j u i hold hi
  · intro j u k hu hk
    rcases getElem?_set_cases hu with ⟨rfl, rfl⟩ | ⟨-, hold⟩
    · rw [howner] at hk
      obtain ⟨c, hc, hvisit⟩ := h.owned j v k hv hk
      exact ⟨c, hc, hsound _ _ k c hk hvisit⟩
    · exact h.owned j u k hold hk

/-- The invariant is kept as a stranger opens a socket. -/
theorem Inv.stranger (h : Inv login past w) (id : UInt64) (now : Nat) :
    Inv login past (w.make (.stranger id now)) := by
  have hvisits : ∀ {j u}, (w.make (.stranger id now)).visits[j]? = some u →
      u = ({ session := .start id now } : Visit) ∨ w.visits[j]? = some u := fun hu =>
    (getElem?_append_cases hu).imp And.right fun hold => hold
  refine ⟨h.nextId, h.sound, h.live, h.queued, ?_, ?_, ?_, ?_⟩
  · intro k c j hc hlinked
    obtain ⟨u, hu, hk⟩ := h.linked k c j hc hlinked
    obtain ⟨u', hu', hk', -⟩ := (Grown.append_visit w { session := .start id now }).visits j u hu
    exact ⟨u', hu', hk'.trans hk⟩
  · intro j u deadline hu hphase
    rcases hvisits hu with rfl | hold
    · rfl
    · exact h.waiting j u deadline hold hphase
  · intro j u i hu hi
    rcases hvisits hu with rfl | hold
    · cases hi
    · exact h.remembered j u i hold hi
  · intro j u k hu hk
    rcases hvisits hu with rfl | hold
    · cases hk
    · exact h.owned j u k hold hk

/-! ## Clients -/

/-- A socket is sound after a client has changed that is not on its link. -/
theorem Inv.elsewhere (h : Inv login past w) {k : Nat} {c c' : Client}
    (hc : w.clients[k]? = some c) {n : Nat} (hlink : linkOf? c'.connection ≠ some n)
    (hreceived : ∀ q, c.HasReceived q → c'.HasReceived q) {v : Visit} {i : Nat}
    (hv : w.visits[n]? = some v) (howner : v.owner = some i) :
    ∃ u, (w.clients.set k c')[i]? = some u ∧
      v.Sound (w.book login past) w.mailroom login n u := by
  obtain ⟨u, hu, hvisit⟩ := h.owned n v i hv howner
  by_cases hik : i = k
  · subst hik
    rw [hc] at hu
    cases hu
    exact ⟨c', getElem?_set_of_some hc, hvisit.apart hlink hreceived⟩
  · refine ⟨u, ?_, hvisit⟩
    rw [List.getElem?_set, if_neg fun e => hik e.symm]
    exact hu

/-- The invariant is kept by what happens to a client that has no link, or lets go of none. -/
theorem Inv.of_client (h : Inv login past w) {k : Nat} {c : Client} (c' : Client)
    (hc : w.clients[k]? = some c) (hqueued : ∀ m ∈ c'.connection.queued, ∃ r, m = .ofRequest r)
    (hcase : linkOf? c'.connection = none ∧ (∀ q, c.HasReceived q → c'.HasReceived q) ∨
      c'.connection.phase = c.connection.phase ∧ c'.incoming = c.incoming) :
    Inv login past { w with clients := w.clients.set k c' } := by
  have hlink : ∀ j, linkOf? c'.connection = some j → linkOf? c.connection = some j := by
    intro j hj
    rcases hcase with ⟨hnone, -⟩ | ⟨hphase, -⟩
    · rw [hnone] at hj
      cases hj
    · unfold linkOf? at hj ⊢
      rwa [hphase] at hj
  refine ⟨h.nextId, h.sound, h.live, ?_, ?_, h.waiting, h.remembered, ?_⟩
  · intro j u hu
    rcases getElem?_set_cases hu with ⟨-, rfl⟩ | ⟨-, hold⟩
    · exact hqueued
    · exact h.queued j u hold
  · intro j u n hu hlinked
    rcases getElem?_set_cases hu with ⟨rfl, rfl⟩ | ⟨-, hold⟩
    · exact h.linked j c n hc (hlink n hlinked)
    · exact h.linked j u n hold hlinked
  · intro n v j hv howner
    rcases hcase with ⟨hnone, hreceived⟩ | ⟨hphase, hincoming⟩
    · exact h.elsewhere hc (by rw [hnone]; nofun) hreceived hv howner
    · obtain ⟨u, hu, hvisit⟩ := h.owned n v j hv howner
      by_cases hj : j = k
      · subst hj
        rw [hc] at hu
        cases hu
        exact ⟨c', getElem?_set_of_some hc, hvisit.of_phase hphase hincoming⟩
      · exact ⟨u, by rw [List.getElem?_set, if_neg fun e => hj e.symm]; exact hu, hvisit⟩

/-- The invariant is kept by what happens to a connection between its sockets, or leaves its keeper
where it is. -/
theorem Inv.atClient (h : Inv login past w) (k : Nat) {f : Connection → Connection}
    (hf : ∀ c, (linkOf? (f c) = none ∨ (f c).phase = c.phase) ∧
      ∀ m ∈ (f c).queued, m ∈ c.queued ∨ ∃ r, m = .ofRequest r) :
    Inv login past (w.atClient k f) := by
  unfold Network.atClient
  split
  · exact h
  · next c hc =>
    obtain ⟨hlink, hqueued⟩ := hf c.connection
    refine h.of_client { c with connection := f c.connection } hc ?_ ?_
    · intro m hm
      rcases hqueued m hm with hold | hrequest
      · exact h.queued k c hc m hold
      · exact hrequest
    · exact hlink.imp (fun hnone => ⟨hnone, fun _ hq => hq⟩) fun hphase => ⟨hphase, rfl⟩

/-- **The invariant is kept by a step of a keeper.** -/
theorem Inv.keeper (h : Inv login past w) (k : Nat) (branch : Keeper.Branch) (stores : Stores)
    (now : Nat) : Inv login past (w.stepKeeper k branch stores now) := by
  unfold stepKeeper
  split
  · exact h
  · next c hc =>
    split
    · next hnone =>
      obtain ⟨hafter, hledger, -⟩ :=
        (Keeper.step_acts branch stores now ⟨c.connection, {}, none⟩).of_unlinked hnone
      have hqueued : (Keeper.step branch stores now ⟨c.connection, {}, none⟩).connection.queued =
          c.connection.queued := congrArg (fun l : Ledger => l.outbox.getD []) hledger
      refine h.of_client _ hc (fun m hm => h.queued k c hc m (hqueued ▸ hm)) (.inl ⟨hafter, ?_⟩)
      exact fun q hq => Visit.hasReceived_after hq _
    · next n hlinked =>
      obtain ⟨v, hv, howner⟩ := h.linked k c n hc hlinked
      rw [hv]
      dsimp only
      have hacts := Keeper.step_acts branch stores now ⟨c.connection, v.near, none⟩
      generalize Keeper.step branch stores now ⟨c.connection, v.near, none⟩ = t' at hacts ⊢
      obtain ⟨hafter, hqueued, -, -⟩ := hacts.keeps hlinked
      have hone : ∀ {j}, linkOf? (c.after t').connection = some j → j = n := by
        intro j hj
        change linkOf? t'.connection = some j at hj
        rcases hafter with hnone | hsame
        · rw [hnone] at hj
          cases hj
        · exact Option.some.inj (hj.symm.trans hsame)
      refine ⟨h.nextId, h.sound, h.live, ?_, ?_, ?_, ?_, ?_⟩
      · intro j u hu
        rcases getElem?_set_cases hu with ⟨-, rfl⟩ | ⟨-, hold⟩
        · exact fun m hm => h.queued k c hc m (hqueued m hm)
        · exact h.queued j u hold
      · intro j u i hu hi
        have hold : ∃ v, w.visits[i]? = some v ∧ v.owner = some j := by
          rcases getElem?_set_cases hu with ⟨rfl, rfl⟩ | ⟨-, hold⟩
          · exact ⟨v, by rw [hone hi]; exact hv, howner⟩
          · exact h.linked j u i hold hi
        exact (Grown.set_visit { v with near := t'.link } hv rfl fun _ hl => hl).owned hold
      · intro j u deadline hu hphase
        rcases getElem?_set_cases hu with ⟨-, rfl⟩ | ⟨-, hold⟩
        · exact h.waiting n v deadline hv hphase
        · exact h.waiting j u deadline hold hphase
      · intro j u i hu hi
        rcases getElem?_set_cases hu with ⟨-, rfl⟩ | ⟨-, hold⟩
        · exact h.remembered n v i hv hi
        · exact h.remembered j u i hold hi
      · intro j u i hu hi
        rcases getElem?_set_cases hu with ⟨rfl, rfl⟩ | ⟨hj, hold⟩
        · obtain rfl : k = i := Option.some.inj (howner.symm.trans hi)
          obtain ⟨c', hc', hvisit⟩ := h.owned j v k hv howner
          rw [hc] at hc'
          cases hc'
          exact ⟨c.after t', getElem?_set_of_some hc,
            hvisit.keeper hlinked (h.queued k c hc) hacts⟩
        · exact h.elsewhere hc (fun hlink => hj (hone hlink))
            (fun q hq => Visit.hasReceived_after hq t') hold hi

/-- **The invariant is kept as a keeper gets a link.** -/
theorem Inv.connect (h : Inv login past w) (k : Nat) (stores : Stores) (now : Nat) (id : UInt64) :
    Inv login past (w.connect k stores now id) := by
  unfold Network.connect
  split
  · exact h
  · next c hc =>
    split
    · next hello deadline attempt hphase =>
      have hnone : linkOf? c.connection = none := by rw [linkOf?, hphase]
      dsimp only
      have hleaves := Keeper.connected_leaves stores now w.visits.length hello
        ⟨c.connection, {}, none⟩
      generalize Keeper.connected stores now w.visits.length hello ⟨c.connection, {}, none⟩ = t'
        at hleaves ⊢
      have hone : ∀ {j}, linkOf? (c.after t').connection = some j → j = w.visits.length := by
        intro j hj
        change linkOf? t'.connection = some j at hj
        rcases hleaves.stays with ⟨hgone, -⟩ | ⟨hsame, -⟩
        · rw [hgone] at hj
          cases hj
        · exact Option.some.inj (hj.symm.trans hsame)
      have hnew : (w.visits ++ [({ session := .start id now, near := t'.link, owner := some k } :
          Visit)])[w.visits.length]? =
            some { session := .start id now, near := t'.link, owner := some k } :=
        List.getElem?_concat_length
      refine ⟨h.nextId, h.sound, h.live, ?_, ?_, ?_, ?_, ?_⟩
      · intro j u hu
        rcases getElem?_set_cases hu with ⟨-, rfl⟩ | ⟨-, hold⟩
        · exact fun m hm => h.queued k c hc m (hleaves.queued m hm)
        · exact h.queued j u hold
      · intro j u i hu hi
        rcases getElem?_set_cases hu with ⟨rfl, rfl⟩ | ⟨-, hold⟩
        · rw [hone hi]
          exact ⟨_, hnew, rfl⟩
        · exact (Grown.append_visit w
            { session := .start id now, near := t'.link, owner := some k }).owned
            (h.linked j u i hold hi)
      · intro j u deadline hu hwaits
        rcases getElem?_append_cases hu with ⟨-, rfl⟩ | hold
        · rfl
        · exact h.waiting j u deadline hold hwaits
      · intro j u i hu hi
        rcases getElem?_append_cases hu with ⟨-, rfl⟩ | hold
        · cases hi
        · exact h.remembered j u i hold hi
      · intro j u i hu hi
        rcases getElem?_append_cases hu with ⟨rfl, rfl⟩ | hold
        · obtain rfl : k = i := Option.some.inj hi
          exact ⟨c.after t', getElem?_set_of_some hc,
            Visit.Sound.connected id now k rfl hleaves⟩
        · have hj : j < w.visits.length := (List.getElem?_eq_some_iff.1 hold).1
          exact h.elsewhere hc (fun hlink => Nat.ne_of_lt hj (hone hlink))
            (fun q hq => Visit.hasReceived_after hq t') hold hi
    · exact h

/-! ## Moves -/

/-- **The invariant is kept by every move**, as long as the ids last. -/
theorem Inv.make (h : Inv login past w) (move : Move)
    (hmax : (w.make move).drawn ≤ UInt64.size) : Inv login past (w.make move) := by
  have hatVisit : ∀ (n : Nat) (f : Visit → Visit),
      (∀ v, (f v).session = v.session ∧ (f v).owner = v.owner ∧ (f v).login = v.login ∧
        ∀ (b : Book) (m : Mailroom) (k : Nat) (c : Client), v.owner = some k →
          v.Sound b m login n c → (f v).Sound b m login n c) →
      Inv login past (w.atVisit n f) := by
    intro n f hf
    unfold atVisit
    split
    · exact h
    · next v hv =>
      obtain ⟨hsession, howner, hlogin, hsound⟩ := hf v
      exact h.of_link (f v) hv hsession howner hlogin hsound
  cases move with
  | accept recipient body now => exact h.accept recipient body now hmax
  | post n => exact h.post n hmax
  | session n branch now wallClock =>
    cases hv : w.visits[n]? with
    | none =>
      change Inv login past (w.stepSession n branch now wallClock)
      rw [stepSession_of_none hv]
      exact h
    | some v => exact h.session hv branch now wallClock hmax
  | keeper k branch stores now => exact h.keeper k branch stores now
  | atHead k stores now attempt =>
    unfold Network.make
    refine h.atClient k fun c => ?_
    split
    · obtain ⟨hnone, hqueued, -⟩ := c.atHead_spec stores now attempt
      exact ⟨.inl hnone, fun m hm => .inl (hqueued m hm)⟩
    · exact ⟨.inr rfl, fun m hm => .inl hm⟩
  | connectFailed k stores now e =>
    unfold Network.make
    refine h.atClient k fun c => ?_
    split
    · obtain ⟨hnone, hqueued, -⟩ := connectFailed_spec c stores now e
      exact ⟨.inl hnone, fun m hm => .inl (hqueued ▸ hm)⟩
    · exact ⟨.inr rfl, fun m hm => .inl hm⟩
  | connected k stores now id => exact h.connect k stores now id
  | application k op =>
    unfold Network.make
    refine h.atClient k fun c => ?_
    obtain ⟨hphase, -, hqueued⟩ := c.perform_spec op
    exact ⟨.inr hphase, hqueued⟩
  | stranger id now => exact h.stranger id now
  | speaks n b =>
    refine hatVisit n _ fun v => ?_
    unfold Visit.speaks
    split
    · exact ⟨rfl, rfl, rfl, fun _ _ _ _ _ hs => hs⟩
    · next hnone =>
      refine ⟨rfl, rfl, rfl, fun b m k c hk => ?_⟩
      rw [hk] at hnone
      exact absurd rfl hnone
  | carry n up down =>
    exact hatVisit n _ fun v => ⟨rfl, rfl, rfl, fun _ _ _ _ _ hs =>
      hs.of_link rfl (v.carry_held up down).1 (v.carry_held up down).2⟩
  | closeNear n =>
    exact hatVisit n _ fun v => ⟨rfl, rfl, rfl, fun _ _ _ _ _ hs => hs.of_link rfl rfl rfl⟩
  | closeFar n =>
    exact hatVisit n _ fun v => ⟨rfl, rfl, rfl, fun _ _ _ _ _ hs => hs.of_link rfl rfl rfl⟩

/-- **A network grows with every move.** -/
theorem Grown.make (w : Network) (move : Move) : w.Grown (w.make move) := by
  cases move with
  | accept recipient body now =>
    simp only [Network.make]
    split
    · exact .of_drawn _ _ (Nat.le_succ _)
    · exact .refl w
  | post n =>
    simp only [Network.make]
    split
    · exact .refl w
    · exact .of_drawn _ _ (Nat.le_refl _)
  | session n branch now wallClock =>
    change w.Grown (w.stepSession n branch now wallClock)
    cases hv : w.visits[n]? with
    | none =>
      rw [stepSession_of_none hv]
      exact .refl w
    | some v =>
      rw [stepSession_of_some hv]
      exact (Grown.set_visit (v.after _) hv rfl fun _ hl => by rw [Visit.after, hl]; rfl).trans
        (.of_drawn _ _ (Nat.le_add_right _ _))
  | keeper k branch stores now =>
    change w.Grown (w.stepKeeper k branch stores now)
    unfold stepKeeper
    split
    · exact .refl w
    · next c hc =>
      split
      · exact .set_client hc fun _ hq => Visit.hasReceived_after hq _
      · split
        · exact .refl w
        · next v hv =>
          exact (Grown.set_client hc fun _ hq => Visit.hasReceived_after hq _).trans
            (Grown.set_visit { v with near := _ } hv rfl fun _ hl => hl)
  | atHead k stores now attempt =>
    simp only [Network.make]
    exact .atClient k _
  | connectFailed k stores now e =>
    simp only [Network.make]
    exact .atClient k _
  | connected k stores now id =>
    change w.Grown (w.connect k stores now id)
    unfold Network.connect
    split
    · exact .refl w
    · next c hc =>
      split
      · exact (Grown.set_client hc fun _ hq => Visit.hasReceived_after hq _).trans
          (Grown.append_visit _ _)
      · exact .refl w
  | application k op =>
    simp only [Network.make]
    exact .atClient k _
  | stranger id now => exact .append_visit w _
  | speaks n b =>
    refine .atVisit n fun v => ?_
    unfold Visit.speaks
    split <;> exact ⟨rfl, rfl⟩
  | carry n up down => exact .atVisit n fun v => ⟨rfl, rfl⟩
  | closeNear n => exact .atVisit n fun v => ⟨rfl, rfl⟩
  | closeFar n => exact .atVisit n fun v => ⟨rfl, rfl⟩

end ChatSockets.Network
