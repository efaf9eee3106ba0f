import ChatSockets.Proofs.Network.Streams

/-!
# Sockets of a login

`Visit.Sound` is what holds, at any time, between a socket and the client that opened it, as regards
the messages of a login. While the session waits for a handshake there is no request on its way down
and no response on its way up. While it is signed in as the login, each request on its way down
carries the messages with its id, and each response on its way up that says that a request succeeded
is for messages that the client has received.

This is kept by every step of the session (`Sound.session`) and of the client's keeper
(`Sound.keeper`), it holds of a new socket (`Sound.connected`), and whatever happens elsewhere does
not touch it (`Sound.follows`, `Sound.apart`).
-/

namespace ChatSockets.Visit

open Wire Keeper

/-- What a response on its way up has to do with the messages that a client has received. -/
def Settled (b : Book) (c : Client) (r : Wire.Response) : Prop :=
  r.isSuccess = true → b.Settles c.HasReceived r

/-- A socket of a client, as regards the messages of a login. -/
structure Sound (b : Book) (m : Mailroom) (login : String) (n : Nat) (c : Client) (v : Visit) :
    Prop where
  greeting : ∀ deadline, v.session.phase = .greeting deadline →
    Upstream n c.connection v (fun _ => False) ∧
      (linkOf? c.connection = some n → Downstream c.connection v fun _ => False)
  serving : ∀ line, v.session.phase.signIn? = some ⟨login, line⟩ →
    m.Serves b login line ∧ Upstream n c.connection v (Settled b c) ∧
      (linkOf? c.connection = some n → Downstream c.connection v b.Carries)

variable {b b' : Book} {m m' : Mailroom} {login : String} {n : Nat} {c c' : Client} {v : Visit}

theorem Settled.mono {r : Wire.Response} (h : Settled b c r) (hle : b.Le b')
    (hreceived : ∀ q, c.HasReceived q → c'.HasReceived q) : Settled b' c' r :=
  fun hsuccess => (h hsuccess).mono hle hreceived

/-! ## What happens elsewhere -/

/-- A socket does not change with the mailroom. -/
theorem Sound.follows (h : v.Sound b m login n c) (hf : m.Follows m') (hle : b.Le b')
    (hsound : b'.Sound) (hknown : ∀ q ∈ m'.mailbox login, b'.known q) :
    v.Sound b' m' login n c := by
  refine ⟨h.greeting, fun line hline => ?_⟩
  obtain ⟨hserves, hup, hdown⟩ := h.serving line hline
  exact ⟨hserves.follows hf hle hsound hknown, hup.mono fun _ hr => hr.mono hle fun _ hq => hq,
    fun hlinked => (hdown hlinked).mono fun _ hr => hr.mono hle⟩

/-- A socket does not change with a client that has let go of it, or never had it. -/
theorem Sound.apart (h : v.Sound b m login n c) (hlink : linkOf? c'.connection ≠ some n)
    (hreceived : ∀ q, c.HasReceived q → c'.HasReceived q) : v.Sound b m login n c' := by
  refine ⟨fun deadline hphase => ?_, fun line hline => ?_⟩
  · exact ⟨(h.greeting deadline hphase).1.imp fun _ hms => hms.apart hlink,
      fun hlinked => absurd hlinked hlink⟩
  · obtain ⟨hserves, hupstream, -⟩ := h.serving line hline
    exact ⟨hserves, (hupstream.imp fun _ hms => hms.apart hlink).mono
      fun _ hr => hr.mono (.refl b) hreceived, fun hlinked => absurd hlinked hlink⟩

/-- A socket does not change with what an application does. -/
theorem Sound.of_phase (h : v.Sound b m login n c)
    (hphase : c'.connection.phase = c.connection.phase) (hincoming : c'.incoming = c.incoming) :
    v.Sound b m login n c' := by
  have hlink : linkOf? c'.connection = linkOf? c.connection := by
    unfold linkOf?
    rw [hphase]
  have hreceived : ∀ q, c.HasReceived q → c'.HasReceived q := by
    rintro q ⟨i, hi, hbody⟩
    exact ⟨i, by rw [hincoming]; exact hi, hbody⟩
  refine ⟨fun deadline hgreeting => ?_, fun line hline => ?_⟩
  · obtain ⟨hupstream, hdownstream⟩ := h.greeting deadline hgreeting
    exact ⟨hupstream.imp fun _ hms => hms.of_phase hphase,
      fun hlinked => (hdownstream (hlink ▸ hlinked)).imp fun _ hms => hms.of_phase hphase⟩
  · obtain ⟨hserves, hupstream, hdownstream⟩ := h.serving line hline
    exact ⟨hserves, (hupstream.imp fun _ hms => hms.of_phase hphase).mono
      fun _ hr => hr.mono (.refl b) hreceived,
      fun hlinked => (hdownstream (hlink ▸ hlinked)).imp fun _ hms => hms.of_phase hphase⟩

/-- A socket does not change with what the link does to the bytes under way. -/
theorem Sound.of_link (h : v.Sound b m login n c) {v' : Visit} (hsession : v'.session = v.session)
    (hup : v'.far.up.held ++ v'.near.up.held = v.far.up.held ++ v.near.up.held)
    (hdown : v'.near.down.held ++ v'.far.down.held = v.near.down.held ++ v.far.down.held) :
    v'.Sound b m login n c := by
  have hrises : ∀ ms, Rises n c.connection v ms → Rises n c.connection v' ms :=
    fun _ hms => hms.of_eq (by rw [hsession]) hup
  have hfalls : ∀ ms, Falls c.connection v ms → Falls c.connection v' ms :=
    fun _ hms => hms.of_eq (by rw [hsession]) hdown
  refine ⟨fun deadline hphase => ?_, fun line hline => ?_⟩
  · rw [hsession] at hphase
    obtain ⟨hupstream, hdownstream⟩ := h.greeting deadline hphase
    exact ⟨hupstream.imp hrises, fun hlinked => (hdownstream hlinked).imp hfalls⟩
  · rw [hsession] at hline
    obtain ⟨hserves, hupstream, hdownstream⟩ := h.serving line hline
    exact ⟨hserves, hupstream.imp hrises, fun hlinked => (hdownstream hlinked).imp hfalls⟩

/-! ## Steps of the session -/

/-- A session that signs in is sent what carries the messages of its login. -/
theorem serves_enter (session : UInt64) (hlive : m.LiveOpened) (hsound : b.Sound)
    (hnext : m.nextId = .ofNat (b.drawn + 1)) (hdrawn : b'.drawn = b.drawn + 1)
    (hmax : b'.drawn ≤ UInt64.size) (hknown : ∀ q, b'.known q ↔ b.known q)
    (hmailbox : ∀ q ∈ m.mailbox login, b.known q) :
    (m.openLine.2.register login ⟨session, m.nextLine⟩).2.Serves b' login m.nextLine := by
  have hle : b.Le b' := ⟨by omega, fun q hq => .inl ((hknown q).1 hq)⟩
  refine ⟨Nat.lt_succ_self _, ?_, ?_⟩
  · intro other h hother hline
    rw [Mailroom.live_register] at hother
    split at hother
    · next hsame => exact hsame
    · exact absurd hline (Nat.ne_of_lt (hlive other h hother))
  · intro r hr
    rw [Mailroom.onLine_openLine_register] at hr
    rcases List.mem_append.1 hr with hr | hr
    · obtain ⟨q, hq, rfl⟩ := List.mem_map.1 hr
      exact (hsound.carries (hmailbox q hq)).mono hle
    · -- the id of the word that this was all is that of no message
      rw [List.mem_singleton.1 hr]
      refine ⟨⟨b.drawn, by omega, hnext⟩, fun q hq hid => ?_⟩
      have hspent := hsound.spent q ((hknown q).1 hq)
      rw [hid] at hspent
      exact absurd (hnext ▸ hspent) (Book.not_spent_next (by omega))

/-- **A step of a session keeps its socket sound.** -/
theorem Sound.session {wallClock : Nat} {t' : Session.Turn} {heard : Option Message}
    (h : v.Sound b m login n c)
    (hdoes : Session.Does wallClock ⟨v.session, m, v.far⟩ heard t') (hf : m.Follows t'.mailroom)
    (hle : b.Le b') (hsound' : b'.Sound) (hknown : ∀ q ∈ t'.mailroom.mailbox login, b'.known q)
    (henters : t'.mailroom = (m.openLine.2.register login ⟨v.session.id, m.nextLine⟩).2 →
      t'.mailroom.Serves b' login m.nextLine) :
    (v.after t').Sound b' t'.mailroom login n c := by
  cases hdoes.passage with
  | ended result hafter => exact ⟨by simp [hafter], by simp [hafter]⟩
  | waits deadline hbefore hafter hmailroom =>
    have hended : ¬ ∃ result, t'.session.phase = .ended result := by simp [hafter]
    change v.session.phase = _ at hbefore
    have hgoing : ∀ result, v.session.phase ≠ .ended result := by simp [hbefore]
    have hnone : v.session.phase.signIn? = none := congrArg Session.Phase.signIn? hbefore
    obtain ⟨hup, hdown⟩ := h.greeting deadline hbefore
    refine ⟨fun _ _ => ⟨?_, fun hlinked => ?_⟩, by simp [hafter]⟩
    · exact (hup.session hdoes).resolve_left hended
    · exact (hdown hlinked).session hgoing (by simp [hnone]) hdoes
  | serves deadline hbefore hafter => exact ⟨by simp [hafter], by simp [hafter]⟩
  | enters deadline login' hbefore hafter hmailroom =>
    have hended : ¬ ∃ result, t'.session.phase = .ended result := by simp [hafter]
    change v.session.phase = _ at hbefore
    have hgoing : ∀ result, v.session.phase ≠ .ended result := by simp [hbefore]
    have hnone : v.session.phase.signIn? = none := congrArg Session.Phase.signIn? hbefore
    obtain ⟨hup, hdown⟩ := h.greeting deadline hbefore
    refine ⟨by simp [hafter], fun line hline => ?_⟩
    obtain ⟨rfl, rfl⟩ : login' = login ∧ m.nextLine = line := by simpa [hafter] using hline
    refine ⟨henters hmailroom, ?_, fun hlinked => ?_⟩
    · exact ((hup.session hdoes).resolve_left hended).mono fun _ hr => hr.elim
    · exact ((hdown hlinked).session hgoing (by simp [hnone]) hdoes).mono fun _ hr => hr.elim
  | goesOn hbefore hafter hsame =>
    refine ⟨fun deadline hphase => absurd hphase (hafter deadline), fun line hline => ?_⟩
    have hline' : v.session.phase.signIn? = some ⟨login, line⟩ := hsame.symm.trans hline
    obtain ⟨hserves, hup, hdown⟩ := h.serving line hline'
    have hended : ¬ ∃ result, t'.session.phase = .ended result := by
      rintro ⟨result, hresult⟩
      simp [hresult] at hline
    have hgoing : ∀ result, v.session.phase ≠ .ended result := by
      intro result hresult
      simp [hresult] at hline'
    refine ⟨hserves.follows hf hle hsound' hknown, ?_, fun hlinked => ?_⟩
    · exact ((hup.session hdoes).resolve_left hended).mono fun _ hr => hr.mono hle fun _ hq => hq
    · refine ((hdown hlinked).session hgoing ?_ hdoes).mono fun _ hr => hr.mono hle
      intro i hi
      rw [hline'] at hi
      cases hi
      exact hserves.carries

/-! ## Steps of the keeper -/

variable {t' : Keeper.Turn}

/-- Nothing is taken back from a channel. -/
theorem mem_incoming_after {x : UInt64 × Incoming} (h : x ∈ c.incoming) (t : Keeper.Turn) :
    x ∈ (c.after t).incoming := by
  unfold Client.after
  dsimp only
  split
  · exact List.mem_append_left _ h
  · exact h

theorem hasReceived_after {q : Queued} (h : c.HasReceived q) (t : Keeper.Turn) :
    (c.after t).HasReceived q := by
  obtain ⟨i, hi, hbody⟩ := h
  exact ⟨i, mem_incoming_after hi t, hbody⟩

/-- **A request is granted only for what was received**: if it carries the messages with its id, and
the answer says that it succeeded, then they were put on the channel in the same step. -/
theorem settled_answer {r : Wire.Request} (hcarries : b.Carries r)
    (hr : c.connection.phase.request? = some r) {link : Link}
    (hincoming : t'.incoming = (Turn.answer ⟨c.connection, link, none⟩ r).2.incoming) :
    Settled b (c.after t') (Turn.answer ⟨c.connection, link, none⟩ r).1 := by
  intro hsuccess
  obtain ⟨hid, -, -, -, -, hcase⟩ := Turn.answer_spec ⟨c.connection, link, none⟩ r
  rw [Book.Settles, hid]
  refine ⟨hcarries.1, fun q hq hqid => ?_⟩
  have hrq : r = q.request := hcarries.2 q hq hqid
  rcases hcase with ⟨-, -, hsome⟩ | ⟨-, hempty⟩
  · refine ⟨Turn.incomingOf c.connection.socket r, ?_, ?_⟩
    · rw [hqid, Client.after, hr, hincoming, hsome]
      exact List.mem_append_right _ (List.mem_singleton.2 rfl)
    · rw [hrq]
      rfl
  · have hpath : q.request.path = Path.queueEmpty := hrq ▸ hempty hsuccess
    have hne : Path.message ≠ Path.queueEmpty := by decide
    exact absurd hpath hne

/-- **The streams after a step of the keeper.** The answers of the keeper are put behind what is on
its way up; all else that it writes is no response. -/
theorem streams_keeper {P P' : Wire.Response → Prop} {Q : Wire.Request → Prop}
    {uttered : Option (Purpose × Message)} {heard : Option Message}
    (hup : Upstream n c.connection v P) (hdown : Downstream c.connection v Q)
    (hlinked : linkOf? c.connection = some n)
    (hqueued : ∀ m ∈ c.connection.queued, ∃ r, m = .ofRequest r)
    (hacts : Acts ⟨c.connection, v.near, none⟩ uttered heard t') (hmono : ∀ r, P r → P' r)
    (hanswer : ∀ r, c.connection.phase.request? = some r → Q r →
      t'.incoming = (Turn.answer ⟨c.connection, v.near, none⟩ r).2.incoming →
      P' (Turn.answer ⟨c.connection, v.near, none⟩ r).1) :
    Upstream n t'.connection { v with near := t'.link } P' ∧
      (linkOf? t'.connection = some n → Downstream t'.connection { v with near := t'.link } Q) := by
  obtain ⟨ms, hrises, hms⟩ := hup
  obtain ⟨ms', hfalls, hms'⟩ := hdown
  obtain ⟨rest, rfl, hrest⟩ := hfalls.keeper hacts
  refine ⟨⟨_, hrises.keeper hlinked hacts, ?_⟩, fun hstill => ⟨rest, hrest (by rw [hstill]; nofun),
    fun m hm => hms' m (List.mem_append_right _ hm)⟩⟩
  intro m hm r hr
  rcases List.mem_append.1 hm with hm | hm
  · exact hmono r (hms m hm r hr)
  · obtain ⟨x, hx, rfl⟩ := List.mem_map.1 (List.mem_filter.1 hm).1
    obtain rfl := Option.mem_toList.1 hx
    cases hacts with
    | sends live window m queue _ hphase houtbox =>
      obtain ⟨q, rfl⟩ := hqueued m (by
        rw [Connection.queued, show c.connection.outbox = _ from houtbox]
        exact List.mem_cons_self ..)
      cases hr
    | probes => cases hr
    | answers live decoder m q _ hphase hnext hkind hq h =>
      obtain rfl := Option.some.inj hr
      refine hanswer q ?_ (hms' m (List.mem_append_left _ (List.mem_singleton.2 rfl)) q hq)
        h.leaves.incoming
      rw [show c.connection.phase = _ from hphase, Keeper.Phase.request?, hnext]
      exact hq

/-- **A step of the keeper keeps the socket sound.** -/
theorem Sound.keeper (h : v.Sound b m login n c) (hlinked : linkOf? c.connection = some n)
    (hqueued : ∀ m ∈ c.connection.queued, ∃ r, m = .ofRequest r)
    {uttered : Option (Purpose × Message)} {heard : Option Message}
    (hacts : Acts ⟨c.connection, v.near, none⟩ uttered heard t') :
    Sound b m login n (c.after t') { v with near := t'.link } := by
  refine ⟨fun deadline hphase => ?_, fun line hline => ?_⟩
  · obtain ⟨hup, hdown⟩ := h.greeting deadline hphase
    exact streams_keeper hup (hdown hlinked) hlinked hqueued hacts (fun _ hr => hr)
      (fun _ _ hr _ => hr)
  · obtain ⟨hserves, hup, hdown⟩ := h.serving line hline
    exact ⟨hserves, streams_keeper hup (hdown hlinked) hlinked hqueued hacts
      (fun _ hr => hr.mono (.refl b) fun _ hq => hasReceived_after hq t')
      (fun _ hr hcarries hincoming => settled_answer hcarries hr hincoming)⟩

/-- **A new socket is sound**: there is nothing on it but a handshake. -/
theorem Sound.connected {u : Keeper.Turn} {hello : Handshake} (id : UInt64) (now k : Nat)
    (hlink : u.link = {}) (hleaves : u.Leaves n .new (offer (.ofHandshake hello)) t') :
    Sound b m login n (c.after t')
      { session := .start id now, near := t'.link, owner := some k } := by
  refine ⟨fun deadline _ => ⟨⟨_, rises_connected id now k hlink hleaves, ?_⟩, fun hlinked =>
    ⟨[], falls_connected id now k hlink hleaves ?_, nofun⟩⟩, nofun⟩
  · intro m' hm' r hr
    rw [List.mem_singleton.1 (List.mem_filter.1 hm').1] at hr
    cases hr
  · rw [show linkOf? t'.connection = _ from hlinked]
    nofun

end ChatSockets.Visit
