import ChatSockets.Proofs.Server.Session

/-!
# The custody of messages

A `Book` says of one login which messages are known and how many ids were drawn so far. It is sound
if every message has an id of its own that was drawn. From one operation of the mailroom to the next
(`Book.Next`) a message can only get to be known under the id that is drawn meanwhile; so a request
that carries all known messages with its id (`Book.Carries`) always will.

`Session.Changes` lists what a step of a session does to the mailroom. A message leaves its mailbox
only by an acknowledgement of its own id on a session of its login (`Changes.lost`), and a line of a
login is given nothing but its messages (`Mailroom.Serves.follows`).
-/

namespace ChatSockets

/-! ## Books -/

/-- What is known of the messages of one login. -/
structure Book where
  /-- how many ids were drawn -/
  drawn : Nat
  /-- the messages that were accepted for the login -/
  known : Queued → Prop

namespace Book

variable {b b' : Book}

/-- An id was drawn; the first one is 1. -/
def Spent (b : Book) (id : UInt64) : Prop := ∃ k, k < b.drawn ∧ id = .ofNat (k + 1)

/-- Known messages have ids that were drawn, and no two of them have the same. -/
structure Sound (b : Book) : Prop where
  spent : ∀ q, b.known q → b.Spent q.id
  unique : ∀ q q', b.known q → b.known q' → q.id = q'.id → q = q'

/-- No message got to be known under an id that had been drawn. -/
structure Le (b b' : Book) : Prop where
  drawn : b.drawn ≤ b'.drawn
  known : ∀ q, b'.known q → b.known q ∨ ¬ b.Spent q.id

/-- At most one id was drawn, and at most one message got to be known, under this id. -/
def Next (b b' : Book) : Prop :=
  b'.drawn = b.drawn ∧ (∀ q, b'.known q → b.known q) ∨
    b'.drawn = b.drawn + 1 ∧ ∃ q₀ : Queued, q₀.id = .ofNat (b.drawn + 1) ∧
      ∀ q, b'.known q → b.known q ∨ q = q₀

/-- A request carries the known messages that have its id. -/
def Carries (b : Book) (r : Wire.Request) : Prop :=
  b.Spent r.id ∧ ∀ q, b.known q → q.id = r.id → r = q.request

/-- The known messages that have the id of a response were received. -/
def Settles (b : Book) (received : Queued → Prop) (r : Wire.Response) : Prop :=
  b.Spent r.id ∧ ∀ q, b.known q → q.id = r.id → received q

theorem Spent.mono {id : UInt64} (h : b.Spent id) (hle : b.drawn ≤ b'.drawn) : b'.Spent id := by
  obtain ⟨k, hk, hid⟩ := h
  exact ⟨k, by omega, hid⟩

/-- Of the first `2 ^ 64` ids the next one was not drawn before. -/
theorem not_spent_next (h : b.drawn < UInt64.size) : ¬ b.Spent (.ofNat (b.drawn + 1)) := by
  rintro ⟨k, hk, hid⟩
  have hmod := congrArg UInt64.toNat hid
  simp only [UInt64.toNat_ofNat'] at hmod
  have hsize : UInt64.size = 2 ^ 64 := rfl
  omega

theorem Le.refl (b : Book) : b.Le b := ⟨Nat.le_refl _, fun _ => .inl⟩

/-- **What one operation does to a book.** -/
theorem Next.sound (h : b.Next b') (hsound : b.Sound) (hdrawn : b'.drawn ≤ UInt64.size) :
    b.Le b' ∧ b'.Sound := by
  rcases h with ⟨hsame, hknown⟩ | ⟨hnext, q₀, hid, hknown⟩
  · refine ⟨⟨Nat.le_of_eq hsame.symm, fun q hq => .inl (hknown q hq)⟩, ?_, ?_⟩
    · exact fun q hq => (hsound.spent q (hknown q hq)).mono (Nat.le_of_eq hsame.symm)
    · exact fun q q' hq hq' => hsound.unique q q' (hknown q hq) (hknown q' hq')
  · have hle : b.drawn ≤ b'.drawn := by omega
    have hfresh : ¬ b.Spent q₀.id := by
      rw [hid]
      exact not_spent_next (by omega)
    refine ⟨⟨hle, ?_⟩, ?_, ?_⟩
    · intro q hq
      rcases hknown q hq with hold | rfl
      · exact .inl hold
      · exact .inr hfresh
    · intro q hq
      rcases hknown q hq with hold | rfl
      · exact (hsound.spent q hold).mono hle
      · exact ⟨b.drawn, by omega, hid⟩
    · intro q q' hq hq' hids
      rcases hknown q hq with hold | rfl <;> rcases hknown q' hq' with hold' | rfl
      · exact hsound.unique q q' hold hold' hids
      · exact absurd (hids ▸ hsound.spent q hold) hfresh
      · exact absurd (hids ▸ hsound.spent q' hold') hfresh
      · rfl

/-- The request of a known message carries it and nothing else. -/
theorem Sound.carries (h : b.Sound) {q : Queued} (hq : b.known q) : b.Carries q.request := by
  refine ⟨h.spent q hq, fun q' hq' hids => ?_⟩
  rw [h.unique q' q hq' hq hids]

theorem Carries.mono {r : Wire.Request} (h : b.Carries r) (hle : b.Le b') : b'.Carries r := by
  refine ⟨h.1.mono hle.drawn, fun q hq hid => ?_⟩
  rcases hle.known q hq with hold | hfresh
  · exact h.2 q hold hid
  · exact absurd (hid ▸ h.1) hfresh

theorem Settles.mono {received received' : Queued → Prop} {r : Wire.Response}
    (h : b.Settles received r) (hle : b.Le b') (hreceived : ∀ q, received q → received' q) :
    b'.Settles received' r := by
  refine ⟨h.1.mono hle.drawn, fun q hq hid => ?_⟩
  rcases hle.known q hq with hold | hfresh
  · exact hreceived q (h.2 q hold hid)
  · exact absurd (hid ▸ h.1) hfresh

end Book

/-! ## Lines -/

namespace Mailroom

/-- A line was opened, belongs to a login, and holds only requests that carry its messages. -/
structure Serves (m : Mailroom) (b : Book) (login : String) (line : Nat) : Prop where
  opened : line < m.nextLine
  /-- the live session of no other login has the line -/
  only : ∀ other h, m.live.get? other = some h → h.line = line → other = login
  carries : ∀ r ∈ m.onLine line, b.Carries r

/-- All live sessions have lines that were opened. -/
def LiveOpened (m : Mailroom) : Prop := ∀ login h, m.live.get? login = some h → h.line < m.nextLine

/-- One mailroom comes of another by operations, as far as the lines and live sessions show: a live
session begins with a line that is new, and a line is given only messages of its login. -/
structure Follows (m m' : Mailroom) : Prop where
  nextLine : m.nextLine ≤ m'.nextLine
  live : ∀ login h, m'.live.get? login = some h →
    m.live.get? login = some h ∨ h.line = m.nextLine ∧ m.nextLine < m'.nextLine
  onLine : ∀ line, line < m.nextLine → ∀ r ∈ m'.onLine line, r ∈ m.onLine line ∨
    ∃ login h q, m.live.get? login = some h ∧ h.line = line ∧ r = Queued.request q ∧
      q ∈ m'.mailbox login

variable {m m' : Mailroom}

theorem LiveOpened.follows (h : m.LiveOpened) (hf : m.Follows m') : m'.LiveOpened := by
  intro login handle hlive
  have := hf.nextLine
  rcases hf.live login handle hlive with hold | ⟨hline, hnew⟩
  · have := h login handle hold
    omega
  · omega

/-- **A line goes on to serve its login.** -/
theorem Serves.follows {b b' : Book} {login : String} {line : Nat} (h : m.Serves b login line)
    (hf : m.Follows m') (hle : b.Le b') (hsound : b'.Sound)
    (hknown : ∀ q ∈ m'.mailbox login, b'.known q) : m'.Serves b' login line := by
  refine ⟨Nat.lt_of_lt_of_le h.opened hf.nextLine, ?_, ?_⟩
  · intro other handle hlive hline
    rcases hf.live other handle hlive with hold | ⟨hnew, -⟩
    · exact h.only other handle hold hline
    · have := h.opened
      omega
  · intro r hr
    rcases hf.onLine line h.opened r hr with hold | ⟨other, handle, q, hlive, hline, rfl, hq⟩
    · exact (h.carries r hold).mono hle
    · obtain rfl : other = login := h.only other handle hlive hline
      exact hsound.carries (hknown q hq)

/-! ### What the operations do to lines -/

theorem Follows.refl (m : Mailroom) : m.Follows m :=
  ⟨Nat.le_refl _, fun _ _ => .inl, fun _ _ _ => .inl⟩

theorem follows_post (m : Mailroom) (login : String) (q : Queued) :
    m.Follows (m.post login q).2 := by
  refine ⟨Nat.le_of_eq (m.post_next login q).2.symm, fun _ _ hlive => .inl (live_post hlive), ?_⟩
  intro line _ r hr
  rcases m.onLine_post login q line with hsame | ⟨⟨h, hlive, hline⟩, hmore⟩
  · exact .inl (hsame ▸ hr)
  · rw [hmore] at hr
    rcases List.mem_append.1 hr with hr | hr
    · exact .inl hr
    · refine .inr ⟨login, h, q, hlive, hline, List.mem_singleton.1 hr, ?_⟩
      rw [mailbox_post, if_pos rfl]
      exact List.mem_append_right _ (List.mem_singleton.2 rfl)

theorem follows_deliver (m : Mailroom) (now : Nat) (login : String) (body : ByteArray) :
    m.Follows (m.deliver now login body).2 := by
  rw [deliver_eq]
  split
  · obtain ⟨hnext, hlive, honLine⟩ := m.draw.2.follows_post login ⟨m.nextId, body, now⟩
    exact ⟨hnext, hlive, honLine⟩
  · exact .refl m

theorem follows_receive? {line : Nat} {r : Wire.Request} (h : m.receive? line = some (r, m')) :
    m.Follows m' := by
  obtain ⟨hline, hother⟩ := onLine_receive? h
  obtain ⟨rest, -, rfl⟩ := receive?_eq_some h
  refine ⟨Nat.le_refl _, fun _ _ => .inl, fun other _ r' hr' => .inl ?_⟩
  by_cases ho : other = line
  · subst ho
    rw [hline]
    exact List.mem_cons_of_mem _ hr'
  · rwa [hother other ho] at hr'

theorem follows_acknowledge (m : Mailroom) (login : String) (id : UInt64) :
    m.Follows (m.acknowledge login id).2 := by
  obtain ⟨mailboxes, hboxes⟩ := m.acknowledge_eq login id
  rw [hboxes]
  exact ⟨Nat.le_refl _, fun _ _ => .inl, fun _ _ _ => .inl⟩

theorem follows_enter (m : Mailroom) (login : String) (session : UInt64) :
    m.Follows (m.openLine.2.register login ⟨session, m.nextLine⟩).2 := by
  refine ⟨Nat.le_succ _, ?_, ?_⟩
  · intro other h hlive
    rw [live_register] at hlive
    split at hlive
    · cases hlive
      exact .inr ⟨rfl, Nat.lt_succ_self _⟩
    · exact .inl hlive
  · intro line hline r hr
    rw [onLine_register, if_neg fun h => Nat.ne_of_lt hline h.1, onLine_openLine,
      if_neg (Nat.ne_of_lt hline)] at hr
    exact .inl hr

/-- A session that leaves takes its line and its account's live session away, and nothing else. -/
theorem leave_spec (m : Mailroom) (line : Nat) (login : String) (session : UInt64) :
    let m' := (m.hangUp line).unregister login session
    m'.nextLine = m.nextLine ∧ m'.nextId = m.nextId ∧
      (∀ other h, m'.live.get? other = some h → m.live.get? other = some h) ∧
      (∀ other, ∀ r ∈ m'.onLine other, r ∈ m.onLine other) ∧
      ∀ other, m'.mailbox other = m.mailbox other := by
  have hline : ∀ other, ∀ r ∈ (m.hangUp line).onLine other, r ∈ m.onLine other := by
    intro other r hr
    rw [onLine_hangUp] at hr
    split at hr
    · cases hr
    · exact hr
  refine ⟨?_, ?_, fun _ _ => live_unregister (m := m.hangUp line), ?_, fun other => ?_⟩
  · rcases (m.hangUp line).unregister_eq login session with h | h <;> rw [h] <;> rfl
  · rcases (m.hangUp line).unregister_eq login session with h | h <;> rw [h] <;> rfl
  · intro other r hr
    apply hline other r
    rcases (m.hangUp line).unregister_eq login session with h | h <;> rwa [h] at hr
  · rw [mailbox_unregister, mailbox_hangUp]

/-- What follows a mailroom that a session is about to leave still follows it after that. -/
theorem Follows.leave (h : m.Follows m') (line : Nat) (login : String) (session : UInt64) :
    m.Follows ((m'.hangUp line).unregister login session) := by
  obtain ⟨hnext, -, hlive, honLine, hmailbox⟩ := m'.leave_spec line login session
  refine ⟨by rw [hnext]; exact h.nextLine, ?_, ?_⟩
  · intro other handle hother
    rw [hnext]
    exact h.live other handle (hlive other handle hother)
  · intro other hother r hr
    rcases h.onLine other hother r (honLine other r hr) with
      hold | ⟨login', handle, q, hlive', hline, hrq, hq⟩
    · exact .inl hold
    · exact .inr ⟨login', handle, q, hlive', hline, hrq, by rw [hmailbox]; exact hq⟩

end Mailroom

/-! ## What a session does to the mailroom -/

namespace Session

/-- What a step of a session does to the mailroom, before it leaves if it does. -/
inductive Changes (wallClock : Nat) (t : Turn) : Mailroom → Prop
  | nothing : Changes wallClock t t.mailroom
  /-- it signs in on a new line -/
  | enters (login : String) : Changes wallClock t
      (t.mailroom.openLine.2.register login ⟨t.session.id, t.mailroom.nextLine⟩).2
  | delivers (login : String) (body : ByteArray) :
    Changes wallClock t (t.mailroom.deliver wallClock login body).2
  /-- it takes a request from its line -/
  | receives (line : Nat) (r : Wire.Request) (m : Mailroom)
    (hline : t.mailroom.receive? line = some (r, m)) : Changes wallClock t m
  /-- a response that says that a request succeeded is seen on a session that is signed in -/
  | acknowledges (i : SignIn) (message : Wire.Message) (decoder : Wire.Decoder) (r : Wire.Response)
    (hi : t.session.phase.signIn? = some i)
    (hnext : t.session.decoder.next = (.ok (some message), decoder))
    (hr : message.response = some r) (hsuccess : r.isSuccess = true) :
    Changes wallClock t (t.mailroom.acknowledge i.login r.id).2

variable {wallClock : Nat} {t t' : Turn} {m : Mailroom}

/-- A message that is written leaves the mailroom as it is, or the session leaves it. -/
theorem Turn.writeMessage_mailroom (t : Turn) (signIn : Option SignIn) (message : Wire.Message) :
    (t.writeMessage signIn message).mailroom = t.mailroom ∨
      ∃ i : SignIn, (t.writeMessage signIn message).mailroom =
        (t.mailroom.hangUp i.line).unregister i.login t.session.id := by
  rcases t.writeMessage_cases signIn message with ⟨e, hout⟩ | ⟨-, hgoes⟩
  · rw [hout, (t.signOut_eq signIn _).2.2]
    cases signIn with
    | none => exact .inl rfl
    | some i => exact .inr ⟨i, rfl⟩
  · exact .inl hgoes.mailroom

/-- A session that leaves takes no message out of a mailbox, and puts none into one. -/
theorem Turn.mailbox_signOut (t : Turn) (signIn : Option SignIn)
    (result : Except SessionError Unit) (login : String) :
    (t.signOut signIn result).mailroom.mailbox login = t.mailroom.mailbox login := by
  rw [(t.signOut_eq signIn result).2.2]
  cases signIn with
  | none => rfl
  | some i => exact (t.mailroom.leave_spec i.line i.login t.session.id).2.2.2.2 login

/-- A message that is written leaves all mailboxes as they are. -/
theorem Turn.mailbox_writeMessage (t : Turn) (signIn : Option SignIn) (message : Wire.Message)
    (login : String) :
    (t.writeMessage signIn message).mailroom.mailbox login = t.mailroom.mailbox login := by
  rcases t.writeMessage_mailroom signIn message with hsame | ⟨i, hleft⟩
  · rw [hsame]
  · rw [hleft, (t.mailroom.leave_spec i.line i.login t.session.id).2.2.2.2]

/-- **What a step does to the mailroom**: one change, after which the session may leave. -/
theorem Does.changes {heard : Option Wire.Message} (h : Does wallClock t heard t') :
    ∃ m, Changes wallClock t m ∧ (t'.mailroom = m ∨ ∃ i : SignIn, t'.mailroom =
      (m.hangUp i.line).unregister i.login t.session.id) := by
  cases h with
  | nothing => exact ⟨_, .nothing, .inl rfl⟩
  | takes b up hread => exact ⟨_, .nothing, .inl rfl⟩
  | ends decoder result =>
    refine ⟨_, .nothing, ?_⟩
    rw [(Turn.signOut_eq _ _ result).2.2]
    cases t.session.phase.signIn? with
    | none => exact .inl rfl
    | some i => exact .inr ⟨i, rfl⟩
  | greets deadline message decoder hphase hnext =>
    rcases greet_cases (t.withDecoder decoder) message with ⟨e, heq⟩ | heq | ⟨login, -, heq⟩
    · exact ⟨_, .nothing, .inl (by rw [heq]; rfl)⟩
    · exact ⟨_, .nothing, .inl (by rw [heq]; rfl)⟩
    · exact ⟨_, .enters login, .inl (by rw [heq]; rfl)⟩
  | handles signIn message decoder hphase hnext =>
    rcases handle_cases (t.withDecoder decoder) wallClock signIn message with
      heq | ⟨r, -, -, heq⟩ | ⟨r, i, -, hr, rfl, hsuccess, heq⟩
    · exact ⟨_, .nothing, .inl (by rw [heq]; rfl)⟩
    · rw [heq]
      rcases answer_cases t.mailroom wallClock (signIn.map SignIn.login) r with
        hsame | ⟨recipient, -, -, hdelivers⟩
      · refine ⟨_, .nothing, ?_⟩
        rw [← hsame]
        exact Turn.writeMessage_mailroom _ signIn _
      · refine ⟨_, .delivers recipient r.body, ?_⟩
        rw [← hdelivers]
        exact Turn.writeMessage_mailroom _ signIn _
    · rw [heq]
      exact ⟨_, .acknowledges i message decoder r (by rw [hphase]; rfl) hnext hr hsuccess, .inl rfl⟩
  | passes i r m hphase hline =>
    exact ⟨m, .receives i.line r m hline, Turn.writeMessage_mailroom _ (some i) _⟩
  | writes signIn rest hphase =>
    refine ⟨_, .nothing, ?_⟩
    rcases t.write_cases signIn rest with hout | hgoes
    · rw [hout, (t.signOut_eq signIn _).2.2]
      cases signIn with
      | none => exact .inl rfl
      | some i => exact .inr ⟨i, rfl⟩
    · exact .inl hgoes.mailroom

/-- What a session does to the lines. -/
theorem Changes.follows (h : Changes wallClock t m) : t.mailroom.Follows m := by
  cases h with
  | nothing => exact .refl _
  | enters login => exact t.mailroom.follows_enter login t.session.id
  | delivers login body => exact t.mailroom.follows_deliver wallClock login body
  | receives line r _ hline => exact Mailroom.follows_receive? hline
  | acknowledges i _ _ r => exact t.mailroom.follows_acknowledge i.login r.id

/-- At most one id is drawn, and at most one message gets into a mailbox, under this id. -/
theorem Changes.next (h : Changes wallClock t m) (login : String) :
    m.nextId = t.mailroom.nextId ∧ (∀ q ∈ m.mailbox login, q ∈ t.mailroom.mailbox login) ∨
      m.nextId = t.mailroom.nextId + 1 ∧ ∃ q₀ : Queued, q₀.id = t.mailroom.nextId ∧
        ∀ q ∈ m.mailbox login, q ∈ t.mailroom.mailbox login ∨ q = q₀ := by
  cases h with
  | nothing => exact .inl ⟨rfl, fun _ hq => hq⟩
  | enters => exact .inr ⟨rfl, ⟨t.mailroom.nextId, .empty, 0⟩, rfl, fun _ => .inl⟩
  | delivers recipient body =>
    have hmailbox := t.mailroom.mailbox_deliver wallClock recipient body login
    by_cases haccount : t.mailroom.hasAccount recipient = true
    · have hnext : (t.mailroom.deliver wallClock recipient body).2.nextId =
          t.mailroom.nextId + 1 := by
        rw [Mailroom.deliver_eq, if_pos haccount]
        exact (t.mailroom.draw.2.post_next recipient _).1
      refine .inr ⟨hnext, ⟨t.mailroom.nextId, body, wallClock⟩, rfl, fun q hq => ?_⟩
      rw [hmailbox] at hq
      split at hq
      · next hlogin =>
        rw [hlogin.1]
        rcases List.mem_append.1 hq with hq | hq
        · exact .inl hq
        · exact .inr (List.mem_singleton.1 hq)
      · exact .inl hq
    · rw [Mailroom.deliver_eq, if_neg haccount]
      exact .inl ⟨rfl, fun _ hq => hq⟩
  | receives line r _ hline =>
    refine .inl ⟨?_, fun q hq => by rwa [Mailroom.mailbox_receive? hline] at hq⟩
    obtain ⟨rest, -, rfl⟩ := Mailroom.receive?_eq_some hline
    rfl
  | acknowledges i message decoder r =>
    refine .inl ⟨?_, fun q hq => ?_⟩
    · obtain ⟨mailboxes, hboxes⟩ := t.mailroom.acknowledge_eq i.login r.id
      rw [hboxes]
    · rw [Mailroom.mailbox_acknowledge] at hq
      split at hq
      · next hlogin =>
        rw [hlogin]
        exact List.mem_of_mem_eraseP hq
      · exact hq

/-- **A message leaves its mailbox only as it is acknowledged**, by a response with its id on a
session of its login. -/
theorem Changes.lost (h : Changes wallClock t m) {login : String} {q : Queued}
    (hq : q ∈ t.mailroom.mailbox login) :
    q ∈ m.mailbox login ∨ ∃ (i : SignIn) (message : Wire.Message) (decoder : Wire.Decoder)
      (r : Wire.Response), t.session.phase.signIn? = some i ∧ i.login = login ∧
        t.session.decoder.next = (.ok (some message), decoder) ∧ message.response = some r ∧
        r.isSuccess = true ∧ q.id = r.id := by
  cases h with
  | nothing => exact .inl hq
  | enters => exact .inl hq
  | delivers recipient body =>
    rw [Mailroom.mailbox_deliver]
    split
    · next hlogin =>
      rw [hlogin.1] at hq
      exact .inl (List.mem_append_left _ hq)
    · exact .inl hq
  | receives line r _ hline => exact .inl (by rwa [Mailroom.mailbox_receive? hline])
  | acknowledges i message decoder r hi hnext hr hsuccess =>
    rw [Mailroom.mailbox_acknowledge]
    split
    · next hlogin =>
      by_cases hid : q.id = r.id
      · exact .inr ⟨i, message, decoder, r, hi, hlogin.symm, hnext, hr, hsuccess, hid⟩
      · rw [hlogin] at hq
        exact .inl ((List.mem_eraseP_of_neg (by simpa using hid)).2 hq)
    · exact .inl hq

end Session

end ChatSockets
