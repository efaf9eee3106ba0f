import ChatSockets.Proofs.Server.Deeds
import ChatSockets.Proofs.Wire.Faults

/-!
# A session and what its client sends

After the handshake a session serves its client (`Phase.Serves`): it waits for something to do, or
it is writing. `Action` is one step of it, with the message that it took and what it set out to
write, and the mailroom before and after. `Action.Right` is what the two have to do with each other:
a request is answered and nothing else is, and the mailboxes are as the message leaves them
(`step_right`).

`Listens` says what becomes of the bytes that come up, while the pipe to the client is open and what
is to be written has a frame: they are taken, the messages in them are heard one by one, and the
session ends only at a bad frame or at the end of the stream (`step_listens`).
-/

namespace ChatSockets.Session

open Wire

/-- A session is past the handshake and has not ended. -/
def Phase.Serves (signIn : Option SignIn) (phase : Phase) : Prop :=
  phase = .serving signIn ∨ ∃ rest, phase = .writing signIn rest ∧ rest.size ≠ 0

theorem Phase.Serves.not_ended {signIn : Option SignIn} {phase : Phase} (h : phase.Serves signIn)
    (result : Except SessionError Unit) : phase ≠ .ended result := by
  rintro rfl
  rcases h with h | ⟨_, h, -⟩ <;> cases h

theorem Phase.Serves.result? {signIn : Option SignIn} {s : Session} (h : s.phase.Serves signIn) :
    s.result? = none := by
  unfold Session.result?
  split
  · next result hended => exact absurd hended (h.not_ended result)
  · rfl

/-! ## What is done for a message -/

/-- The request that is answered, with the answer. -/
def Remark.reply? : Remark → Option (Wire.Request × Wire.Response)
  | .push _ => none
  | .reply r w => some (r, w)

/-- The responses among what a session says are its replies. -/
theorem answered?_message (x : Remark) : x.message.answered? = x.reply?.map Prod.snd := by
  cases x <;> rfl

/-- The mailbox of a login after a session took a message: a request may bring a message for the
login, and a response that says that a request succeeded is an acknowledgement. -/
def boxAfter (room : Mailroom) (wallClock : Nat) (signIn : Option SignIn) (m : Message)
    (login : String) : List Queued :=
  match m.asked?, m.answered?, signIn with
  | some r, _, _ =>
    if r.verb = "PUT" ∧ r.path = Path.messagesTo ++ login ∧ room.hasAccount login = true then
      room.mailbox login ++ [⟨room.nextId, r.body, wallClock⟩]
    else room.mailbox login
  | none, some w, some i =>
    if w.isSuccess = true ∧ i.login = login then (room.mailbox login).eraseP (·.id = w.id)
    else room.mailbox login
  | _, _, _ => room.mailbox login

/-- One step of a session. -/
structure Action where
  wallClock : Nat
  /-- the message that it took -/
  heard : Option Message
  /-- what it set out to write -/
  said : Option Remark
  before : Mailroom
  after : Mailroom

/-- A step as an action. -/
def action (branch : Branch) (now wallClock : Nat) (t : Turn) : Action where
  wallClock
  heard := hears branch t
  said := remark? branch wallClock t
  before := t.mailroom
  after := (step branch now wallClock t).mailroom

/-- A session that serves a client answers exactly the request that it takes, and leaves every
mailbox as the message that it takes does. -/
structure Action.Right (signIn : Option SignIn) (a : Action) : Prop where
  reply : a.said.bind Remark.reply? = (a.heard.bind Message.asked?).map fun r =>
    (r, (answer a.before a.wallClock (signIn.map SignIn.login) r).1)
  boxes : ∀ login, a.after.mailbox login =
    a.heard.elim (a.before.mailbox login) (boxAfter a.before a.wallClock signIn · login)

variable {branch : Branch} {now wallClock : Nat} {t t' u : Turn} {signIn : Option SignIn}

/-- An answer leaves a mailbox as it is, unless the request brings a message for its login. -/
theorem mailbox_answer (m : Mailroom) (wallClock : Nat) (asker : Option String) (r : Wire.Request)
    (login : String) :
    (answer m wallClock asker r).2.mailbox login =
      if r.verb = "PUT" ∧ r.path = Path.messagesTo ++ login ∧ m.hasAccount login = true then
        m.mailbox login ++ [⟨m.nextId, r.body, wallClock⟩]
      else m.mailbox login := by
  by_cases hbrings : r.verb = "PUT" ∧ r.path = Path.messagesTo ++ login ∧ m.hasAccount login = true
  · obtain ⟨hverb, hpath, haccount⟩ := hbrings
    rw [if_pos ⟨hverb, hpath, haccount⟩, answer_of_message hverb hpath, if_pos haccount,
      Mailroom.mailbox_deliver, if_pos ⟨rfl, haccount⟩]
  · rw [if_neg hbrings]
    rcases answer_cases m wallClock asker r with hsame | ⟨recipient, hverb, hpath, hdelivers⟩
    · rw [hsame]
    · rw [hdelivers, Mailroom.mailbox_deliver, if_neg]
      rintro ⟨rfl, haccount⟩
      exact hbrings ⟨hverb, hpath, haccount⟩

/-- What is done for a message leaves the mailboxes as the message does. -/
theorem mailbox_handle (t : Turn) (wallClock : Nat) (signIn : Option SignIn) (m : Message)
    (login : String) :
    (handle t wallClock signIn m).mailroom.mailbox login =
      boxAfter t.mailroom wallClock signIn m login := by
  unfold boxAfter Message.asked? Message.answered? handle
  cases hkind : m.kindOf with
  | request =>
    cases hrequest : m.request with
    | none => rfl
    | some r =>
      dsimp only
      rw [Turn.mailbox_writeMessage]
      exact mailbox_answer ..
  | response =>
    cases hresponse : m.response with
    | none => rfl
    | some w =>
      cases signIn with
      | none => rfl
      | some i =>
        dsimp only
        by_cases hsuccess : w.isSuccess = true
        · rw [if_pos hsuccess, Mailroom.mailbox_acknowledge]
          by_cases hlogin : i.login = login
          · rw [if_pos hlogin.symm, if_pos ⟨hsuccess, hlogin⟩, hlogin]
          · rw [if_neg (Ne.symm hlogin), if_neg fun h => hlogin h.2]
        · rw [if_neg hsuccess, if_neg fun h => hsuccess h.1]
  | unknown => rfl
  | handshake => rfl

/-- A request is answered, and nothing else is. -/
theorem reply?_replyTo? (wallClock : Nat) (t : Turn) (signIn : Option SignIn) (m : Message) :
    (replyTo? wallClock t signIn m).bind Remark.reply? = m.asked?.map fun r =>
      (r, (answer t.mailroom wallClock (signIn.map SignIn.login) r).1) := by
  unfold replyTo? Message.asked?
  cases m.kindOf <;> cases m.request <;> rfl

/-- A session that reads takes what its decoder gives, and says the answer to it. -/
theorem hears_frame (hserves : t.session.phase = .serving signIn) (wallClock : Nat) :
    hears .frame t = t.session.decoder.message? ∧
      remark? .frame wallClock t =
        t.session.decoder.message?.bind (replyTo? wallClock t signIn) := by
  simp only [hears, remark?, hserves, and_self]

/-- A session that looks at its line takes nothing from its client. -/
theorem hears_push (hserves : t.session.phase = .serving signIn) : hears .push t = none := by
  simp only [hears, hserves]

/-- **What a session does for what it takes** is right. -/
theorem step_right (hphase : t.session.phase.Serves signIn ∨
      ∃ result, t.session.phase = .ended result) (branch : Branch) (now wallClock : Nat) :
    (action branch now wallClock t).Right signIn := by
  have hquiet : hears branch t = none → (remark? branch wallClock t).bind Remark.reply? = none →
      (action branch now wallClock t).Right signIn := by
    intro hheard hsaid
    refine ⟨?_, fun login => ?_⟩
    · show (remark? branch wallClock t).bind _ = _
      rw [hsaid, action, hheard]
      rfl
    · have hdoes := step_does branch now wallClock t
      rw [hheard] at hdoes
      rw [action, hheard]
      exact hdoes.mailbox_of_silent login
  rcases hphase with (hserves | ⟨rest, hwrites, -⟩) | ⟨result, hended⟩
  · cases branch with
    | push =>
      refine hquiet (hears_push hserves) ?_
      cases signIn with
      | none => simp only [remark?, hserves, Option.bind_none]
      | some i =>
        simp only [remark?, hserves]
        cases t.mailroom.receive? i.line <;> rfl
    | frame =>
      obtain ⟨hheard, hsaid⟩ := hears_frame hserves wallClock
      cases hmessage : t.session.decoder.message? with
      | none =>
        rw [hmessage] at hheard hsaid
        exact hquiet hheard (by rw [hsaid]; rfl)
      | some m =>
        rw [hmessage] at hheard hsaid
        obtain ⟨-, decoder, hnext⟩ := hears_of_serving hserves hheard
        refine ⟨?_, fun login => ?_⟩
        · rw [action, hheard, hsaid]
          exact reply?_replyTo? wallClock t signIn m
        · rw [action, hheard, step_handles hserves hnext]
          exact mailbox_handle (t.withDecoder decoder) wallClock signIn m login
  · exact hquiet (by simp only [hears, hwrites]) (by simp only [remark?, hwrites, Option.bind_none])
  · exact hquiet (by simp only [hears, hended]) (by simp only [remark?, hended, Option.bind_none])

/-! ## What becomes of the bytes that come up -/

/-- A session serves on, with a decoder and what is left to come up. -/
structure Turn.ServesOn (signIn : Option SignIn) (decoder : Decoder) (up : Pipe) (t' : Turn) :
    Prop where
  phase : t'.session.phase.Serves signIn
  decoder : t'.session.decoder = decoder
  up : t'.link.up = up
  isOpen : t'.link.down.closed = false

/-- What a step of a session that serves does with the bytes that come up. -/
inductive Listens (signIn : Option SignIn) (branch : Branch) (t : Turn) :
    Option Message → Option Remark → Turn → Prop
  /-- nothing is read, because it is not the turn of that or there is nothing -/
  | waits {t' : Turn} (remark : Option Remark)
    (hquiet : t.session.phase = .serving signIn → branch = .frame →
      t.session.decoder.next = (.ok none, t.session.decoder) ∧ t.link.up.readable = false)
    (h : t'.ServesOn signIn t.session.decoder t.link.up) : Listens signIn branch t none remark t'
  | takes {t' : Turn} (b : ByteArray) (up : Pipe)
    (hread : t.link.up.read Pipe.readSize = (.bytes b, up))
    (h : t'.ServesOn signIn (t.session.decoder.extend b) up) : Listens signIn branch t none none t'
  | hears {t' : Turn} (m : Message) (decoder : Decoder) (remark : Option Remark)
    (hnext : t.session.decoder.next = (.ok (some m), decoder))
    (h : t'.ServesOn signIn decoder t.link.up) : Listens signIn branch t (some m) remark t'
  /-- everything is read and nothing more will come -/
  | finishes (hserves : t.session.phase = .serving signIn)
    (hnext : t.session.decoder.next = (.ok none, t.session.decoder))
    (hended : t.link.up.held.size = 0 ∧ t.link.up.closed = true) :
    Listens signIn branch t none none (t.signOut signIn (.ok ()))
  /-- a frame is bad -/
  | fails (e : FrameError) (decoder : Decoder) (hserves : t.session.phase = .serving signIn)
    (hnext : t.session.decoder.next = (.error e, decoder)) :
    Listens signIn branch t none none
      ((t.withDecoder decoder).signOut signIn (.error (.frame e)))

/-- A session that writes to an open pipe serves on. -/
theorem Turn.servesOn_write (hopen : u.link.down.closed = false) (signIn : Option SignIn)
    (b : ByteArray) : (u.write signIn b).ServesOn signIn u.session.decoder u.link.up := by
  obtain ⟨rest, down, hwrite⟩ := Pipe.exists_write? hopen b
  obtain ⟨-, hopen', -⟩ := Pipe.write?_eq_some hwrite
  unfold Turn.write
  rw [hwrite]
  refine ⟨?_, rfl, rfl, hopen'⟩
  dsimp only
  by_cases hrest : rest.isEmpty = true
  · rw [if_pos hrest]
    exact .inl rfl
  · rw [if_neg hrest]
    exact .inr ⟨rest, rfl, by simpa [ByteArray.isEmpty] using hrest⟩

theorem Turn.servesOn_writeMessage (hopen : u.link.down.closed = false) {m : Message}
    (hfit : m.length ≤ Frame.maxLength) (signIn : Option SignIn) :
    (u.writeMessage signIn m).ServesOn signIn u.session.decoder u.link.up := by
  unfold Turn.writeMessage
  rw [Frame.encode_of_le hfit]
  exact u.servesOn_write hopen signIn _

/-- A session that handles a message serves on. -/
theorem servesOn_handle (hserves : t.session.phase = .serving signIn)
    (hopen : t.link.down.closed = false) {m : Message} (decoder : Decoder)
    (hfits : ∀ x ∈ replyTo? wallClock t signIn m, x.message.length ≤ Frame.maxLength) :
    (handle (t.withDecoder decoder) wallClock signIn m).ServesOn signIn decoder t.link.up := by
  rcases handle_cases (t.withDecoder decoder) wallClock signIn m with
    heq | ⟨r, hkind, hr, heq⟩ | ⟨r, i, -, -, -, -, heq⟩
  · rw [heq]
    exact ⟨.inl hserves, rfl, rfl, hopen⟩
  · rw [heq]
    have hreply : replyTo? wallClock t signIn m =
        some (.reply r (answer t.mailroom wallClock (signIn.map SignIn.login) r).1) := by
      rw [replyTo?, hkind, hr]
    exact Turn.servesOn_writeMessage (u := { t.withDecoder decoder with
      mailroom := (answer t.mailroom wallClock (signIn.map SignIn.login) r).2 }) hopen
      (hfits _ hreply) signIn
  · rw [heq]
    exact ⟨.inl hserves, rfl, rfl, hopen⟩

/-- A session that passes on a request reads nothing. -/
theorem push_listens (hserves : t.session.phase = .serving signIn)
    (hopen : t.link.down.closed = false)
    (hfits : ∀ x ∈ remark? .push wallClock t, x.message.length ≤ Frame.maxLength) (now : Nat) :
    Listens signIn .push t none (remark? .push wallClock t) (step .push now wallClock t) := by
  have hsame : t.ServesOn signIn t.session.decoder t.link.up := ⟨.inl hserves, rfl, rfl, hopen⟩
  have hnotFrame : Branch.push ≠ .frame := by decide
  refine .waits _ (fun _ hframe => absurd hframe hnotFrame) ?_
  cases signIn with
  | none =>
    simp only [step, hserves]
    exact hsame
  | some i =>
    cases hline : t.mailroom.receive? i.line with
    | none =>
      simp only [step, hserves, hline]
      exact hsame
    | some received =>
      have hsaid : remark? .push wallClock t = some (.push received.1) := by
        simp only [remark?, hserves, hline, Option.map_some]
      rw [step_push hserves hline]
      exact Turn.servesOn_writeMessage (u := { t with mailroom := received.2 }) hopen
        (hfits _ hsaid) (some i)

/-- A session that reads takes what its decoder has to give, and more bytes only if it has nothing.
-/
theorem frame_listens (hserves : t.session.phase = .serving signIn)
    (hopen : t.link.down.closed = false)
    (hfits : ∀ x ∈ t.session.decoder.message?.bind (replyTo? wallClock t signIn),
      x.message.length ≤ Frame.maxLength) (now : Nat) :
    Listens signIn .frame t t.session.decoder.message?
      (t.session.decoder.message?.bind (replyTo? wallClock t signIn))
      (step .frame now wallClock t) := by
  cases hresult : t.session.decoder.next with
  | mk result decoder =>
  cases result with
  | error e =>
    have hready : t.session.decoder.ready = true := by
      by_contra hnot
      cases ((Decoder.ready_eq_false_iff _).1 (by simpa using hnot)).symm.trans hresult
    rw [Decoder.message?_of_error hresult]
    simp only [step, hserves, Turn.read, hready, if_true, hresult]
    exact .fails e decoder hserves hresult
  | ok message =>
    cases message with
    | some m =>
      rw [Decoder.message?_of_ok hresult] at hfits ⊢
      rw [step_handles hserves hresult]
      exact .hears m decoder _ hresult (servesOn_handle hserves hopen decoder hfits)
    | none =>
      obtain rfl := Decoder.eq_of_next_none hresult
      have hready : t.session.decoder.ready = false := (Decoder.ready_eq_false_iff _).2 hresult
      rw [Decoder.message?_of_ok hresult]
      simp only [step, hserves, Turn.read, hready, Bool.false_eq_true, if_false]
      split
      · next up hread =>
        exact .waits _ (fun _ _ => ⟨hresult, (Pipe.read_eq_nothing hread).1⟩)
          ⟨.inl hserves, rfl, rfl, hopen⟩
      · next up hread =>
        obtain ⟨hempty, hclosed, -⟩ := Pipe.read_eq_ended hread
        exact .finishes hserves hresult ⟨hempty, hclosed⟩
      · next b up hread => exact .takes b up hread ⟨.inl rfl, rfl, rfl, hopen⟩

/-- **What becomes of the bytes that come up** to a session that serves, as long as it can write.
-/
theorem step_listens (hserves : t.session.phase.Serves signIn) (hopen : t.link.down.closed = false)
    (hfits : ∀ x ∈ remark? branch wallClock t, x.message.length ≤ Frame.maxLength) (now : Nat) :
    Listens signIn branch t (hears branch t) (remark? branch wallClock t)
      (step branch now wallClock t) := by
  rcases hserves with hserves | ⟨rest, hwrites, -⟩
  · cases branch with
    | push =>
      rw [hears_push hserves]
      exact push_listens hserves hopen hfits now
    | frame =>
      obtain ⟨hheard, hsaid⟩ := hears_frame hserves wallClock
      rw [hsaid] at hfits
      rw [hheard, hsaid]
      exact frame_listens hserves hopen hfits now
  · have hheard : hears branch t = none := by simp only [hears, hwrites]
    rw [hheard]
    refine .waits _ (fun hserves => by rw [hwrites] at hserves; cases hserves) ?_
    simp only [step, hwrites]
    exact t.servesOn_write hopen signIn rest

/-- **What a session that serves writes** is what it sets out to write, behind what it has written
before. -/
theorem step_down (hserves : t.session.phase.Serves signIn) (hopen : t.link.down.closed = false)
    (hfits : ∀ x ∈ remark? branch wallClock t, x.message.length ≤ Frame.maxLength) (now : Nat) :
    (step branch now wallClock t).link.down.held ++
        (step branch now wallClock t).session.phase.unwritten =
      t.link.down.held ++ t.session.phase.unwritten ++
        stream ((remark? branch wallClock t).toList.map Remark.message) := by
  have hlistens := step_listens hserves hopen hfits now
  obtain ⟨moves, signIn', -, hleads⟩ := step_deed branch now wallClock t
  obtain ⟨put, more, hput, hheld, hmore⟩ := hleads.down
  have hfitting : fitting ((remark? branch wallClock t).toList.map Remark.message) =
      (remark? branch wallClock t).toList.map Remark.message := by
    refine List.filter_eq_self.2 fun m hm => ?_
    obtain ⟨x, hx, rfl⟩ := List.mem_map.1 hm
    exact decide_eq_true (hfits x (Option.mem_toList.1 hx))
  rw [hfitting] at hput
  have hgoes : (∀ result, (step branch now wallClock t).session.phase ≠ .ended result) →
      (step branch now wallClock t).link.down.held ++
          (step branch now wallClock t).session.phase.unwritten =
        t.link.down.held ++ t.session.phase.unwritten ++
          stream ((remark? branch wallClock t).toList.map Remark.message) := by
    intro hnot
    rw [hheld, ← hmore hnot, ByteArray.append_assoc, hput, ByteArray.append_assoc]
  -- a session that ends has nothing left to write, and sets out to write nothing
  have hends : ∀ (u : Turn) (result : Except SessionError Unit),
      t.session.phase = .serving signIn → u.link.down = t.link.down →
      (u.signOut signIn result).link.down.held ++
          (u.signOut signIn result).session.phase.unwritten =
        t.link.down.held ++ t.session.phase.unwritten ++ stream [] := by
    intro u result hserving hdown
    rw [u.signOut_phase, (u.signOut_eq signIn result).2.1, hserving]
    show u.link.down.held ++ .empty = t.link.down.held ++ .empty ++ .empty
    rw [hdown, ByteArray.append_empty, ByteArray.append_empty]
  generalize hears branch t = heard at hlistens
  generalize remark? branch wallClock t = remark at hlistens hgoes ⊢
  generalize step branch now wallClock t = t' at hlistens hgoes ⊢
  cases hlistens with
  | waits _ _ h => exact hgoes h.phase.not_ended
  | takes b up _ h => exact hgoes h.phase.not_ended
  | hears m decoder _ _ h => exact hgoes h.phase.not_ended
  | finishes hserving => exact hends t _ hserving rfl
  | fails e decoder hserving => exact hends (t.withDecoder decoder) _ hserving rfl

/-! ## The end of the handshake -/

/-- A session has not seen a handshake yet, and nobody has closed its link to the client. -/
structure Turn.Greets (t : Turn) : Prop where
  phase : ∃ deadline, t.session.phase = .greeting deadline
  limit : t.session.decoder.limit = Frame.maxLength
  down : t.link.down.held = .empty ∧ t.link.down.closed = false

/-- A session has just accepted a handshake. What came up behind the handshake is still there. -/
structure Turn.Opens (signIn : Option SignIn) (t : Turn) : Prop where
  phase : t.session.phase = .serving signIn
  limit : t.session.decoder.limit = Frame.maxLength
  down : t.link.down.held = .empty ∧ t.link.down.closed = false

/-- A session that waits for a handshake goes on waiting, or accepts one, or ends. -/
theorem Turn.Greets.step (h : t.Greets) (branch : Branch) (now wallClock : Nat) :
    (step branch now wallClock t).Greets ∨
      (∃ signIn, (step branch now wallClock t).Opens signIn) ∨
      ∃ result, (step branch now wallClock t).session.phase = .ended result := by
  obtain ⟨⟨deadline, hphase⟩, hlimit, hdown⟩ := h
  have hdoes := step_does branch now wallClock t
  generalize hears branch t = heard at hdoes
  generalize Session.step branch now wallClock t = t' at hdoes ⊢
  cases hdoes with
  | nothing => exact .inl ⟨⟨deadline, hphase⟩, hlimit, hdown⟩
  | takes b up hread =>
    exact .inl ⟨⟨deadline, hphase⟩, (Decoder.limit_extend _ _).trans hlimit, hdown⟩
  | ends decoder result => exact .inr (.inr ⟨result, Turn.signOut_phase _ _ _⟩)
  | greets _ message decoder _ hnext =>
    have hkept : decoder.limit = Frame.maxLength := (Decoder.lt_of_next hnext).2.trans hlimit
    rcases greet_cases (t.withDecoder decoder) message with ⟨e, heq⟩ | heq | ⟨login, -, heq⟩
    · exact .inr (.inr ⟨.error e, by rw [heq, Turn.signOut_phase]⟩)
    · rw [heq]
      exact .inr (.inl ⟨none, rfl, hkept, hdown⟩)
    · rw [heq]
      exact .inr (.inl ⟨some _, rfl, hkept, hdown⟩)
  | handles _ _ _ hserves => cases hphase.symm.trans hserves
  | passes _ _ _ hserves => cases hphase.symm.trans hserves
  | writes _ _ hwrites => cases hphase.symm.trans hwrites

/-- A handshake is accepted in a step after which the session serves. -/
theorem Turn.Greets.opens (h : t.Greets)
    (haccepts : (Session.step branch now wallClock t).session.phase = .serving signIn) :
    (Session.step branch now wallClock t).Opens signIn := by
  rcases h.step branch now wallClock with hwaits | ⟨signIn', hopens⟩ | ⟨result, hended⟩
  · obtain ⟨deadline, hphase⟩ := hwaits.phase
    cases hphase.symm.trans haccepts
  · cases hopens.phase.symm.trans haccepts
    exact hopens
  · cases hended.symm.trans haccepts

/-- A session that is signed in by a step has accepted a handshake in it. -/
theorem Turn.Greets.serving_of_signIn? (h : t.Greets) {i : SignIn}
    (hi : (Session.step branch now wallClock t).session.phase.signIn? = some i) :
    (Session.step branch now wallClock t).session.phase = .serving (some i) := by
  rcases h.step branch now wallClock with hwaits | ⟨signIn', hopens⟩ | ⟨result, hended⟩
  · obtain ⟨deadline, hphase⟩ := hwaits.phase
    rw [hphase] at hi
    cases hi
  · rw [hopens.phase] at hi ⊢
    exact congrArg _ hi
  · rw [hended] at hi
    cases hi

end ChatSockets.Session
