import ChatSockets.Proofs.Server.Deeds

/-!
# A session that leaves in two parts

A session that is signed in and ends lets go of its line first, and gives up its account only when
it gets to the mailroom again; to the others these are two things, and they may do anything in
between. `Session.step` does both at once. `Turn.served` is the mailroom as a step leaves it before
the session does either, and `step_parts` says that there is nothing else to a step: with the two
parts of leaving put behind it, what is served is the mailroom after the step.

Most of what happens in a mailroom is nothing to its live sessions. `Mailroom.Remembers` says that:
a live session stays, unless its line was hung up.
-/

namespace ChatSockets

namespace Mailroom

/-- No line is opened or hung up, and a live session is forgotten only if its line was hung up. -/
structure Remembers (m m' : Mailroom) : Prop where
  lines : ∀ line, m'.isListening line = m.isListening line
  nextLine : m'.nextLine = m.nextLine
  live : ∀ login, m'.live.get? login = m.live.get? login ∨
    m'.live.get? login = none ∧ ∀ h, m.live.get? login = some h → m.isListening h.line = false

variable {m m' : Mailroom} {login : String} {h : Handle}

/-- What has nothing to do with lines and live sessions. -/
theorem remembers_of_eq (hlines : m'.lines = m.lines) (hnext : m'.nextLine = m.nextLine)
    (hlive : m'.live = m.live) : m.Remembers m' :=
  ⟨fun line => by rw [isListening, hlines]; rfl, hnext, fun login => .inl (by rw [hlive])⟩

theorem remembers_refl (m : Mailroom) : m.Remembers m := remembers_of_eq rfl rfl rfl

/-- A live session is still that of its login, if it listens. -/
theorem Remembers.live_of_listening (hkeeps : m.Remembers m') (hlive : m.live.get? login = some h)
    (hlistens : m.isListening h.line = true) : m'.live.get? login = some h := by
  rcases hkeeps.live login with hsame | ⟨-, hdead⟩
  · rw [hsame, hlive]
  · cases (hdead h hlive).symm.trans hlistens

/-- No session becomes live. -/
theorem Remembers.live_of_live (hkeeps : m.Remembers m') (hlive : m'.live.get? login = some h) :
    m.live.get? login = some h := by
  rcases hkeeps.live login with hsame | ⟨hnone, -⟩
  · rw [← hsame, hlive]
  · cases hnone.symm.trans hlive

theorem remembers_post (m : Mailroom) (login : String) (q : Queued) :
    m.Remembers (m.post login q).2 := by
  refine ⟨m.isListening_post login q, (m.post_next login q).2, fun other => ?_⟩
  rcases m.post_delivery login q with ⟨h, -, -, -, hlive, -⟩ | ⟨hdead, -, -, hlive⟩
  · exact .inl (by rw [hlive])
  · rw [hlive]
    by_cases ho : other = login
    · rw [if_pos ho, ho]
      exact .inr ⟨rfl, hdead⟩
    · exact .inl (if_neg ho)

theorem remembers_deliver (m : Mailroom) (now : Nat) (login : String) (body : ByteArray) :
    m.Remembers (m.deliver now login body).2 := by
  rw [deliver_eq]
  split
  · obtain ⟨hlines, hnext, hlive⟩ := m.draw.2.remembers_post login ⟨m.nextId, body, now⟩
    exact ⟨hlines, hnext, hlive⟩
  · exact m.remembers_refl

theorem remembers_acknowledge (m : Mailroom) (login : String) (id : UInt64) :
    m.Remembers (m.acknowledge login id).2 := by
  obtain ⟨mailboxes, heq⟩ := m.acknowledge_eq login id
  rw [heq]
  exact remembers_of_eq rfl rfl rfl

theorem remembers_receive? {line : Nat} {r : Wire.Request}
    (hline : m.receive? line = some (r, m')) : m.Remembers m' := by
  refine ⟨isListening_receive? hline, ?_, fun login => .inl ?_⟩ <;>
    · obtain ⟨rest, -, rfl⟩ := receive?_eq_some hline
      rfl

end Mailroom

namespace Session

open Wire

/-- The mailroom after a message from a client that is signed in or not. -/
def noted (m : Mailroom) (wallClock : Nat) (signIn : Option SignIn) (message : Message) :
    Mailroom :=
  match message.kindOf, message.request, message.response, signIn with
  | .request, some r, _, _ => (answer m wallClock (signIn.map SignIn.login) r).2
  | .response, _, some r, some i => if r.isSuccess then (m.acknowledge i.login r.id).2 else m
  | _, _, _, _ => m

/-- The mailroom after a step of a session that is past its handshake, before the session leaves if
it ends. -/
def Turn.served (branch : Branch) (wallClock : Nat) (t : Turn) : Mailroom :=
  match t.session.phase, branch with
  | .serving (some i), .push => ((t.mailroom.receive? i.line).map Prod.snd).getD t.mailroom
  | .serving signIn, .frame =>
    (t.session.decoder.message?).elim t.mailroom (noted t.mailroom wallClock signIn)
  | _, _ => t.mailroom

variable {branch : Branch} {now wallClock : Nat} {t t' u : Turn} {signIn : Option SignIn}

theorem remembers_answer (m : Mailroom) (wallClock : Nat) (login : Option String)
    (r : Wire.Request) : m.Remembers (answer m wallClock login r).2 := by
  rcases answer_cases m wallClock login r with heq | ⟨recipient, -, -, heq⟩
  · rw [heq]
    exact m.remembers_refl
  · rw [heq]
    exact m.remembers_deliver wallClock recipient r.body

theorem remembers_noted (m : Mailroom) (wallClock : Nat) (signIn : Option SignIn)
    (message : Message) : m.Remembers (noted m wallClock signIn message) := by
  unfold noted
  split
  · exact remembers_answer m wallClock _ _
  · split
    · exact m.remembers_acknowledge _ _
    · exact m.remembers_refl
  · exact m.remembers_refl

/-- **What a session does before it leaves** is nothing to the live sessions that listen. -/
theorem remembers_served (branch : Branch) (wallClock : Nat) (t : Turn) :
    t.mailroom.Remembers (t.served branch wallClock) := by
  unfold Turn.served
  split
  · next i _ =>
    cases hline : t.mailroom.receive? i.line with
    | none => exact t.mailroom.remembers_refl
    | some received => exact Mailroom.remembers_receive? hline
  · next signIn _ =>
    cases t.session.decoder.message? with
    | none => exact t.mailroom.remembers_refl
    | some message => exact remembers_noted t.mailroom wallClock signIn message
  · exact t.mailroom.remembers_refl

/-! ## The parts of a step -/

/-- What a step comes to for the mailroom, if the end of a session is told apart from what it did
before. -/
inductive Parts (branch : Branch) (wallClock : Nat) (t t' : Turn) : Prop
  /-- the session is signed in, on a line of its own -/
  | enters (login : String) (deadline : Nat) (hphase : t.session.phase = .greeting deadline)
    (hserves : t'.session.phase = .serving (some ⟨login, t.mailroom.nextLine⟩))
    (hroom : t'.mailroom =
      (t.mailroom.openLine.2.register login ⟨t.session.id, t.mailroom.nextLine⟩).2)
  /-- the session is signed in as before, or was not and is not -/
  | goesOn (hsignIn : t'.session.phase.signIn? = t.session.phase.signIn?)
    (hroom : t'.mailroom = t.served branch wallClock)
  /-- a session that was signed in ends -/
  | leaves (i : SignIn) (result : Except SessionError Unit)
    (hsignIn : t.session.phase.signIn? = some i) (hended : t'.session.phase = .ended result)
    (hroom : t'.mailroom =
      ((t.served branch wallClock).hangUp i.line).unregister i.login t.session.id)

/-- A session that is signed out leaves, if it was signed in. -/
theorem parts_signOut (t u : Turn) (hid : u.session.id = t.session.id)
    (hroom : u.mailroom = t.served branch wallClock) (result : Except SessionError Unit) :
    Parts branch wallClock t (u.signOut t.session.phase.signIn? result) := by
  obtain ⟨-, -, hmailroom⟩ := u.signOut_eq t.session.phase.signIn? result
  have hended := u.signOut_phase t.session.phase.signIn? result
  cases hsignIn : t.session.phase.signIn? with
  | none =>
    rw [hsignIn] at hmailroom hended
    exact .goesOn (by rw [hended, hsignIn]; rfl) (hmailroom.trans hroom)
  | some i =>
    rw [hsignIn] at hmailroom hended
    exact .leaves i result hsignIn hended (by rw [hmailroom, hroom, hid])

/-- A session that writes goes on, or is signed out. -/
theorem parts_writeMessage (t u : Turn) (hid : u.session.id = t.session.id)
    (hroom : u.mailroom = t.served branch wallClock) (m : Message) :
    Parts branch wallClock t (u.writeMessage t.session.phase.signIn? m) := by
  rcases u.writeMessage_cases t.session.phase.signIn? m with ⟨e, hout⟩ | ⟨-, hgoes⟩
  · rw [hout]
    exact parts_signOut t u hid hroom _
  · exact .goesOn hgoes.signIn? (hgoes.mailroom.trans hroom)

/-- The first message of a client does nothing to the mailroom, or signs the client in. -/
theorem parts_greet {deadline : Nat} (hphase : t.session.phase = .greeting deadline)
    (message : Message) (decoder : Decoder) :
    Parts branch wallClock t (greet (t.withDecoder decoder) message) := by
  have hnone : t.session.phase.signIn? = none := by rw [hphase]; rfl
  have hroom : t.mailroom = t.served branch wallClock := by simp only [Turn.served, hphase]
  rcases greet_cases (t.withDecoder decoder) message with ⟨e, heq⟩ | heq | ⟨login, -, heq⟩
  · rw [heq, ← hnone]
    exact parts_signOut t (t.withDecoder decoder) rfl hroom _
  · rw [heq]
    exact .goesOn hnone.symm hroom
  · rw [heq]
    exact .enters login deadline hphase rfl rfl

/-- What is done for a message is to note it, and to answer it if it is a request. -/
theorem handle_eq_noted (t : Turn) (wallClock : Nat) (signIn : Option SignIn) (message : Message) :
    let u := { t with mailroom := noted t.mailroom wallClock signIn message }
    handle t wallClock signIn message = u ∨
      ∃ m, handle t wallClock signIn message = u.writeMessage signIn m := by
  unfold noted handle
  cases message.kindOf with
  | request =>
    cases message.request with
    | none => exact .inl rfl
    | some r => exact .inr ⟨_, rfl⟩
  | response =>
    cases message.response with
    | none => exact .inl rfl
    | some r =>
      cases signIn with
      | none => exact .inl rfl
      | some i =>
        refine .inl ?_
        dsimp only
        split <;> rfl
  | unknown => exact .inl rfl
  | handshake => exact .inl rfl

/-- A message after the handshake does to the mailroom what is noted of it. -/
theorem parts_handle (hphase : t.session.phase = .serving signIn) {message : Message}
    (hmessage : t.session.decoder.message? = some message) (decoder : Decoder) :
    Parts .frame wallClock t (handle (t.withDecoder decoder) wallClock signIn message) := by
  have hsignIn : t.session.phase.signIn? = signIn := by rw [hphase]; rfl
  have hserved : noted t.mailroom wallClock signIn message = t.served .frame wallClock := by
    simp only [Turn.served, hphase, hmessage, Option.elim_some]
  rcases handle_eq_noted (t.withDecoder decoder) wallClock signIn message with heq | ⟨m, heq⟩
  · rw [heq]
    exact .goesOn rfl hserved
  · have hwrites := parts_writeMessage t
      { t.withDecoder decoder with mailroom := noted t.mailroom wallClock signIn message } rfl
      hserved m
    rw [hsignIn] at hwrites
    exact heq ▸ hwrites

/-- A session that has nothing to hear leaves the mailroom as it is. -/
theorem served_of_silent (hmessage : t.session.decoder.message? = none) (wallClock : Nat) :
    t.served .frame wallClock = t.mailroom := by
  unfold Turn.served
  split
  · next hpush => cases hpush
  · rw [hmessage]
    rfl
  · rfl

/-- A session that passes on a request takes it from its line. -/
theorem parts_push (hphase : t.session.phase = .serving signIn) (now wallClock : Nat) :
    Parts .push wallClock t (step .push now wallClock t) := by
  have hsignIn : t.session.phase.signIn? = signIn := by rw [hphase]; rfl
  cases signIn with
  | none => exact .goesOn (by simp only [step, hphase]) (by simp only [step, Turn.served, hphase])
  | some i =>
    cases hline : t.mailroom.receive? i.line with
    | none =>
      refine .goesOn (by simp only [step, hphase, hline]) ?_
      simp only [step, Turn.served, hphase, hline, Option.map_none, Option.getD_none]
    | some received =>
      have hserved : received.2 = t.served .push wallClock := by
        simp only [Turn.served, hphase, hline, Option.map_some, Option.getD_some]
      have hwrites := parts_writeMessage t { t with mailroom := received.2 } rfl hserved
        (.ofRequest received.1)
      rw [hsignIn] at hwrites
      rwa [step_push hphase hline]

/-- **A step in its parts.** -/
theorem step_parts (branch : Branch) (now wallClock : Nat) (t : Turn) :
    Parts branch wallClock t (step branch now wallClock t) := by
  unfold step
  cases hphase : t.session.phase with
  | greeting deadline =>
    have hnone : t.session.phase.signIn? = none := by rw [hphase]; rfl
    have hserved : t.mailroom = t.served branch wallClock := by simp only [Turn.served, hphase]
    dsimp only
    split
    · exact t.read_induct (P := fun _ => Parts branch wallClock t) none greet (.goesOn rfl hserved)
        (fun decoder result => hnone ▸ parts_signOut t (t.withDecoder decoder) rfl hserved result)
        (fun _ _ => .goesOn rfl hserved) fun message decoder => parts_greet hphase message decoder
    · split
      · have hout := parts_signOut t t rfl hserved (.error .noHandshake)
        rw [hnone] at hout
        exact hout
      · exact .goesOn rfl hserved
  | serving signIn =>
    have hsignIn : t.session.phase.signIn? = signIn := by rw [hphase]; rfl
    cases branch with
    | push =>
      have hpush := parts_push hphase now wallClock
      unfold step at hpush
      rwa [hphase] at hpush
    | frame =>
      -- the parts depend on what is heard, which the induction knows at its end only
      exact t.read_induct
        (P := fun heard t' => t.session.decoder.message? = heard → Parts .frame wallClock t t')
        signIn _ (fun hnone => .goesOn rfl (served_of_silent hnone wallClock).symm)
        (fun decoder result hnone => hsignIn ▸ parts_signOut t (t.withDecoder decoder) rfl
          (served_of_silent hnone wallClock).symm result)
        (fun _ _ hnone => .goesOn rfl (served_of_silent hnone wallClock).symm)
        (fun message decoder hmessage => parts_handle hphase hmessage decoder) rfl
  | writing signIn rest =>
    have hsignIn : t.session.phase.signIn? = signIn := by rw [hphase]; rfl
    have hserved : t.mailroom = t.served branch wallClock := by simp only [Turn.served, hphase]
    dsimp only
    rcases t.write_cases signIn rest with hout | hgoes
    · rw [hout, ← hsignIn]
      exact parts_signOut t t rfl hserved _
    · exact .goesOn (hgoes.signIn?.trans hsignIn.symm) (hgoes.mailroom.trans hserved)
  | ended result => exact .goesOn rfl (by simp only [Turn.served, hphase])

/-- A session keeps its id. -/
theorem step_id (branch : Branch) (now wallClock : Nat) (t : Turn) :
    (step branch now wallClock t).session.id = t.session.id := by
  obtain ⟨moves, signIn, -, hleads⟩ := step_deed branch now wallClock t
  exact hleads.id

end Session

end ChatSockets
