import ChatSockets.Proofs.Link
import ChatSockets.Proofs.Server.Mailroom
import ChatSockets.Proofs.Wire.Stream
import ChatSockets.Server.Session

/-!
# What a step of a session does

`Session.Does` lists what a step of a session can do, with everything that made it possible, and
`step_does` says that there is nothing else. A step that writes ends in one of two ways: the session
is signed out, or it goes on with a frame of which it wrote what there was room for (`Turn.Goes`).
-/

namespace ChatSockets.Session

open Wire

/-- Who a session is signed in as, while it serves. -/
def Phase.signIn? : Phase → Option SignIn
  | .serving signIn => signIn
  | .writing signIn _ => signIn
  | _ => none

@[simp] theorem Phase.signIn?_greeting (deadline : Nat) : (greeting deadline).signIn? = none := rfl

@[simp] theorem Phase.signIn?_serving (signIn : Option SignIn) :
    (serving signIn).signIn? = signIn := rfl

@[simp] theorem Phase.signIn?_ended (result : Except SessionError Unit) :
    (ended result).signIn? = none := rfl

/-- The bytes of a frame that are still to be written. -/
def Phase.unwritten : Phase → ByteArray
  | .writing _ rest => rest
  | _ => .empty

/-! ## Writing -/

/-- A session goes on after it wrote as much of some bytes as there was room for. -/
structure Turn.Goes (t : Turn) (signIn : Option SignIn) (b : ByteArray) (t' : Turn) : Prop where
  mailroom : t'.mailroom = t.mailroom
  id : t'.session.id = t.session.id
  decoder : t'.session.decoder = t.session.decoder
  up : t'.link.up = t.link.up
  /-- nothing is lost between the pipe and what is still to be written -/
  down : t'.link.down.held ++ t'.session.phase.unwritten = t.link.down.held ++ b
  isOpen : t.link.down.closed = false ∧ t'.link.down.closed = false
  room : t.link.down.held.size ≤ Pipe.capacity → t'.link.down.held.size ≤ Pipe.capacity
  phase : t'.session.phase = .serving signIn ∨
    ∃ rest, t'.session.phase = .writing signIn rest ∧ rest.size ≠ 0

theorem Turn.Goes.signIn? {t t' : Turn} {signIn : Option SignIn} {b : ByteArray}
    (h : t.Goes signIn b t') : t'.session.phase.signIn? = signIn := by
  rcases h.phase with hphase | ⟨rest, hphase, -⟩ <;> rw [hphase] <;> rfl

/-- A session that writes to a closed pipe is signed out, and goes on otherwise. -/
theorem Turn.write_cases (t : Turn) (signIn : Option SignIn) (b : ByteArray) :
    t.write signIn b = t.signOut signIn (.error .brokenPipe) ∨
      t.Goes signIn b (t.write signIn b) := by
  unfold Turn.write
  split
  · exact .inl rfl
  · next rest down hwrite =>
    obtain ⟨hopen, hopen', hheld⟩ := Pipe.write?_eq_some hwrite
    refine .inr ?_
    by_cases hrest : rest.isEmpty = true
    · have hempty : rest = .empty := by
        apply ByteArray.size_eq_zero_iff.1
        simpa [ByteArray.isEmpty] using hrest
      rw [if_pos hrest]
      rw [hempty] at hheld
      exact ⟨rfl, rfl, rfl, rfl, hheld, ⟨hopen, hopen'⟩,
        fun hroom => Pipe.room_write? hroom hwrite, .inl rfl⟩
    · rw [if_neg hrest]
      refine ⟨rfl, rfl, rfl, rfl, hheld, ⟨hopen, hopen'⟩,
        fun hroom => Pipe.room_write? hroom hwrite, .inr ⟨rest, rfl, ?_⟩⟩
      simpa [ByteArray.isEmpty] using hrest

/-- A session whose message has no frame, or no pipe to go to, is signed out, and goes on otherwise.
-/
theorem Turn.writeMessage_cases (t : Turn) (signIn : Option SignIn) (m : Message) :
    (∃ e, t.writeMessage signIn m = t.signOut signIn (.error e)) ∨
      m.length ≤ Frame.maxLength ∧
        t.Goes signIn (Frame.ofBody m.encode) (t.writeMessage signIn m) := by
  unfold Turn.writeMessage
  by_cases hfit : m.length ≤ Frame.maxLength
  · rw [Frame.encode_of_le hfit]
    rcases t.write_cases signIn (Frame.ofBody m.encode) with h | h
    · exact .inl ⟨_, h⟩
    · exact .inr ⟨hfit, h⟩
  · rw [Frame.encode_of_lt (by omega)]
    exact .inl ⟨_, rfl⟩

/-- A session that is signed out has ended and let go of its link; nothing happened to the mailroom
but that it hung up its line and gave up its account. -/
theorem Turn.signOut_eq (t : Turn) (signIn : Option SignIn) (result : Except SessionError Unit) :
    (t.signOut signIn result).session = { t.session with phase := .ended result } ∧
      (t.signOut signIn result).link = t.link.close ∧
      (t.signOut signIn result).mailroom =
        match signIn with
        | none => t.mailroom
        | some i => (t.mailroom.hangUp i.line).unregister i.login t.session.id := by
  unfold Turn.signOut
  split
  · exact ⟨rfl, rfl, rfl⟩
  · exact ⟨rfl, rfl, rfl⟩

/-- A session that is signed out is at its end. -/
@[simp] theorem Turn.signOut_phase (t : Turn) (signIn : Option SignIn)
    (result : Except SessionError Unit) :
    (t.signOut signIn result).session.phase = .ended result := by
  rw [(t.signOut_eq signIn result).1]

/-- A session that was signed out has a result. -/
theorem Turn.signOut_ended (t : Turn) (signIn : Option SignIn)
    (result : Except SessionError Unit) :
    (t.signOut signIn result).session.result? = some result := by
  rw [result?, t.signOut_phase]

/-! ## All that a step can do -/

/-- The turn with another decoder. -/
def Turn.withDecoder (t : Turn) (decoder : Decoder) : Turn :=
  { t with session := { t.session with decoder } }

/-- The message that a session takes from its decoder in a step. -/
def hears (branch : Branch) (t : Turn) : Option Message :=
  match t.session.phase, branch with
  | .greeting _, _ => t.session.decoder.message?
  | .serving _, .frame => t.session.decoder.message?
  | _, _ => none

/-- What a step does at a time, with the message that it takes. -/
inductive Does (wallClock : Nat) (t : Turn) : Option Message → Turn → Prop
  | nothing : Does wallClock t none t
  /-- a piece of the stream is taken -/
  | takes (b : ByteArray) (up : Pipe) (hread : t.link.up.read Pipe.readSize = (.bytes b, up)) :
    Does wallClock t none
      { t.withDecoder (t.session.decoder.extend b) with link := { t.link with up } }
  /-- the session ends, with a decoder that may have taken a bad body -/
  | ends (decoder : Decoder) (result : Except SessionError Unit) :
    Does wallClock t none ((t.withDecoder decoder).signOut t.session.phase.signIn? result)
  /-- the first message is seen -/
  | greets (deadline : Nat) (message : Message) (decoder : Decoder)
    (hphase : t.session.phase = .greeting deadline)
    (hnext : t.session.decoder.next = (.ok (some message), decoder)) :
    Does wallClock t (some message) (greet (t.withDecoder decoder) message)
  /-- a message after the first is seen -/
  | handles (signIn : Option SignIn) (message : Message) (decoder : Decoder)
    (hphase : t.session.phase = .serving signIn)
    (hnext : t.session.decoder.next = (.ok (some message), decoder)) :
    Does wallClock t (some message) (handle (t.withDecoder decoder) wallClock signIn message)
  /-- a request from the line is passed on -/
  | passes (i : SignIn) (r : Wire.Request) (m : Mailroom)
    (hphase : t.session.phase = .serving (some i))
    (hline : t.mailroom.receive? i.line = some (r, m)) :
    Does wallClock t none ({ t with mailroom := m }.writeMessage (some i) (.ofRequest r))
  /-- more of a frame is written -/
  | writes (signIn : Option SignIn) (rest : ByteArray)
    (hphase : t.session.phase = .writing signIn rest) :
    Does wallClock t none (t.write signIn rest)

/-- What reading does, if a message is given to `handle`. -/
theorem Turn.read_does {wallClock : Nat} (t : Turn) {signIn : Option SignIn}
    (hsignIn : t.session.phase.signIn? = signIn) (handle : Turn → Message → Turn)
    (hhandle : ∀ message decoder, t.session.decoder.next = (.ok (some message), decoder) →
      Does wallClock t (some message) (handle (t.withDecoder decoder) message)) :
    Does wallClock t t.session.decoder.message? (t.read signIn handle) := by
  unfold Turn.read
  split
  · split
    · next e decoder hnext =>
      rw [Decoder.message?_of_error hnext, ← hsignIn]
      exact .ends decoder _
    · next decoder hnext =>
      rw [Decoder.message?_of_ok hnext]
      exact .nothing
    · next message decoder hnext =>
      rw [Decoder.message?_of_ok hnext]
      exact hhandle message decoder hnext
  · next hready =>
    have hnext := (Decoder.ready_eq_false_iff _).1 (by simpa using hready)
    rw [Decoder.message?_of_ok hnext]
    split
    · exact .nothing
    · rw [← hsignIn]
      exact .ends t.session.decoder _
    · next b up hread => exact .takes b up hread

/-- A session that has nothing to read takes no message. -/
theorem message?_of_not_hasInput {t : Turn} (h : ¬ t.session.hasInput t.link = true) :
    t.session.decoder.message? = none := by
  have hboth : t.session.decoder.ready = false ∧ t.link.up.readable = false := by
    simpa [hasInput] using h
  exact Decoder.message?_of_ok ((Decoder.ready_eq_false_iff _).1 hboth.1)

/-- **A step of a session does one of these things.** -/
theorem step_does (branch : Branch) (now wallClock : Nat) (t : Turn) :
    Does wallClock t (hears branch t) (step branch now wallClock t) := by
  unfold step hears
  cases hphase : t.session.phase with
  | greeting deadline =>
    have hsignIn : t.session.phase.signIn? = none := by rw [hphase]; rfl
    dsimp only
    split
    · exact t.read_does hsignIn greet fun message decoder hnext =>
        .greets deadline message decoder hphase hnext
    · next hinput =>
      rw [message?_of_not_hasInput hinput]
      split
      · have hends : Does wallClock t none _ := .ends t.session.decoder (.error .noHandshake)
        rw [hsignIn] at hends
        exact hends
      · exact .nothing
  | serving signIn =>
    have hsignIn : t.session.phase.signIn? = signIn := by rw [hphase]; rfl
    cases branch with
    | frame =>
      exact t.read_does hsignIn _ fun message decoder hnext =>
        .handles signIn message decoder hphase hnext
    | push =>
      dsimp only
      split
      · exact .nothing
      · next i =>
        split
        · exact .nothing
        · next r m hline => exact .passes i r m hphase hline
  | writing signIn rest => exact .writes signIn rest hphase
  | ended result => exact .nothing

/-- A session that has ended does nothing more. -/
theorem step_of_ended {t : Turn} {result : Except SessionError Unit}
    (hphase : t.session.phase = .ended result) (branch : Branch) (now wallClock : Nat) :
    step branch now wallClock t = t := by
  simp only [step, hphase]

/-- A session that waits for a handshake and holds nothing takes what comes up. -/
theorem step_takes {t : Turn} {deadline : Nat} {b : ByteArray} {up : Pipe}
    (hphase : t.session.phase = .greeting deadline)
    (hnext : t.session.decoder.next = (.ok none, t.session.decoder))
    (hread : t.link.up.read Pipe.readSize = (.bytes b, up)) (now wallClock : Nat) :
    step .frame now wallClock t =
      { t.withDecoder (t.session.decoder.extend b) with link := { t.link with up } } := by
  have hready : t.session.decoder.ready = false := (Decoder.ready_eq_false_iff _).2 hnext
  have hreadable : t.link.up.readable = true := by
    unfold Pipe.readable
    unfold Pipe.read at hread
    split at hread
    · split at hread <;> cases hread
    · next hsome =>
      rw [Bool.or_eq_true, decide_eq_true_eq]
      left
      apply Nat.pos_of_ne_zero
      simpa [ByteArray.isEmpty] using hsome
  have hinput : t.session.hasInput t.link = true := by
    rw [hasInput, hready, hreadable]
    rfl
  simp only [step, hphase, hinput, if_true, Turn.read, hready, hread, Bool.false_eq_true, if_false]
  rw [← hphase]
  rfl

/-- A decoder that gives a message was ready to. -/
theorem ready_of_next {d decoder : Decoder} {message : Message}
    (hnext : d.next = (.ok (some message), decoder)) : d.ready = true := by
  cases hready : d.ready with
  | true => rfl
  | false =>
    rw [Decoder.ready_eq_false_iff, hnext] at hready
    cases hready

/-- A session that waits for a handshake and holds a message looks at it. -/
theorem step_greets {t : Turn} {deadline : Nat} {message : Message} {decoder : Decoder}
    (hphase : t.session.phase = .greeting deadline)
    (hnext : t.session.decoder.next = (.ok (some message), decoder)) (now wallClock : Nat) :
    step .frame now wallClock t = greet (t.withDecoder decoder) message := by
  have hready := ready_of_next hnext
  have hinput : t.session.hasInput t.link = true := by
    rw [hasInput, hready]
    rfl
  simp only [step, hphase, hinput, if_true, Turn.read, hready, hnext]
  rfl

/-- A session that serves and holds a message handles it. -/
theorem step_handles {t : Turn} {signIn : Option SignIn} {message : Message} {decoder : Decoder}
    (hphase : t.session.phase = .serving signIn)
    (hnext : t.session.decoder.next = (.ok (some message), decoder)) (now wallClock : Nat) :
    step .frame now wallClock t = handle (t.withDecoder decoder) wallClock signIn message := by
  simp only [step, hphase, Turn.read, ready_of_next hnext, if_true, hnext, Turn.withDecoder]

/-- A session that serves takes the first request from its line and writes its frame. -/
theorem step_push {t : Turn} {i : SignIn} {r : Wire.Request} {m : Mailroom}
    (hphase : t.session.phase = .serving (some i))
    (hline : t.mailroom.receive? i.line = some (r, m)) (now wallClock : Nat) :
    step .push now wallClock t = { t with mailroom := m }.writeMessage (some i) (.ofRequest r) := by
  simp only [step, hphase, hline]

/-! ## What is done for a message -/

/-- The first message ends the session, or lets it serve without an account, or signs it in. -/
theorem greet_cases (t : Turn) (message : Message) :
    (∃ e, greet t message = t.signOut none (.error e)) ∨
      greet t message = t.goTo (.serving none) ∨
      ∃ login, (handshakeOf message >>= authenticate t.mailroom) = .ok (some login) ∧
        greet t message =
          { t with
            mailroom := (t.mailroom.openLine.2.register login
              ⟨t.session.id, t.mailroom.nextLine⟩).2 }.goTo
            (.serving (some ⟨login, t.mailroom.nextLine⟩)) := by
  unfold greet
  split
  · next e _ => exact .inl ⟨e, rfl⟩
  · exact .inr (.inl rfl)
  · next login hlogin => exact .inr (.inr ⟨login, hlogin, rfl⟩)

/-- An answer changes the mailroom by at most one delivery. -/
theorem answer_cases (m : Mailroom) (wallClock : Nat) (login : Option String) (r : Wire.Request) :
    (answer m wallClock login r).2 = m ∨
      ∃ recipient, r.verb = "PUT" ∧ r.path = Path.messagesTo ++ recipient ∧
        (answer m wallClock login r).2 = (m.deliver wallClock recipient r.body).2 := by
  unfold answer
  split
  · exact .inl rfl
  · split
    · split <;> exact .inl rfl
    · split
      · exact .inl rfl
      · next recipient hafter =>
        split at hafter
        · next hverb =>
          rw [Text.after?_eq_some_iff] at hafter
          have hpath : r.path = Path.messagesTo ++ String.ofList recipient := by
            rw [← String.toList_inj, String.toList_append, String.toList_ofList]
            exact hafter
          refine .inr ⟨.ofList recipient, hverb, hpath, ?_⟩
          split <;> next heq => rw [heq]
        · cases hafter

/-- A message that is no request is not answered; a response that says that a request succeeded
takes a message out of the mailbox of a session that is signed in. -/
theorem handle_cases (t : Turn) (wallClock : Nat) (signIn : Option SignIn) (message : Message) :
    handle t wallClock signIn message = t ∨
      (∃ r, message.kindOf = .request ∧ message.request = some r ∧
        handle t wallClock signIn message =
          { t with mailroom := (answer t.mailroom wallClock (signIn.map SignIn.login) r).2
            }.writeMessage signIn
              (.ofResponse (answer t.mailroom wallClock (signIn.map SignIn.login) r).1)) ∨
      ∃ r i, message.kindOf = .response ∧ message.response = some r ∧ signIn = some i ∧
        r.isSuccess = true ∧
        handle t wallClock signIn message =
          { t with mailroom := (t.mailroom.acknowledge i.login r.id).2 } := by
  unfold handle
  split
  · next r hkind hrequest => exact .inr (.inl ⟨r, hkind, hrequest, rfl⟩)
  · next r i hkind hresponse =>
    split
    · next hsuccess => exact .inr (.inr ⟨r, i, hkind, hresponse, rfl, hsuccess, rfl⟩)
    · exact .inl rfl
  · exact .inl rfl

/-! ## The pipes of a session -/

/-- A session that is signed out, or goes on after it wrote, keeps its pipes within bounds. -/
theorem Turn.writeMessage_pipes (t : Turn) (signIn : Option SignIn) (m : Message) :
    (t.writeMessage signIn m).link.up.held = t.link.up.held ∧
      (t.link.down.held.size ≤ Pipe.capacity →
        (t.writeMessage signIn m).link.down.held.size ≤ Pipe.capacity) := by
  rcases t.writeMessage_cases signIn m with ⟨e, hout⟩ | ⟨-, hgoes⟩
  · rw [hout, (t.signOut_eq signIn (.error e)).2.1]
    exact ⟨rfl, fun h => h⟩
  · exact ⟨by rw [hgoes.up], hgoes.room⟩

/-- A step only takes from the pipe that comes up, and fills the other one up to its capacity. -/
theorem Does.pipes {wallClock : Nat} {t t' : Turn} {heard : Option Message}
    (h : Does wallClock t heard t') :
    t'.link.up.held.size ≤ t.link.up.held.size ∧
      (t.link.down.held.size ≤ Pipe.capacity → t'.link.down.held.size ≤ Pipe.capacity) := by
  cases h with
  | nothing => exact ⟨Nat.le_refl _, fun h => h⟩
  | takes b up hread =>
    refine ⟨?_, fun h => h⟩
    rw [(Pipe.read_eq_bytes hread).1, ByteArray.size_append]
    exact Nat.le_add_left _ _
  | ends decoder result =>
    rw [(Turn.signOut_eq _ _ result).2.1]
    exact ⟨Nat.le_refl _, fun h => h⟩
  | greets deadline message decoder hphase hnext =>
    rcases greet_cases (t.withDecoder decoder) message with ⟨e, heq⟩ | heq | ⟨login, -, heq⟩
    · rw [heq, (Turn.signOut_eq _ _ _).2.1]
      exact ⟨Nat.le_refl _, fun h => h⟩
    · rw [heq]
      exact ⟨Nat.le_refl _, fun h => h⟩
    · rw [heq]
      exact ⟨Nat.le_refl _, fun h => h⟩
  | handles signIn message decoder hphase hnext =>
    rcases handle_cases (t.withDecoder decoder) wallClock signIn message with
      heq | ⟨r, -, -, heq⟩ | ⟨r, i, -, -, -, -, heq⟩
    · rw [heq]
      exact ⟨Nat.le_refl _, fun h => h⟩
    · rw [heq]
      obtain ⟨hup, hdown⟩ := Turn.writeMessage_pipes _ signIn _
      rw [hup]
      exact ⟨Nat.le_refl _, hdown⟩
    · rw [heq]
      exact ⟨Nat.le_refl _, fun h => h⟩
  | passes i r m hphase hline =>
    obtain ⟨hup, hdown⟩ := Turn.writeMessage_pipes { t with mailroom := m } (some i) (.ofRequest r)
    rw [hup]
    exact ⟨Nat.le_refl _, hdown⟩
  | writes signIn rest hphase =>
    rcases t.write_cases signIn rest with hout | hgoes
    · rw [hout, (t.signOut_eq signIn _).2.1]
      exact ⟨Nat.le_refl _, fun h => h⟩
    · rw [hgoes.up]
      exact ⟨Nat.le_refl _, hgoes.room⟩

/-! ## The line of a session -/

/-- A step of a session that is signed in ends it, or adds to its line, or takes the first request
from the line and writes it. -/
theorem Does.line {wallClock : Nat} {t t' : Turn} {heard : Option Message}
    (h : Does wallClock t heard t') {i : SignIn}
    (hi : t.session.phase.signIn? = some i) :
    (∃ result, t'.session.result? = some result) ∨
      t'.session.phase.signIn? = some i ∧
        ((∃ more, t'.mailroom.onLine i.line = t.mailroom.onLine i.line ++ more) ∨
          ∃ r, t.mailroom.onLine i.line = r :: t'.mailroom.onLine i.line ∧
            (Message.ofRequest r).length ≤ Frame.maxLength) := by
  cases h with
  | nothing => exact .inr ⟨hi, .inl ⟨[], by rw [List.append_nil]⟩⟩
  | takes b up hread => exact .inr ⟨hi, .inl ⟨[], by rw [List.append_nil]; rfl⟩⟩
  | ends decoder result => exact .inl ⟨result, Turn.signOut_ended _ _ _⟩
  | greets deadline message decoder hphase hnext =>
    rw [hphase] at hi
    cases hi
  | handles signIn message decoder hphase hnext =>
    obtain rfl : signIn = some i := by rw [hphase] at hi; exact hi
    rcases handle_cases (t.withDecoder decoder) wallClock (some i) message with
      heq | ⟨r, -, -, heq⟩ | ⟨r, j, -, -, -, -, heq⟩
    · rw [heq]
      exact .inr ⟨hi, .inl ⟨[], by rw [List.append_nil]; rfl⟩⟩
    · rw [heq]
      rcases Turn.writeMessage_cases _ (some i) _ with ⟨e, hout⟩ | ⟨-, hgoes⟩
      · exact .inl ⟨_, by rw [hout]; exact Turn.signOut_ended _ _ _⟩
      · refine .inr ⟨hgoes.signIn?, .inl ?_⟩
        rw [hgoes.mailroom]
        rcases answer_cases t.mailroom wallClock (some i.login) r with
          hsame | ⟨recipient, -, -, hdelivers⟩
        · exact ⟨[], by rw [List.append_nil]; exact congrArg (·.onLine i.line) hsame⟩
        · obtain ⟨more, hmore⟩ := t.mailroom.onLine_deliver wallClock recipient r.body i.line
          exact ⟨more, (congrArg (·.onLine i.line) hdelivers).trans hmore⟩
    · rw [heq]
      obtain ⟨mailboxes, hboxes⟩ := t.mailroom.acknowledge_eq j.login r.id
      refine .inr ⟨hi, .inl ⟨[], ?_⟩⟩
      rw [List.append_nil]
      exact congrArg (·.onLine i.line) hboxes
  | passes j r m hphase hline =>
    obtain rfl : j = i := by rw [hphase] at hi; exact Option.some.inj hi
    rcases Turn.writeMessage_cases _ (some j) _ with ⟨e, hout⟩ | ⟨hfit, hgoes⟩
    · exact .inl ⟨_, by rw [hout]; exact Turn.signOut_ended _ _ _⟩
    · refine .inr ⟨hgoes.signIn?, .inr ⟨r, ?_, hfit⟩⟩
      rw [hgoes.mailroom]
      exact (Mailroom.onLine_receive? hline).1
  | writes signIn rest hphase =>
    obtain rfl : signIn = some i := by rw [hphase] at hi; exact hi
    rcases t.write_cases (some i) rest with hout | hgoes
    · exact .inl ⟨_, by rw [hout]; exact Turn.signOut_ended _ _ _⟩
    · refine .inr ⟨hgoes.signIn?, .inl ⟨[], ?_⟩⟩
      rw [hgoes.mailroom, List.append_nil]

/-! ## The phases of a session and what comes up to it -/

/-- How a step leads from one phase to another. -/
inductive Passage (t t' : Turn) : Prop
  | ended (result : Except SessionError Unit) (hafter : t'.session.phase = .ended result)
  /-- it still waits for its handshake -/
  | waits (deadline : Nat) (hbefore : t.session.phase = .greeting deadline)
    (hafter : t'.session.phase = .greeting deadline) (hmailroom : t'.mailroom = t.mailroom)
  /-- the handshake asked for no account -/
  | serves (deadline : Nat) (hbefore : t.session.phase = .greeting deadline)
    (hafter : t'.session.phase = .serving none)
  /-- the handshake signed it in, on a new line -/
  | enters (deadline : Nat) (login : String) (hbefore : t.session.phase = .greeting deadline)
    (hafter : t'.session.phase = .serving (some ⟨login, t.mailroom.nextLine⟩))
    (hmailroom : t'.mailroom = (t.mailroom.openLine.2.register login
      ⟨t.session.id, t.mailroom.nextLine⟩).2)
  /-- it serves for whom it served before -/
  | goesOn (hbefore : ∀ deadline, t.session.phase ≠ .greeting deadline)
    (hafter : ∀ deadline, t'.session.phase ≠ .greeting deadline)
    (hsame : t'.session.phase.signIn? = t.session.phase.signIn?)

theorem Passage.of_eq {t t' : Turn} (hphase : t'.session.phase = t.session.phase)
    (hmailroom : t'.mailroom = t.mailroom) : Passage t t' := by
  cases hbefore : t.session.phase with
  | greeting deadline => exact .waits deadline hbefore (hphase.trans hbefore) hmailroom
  | ended result => exact .ended result (hphase.trans hbefore)
  | serving signIn =>
    refine .goesOn ?_ ?_ (by rw [hphase])
    · rw [hbefore]
      nofun
    · rw [hphase, hbefore]
      nofun
  | writing signIn rest =>
    refine .goesOn ?_ ?_ (by rw [hphase])
    · rw [hbefore]
      nofun
    · rw [hphase, hbefore]
      nofun

theorem Passage.of_goes {t u t' : Turn} {signIn : Option SignIn} {b : ByteArray}
    (h : u.Goes signIn b t') (hbefore : ∀ deadline, t.session.phase ≠ .greeting deadline)
    (hsignIn : t.session.phase.signIn? = signIn) : Passage t t' := by
  refine .goesOn hbefore ?_ (h.signIn?.trans hsignIn.symm)
  rcases h.phase with hphase | ⟨rest, hphase, -⟩ <;> rw [hphase] <;> nofun

/-- **How a step leads from one phase to another.** -/
theorem Does.passage {wallClock : Nat} {t t' : Turn} {heard : Option Message}
    (h : Does wallClock t heard t') : Passage t t' := by
  cases h with
  | nothing => exact .of_eq rfl rfl
  | takes b up hread => exact .of_eq rfl rfl
  | ends decoder result => exact .ended result (Turn.signOut_phase _ _ _)
  | greets deadline message decoder hphase hnext =>
    rcases greet_cases (t.withDecoder decoder) message with ⟨e, heq⟩ | heq | ⟨login, -, heq⟩
    · exact .ended _ (by rw [heq]; exact Turn.signOut_phase _ _ _)
    · exact .serves deadline hphase (by rw [heq]; rfl)
    · exact .enters deadline login hphase (by rw [heq]; rfl) (by rw [heq]; rfl)
  | handles signIn message decoder hphase hnext =>
    have hbefore : ∀ deadline, t.session.phase ≠ .greeting deadline := by
      rw [hphase]
      nofun
    rcases handle_cases (t.withDecoder decoder) wallClock signIn message with
      heq | ⟨r, -, -, heq⟩ | ⟨r, i, -, -, -, -, heq⟩
    · rw [heq]
      exact .goesOn hbefore hbefore rfl
    · rw [heq]
      rcases Turn.writeMessage_cases _ signIn _ with ⟨e, hout⟩ | ⟨-, hgoes⟩
      · exact .ended _ (by rw [hout]; exact Turn.signOut_phase _ _ _)
      · exact .of_goes hgoes hbefore (by rw [hphase]; rfl)
    · rw [heq]
      exact .goesOn hbefore hbefore rfl
  | passes i r m hphase hline =>
    rcases Turn.writeMessage_cases { t with mailroom := m } (some i) (.ofRequest r) with
      ⟨e, hout⟩ | ⟨-, hgoes⟩
    · exact .ended _ (by rw [hout]; exact Turn.signOut_phase _ _ _)
    · exact .of_goes hgoes (by rw [hphase]; nofun) (by rw [hphase]; rfl)
  | writes signIn rest hphase =>
    rcases t.write_cases signIn rest with hout | hgoes
    · exact .ended _ (by rw [hout]; exact Turn.signOut_phase _ _ _)
    · exact .of_goes hgoes (by rw [hphase]; nofun) (by rw [hphase]; rfl)

/-! ## The bytes of a step -/

/-- **What a step takes** is the first of the messages on the way up, and while the session goes on
the others stay before its decoder. -/
theorem Does.expects {wallClock : Nat} {t t' : Turn} {heard : Option Message}
    (h : Does wallClock t heard t') {more : ByteArray} {ms : List Message}
    (hms : t.session.decoder.Expects (t.link.up.held ++ more) ms) :
    ∃ rest, ms = heard.toList ++ rest ∧ ((∃ result, t'.session.phase = .ended result) ∨
      t'.session.decoder.Expects (t'.link.up.held ++ more) rest) := by
  have hkept : ∀ {u : Turn} {signIn : Option SignIn} {b : ByteArray} {rest : List Message},
      u.Goes signIn b t' → u.link.up = t.link.up →
      u.session.decoder.Expects (t.link.up.held ++ more) rest →
      t'.session.decoder.Expects (t'.link.up.held ++ more) rest := by
    intro u signIn b rest hgoes hup hrest
    rw [hgoes.decoder, hgoes.up, hup]
    exact hrest
  have hwrites : ∀ {u : Turn} {signIn : Option SignIn} {m : Message} {rest : List Message},
      t' = u.writeMessage signIn m → u.link.up = t.link.up →
      u.session.decoder.Expects (t.link.up.held ++ more) rest →
      (∃ result, t'.session.phase = .ended result) ∨
        t'.session.decoder.Expects (t'.link.up.held ++ more) rest := by
    intro u signIn m rest ht' hup hrest
    rcases u.writeMessage_cases signIn m with ⟨e, hout⟩ | ⟨-, hgoes⟩
    · exact .inl ⟨_, by rw [ht', hout]; exact u.signOut_phase _ _⟩
    · exact .inr (hkept (ht' ▸ hgoes) hup hrest)
  cases h with
  | nothing => exact ⟨ms, rfl, .inr hms⟩
  | takes b up hread =>
    rw [(Pipe.read_eq_bytes hread).1, ByteArray.append_assoc] at hms
    exact ⟨ms, rfl, .inr hms.extend⟩
  | ends decoder result => exact ⟨ms, rfl, .inl ⟨result, Turn.signOut_phase _ _ _⟩⟩
  | greets deadline message decoder hphase hnext =>
    obtain ⟨rest, rfl, hrest⟩ := hms.next hnext
    refine ⟨rest, rfl, ?_⟩
    rcases greet_cases (t.withDecoder decoder) message with ⟨e, heq⟩ | heq | ⟨login, -, heq⟩
    · exact .inl ⟨_, by rw [heq]; exact Turn.signOut_phase _ _ _⟩
    · rw [heq]
      exact .inr hrest
    · rw [heq]
      exact .inr hrest
  | handles signIn message decoder hphase hnext =>
    obtain ⟨rest, rfl, hrest⟩ := hms.next hnext
    refine ⟨rest, rfl, ?_⟩
    rcases handle_cases (t.withDecoder decoder) wallClock signIn message with
      heq | ⟨r, -, -, heq⟩ | ⟨r, i, -, -, -, -, heq⟩
    · rw [heq]
      exact .inr hrest
    · exact hwrites heq rfl hrest
    · rw [heq]
      exact .inr hrest
  | passes i r m hphase hline =>
    exact ⟨ms, rfl, hwrites (u := { t with mailroom := m }) rfl rfl hms⟩
  | writes signIn rest hphase =>
    refine ⟨ms, rfl, ?_⟩
    rcases t.write_cases signIn rest with hout | hgoes
    · exact .inl ⟨_, by rw [hout]; exact Turn.signOut_phase _ _ _⟩
    · exact .inr (hkept hgoes rfl hms)

/-- A message that a session sets out to write in a step: a request from its line, or the answer to
the request that it takes. -/
inductive Utters (wallClock : Nat) (t : Turn) : Option Message → Message → Prop
  | passes (i : SignIn) (r : Wire.Request) (m : Mailroom)
    (hphase : t.session.phase = .serving (some i))
    (hline : t.mailroom.receive? i.line = some (r, m)) : Utters wallClock t none (.ofRequest r)
  | answers (signIn : Option SignIn) (message : Message) (r : Wire.Request)
    (hphase : t.session.phase = .serving signIn) (hkind : message.kindOf = .request)
    (hr : message.request = some r) : Utters wallClock t (some message)
      (.ofResponse (answer t.mailroom wallClock (signIn.map SignIn.login) r).1)

/-- **What a step writes** goes down behind what was written before; what there is no room for is
still to be written, while the session goes on. -/
theorem Does.puts {wallClock : Nat} {t t' : Turn} {heard : Option Message}
    (h : Does wallClock t heard t') :
    ∃ ms more, t'.link.down.held ++ more =
        t.link.down.held ++ t.session.phase.unwritten ++ stream ms ∧ Framed ms ∧
      ((∀ result, t'.session.phase ≠ .ended result) → more = t'.session.phase.unwritten) ∧
      ∀ m ∈ ms, Utters wallClock t heard m := by
  have hsilent : ∀ u : Turn, u.link.down = t.link.down →
      ((∀ result, u.session.phase ≠ .ended result) →
        t.session.phase.unwritten = u.session.phase.unwritten) →
      ∃ ms more, u.link.down.held ++ more =
          t.link.down.held ++ t.session.phase.unwritten ++ stream ms ∧ Framed ms ∧
        ((∀ result, u.session.phase ≠ .ended result) → more = u.session.phase.unwritten) ∧
        ∀ m ∈ ms, Utters wallClock t heard m := by
    intro u hdown hunwritten
    exact ⟨[], t.session.phase.unwritten, by rw [hdown, stream_nil, ByteArray.append_empty], nofun,
      hunwritten, nofun⟩
  have hout : ∀ {u : Turn} {signIn : Option SignIn} {result : Except SessionError Unit},
      t' = u.signOut signIn result → u.link.down = t.link.down →
      ∃ ms more, t'.link.down.held ++ more =
          t.link.down.held ++ t.session.phase.unwritten ++ stream ms ∧ Framed ms ∧
        ((∀ result, t'.session.phase ≠ .ended result) → more = t'.session.phase.unwritten) ∧
        ∀ m ∈ ms, Utters wallClock t heard m := by
    intro u signIn result ht' hdown
    have hlink := (u.signOut_eq signIn result).2.1
    refine ⟨[], t.session.phase.unwritten, ?_, nofun,
      fun hgoes => absurd (u.signOut_phase signIn result) (ht' ▸ hgoes result), nofun⟩
    rw [stream_nil, ByteArray.append_empty, ht', hlink, ← hdown]
    rfl
  have hspeaks : ∀ {u : Turn} {signIn : Option SignIn} {m : Message},
      t' = u.writeMessage signIn m → u.link.down = t.link.down →
      t.session.phase.unwritten = .empty → Utters wallClock t heard m →
      ∃ ms more, t'.link.down.held ++ more =
          t.link.down.held ++ t.session.phase.unwritten ++ stream ms ∧ Framed ms ∧
        ((∀ result, t'.session.phase ≠ .ended result) → more = t'.session.phase.unwritten) ∧
        ∀ m ∈ ms, Utters wallClock t heard m := by
    intro u signIn m ht' hdown hwritten hm
    rcases u.writeMessage_cases signIn m with ⟨e, hends⟩ | ⟨hfit, hgoes⟩
    · exact hout (ht'.trans hends) hdown
    · rw [← ht'] at hgoes
      refine ⟨[m], t'.session.phase.unwritten, ?_, ?_, fun _ => rfl, ?_⟩
      · rw [hgoes.down, hdown, hwritten, ByteArray.append_empty, stream_singleton]
      · intro m' hm'
        rw [List.mem_singleton.1 hm']
        exact hfit
      · intro m' hm'
        rw [List.mem_singleton.1 hm']
        exact hm
  cases h with
  | nothing => exact hsilent t rfl fun _ => rfl
  | takes b up hread => exact hsilent _ rfl fun _ => rfl
  | ends decoder result => exact hout (u := t.withDecoder decoder) rfl rfl
  | greets deadline message decoder hphase hnext =>
    have hwritten : t.session.phase.unwritten = .empty := by rw [hphase]; rfl
    rcases greet_cases (t.withDecoder decoder) message with ⟨e, heq⟩ | heq | ⟨login, -, heq⟩
    · exact hout heq rfl
    · rw [heq]
      exact hsilent _ rfl fun _ => hwritten
    · rw [heq]
      exact hsilent _ rfl fun _ => hwritten
  | handles signIn message decoder hphase hnext =>
    have hwritten : t.session.phase.unwritten = .empty := by rw [hphase]; rfl
    rcases handle_cases (t.withDecoder decoder) wallClock signIn message with
      heq | ⟨r, hkind, hr, heq⟩ | ⟨r, i, -, -, -, -, heq⟩
    · rw [heq]
      exact hsilent _ rfl fun _ => rfl
    · exact hspeaks heq rfl hwritten (.answers signIn message r hphase hkind hr)
    · rw [heq]
      exact hsilent _ rfl fun _ => rfl
  | passes i r m hphase hline =>
    exact hspeaks (u := { t with mailroom := m }) rfl rfl (by rw [hphase]; rfl)
      (.passes i r m hphase hline)
  | writes signIn rest hphase =>
    have hwritten : t.session.phase.unwritten = rest := by rw [hphase]; rfl
    rcases t.write_cases signIn rest with hends | hgoes
    · exact hout hends rfl
    · refine ⟨[], _, ?_, nofun, fun _ => rfl, nofun⟩
      rw [hgoes.down, hwritten, stream_nil, ByteArray.append_empty]

end ChatSockets.Session
