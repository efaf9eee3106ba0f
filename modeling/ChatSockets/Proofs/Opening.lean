import ChatSockets.Proofs.Dialogue.Transcript
import ChatSockets.Proofs.Server.Greeting
import ChatSockets.Proofs.Server.Parting

/-!
# How a socket is opened

An `Opening` is a session from its beginning, with the client at the other end of its link and the
others who work on the mailroom. The client sends bytes in pieces of any size at any time, as far as
the pipe takes them, may say that it will send no more, and may let go of the link. Time goes on as
it likes, but does not pass the limit of the handshake before the session has noticed it. An opening
keeps what the client sent, with the times, and what the others did.

What the client has sent no later than the limit (`Opening.inTime`) decides. Until it admits the
client the session does nothing that anybody could see: `Opening.Untouched` says that the client has
not been sent a byte and that the office is what the others alone have made of it. `Standing` says
how far an opening is; what the client, the others and time do leaves it so (`Standing.beside`), and
a step of the session carries it on (`Standing.make`). `opening_verdict` says what comes of it.
-/

namespace ChatSockets

open Wire
open Session (Branch Turn Admits Hails step_hails step_of_ended)

/-- A session from its beginning, with its client and the others. -/
structure Opening where
  session : Session
  link : Link := {}
  office : Office
  now : Nat
  /-- until when the session waits for a handshake -/
  deadline : Nat
  /-- what the client has sent, with the times -/
  sent : List (Nat × ByteArray) := []
  /-- what the client has read -/
  got : ByteArray := .empty
  /-- the client will send no more -/
  finished : Bool := false
  /-- what the others have done in the office -/
  others : List Office.Move
  /-- as whom the session has served the client, if it has -/
  served : Option (Option String) := none

namespace Opening

/-- A session that begins at a time, in an office in which the others have done something. -/
def start (accounts : Accounts) (others : List Office.Move) (id : UInt64) (now : Nat) :
    Opening where
  session := .start id now
  office := (Office.start accounts).makeAll others
  now
  deadline := now + Delay.connect
  others

/-- What can happen. -/
inductive Move
  /-- the session makes a step -/
  | session (branch : Branch) (wallClock : Nat)
  /-- the client offers some bytes, of which the pipe takes what it has room for -/
  | sends (b : ByteArray)
  /-- the client will send no more -/
  | finishes
  /-- the client lets go of the link -/
  | letsGo
  /-- the client reads at most so many bytes -/
  | reads (n : Nat)
  /-- the others do something in the office -/
  | others (move : Office.Move)
  /-- time goes on, but not past the limit while the session waits for a handshake -/
  | waits (time : Nat)

/-- The session with what it works on. -/
def turn (o : Opening) : Turn := ⟨o.session, o.office.room, o.link⟩

/-- As whom a session serves a client. -/
def serves? : Session.Phase → Option (Option String)
  | .serving signIn | .writing signIn _ => some (signIn.map SignIn.login)
  | _ => none

/-- The opening after a move. -/
def make (o : Opening) : Move → Opening
  | .session branch wallClock =>
    let t := Session.step branch o.now wallClock o.turn
    { o with
      session := t.session
      link := t.link
      office := { o.office with room := t.mailroom }
      served := o.served.or (serves? t.session.phase) }
  | .sends b =>
    match o.link.up.write? b with
    | none => o
    | some (rest, up) =>
      { o with
        link := { o.link with up }
        sent := o.sent ++ [(o.now, b.extract 0 (b.size - rest.size))] }
  | .finishes => { o with link := o.link.closeUp, finished := true }
  | .letsGo => { o with link := o.link.close, finished := true }
  | .reads n =>
    match o.link.down.read n with
    | (.bytes b, down) => { o with link := { o.link with down }, got := o.got ++ b }
    | _ => o
  | .others move => { o with office := o.office.make move, others := o.others ++ [move] }
  | .waits time =>
    match o.session.phase with
    | .greeting deadline => { o with now := min (o.now + time) deadline }
    | _ => { o with now := o.now + time }

/-- The opening after some moves. -/
def makeAll (o : Opening) (moves : List Move) : Opening := moves.foldl make o

/-- What the client has sent no later than the limit. -/
def inTime (o : Opening) : ByteArray :=
  (o.sent.filter (·.1 ≤ o.deadline)).foldl (fun b piece => b ++ piece.2) .empty

/-- The client has not been sent a byte, and the office is what the others alone have made of it. -/
structure Untouched (accounts : Accounts) (o : Opening) : Prop where
  down : o.got = .empty ∧ o.link.down.held = .empty
  office : o.office = (Office.start accounts).makeAll o.others

/-- How far an opening is. -/
inductive Standing (accounts : Accounts) (o : Opening) : Prop
  /-- the session waits for a handshake -/
  | greets (hphase : o.session.phase = .greeting o.deadline)
    (hlimit : o.session.decoder.limit = Frame.maxLength) (hnow : o.now ≤ o.deadline)
    (hsent : o.inTime = o.session.decoder.buffer ++ o.link.up.held)
    (hup : o.link.up.closed = o.finished) (huntouched : o.Untouched accounts)
    (hserved : o.served = none)
  /-- the session has refused the client -/
  | refused (e : SessionError) (hphase : o.session.phase = .ended (.error e))
    (hclosed : o.link.up.closed = true) (hunfit : ∀ login?, ¬ Admits accounts o.inTime login?)
    (huntouched : o.Untouched accounts) (hserved : o.served = none)
  /-- the session has admitted the client -/
  | admitted (login? : Option String) (hfit : Admits accounts o.inTime login?)
    (hserved : o.served = some login?)
    (hphase : (∃ result, o.session.phase = .ended result) ∨ serves? o.session.phase = some login?)

variable {accounts : Accounts} {o o' : Opening} {login? : Option String}

/-! ## What the client and the others do -/

/-- What was sent in time, when another piece has been sent. -/
theorem inTime_append (hdeadline : o'.deadline = o.deadline) {now : Nat} {b : ByteArray}
    (hsent : o'.sent = o.sent ++ [(now, b)]) :
    o'.inTime = o.inTime ++ if now ≤ o.deadline then b else .empty := by
  rw [inTime, hsent, hdeadline, List.filter_append, List.foldl_append]
  split
  · next hnow => simp [hnow, inTime]
  · next hnow => simp [hnow, inTime]

theorem Untouched.accounts_eq (h : o.Untouched accounts) : o.office.room.accounts = accounts := by
  rw [h.office]
  exact (Office.kept accounts o.others).1

/-- What a move leaves alone that is not the session's. -/
structure Beside (accounts : Accounts) (o o' : Opening) : Prop where
  session : o'.session = o.session
  served : o'.served = o.served
  deadline : o'.deadline = o.deadline
  /-- what is sent in time comes up behind the rest -/
  inTime : ∃ more, o'.inTime = o.inTime ++ more ∧
    (o.now ≤ o.deadline → o'.link.up.held = o.link.up.held ++ more)
  up : o.link.up.closed = o.finished → o'.link.up.closed = o'.finished
  /-- nothing is sent to a session that has let go of its link -/
  closed : o.link.up.closed = true → o'.link.up.closed = true ∧ o'.inTime = o.inTime
  now : o.session.phase = .greeting o.deadline → o.now ≤ o.deadline → o'.now ≤ o.deadline
  untouched : o.Untouched accounts → o'.Untouched accounts

/-- A move by which nothing is sent up. -/
theorem beside_of_sent (hsession : o'.session = o.session) (hserved : o'.served = o.served)
    (hdeadline : o'.deadline = o.deadline) (hsent : o'.sent = o.sent)
    (hheld : o'.link.up.held = o.link.up.held)
    (hup : o'.link.up.closed = o.link.up.closed ∧ o'.finished = o.finished ∨
      o'.link.up.closed = true ∧ o'.finished = true)
    (hnow : o.session.phase = .greeting o.deadline → o.now ≤ o.deadline → o'.now ≤ o.deadline)
    (huntouched : o.Untouched accounts → o'.Untouched accounts) : Beside accounts o o' := by
  have hsame : o'.inTime = o.inTime := by rw [inTime, inTime, hsent, hdeadline]
  refine ⟨hsession, hserved, hdeadline,
    ⟨.empty, by rw [hsame, ByteArray.append_empty], fun _ => by rw [hheld, ByteArray.append_empty]⟩,
    fun h => ?_, fun h => ?_, hnow, huntouched⟩
  · rcases hup with ⟨hclosed, hfinished⟩ | ⟨hclosed, hfinished⟩
    · rw [hclosed, hfinished, h]
    · rw [hclosed, hfinished]
  · rcases hup with ⟨hclosed, -⟩ | ⟨hclosed, -⟩
    · exact ⟨hclosed.trans h, hsame⟩
    · exact ⟨hclosed, hsame⟩

/-- **What the client, the others and time do.** -/
theorem make_beside (accounts : Accounts) (o : Opening) {move : Move}
    (hmove : ∀ branch wallClock, move ≠ .session branch wallClock) :
    Beside accounts o (o.make move) := by
  have hidle : Beside accounts o o :=
    beside_of_sent rfl rfl rfl rfl rfl (.inl ⟨rfl, rfl⟩) (fun _ h => h) fun h => h
  cases move with
  | session branch wallClock => exact absurd rfl (hmove branch wallClock)
  | sends b =>
    unfold make
    dsimp only
    cases hwrite : o.link.up.write? b with
    | none => exact hidle
    | some written =>
      obtain ⟨rest, up⟩ := written
      obtain ⟨hopen, hopen', -⟩ := Pipe.write?_eq_some hwrite
      obtain ⟨put, rfl, hheld⟩ := Pipe.write?_puts hwrite
      have hput : (put ++ rest).extract 0 ((put ++ rest).size - rest.size) = put :=
        ByteArray.extract_append_eq_left (by simp)
      dsimp only
      rw [hput]
      refine ⟨rfl, rfl, rfl, ⟨if o.now ≤ o.deadline then put else .empty, ?_, fun hnow => ?_⟩,
        fun h => ?_, fun h => ?_, fun _ h => h, fun h => ⟨h.down, h.office⟩⟩
      · refine inTime_append ?_ ?_ <;> rfl
      · rw [if_pos hnow]
        exact hheld
      · exact hopen'.trans (hopen.symm.trans h)
      · cases hopen.symm.trans h
  | finishes =>
    exact beside_of_sent rfl rfl rfl rfl rfl (.inr ⟨rfl, rfl⟩) (fun _ h => h)
      fun h => ⟨h.down, h.office⟩
  | letsGo =>
    exact beside_of_sent rfl rfl rfl rfl rfl (.inr ⟨rfl, rfl⟩) (fun _ h => h)
      fun h => ⟨h.down, h.office⟩
  | reads n =>
    unfold make
    dsimp only
    split
    · next b down hread =>
      refine beside_of_sent rfl rfl rfl rfl rfl (.inl ⟨rfl, rfl⟩) (fun _ h => h) fun h => ?_
      -- a client that has been sent nothing reads nothing
      have hheld := (Pipe.read_eq_bytes hread).1
      rw [h.down.2] at hheld
      have hsize := congrArg ByteArray.size hheld
      rw [ByteArray.size_append, ByteArray.size_empty] at hsize
      have hb : b = .empty := ByteArray.size_eq_zero_iff.1 (by omega)
      have hrest : down.held = .empty := ByteArray.size_eq_zero_iff.1 (by omega)
      exact ⟨⟨by rw [h.down.1, hb]; rfl, hrest⟩, h.office⟩
    · exact hidle
  | others move =>
    refine beside_of_sent rfl rfl rfl rfl rfl (.inl ⟨rfl, rfl⟩) (fun _ h => h) fun h => ⟨h.down, ?_⟩
    show o.office.make move = (Office.start accounts).makeAll (o.others ++ [move])
    rw [h.office, Office.makeAll_append]
    rfl
  | waits time =>
    unfold make
    dsimp only
    split
    · next deadline hphase =>
      refine beside_of_sent rfl rfl rfl rfl rfl (.inl ⟨rfl, rfl⟩) (fun h _ => ?_)
        fun h => ⟨h.down, h.office⟩
      cases hphase.symm.trans h
      exact Nat.min_le_right _ _
    · next hphase =>
      exact beside_of_sent rfl rfl rfl rfl rfl (.inl ⟨rfl, rfl⟩) (fun h _ => absurd h (hphase _))
        fun h => ⟨h.down, h.office⟩

/-- An opening stands where it stood, if only the client, the others or time did something. -/
theorem Standing.beside (h : o.Standing accounts) (hbeside : Beside accounts o o') :
    o'.Standing accounts := by
  obtain ⟨more, hinTime, hheld⟩ := hbeside.inTime
  cases h with
  | greets hphase hlimit hnow hsent hup huntouched hserved =>
    refine .greets ?_ ?_ ?_ ?_ (hbeside.up hup) (hbeside.untouched huntouched)
      (hbeside.served.trans hserved)
    · rw [hbeside.session, hbeside.deadline]
      exact hphase
    · rw [hbeside.session]
      exact hlimit
    · rw [hbeside.deadline]
      exact hbeside.now hphase hnow
    · rw [hinTime, hsent, hheld hnow, hbeside.session, ByteArray.append_assoc]
  | refused e hphase hclosed hunfit huntouched hserved =>
    obtain ⟨hclosed', hsame⟩ := hbeside.closed hclosed
    exact .refused e (hbeside.session ▸ hphase) hclosed' (hsame ▸ hunfit)
      (hbeside.untouched huntouched) (hbeside.served.trans hserved)
  | admitted login? hfit hserved hphase =>
    exact .admitted login? (hinTime ▸ hfit.append more) (hbeside.served.trans hserved)
      (hbeside.session ▸ hphase)

/-! ## What the session does -/

/-- A session that serves a client goes on as it is, or ends. -/
theorem serves?_step {t : Turn} (h : serves? t.session.phase = some login?) (branch : Branch)
    (now wallClock : Nat) :
    (∃ result, (Session.step branch now wallClock t).session.phase = .ended result) ∨
      serves? (Session.step branch now wallClock t).session.phase = some login? := by
  obtain ⟨moves, signIn, hdeed, hleads⟩ := Session.step_deed branch now wallClock t
  have hgreets : ∀ deadline, t.session.phase ≠ .greeting deadline := by
    intro deadline hphase
    rw [hphase] at h
    cases h
  have hsignIn : signIn = t.session.phase.signIn? := by
    generalize Session.hears branch t = heard at hdeed
    generalize Session.remark? branch wallClock t = remark at hdeed
    cases hdeed with
    | silent => rfl
    | admits deadline message hphase => exact absurd hphase (hgreets deadline)
    | enters deadline message hello login password hphase => exact absurd hphase (hgreets deadline)
    | ignores signIn message hphase => rw [hphase]; rfl
    | acknowledges i message r hphase => rw [hphase]; rfl
    | replies signIn message r hphase => rw [hphase]; rfl
    | delivers signIn message r recipient hphase => rw [hphase]; rfl
    | pushes i r m hphase => rw [hphase]; rfl
  have hlogin : login? = signIn.map SignIn.login := by
    rw [hsignIn]
    cases hphase : t.session.phase with
    | greeting deadline => exact absurd hphase (hgreets deadline)
    | serving signIn => rw [hphase] at h; exact (Option.some.inj h).symm
    | writing signIn rest => rw [hphase] at h; exact (Option.some.inj h).symm
    | ended result => rw [hphase] at h; cases h
  rcases hleads.phase with hended | ⟨hsame, hnot⟩
  · exact .inl hended
  · rw [hlogin, ← hsame]
    cases hphase : (Session.step branch now wallClock t).session.phase with
    | greeting deadline => exact absurd (hnot deadline hphase).2 (hgreets deadline)
    | serving signIn => exact .inr rfl
    | writing signIn rest => exact .inr rfl
    | ended result => exact .inl ⟨result, rfl⟩

/-- **What a session does that waits for a handshake.** -/
theorem standing_session (hphase : o.session.phase = .greeting o.deadline)
    (hlimit : o.session.decoder.limit = Frame.maxLength) (hnow : o.now ≤ o.deadline)
    (hsent : o.inTime = o.session.decoder.buffer ++ o.link.up.held)
    (hup : o.link.up.closed = o.finished) (huntouched : o.Untouched accounts)
    (hserved : o.served = none) (branch : Branch) (wallClock : Nat) :
    (o.make (.session branch wallClock)).Standing accounts := by
  have haccounts := huntouched.accounts_eq
  have hunserved : o.served.or (serves? o.session.phase) = none := by rw [hserved, hphase]; rfl
  have hhails := step_hails (t := o.turn) hphase hlimit branch o.now wallClock
  unfold make
  dsimp only
  generalize Session.step branch o.now wallClock o.turn = t' at hhails ⊢
  cases hhails with
  | waits hgood hopen hleft =>
    exact .greets hphase hlimit hnow hsent hup ⟨huntouched.down, huntouched.office⟩ hunserved
  | takes b up hread =>
    obtain ⟨hheld, hclosed⟩ := Pipe.read_eq_bytes hread
    refine .greets hphase ((Decoder.limit_extend _ _).trans hlimit) hnow ?_ (hclosed.trans hup)
      ⟨huntouched.down, huntouched.office⟩ hunserved
    show o.inTime = (o.session.decoder.extend b).buffer ++ up.held
    rw [Decoder.buffer_extend, ByteArray.append_assoc, ← hheld]
    exact hsent
  | refuses decoder e hunfit =>
    refine .refused e rfl rfl (fun login? hfit => hunfit login? ?_)
      ⟨huntouched.down, huntouched.office⟩ ?_
    · show Admits o.office.room.accounts (o.session.decoder.buffer ++ o.link.up.held) login?
      rw [haccounts, ← hsent]
      exact hfit
    · show o.served.or none = none
      rw [hserved]
      rfl
  | admits _ signIn hserves hfit =>
    refine .admitted (signIn.map SignIn.login) ?_ ?_ (.inr ?_)
    · change Admits o.office.room.accounts (o.session.decoder.buffer ++ o.link.up.held) _ at hfit
      rw [haccounts, ← hsent] at hfit
      exact hfit
    · show o.served.or (serves? t'.session.phase) = _
      rw [hserved, hserves]
      rfl
    · show serves? t'.session.phase = _
      rw [hserves]
      rfl

/-- **What every move keeps.** -/
theorem Standing.make (h : o.Standing accounts) (move : Move) :
    (o.make move).Standing accounts := by
  by_cases hmove : ∀ branch wallClock, move ≠ .session branch wallClock
  · exact h.beside (make_beside accounts o hmove)
  · obtain ⟨branch, wallClock, rfl⟩ : ∃ branch wallClock, move = .session branch wallClock := by
      simpa using hmove
    cases h with
    | greets hphase hlimit hnow hsent hup huntouched hserved =>
      exact standing_session hphase hlimit hnow hsent hup huntouched hserved branch wallClock
    | refused e hphase hclosed hunfit huntouched hserved =>
      unfold Opening.make
      dsimp only
      rw [step_of_ended (t := o.turn) hphase]
      refine .refused e hphase hclosed hunfit ⟨huntouched.down, huntouched.office⟩ ?_
      show o.served.or (serves? o.session.phase) = none
      rw [hserved, hphase]
      rfl
    | admitted login? hfit hserved hphase =>
      refine .admitted login? hfit (by show o.served.or _ = _; rw [hserved, Option.some_or]) ?_
      rcases hphase with ⟨result, hended⟩ | hserves
      · have hsame := step_of_ended (t := o.turn) hended branch o.now wallClock
        exact .inl ⟨result, (congrArg (·.session.phase) hsame).trans hended⟩
      · exact serves?_step (t := o.turn) hserves branch o.now wallClock

/-- A client is admitted by being registered for the login that it presented, or for none. -/
theorem Standing.letIn (h : o.Standing accounts) (hunserved : o.served = none) {branch : Branch}
    {wallClock : Nat} (hlogin : (o.make (.session branch wallClock)).served = some login?) :
    (o.make (.session branch wallClock)).office.room = o.turn.letIn login? := by
  change o.served.or (serves? (Session.step branch o.now wallClock o.turn).session.phase) =
    some login? at hlogin
  rw [hunserved, Option.none_or] at hlogin
  cases h with
  | greets hphase hlimit =>
    have hhails := step_hails (t := o.turn) hphase hlimit branch o.now wallClock
    show (Session.step branch o.now wallClock o.turn).mailroom = _
    generalize Session.step branch o.now wallClock o.turn = t' at hhails hlogin
    cases hhails with
    | waits => rw [turn, hphase] at hlogin; cases hlogin
    | takes b up => cases (congrArg serves? hphase).symm.trans hlogin
    | refuses => cases hlogin
    | admits _ signIn hserves _ hroom =>
      rw [hserves] at hlogin
      cases hlogin
      exact hroom
  | refused e hphase =>
    rw [step_of_ended (t := o.turn) hphase, turn, hphase] at hlogin
    cases hlogin
  | admitted _ _ hserved => cases hserved.symm.trans hunserved

theorem standing_start (accounts : Accounts) (others : List Office.Move) (id : UInt64) (now : Nat) :
    (start accounts others id now).Standing accounts :=
  .greets rfl rfl (Nat.le_add_right _ _) rfl rfl ⟨⟨rfl, rfl⟩, rfl⟩ rfl

theorem Standing.makeAll (h : o.Standing accounts) (moves : List Move) :
    (o.makeAll moves).Standing accounts := by
  induction moves generalizing o with
  | nil => exact h
  | cons move moves ih => exact ih (h.make move)

/-! ## What comes of it -/

/-- An opening goes on to another one by a step of the session that changes anything. -/
def Onward (o' o : Opening) : Prop :=
  ∃ branch wallClock, o' = o.make (.session branch wallClock) ∧ o'.turn ≠ o.turn

/-- Nothing that the session does changes anything. -/
def AtRest (o : Opening) : Prop :=
  ∀ branch wallClock, (o.make (.session branch wallClock)).turn = o.turn

/-- **A session comes to rest** that nobody disturbs. -/
theorem onward_wf : WellFounded Onward := by
  refine Subrelation.wf (r := InvImage Dialogue.Less turn) ?_ (InvImage.wf turn Dialogue.less_wf)
  rintro o' o ⟨branch, wallClock, rfl, hchanged⟩
  exact (Dialogue.step_less branch o.now wallClock o.turn).resolve_left hchanged

/-- At rest a session that waits for a handshake has time left and has seen no message and no bad
frame, and the client may send more. -/
theorem AtRest.waits (h : o.AtRest) (hphase : o.session.phase = .greeting o.deadline)
    (hlimit : o.session.decoder.limit = Frame.maxLength) :
    (good o.turn.cameUp = [] ∧ fault? o.turn.cameUp = none) ∧ o.link.up.closed = false ∧
      o.now < o.deadline :=
  (step_hails (t := o.turn) hphase hlimit .frame o.now 0).eq_self hphase (h .frame 0)

/-- What comes of an opening. -/
structure Verdict (accounts : Accounts) (o : Opening) : Prop where
  /-- as long as what was sent in time does not admit the client, nothing has been done, and the
  session has not ended but in an error -/
  refused : (∀ login?, ¬ Admits accounts o.inTime login?) → o.Untouched accounts ∧
    ((∃ deadline, o.session.phase = .greeting deadline) ∨
      ∃ e, o.session.phase = .ended (.error e))
  /-- a client that is served was admitted, and is served as who it presented itself -/
  admitted : ∀ login?, o.served = some login? → Admits accounts o.inTime login? ∧
    ((∃ result, o.session.phase = .ended result) ∨ serves? o.session.phase = some login?)
  /-- when a client is admitted, the session is registered for the login that it presented, if it
  presented one, and nothing else is done -/
  signsIn : ∀ branch wallClock login?, o.served = none →
    (o.make (.session branch wallClock)).served = some login? →
    (o.make (.session branch wallClock)).office.room = o.turn.letIn login?
  /-- the session comes to rest -/
  rests : Acc Onward o
  /-- then it has served every client that was admitted -/
  serves : o.AtRest → ∀ login?, Admits accounts o.inTime login? → o.served = some login?
  /-- and has ended in an error for every other one, unless there is time left, the client may send
  more, and not even a frame has come up -/
  returns : o.AtRest → (∀ login?, ¬ Admits accounts o.inTime login?) →
    (∃ e, o.session.phase = .ended (.error e)) ∨
      o.now < o.deadline ∧ o.finished = false ∧ good o.inTime = [] ∧ fault? o.inTime = none

theorem Standing.verdict (h : o.Standing accounts) : o.Verdict accounts where
  refused hunfit := by
    cases h with
    | greets hphase _ _ _ _ huntouched => exact ⟨huntouched, .inl ⟨o.deadline, hphase⟩⟩
    | refused e hphase _ _ huntouched => exact ⟨huntouched, .inr ⟨e, hphase⟩⟩
    | admitted login? hfit => exact absurd hfit (hunfit login?)
  admitted login? hlogin := by
    cases h with
    | greets _ _ _ _ _ _ hserved => cases hserved.symm.trans hlogin
    | refused _ _ _ _ _ hserved => cases hserved.symm.trans hlogin
    | admitted other? hfit hserved hphase =>
      cases hserved.symm.trans hlogin
      exact ⟨hfit, hphase⟩
  signsIn branch wallClock login? hunserved hlogin := h.letIn hunserved hlogin
  rests := onward_wf.apply o
  serves hrest login? hfit := by
    cases h with
    | greets hphase hlimit _ hsent =>
      obtain ⟨⟨hgood, -⟩, -⟩ := hrest.waits hphase hlimit
      exact absurd (hsent ▸ hfit) (Session.not_admits_of_good hgood login?)
    | refused _ _ _ hunfit => exact absurd hfit (hunfit login?)
    | admitted other? hfit' hserved => rw [hserved, hfit.unique hfit']
  returns hrest hunfit := by
    cases h with
    | greets hphase hlimit _ hsent hup =>
      obtain ⟨hgood, hopen, hnow⟩ := hrest.waits hphase hlimit
      rw [Turn.cameUp] at hgood
      exact .inr ⟨hnow, hup.symm.trans hopen, by rw [hsent]; exact hgood⟩
    | refused e hphase => exact .inl ⟨e, hphase⟩
    | admitted login? hfit => exact absurd hfit (hunfit login?)

/-- **A refused handshake has no effect.** Whatever a client sends, in pieces of any size and at any
times, and whatever it sends behind its first frame: unless it has sent a handshake within the limit
that admits it, it is sent nothing, the office is what the others alone make of it, and the session
ends in an error, once the limit is over, the client has finished or its first frame is there. A
client that is admitted is served as exactly the login that it presented, or as nobody if it
presented none. -/
theorem opening_verdict (accounts : Accounts) (others : List Office.Move) (id : UInt64) (now : Nat)
    (moves : List Move) : ((start accounts others id now).makeAll moves).Verdict accounts :=
  ((standing_start accounts others id now).makeAll moves).verdict

/-- A message behind a wrong password is not even read, and one behind the right password is. -/
example :
    let o password := (start (.ofList [("bob", "secret")]) [] 7 0).makeAll
      [.sends (stream [.ofHandshake (.identified "bob" password ""),
          .ofRequest (.plain 5 "PUT" (Path.messagesTo ++ "bob"))]),
        .session .frame 0, .waits 4999, .session .frame 0, .session .frame 0]
    (o "guess").session.result? = some (.error (.authenticationFailed "bob")) ∧
      (o "guess").office.room.nextId = 1 ∧ (o "guess").link.down.held.size = 0 ∧
      (o "secret").served = some (some "bob") ∧ (o "secret").office.room.queuedCount "bob" = 1 := by
  decide +kernel

end Opening

end ChatSockets
