import ChatSockets.Proofs.Dialogue
import Mathlib.Order.WellFounded

/-!
# The transcript of a session

Left alone, a session and a client that reads come to rest: every step that changes anything lowers
what is still to be done (`onward_wf`). At rest the session has taken everything before the first
bad frame, the client has read all that was written, and the session has ended exactly if there was
a bad frame or the client finished (`Sound.atRest`). At any time before, it has done so for the
front of it: `session_transcript` puts this together, from the step that accepts the handshake on.
-/

namespace ChatSockets

open Session Wire

namespace Dialogue

/-! ## What is still to be done -/

/-- What a session that has not ended has still to read; a byte that is on the way is taken and then
read. -/
def unread (t : Session.Turn) : Nat :=
  match t.session.phase with
  | .ended _ => 0
  | _ => 2 * t.link.up.held.size + t.session.decoder.buffered + 1

/-- How many requests a session has still to pass on. -/
def unpassed (t : Session.Turn) : Nat :=
  match t.session.phase.signIn? with
  | none => 0
  | some i => (t.mailroom.onLine i.line).length

/-- What is still to be written and read by the client. -/
def undelivered (t : Session.Turn) : Nat :=
  t.link.down.held.size +
    match t.session.phase with
    | .writing _ rest => 2 * rest.size + 1
    | _ => 0

/-- All that is still to be done. What is read may bring requests to pass on, and each of them bytes
to write. -/
def work (t : Session.Turn) : Nat × Nat × Nat := (unread t, unpassed t, undelivered t)

/-- There is less to do. -/
def Less (t' t : Session.Turn) : Prop :=
  Prod.Lex (· < ·) (Prod.Lex (· < ·) (· < ·)) (work t') (work t)

variable {t t' u : Session.Turn} {signIn : Option SignIn} {d : Dialogue}

theorem less_wf : WellFounded Less :=
  InvImage.wf work (Prod.lex Nat.lt_wfRel (Prod.lex Nat.lt_wfRel Nat.lt_wfRel)).wf

theorem less_of_unread (h : unread t' < unread t) : Less t' t := .left _ _ h

theorem less_of_unpassed (hunread : unread t' = unread t) (h : unpassed t' < unpassed t) :
    Less t' t :=
  Prod.lex_def.2 (.inr ⟨hunread, .left _ _ h⟩)

theorem less_of_undelivered (hunread : unread t' = unread t) (hunpassed : unpassed t' = unpassed t)
    (h : undelivered t' < undelivered t) : Less t' t :=
  Prod.lex_def.2 (.inr ⟨hunread, Prod.lex_def.2 (.inr ⟨hunpassed, h⟩)⟩)

theorem unread_of_ended {result : Except SessionError Unit}
    (hphase : t.session.phase = .ended result) : unread t = 0 := by
  rw [unread, hphase]

theorem unread_of_not_ended (hphase : ∀ result, t.session.phase ≠ .ended result) :
    unread t = 2 * t.link.up.held.size + t.session.decoder.buffered + 1 := by
  unfold unread
  split
  · next result h => exact absurd h (hphase result)
  · rfl

theorem unread_le (t : Session.Turn) :
    unread t ≤ 2 * t.link.up.held.size + t.session.decoder.buffered + 1 := by
  unfold unread
  split
  · exact Nat.zero_le _
  · exact Nat.le_refl _

/-- A session that ends has nothing more to read. -/
theorem less_of_ended (hphase : ∀ result, t.session.phase ≠ .ended result)
    {result : Except SessionError Unit} (hended : t'.session.phase = .ended result) :
    Less t' t := by
  refine less_of_unread ?_
  rw [unread_of_ended hended, unread_of_not_ended hphase]
  exact Nat.succ_pos _

/-- A session that takes a message from its decoder has less to read, whatever it does then. -/
theorem less_of_next (hphase : ∀ result, t.session.phase ≠ .ended result)
    (hbuffered : t'.session.decoder.buffered < t.session.decoder.buffered)
    (hup : t'.link.up = t.link.up) : Less t' t := by
  refine less_of_unread ?_
  have hle := unread_le t'
  rw [unread_of_not_ended hphase]
  rw [hup] at hle
  omega

/-- A session that goes on after it wrote has as much to read as before. -/
theorem unread_of_goes {b : ByteArray} (h : u.Goes signIn b t')
    (hphase : ∀ result, t.session.phase ≠ .ended result)
    (hdecoder : u.session.decoder = t.session.decoder) (hup : u.link.up = t.link.up) :
    unread t' = unread t := by
  have hgoes : ∀ result, t'.session.phase ≠ .ended result := Phase.Serves.not_ended h.phase
  rw [unread_of_not_ended hgoes, unread_of_not_ended hphase, h.decoder, hdecoder, h.up, hup]

/-- A session that goes on with a frame writes some of it, or nothing changes. -/
theorem undelivered_write {rest : ByteArray} (hphase : t.session.phase = .writing signIn rest)
    (hopen : t.link.down.closed = false) :
    t.write signIn rest = t ∨ undelivered (t.write signIn rest) < undelivered t := by
  obtain ⟨left, down, hwrite⟩ := Pipe.exists_write? hopen rest
  obtain ⟨-, hopen', -⟩ := Pipe.write?_eq_some hwrite
  obtain ⟨put, rfl, hheld⟩ := Pipe.write?_puts hwrite
  have hsize : down.held.size = t.link.down.held.size + put.size := by
    rw [hheld, ByteArray.size_append]
  have hbefore : undelivered t =
      t.link.down.held.size + (2 * (put.size + left.size) + 1) := by
    rw [undelivered, hphase]
    dsimp only
    rw [ByteArray.size_append]
  unfold Turn.write
  rw [hwrite]
  dsimp only
  by_cases hleft : left.isEmpty = true
  · refine .inr ?_
    rw [if_pos hleft, hbefore]
    show down.held.size + 0 < _
    omega
  · rw [if_neg hleft]
    by_cases hput : put.size = 0
    · -- the pipe is full
      refine .inl ?_
      obtain rfl := ByteArray.size_eq_zero_iff.1 hput
      have hdown : down = t.link.down :=
        Pipe.eq_of_held (hheld.trans ByteArray.append_empty) (hopen'.trans hopen.symm)
      rw [ByteArray.empty_append] at hphase
      rw [hdown, Turn.goTo, ← hphase]
    · refine .inr ?_
      rw [hbefore]
      show down.held.size + (2 * left.size + 1) < _
      omega

/-- A message that is written ends the session, or leaves as much to read as before. -/
theorem less_writeMessage {m : Message} (hphase : ∀ result, t.session.phase ≠ .ended result)
    (hdecoder : u.session.decoder.buffered < t.session.decoder.buffered)
    (hup : u.link.up = t.link.up) : Less (u.writeMessage signIn m) t := by
  rcases u.writeMessage_cases signIn m with ⟨e, hout⟩ | ⟨-, hgoes⟩
  · exact less_of_ended hphase (by rw [hout, u.signOut_phase])
  · exact less_of_next hphase (by rw [hgoes.decoder]; exact hdecoder) (hgoes.up.trans hup)

/-- A message that is handled is no longer to be read. -/
theorem less_handle {m : Message} {decoder : Decoder}
    (hphase : ∀ result, t.session.phase ≠ .ended result)
    (hnext : t.session.decoder.next = (.ok (some m), decoder)) (wallClock : Nat)
    (signIn : Option SignIn) : Less (handle (t.withDecoder decoder) wallClock signIn m) t := by
  have hless := (Decoder.lt_of_next hnext).1
  rcases handle_cases (t.withDecoder decoder) wallClock signIn m with
    heq | ⟨r, -, -, heq⟩ | ⟨r, i, -, -, -, -, heq⟩
  · rw [heq]
    exact less_of_next hphase hless rfl
  · rw [heq]
    exact less_writeMessage hphase hless rfl
  · rw [heq]
    exact less_of_next hphase hless rfl

/-- **A step that changes anything** leaves less to do. -/
theorem step_less (branch : Session.Branch) (now wallClock : Nat) (t : Session.Turn) :
    step branch now wallClock t = t ∨ Less (step branch now wallClock t) t := by
  by_cases hended : ∃ result, t.session.phase = .ended result
  · obtain ⟨result, hended⟩ := hended
    exact .inl (step_of_ended hended branch now wallClock)
  have hphase : ∀ result, t.session.phase ≠ .ended result := fun result h => hended ⟨result, h⟩
  have hdoes := step_does branch now wallClock t
  generalize hears branch t = heard at hdoes
  generalize step branch now wallClock t = t' at hdoes ⊢
  cases hdoes with
  | nothing => exact .inl rfl
  | takes b up hread =>
    refine .inr (less_of_unread ?_)
    have hsize := congrArg ByteArray.size (Pipe.read_eq_bytes hread).1
    have hsome := Pipe.size_of_read (by decide) hread
    have hbuffered : (t.session.decoder.extend b).buffered =
        t.session.decoder.buffered + b.size := by
      rw [← Decoder.size_buffer, Decoder.buffer_extend, ByteArray.size_append, Decoder.size_buffer]
    rw [unread_of_not_ended hphase]
    refine Nat.lt_of_le_of_lt (unread_le _) ?_
    show 2 * up.held.size + (t.session.decoder.extend b).buffered + 1 < _
    rw [ByteArray.size_append] at hsize
    omega
  | ends decoder result => exact .inr (less_of_ended hphase (Turn.signOut_phase _ _ _))
  | greets deadline message decoder _ hnext =>
    refine .inr ?_
    have hless := (Decoder.lt_of_next hnext).1
    rcases greet_cases (t.withDecoder decoder) message with ⟨e, heq⟩ | heq | ⟨login, -, heq⟩
    · exact less_of_ended hphase (by rw [heq, Turn.signOut_phase])
    · rw [heq]
      exact less_of_next hphase hless rfl
    · rw [heq]
      exact less_of_next hphase hless rfl
  | handles signIn message decoder _ hnext =>
    exact .inr (less_handle hphase hnext wallClock signIn)
  | passes i r m hserves hline =>
    refine .inr ?_
    rcases Turn.writeMessage_cases { t with mailroom := m } (some i) (.ofRequest r) with
      ⟨e, hout⟩ | ⟨-, hgoes⟩
    · exact less_of_ended hphase (by rw [hout, Turn.signOut_phase])
    · refine less_of_unpassed (unread_of_goes hgoes hphase rfl rfl) ?_
      have honLine := (Mailroom.onLine_receive? hline).1
      rw [unpassed, unpassed, hgoes.signIn?, hserves, hgoes.mailroom]
      show (m.onLine i.line).length < (t.mailroom.onLine i.line).length
      rw [honLine]
      exact Nat.lt_succ_self _
  | writes signIn rest hwrites =>
    rcases t.write_cases signIn rest with hout | hgoes
    · exact .inr (less_of_ended hphase (by rw [hout, Turn.signOut_phase]))
    · refine (undelivered_write hwrites hgoes.isOpen.1).imp_right
        (less_of_undelivered (unread_of_goes hgoes hphase rfl rfl) ?_)
      rw [unpassed, unpassed, hgoes.signIn?, hgoes.mailroom, hwrites]
      rfl

/-! ## Coming to rest -/

/-- Whether a move is one of the session or of the client as a reader. -/
def Move.isOwn : Move → Bool
  | .session .. | .reads _ => true
  | _ => false

/-- A dialogue goes on to another one by a move of the session or of the reader that changes
anything. -/
def Onward (d' d : Dialogue) : Prop :=
  ∃ move : Move, move.isOwn = true ∧ d' = d.make move ∧ d'.turn ≠ d.turn

/-- Nothing that the session or the reader does changes anything. -/
def AtRest (d : Dialogue) : Prop :=
  ∀ move : Move, move.isOwn = true → (d.make move).turn = d.turn

/-- What the reader takes is no longer to be delivered. -/
theorem reads_less (d : Dialogue) (n : Nat) :
    (d.make (.reads n)).turn = d.turn ∨ Less (d.make (.reads n)).turn d.turn := by
  unfold make
  dsimp only
  cases hread : d.turn.link.down.read n with
  | mk result down =>
  cases result with
  | nothing => exact .inl rfl
  | ended => exact .inl rfl
  | bytes b =>
    obtain ⟨hheld, hclosed⟩ := Pipe.read_eq_bytes hread
    dsimp only
    by_cases hb : b.size = 0
    · refine .inl ?_
      obtain rfl := ByteArray.size_eq_zero_iff.1 hb
      rw [ByteArray.empty_append] at hheld
      rw [Pipe.eq_of_held hheld.symm hclosed]
    · refine .inr (less_of_undelivered rfl rfl ?_)
      have hsize := congrArg ByteArray.size hheld
      rw [ByteArray.size_append] at hsize
      exact Nat.add_lt_add_right (by show down.held.size < _; omega) _

/-- **A session and its reader come to rest**, whatever they do first. -/
theorem onward_wf : WellFounded Onward := by
  refine Subrelation.wf (r := InvImage Less turn) ?_ (InvImage.wf turn less_wf)
  rintro d' d ⟨move, hown, rfl, hchanged⟩
  cases move with
  | session branch now wallClock =>
    exact (step_less branch now wallClock d.turn).resolve_left hchanged
  | reads n => exact (d.reads_less n).resolve_left hchanged
  | sends b => cases hown
  | finishes => cases hown
  | others room => cases hown

/-- At rest the reader has read all that is there. -/
theorem AtRest.down (h : d.AtRest) : d.turn.link.down.held = .empty := by
  rw [← ByteArray.size_eq_zero_iff]
  by_contra hsome
  have hread := Pipe.read_of_le hsome (Nat.le_refl _)
  have hrests := h (.reads d.turn.link.down.held.size) rfl
  simp only [make, hread] at hrests
  have hheld := congrArg (·.link.down.held) hrests
  exact hsome (ByteArray.size_eq_zero_iff.2 hheld.symm)

/-- At rest a session that serves is not writing. -/
theorem AtRest.serving (h : d.AtRest) (hphase : d.turn.session.phase.Serves signIn)
    (hopen : d.turn.link.down.closed = false) : d.turn.session.phase = .serving signIn := by
  rcases hphase with hserves | ⟨rest, hwrites, hrest⟩
  · exact hserves
  · have hrests : d.turn.write signIn rest = d.turn := by
      have hstep := h (.session .push 0 0) rfl
      simpa only [make, step, hwrites] using hstep
    obtain ⟨left, down, hwrite⟩ := Pipe.exists_write? hopen rest
    have hdown : (d.turn.write signIn rest).link.down = down := by
      unfold Turn.write
      rw [hwrite]
      rfl
    rw [hrests] at hdown
    have hempty : d.turn.link.down.held.size = 0 := by rw [h.down]; rfl
    have hsize := (Pipe.size_write? (by omega) hwrite).1
    rw [← hdown, hempty, Pipe.capacity] at hsize
    omega

/-- At rest a session that serves has read all that was sent, and the client may send more. -/
theorem AtRest.read (h : d.AtRest) (hserves : d.turn.session.phase = .serving signIn)
    (hopen : d.turn.link.down.closed = false) :
    d.turn.session.decoder.next = (.ok none, d.turn.session.decoder) ∧
      d.turn.link.up.readable = false := by
  have hstep : step .frame 0 0 d.turn = d.turn := h (.session .frame 0 0) rfl
  have hgoes : ∀ result, d.turn.session.phase ≠ .ended result :=
    Phase.Serves.not_ended (.inl hserves)
  have hnone : d.turn.session.decoder.message? = none := by
    cases hmessage : d.turn.session.decoder.message? with
    | none => rfl
    | some m =>
      have hheard : hears .frame d.turn = some m := (hears_frame hserves 0).1.trans hmessage
      obtain ⟨-, decoder, hnext⟩ := hears_of_serving hserves hheard
      have hless := less_handle hgoes hnext 0 signIn
      rw [← step_handles hserves hnext 0, hstep] at hless
      exact absurd hless (less_wf.irrefl.irrefl _)
  have hlistens : Listens signIn .frame d.turn none none (step .frame 0 0 d.turn) := by
    have hlistens : Listens signIn .frame d.turn d.turn.session.decoder.message?
        (d.turn.session.decoder.message?.bind (replyTo? 0 d.turn signIn))
        (step .frame 0 0 d.turn) :=
      frame_listens hserves hopen (by rw [hnone]; simp) 0
    rwa [hnone] at hlistens
  generalize step .frame 0 0 d.turn = t' at hlistens hstep
  cases hlistens with
  | waits _ hquiet => exact hquiet hserves rfl
  | takes b up hread hserved =>
    have hsize := congrArg ByteArray.size (Pipe.read_eq_bytes hread).1
    have hsome := Pipe.size_of_read (by decide) hread
    rw [ByteArray.size_append, ← hserved.up, hstep] at hsize
    omega
  | finishes =>
    have hended := d.turn.signOut_phase signIn (.ok ())
    rw [hstep] at hended
    exact absurd hended (hgoes _)
  | fails e decoder =>
    have hended := (d.turn.withDecoder decoder).signOut_phase signIn (.error (.frame e))
    rw [hstep] at hended
    exact absurd hended (hgoes _)

/-- **What is so at rest**: everything before the first bad frame was taken, and everything that was
written has been read. -/
theorem Sound.atRest (hsound : d.Sound signIn) (h : d.AtRest) :
    d.heard = good d.sent ∧ d.got = stream d.written ∧
      d.turn.session.result? =
        if fault? d.sent = none ∧ d.finished = false then none else some d.outcome := by
  have hdown := hsound.down
  rw [h.down, ByteArray.append_empty] at hdown
  cases hsound.standing with
  | ended hphase hclosed hgood hfinished =>
    rw [hphase] at hdown
    refine ⟨hgood.symm, ByteArray.append_empty.symm.trans hdown, ?_⟩
    rw [result?, hphase, if_neg]
    rintro ⟨hnone, hgoes⟩
    cases (hfinished hnone).symm.trans hgoes
  | serves hphase hopen hup hlimit hleaves =>
    have hserves := h.serving hphase hopen
    obtain ⟨hnext, hreadable⟩ := h.read hserves hopen
    have hboth : d.turn.link.up.held.size = 0 ∧ d.turn.link.up.closed = false := by
      simpa [Pipe.readable] using hreadable
    rw [ByteArray.size_eq_zero_iff.1 hboth.1, ByteArray.append_empty] at hleaves
    obtain ⟨hgood, hfault⟩ := hleaves.waits hlimit hnext
    rw [hserves] at hdown
    refine ⟨hgood.symm, ByteArray.append_empty.symm.trans hdown, ?_⟩
    rw [hphase.result?, if_pos ⟨hfault, hup.symm.trans hboth.2⟩]

/-! ## The transcript -/

/-- What a session and its client have made of each other's bytes. -/
structure Transcript (signIn : Option SignIn) (d : Dialogue) : Prop where
  /-- messages are taken as they were sent, and none behind the first bad frame -/
  heard : d.heard <+: good d.sent
  /-- each request that was taken has one response, in this order and with its id, and nothing else
  has one -/
  responses : (d.written.filterMap Message.answered?).map Response.id =
    (d.heard.filterMap Message.asked?).map Request.id
  /-- each response is the server's answer at the time, and the mailboxes are as the message that
  was taken leaves them -/
  right : ∀ a ∈ d.actions, a.Right signIn
  /-- what is written comes to the client whole and in this order -/
  bytes : d.got ++ d.turn.link.down.held ++ d.turn.session.phase.unwritten = stream d.written
  /-- a session ends at the first bad frame, or after the client finished without one -/
  ended : ∀ result, d.turn.session.result? = some result →
    d.heard = good d.sent ∧ result = d.outcome ∧ (fault? d.sent = none → d.finished = true)
  /-- the session and the reader come to rest -/
  rests : Acc Onward d
  /-- then all messages before the first bad frame have been taken, the client has read everything,
  and the session has ended if there is a bad frame or the client finished -/
  atRest : d.AtRest → d.heard = good d.sent ∧ d.got = stream d.written ∧
    d.turn.session.result? =
      if fault? d.sent = none ∧ d.finished = false then none else some d.outcome

/-- The responses that a session writes are its replies. -/
theorem answered_written (d : Dialogue) : d.written.filterMap Message.answered? =
    d.actions.filterMap fun a => (a.said.bind Remark.reply?).map Prod.snd := by
  rw [written, said, List.filterMap_map, List.filterMap_filterMap]
  refine List.filterMap_congr fun a _ => ?_
  cases a.said with
  | none => rfl
  | some x => exact answered?_message x

/-- One response for each request that was taken, with its id. -/
theorem Sound.responses (h : d.Sound signIn) :
    (d.written.filterMap Message.answered?).map Response.id =
      (d.heard.filterMap Message.asked?).map Request.id := by
  rw [d.answered_written, heard, List.filterMap_filterMap, List.map_filterMap, List.map_filterMap]
  refine List.filterMap_congr fun a ha => ?_
  rw [(h.right a ha).reply]
  cases a.heard.bind Message.asked? with
  | none => rfl
  | some r => exact congrArg some (answer_id _ _ _ r)

theorem Sound.transcript (h : d.Sound signIn) : d.Transcript signIn where
  heard := by
    cases h.standing with
    | serves _ _ _ _ hleaves => exact hleaves.prefix_good
    | ended _ _ hgood => exact hgood ▸ List.prefix_rfl
  responses := h.responses
  right := h.right
  bytes := h.down
  ended result hresult := by
    cases h.standing with
    | serves hphase => cases hphase.result?.symm.trans hresult
    | ended hphase _ hgood hfinished =>
      rw [result?, hphase] at hresult
      exact ⟨hgood.symm, (Option.some.inj hresult).symm, hfinished⟩
  rests := onward_wf.apply d
  atRest := h.atRest

/-- **The transcript of a session.** From the step on in which it accepts a handshake, whatever the
client sends, in pieces of any size, whatever comes between, and whichever choice is made in each
step: the session takes the messages before the first bad frame in their order, gives each request
among them one response, in this order and with its id, and leaves the mailboxes as the messages do.
It takes nothing behind a bad frame, ends in the error of that frame if there is one, and well if
the client finished without one, even inside a frame. This is so as long as every message that it
sets out to write has a frame. -/
theorem session_transcript {t : Session.Turn} (hgreets : t.Greets) {branch : Session.Branch}
    {now wallClock : Nat} {signIn : Option SignIn}
    (haccepts : (step branch now wallClock t).session.phase = .serving signIn) (moves : List Move)
    (hfits : ∀ x ∈ ((start (step branch now wallClock t)).makeAll moves).said,
      x.message.length ≤ Frame.maxLength) :
    ((start (step branch now wallClock t)).makeAll moves).Transcript signIn :=
  (sound_makeAll (sound_start (hgreets.opens haccepts)) moves hfits).transcript

/-- Alice is signed in as she has sent the first bytes of a question behind her handshake. The rest
of it comes with an acknowledgement and a length that is refused, and is taken while her inbox is
passed on. -/
theorem transcript_of_question :
    let hello := Message.ofHandshake (.identified "alice" "secret" "")
    let ask := Message.ofRequest (.plain 5 "GET" Path.whoami)
    let ack := Message.ofResponse (.plain 9 200 "OK")
    let bytes := stream [ask, ack] ++ Frame.header (Frame.maxLength + 1)
    let t : Session.Turn :=
      { session :=
          { id := 7
            decoder := Decoder.new.extend (stream [hello] ++ bytes.extract 0 3)
            phase := .greeting 5000 }
        mailroom := .new (.ofList [("alice", "secret")])
        link := {} }
    let d := (start (step .frame 0 0 t)).makeAll
      [.session .push 0 0, .sends (bytes.extract 3 bytes.size), .session .frame 0 0, .reads 1000,
        .session .frame 0 0, .session .push 0 0, .session .frame 0 0, .session .frame 0 0]
    d.Transcript (some ⟨"alice", 0⟩) ∧ d.heard.length = 2 ∧
      d.turn.session.result? = some (.error (.frame (.tooLarge 1048577 1048576))) := by
  intro hello ask ack bytes t d
  have hgreets : t.Greets := ⟨⟨5000, rfl⟩, Decoder.limit_extend _ _, rfl, rfl⟩
  have hrun : (step .frame 0 0 t).session.phase.signIn? = some ⟨"alice", 0⟩ ∧
      (∀ x ∈ d.said, x.message.length ≤ Frame.maxLength) ∧ d.heard.length = 2 ∧
      d.turn.session.result? = some (.error (.frame (.tooLarge 1048577 1048576))) := by
    decide +kernel
  obtain ⟨hsignIn, hfits, hheard, hresult⟩ := hrun
  have haccepts : (step .frame 0 0 t).session.phase = .serving (some ⟨"alice", 0⟩) :=
    hgreets.serving_of_signIn? hsignIn
  exact ⟨session_transcript hgreets haccepts _ hfits, hheard, hresult⟩

end Dialogue

end ChatSockets
