import ChatSockets.Proofs.Server.Listening

/-!
# A session and the client at the other end

A `Dialogue` is a session that has accepted a handshake, with its client. The client sends bytes in
pieces of any size, as far as the pipe has room, and may say that it will send no more; it reads
what comes down whenever it likes, and does not let go of that direction. Meanwhile the others may
do anything in the mailroom. A dialogue keeps all bytes of both directions and the actions of the
session.

`Dialogue.Standing` says how far a session is in what was sent to it. Every move keeps it
(`Sound.make`), and so do all (`sound_makeAll`), as long as every message that the session sets out
to write has a frame.
-/

namespace ChatSockets

open Session Wire

/-- A session past its handshake, and the client at the other end of its link. -/
structure Dialogue where
  turn : Session.Turn
  /-- the bytes that the client has sent behind its handshake -/
  sent : ByteArray
  /-- the bytes that the client has read -/
  got : ByteArray := .empty
  /-- the client will send no more -/
  finished : Bool
  actions : List Action := []

namespace Dialogue

/-- A dialogue that begins with a session as it is. -/
def start (t : Session.Turn) : Dialogue where
  turn := t
  sent := t.session.decoder.buffer ++ t.link.up.held
  finished := t.link.up.closed

/-- What can happen. -/
inductive Move
  /-- the session makes a step -/
  | session (branch : Session.Branch) (now wallClock : Nat)
  /-- the client reads at most so many bytes -/
  | reads (n : Nat)
  /-- the client offers some bytes, of which the pipe takes what it has room for -/
  | sends (b : ByteArray)
  /-- the client will send no more -/
  | finishes
  /-- the others do something in the mailroom -/
  | others (room : Mailroom)

/-- The dialogue after a move. -/
def make (d : Dialogue) : Move → Dialogue
  | .session branch now wallClock =>
    { d with
      turn := step branch now wallClock d.turn
      actions := d.actions ++ [action branch now wallClock d.turn] }
  | .reads n =>
    match d.turn.link.down.read n with
    | (.bytes b, down) =>
      { d with turn := { d.turn with link := { d.turn.link with down } }, got := d.got ++ b }
    | _ => d
  | .sends b =>
    match d.turn.link.up.write? b with
    | none => d
    | some (rest, up) =>
      { d with
        turn := { d.turn with link := { d.turn.link with up } }
        sent := d.sent ++ b.extract 0 (b.size - rest.size) }
  | .finishes => { d with turn := { d.turn with link := d.turn.link.closeUp }, finished := true }
  | .others room => { d with turn := { d.turn with mailroom := room } }

/-- The dialogue after some moves. -/
def makeAll (d : Dialogue) (moves : List Move) : Dialogue := moves.foldl make d

/-- The messages that the session has taken. -/
def heard (d : Dialogue) : List Message := d.actions.filterMap Action.heard

/-- What the session has set out to write. -/
def said (d : Dialogue) : List Remark := d.actions.filterMap Action.said

/-- The messages that the session has set out to write. -/
def written (d : Dialogue) : List Message := d.said.map Remark.message

/-- What a session ends in that has read all that was sent, up to the first bad frame. -/
def outcome (d : Dialogue) : Except SessionError Unit :=
  match fault? d.sent with
  | none => .ok ()
  | some e => .error (.frame e)

variable {d : Dialogue} {signIn : Option SignIn} {branch : Session.Branch} {now wallClock : Nat}

/-! ## What a move adds -/

theorem makeAll_append (d : Dialogue) (moves more : List Move) :
    d.makeAll (moves ++ more) = (d.makeAll moves).makeAll more := List.foldl_append

theorem heard_session (d : Dialogue) (branch : Session.Branch) (now wallClock : Nat) :
    (d.make (.session branch now wallClock)).heard = d.heard ++ (hears branch d.turn).toList := by
  show (d.actions ++ [_]).filterMap Action.heard = _
  rw [List.filterMap_append]
  cases hheard : hears branch d.turn <;> simp [heard, action, hheard]

theorem said_session (d : Dialogue) (branch : Session.Branch) (now wallClock : Nat) :
    (d.make (.session branch now wallClock)).said =
      d.said ++ (remark? branch wallClock d.turn).toList := by
  show (d.actions ++ [_]).filterMap Action.said = _
  rw [List.filterMap_append]
  cases hsaid : remark? branch wallClock d.turn <;> simp [said, action, hsaid]

/-- Only the session acts. -/
theorem actions_make (d : Dialogue) (move : Move) :
    (d.make move).actions = d.actions ∨ ∃ branch now wallClock,
      move = .session branch now wallClock := by
  cases move with
  | session branch now wallClock => exact .inr ⟨branch, now, wallClock, rfl⟩
  | reads n =>
    refine .inl ?_
    unfold make
    dsimp only
    split <;> rfl
  | sends b =>
    refine .inl ?_
    unfold make
    dsimp only
    split <;> rfl
  | finishes => exact .inl rfl
  | others room => exact .inl rfl

/-- What was said stays said. -/
theorem said_make (d : Dialogue) (move : Move) : d.said <+: (d.make move).said := by
  rcases d.actions_make move with hsame | ⟨branch, now, wallClock, rfl⟩
  · have hsaid : (d.make move).said = d.said := congrArg (List.filterMap Action.said) hsame
    exact hsaid ▸ List.prefix_rfl
  · rw [said_session]
    exact List.prefix_append _ _

theorem said_makeAll (d : Dialogue) (moves : List Move) : d.said <+: (d.makeAll moves).said := by
  induction moves generalizing d with
  | nil => exact List.prefix_rfl
  | cons move moves ih => exact (d.said_make move).trans (ih (d.make move))

/-! ## How far a session is -/

/-- How far a session is in what was sent to it. While it serves, what it has not taken is in its
decoder and on the way; when it has ended, it has taken all messages before the first bad frame. -/
inductive Standing (signIn : Option SignIn) (d : Dialogue) : Prop
  | serves (hphase : d.turn.session.phase.Serves signIn)
    (hopen : d.turn.link.down.closed = false) (hup : d.turn.link.up.closed = d.finished)
    (hlimit : d.turn.session.decoder.limit = Frame.maxLength)
    (hleaves : Leaves d.sent d.heard (d.turn.session.decoder.buffer ++ d.turn.link.up.held))
  | ended (hphase : d.turn.session.phase = .ended d.outcome)
    (hclosed : d.turn.link.up.closed = true) (hgood : good d.sent = d.heard)
    (hfinished : fault? d.sent = none → d.finished = true)

/-- Every action was right, the client has or will have the bytes of what was said, and the session
stands where it should. -/
structure Sound (signIn : Option SignIn) (d : Dialogue) : Prop where
  right : ∀ a ∈ d.actions, a.Right signIn
  down : d.got ++ d.turn.link.down.held ++ d.turn.session.phase.unwritten = stream d.written
  standing : d.Standing signIn

/-- A session that has just accepted a handshake has everything before it. -/
theorem sound_start {t : Session.Turn} (h : t.Opens signIn) : (start t).Sound signIn := by
  refine ⟨fun a ha => absurd ha List.not_mem_nil, ?_,
    .serves (.inl h.phase) h.down.2 rfl h.limit (leaves_all _)⟩
  show ByteArray.empty ++ t.link.down.held ++ t.session.phase.unwritten = .empty
  rw [h.down.1, h.phase]
  rfl

/-- A session that has ended does nothing. -/
theorem Sound.session_of_ended (h : d.Sound signIn)
    {result : Except SessionError Unit} (hphase : d.turn.session.phase = .ended result) :
    (d.make (.session branch now wallClock)).Sound signIn := by
  have hheard := d.heard_session branch now wallClock
  have hsaid := d.said_session branch now wallClock
  have hright : (action branch now wallClock d.turn).Right signIn :=
    step_right (.inr ⟨result, hphase⟩) branch now wallClock
  have hturn : (d.make (.session branch now wallClock)).turn = d.turn :=
    step_of_ended hphase branch now wallClock
  have hquiet : hears branch d.turn = none := by simp only [hears, hphase]
  rw [hquiet, Option.toList_none, List.append_nil] at hheard
  rw [remark?_of_ended hphase, Option.toList_none, List.append_nil] at hsaid
  refine ⟨fun a ha => ?_, ?_, ?_⟩
  · rcases List.mem_append.1 ha with ha | ha
    · exact h.right a ha
    · exact List.mem_singleton.1 ha ▸ hright
  · rw [hturn, written, hsaid]
    exact h.down
  · cases h.standing with
    | serves hserves => exact absurd hphase (hserves.not_ended result)
    | ended hended hclosed hgood hfinished =>
      refine .ended ?_ ?_ ?_ hfinished
      · rw [hturn]
        exact hended
      · rw [hturn]
        exact hclosed
      · rw [hheard]
        exact hgood

/-- A session that serves on stands where its decoder and its pipe stand. -/
theorem standing_of_servesOn {decoder : Decoder} {up : Pipe}
    (h : d.turn.ServesOn signIn decoder up) (hup : up.closed = d.finished)
    (hlimit : decoder.limit = Frame.maxLength)
    (hleaves : Leaves d.sent d.heard (decoder.buffer ++ up.held)) : d.Standing signIn := by
  obtain ⟨hphase, rfl, rfl, hopen⟩ := h
  exact .serves hphase hopen hup hlimit hleaves

/-- A session that is signed out after it has read the whole of what was sent, up to the first bad
frame. -/
theorem standing_of_signOut {u : Session.Turn} (fault : Option FrameError)
    (hturn : d.turn = u.signOut signIn (fault.elim (.ok ()) fun e => .error (.frame e)))
    (hread : good d.sent = d.heard ∧ fault? d.sent = fault)
    (hfinished : fault = none → d.finished = true) : d.Standing signIn := by
  refine .ended ?_ ?_ hread.1 fun hnone => hfinished (hread.2.symm.trans hnone)
  · rw [hturn, u.signOut_phase, outcome, hread.2]
    cases fault <;> rfl
  · rw [hturn, (u.signOut_eq signIn _).2.1]
    rfl

/-- **A session that serves** takes the next of what was sent, or comes to its end. -/
theorem standing_session (hphase : d.turn.session.phase.Serves signIn)
    (hfits : ∀ x ∈ remark? branch wallClock d.turn, x.message.length ≤ Frame.maxLength)
    (h : d.Standing signIn) : (d.make (.session branch now wallClock)).Standing signIn := by
  cases h with
  | ended hended => exact absurd hended (hphase.not_ended _)
  | serves _ hopen hup hlimit hleaves =>
    have hheard := d.heard_session branch now wallClock
    have hlistens := step_listens hphase hopen hfits now
    have hturn : (d.make (.session branch now wallClock)).turn =
      step branch now wallClock d.turn := rfl
    have hsent : (d.make (.session branch now wallClock)).sent = d.sent := rfl
    have hsame : (d.make (.session branch now wallClock)).finished = d.finished := rfl
    generalize d.make (.session branch now wallClock) = d' at hheard hturn hsent hsame ⊢
    generalize hears branch d.turn = heard at hheard hlistens
    generalize remark? branch wallClock d.turn = remark at hlistens
    generalize step branch now wallClock d.turn = t' at hlistens hturn
    cases hlistens with
    | waits _ _ h =>
      rw [Option.toList_none, List.append_nil] at hheard
      exact standing_of_servesOn (hturn ▸ h) (hup.trans hsame.symm) hlimit
        (by rw [hsent, hheard]; exact hleaves)
    | takes b up hread h =>
      rw [Option.toList_none, List.append_nil] at hheard
      obtain ⟨hheld, hclosed⟩ := Pipe.read_eq_bytes hread
      refine standing_of_servesOn (hturn ▸ h) (hclosed.trans (hup.trans hsame.symm))
        ((Decoder.limit_extend _ _).trans hlimit) ?_
      rw [hsent, hheard, Decoder.buffer_extend, ByteArray.append_assoc, ← hheld]
      exact hleaves
    | hears m decoder _ hnext h =>
      refine standing_of_servesOn (hturn ▸ h) (hup.trans hsame.symm)
        ((Decoder.lt_of_next hnext).2.trans hlimit) ?_
      rw [hsent, hheard]
      exact hleaves.next hlimit hnext
    | finishes _ hnext hended =>
      rw [Option.toList_none, List.append_nil] at hheard
      rw [ByteArray.size_eq_zero_iff.1 hended.1, ByteArray.append_empty] at hleaves
      refine standing_of_signOut none hturn ?_ fun _ =>
        hsame.trans (hup.symm.trans hended.2)
      rw [hsent, hheard]
      exact hleaves.waits hlimit hnext
    | fails e decoder _ hnext =>
      rw [Option.toList_none, List.append_nil] at hheard
      refine standing_of_signOut (some e) hturn ?_ fun hnone => by cases hnone
      rw [hsent, hheard]
      exact hleaves.fails hlimit hnext

theorem Sound.session_of_serves (h : d.Sound signIn) (hphase : d.turn.session.phase.Serves signIn)
    (hfits : ∀ x ∈ remark? branch wallClock d.turn, x.message.length ≤ Frame.maxLength) :
    (d.make (.session branch now wallClock)).Sound signIn := by
  have hsaid := d.said_session branch now wallClock
  have hright := step_right (.inl hphase) branch now wallClock
  refine ⟨fun a ha => ?_, ?_, standing_session hphase hfits h.standing⟩
  · rcases List.mem_append.1 ha with ha | ha
    · exact h.right a ha
    · exact List.mem_singleton.1 ha ▸ hright
  · cases h.standing with
    | ended hended => exact absurd hended (hphase.not_ended _)
    | serves _ hopen =>
      have hdown := step_down hphase hopen hfits now
      have hturn : (d.make (.session branch now wallClock)).turn =
        step branch now wallClock d.turn := rfl
      rw [written, hsaid, hturn, List.map_append, stream_append, ByteArray.append_assoc]
      show d.got ++ _ = _
      rw [hdown, ← ByteArray.append_assoc, ← ByteArray.append_assoc, h.down]
      rfl

/-- **What every move keeps**, as long as what the session sets out to write has a frame. -/
theorem Sound.make (h : d.Sound signIn) (move : Move)
    (hfits : ∀ x ∈ (d.make move).said, x.message.length ≤ Frame.maxLength) :
    (d.make move).Sound signIn := by
  cases move with
  | session branch now wallClock =>
    cases h.standing with
    | ended hended => exact h.session_of_ended hended
    | serves hphase =>
      refine h.session_of_serves hphase fun x hx => hfits x ?_
      rw [said_session]
      exact List.mem_append_right _ (Option.mem_toList.2 hx)
  | reads n =>
    cases hread : d.turn.link.down.read n with
    | mk result down =>
    cases result with
    | nothing => simpa only [Dialogue.make, hread] using h
    | ended => simpa only [Dialogue.make, hread] using h
    | bytes b =>
      obtain ⟨hheld, hclosed⟩ := Pipe.read_eq_bytes hread
      simp only [Dialogue.make, hread]
      refine ⟨h.right, ?_, ?_⟩
      · have hdown := h.down
        rw [hheld, ← ByteArray.append_assoc] at hdown
        exact hdown
      · cases h.standing with
        | serves hphase hopen hup hlimit hleaves =>
          exact .serves hphase (hclosed.trans hopen) hup hlimit hleaves
        | ended hphase hup hgood hfinished => exact .ended hphase hup hgood hfinished
  | sends b =>
    cases hwrite : d.turn.link.up.write? b with
    | none => simpa only [Dialogue.make, hwrite] using h
    | some written =>
      obtain ⟨rest, up⟩ := written
      obtain ⟨hopen, hopen', -⟩ := Pipe.write?_eq_some hwrite
      obtain ⟨put, rfl, hheld⟩ := Pipe.write?_puts hwrite
      have hput : (put ++ rest).extract 0 ((put ++ rest).size - rest.size) = put :=
        ByteArray.extract_append_eq_left (by simp)
      simp only [Dialogue.make, hwrite, hput]
      refine ⟨h.right, h.down, ?_⟩
      cases h.standing with
      | serves hphase hdown hup hlimit hleaves =>
        refine .serves hphase hdown (hopen'.trans (hopen.symm.trans hup)) hlimit ?_
        have hmore := hleaves.append put
        rw [ByteArray.append_assoc, ← hheld] at hmore
        exact hmore
      | ended _ hclosed => cases hopen.symm.trans hclosed
  | finishes =>
    refine ⟨h.right, h.down, ?_⟩
    cases h.standing with
    | serves hphase hopen hup hlimit hleaves => exact .serves hphase hopen rfl hlimit hleaves
    | ended hphase hclosed hgood hfinished => exact .ended hphase rfl hgood fun _ => rfl
  | others room =>
    refine ⟨h.right, h.down, ?_⟩
    cases h.standing with
    | serves hphase hopen hup hlimit hleaves => exact .serves hphase hopen hup hlimit hleaves
    | ended hphase hclosed hgood hfinished => exact .ended hphase hclosed hgood hfinished

/-- **What is so after any moves.** -/
theorem sound_makeAll (h : d.Sound signIn) (moves : List Move)
    (hfits : ∀ x ∈ (d.makeAll moves).said, x.message.length ≤ Frame.maxLength) :
    (d.makeAll moves).Sound signIn := by
  induction moves generalizing d with
  | nil => exact h
  | cons move moves ih =>
    have hmade := h.make move fun x hx => hfits x (((d.make move).said_makeAll moves).subset hx)
    exact ih hmade hfits

end Dialogue

end ChatSockets
