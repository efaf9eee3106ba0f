import ChatSockets.Proofs.Server.Session
import ChatSockets.Proofs.Wire.Stream

/-!
# Which accepted messages can be sent

A session accepts a message of any length that fits into the frame it came in. The frame that
carries the message to its recipient is made of other parts: another path, the id, and the header
with the time at which it was accepted. `pushLength` is the length of its body, so a message can be
sent exactly if this is within the limit (`accepted_sendable_iff`). It is enough that the message
leaves 84 bytes of the limit to the rest (`pushLength_le`); a body at the upper end of the lengths
that are accepted does not (`longest_accepted_not_sendable`).

A message that cannot be sent ends every session that takes it from its line, and it stays in its
mailbox; so no session of its login ever gets past it (`Passing.blocked`).
-/

namespace ChatSockets

open Wire

/-! ## The length of a push -/

/-- A number has as many bytes as digits. -/
theorem size_toUTF8_repr (n : Nat) : (Nat.repr n).toUTF8.size = (Nat.repr n).length := by
  have hdigits : ∀ l : List Char, (∀ c ∈ l, c.isDigit = true) →
      (String.ofList l).toUTF8.size = l.length := by
    intro l
    induction l with
    | nil => exact fun _ => rfl
    | cons c l ih =>
      intro hl
      obtain ⟨hc, hl⟩ := List.forall_mem_cons.1 hl
      have hone : c.utf8Size = 1 := by
        rw [Char.utf8Size_eq_one_iff]
        simp only [Char.isDigit, Bool.and_eq_true, decide_eq_true_eq] at hc
        exact UInt32.le_trans hc.2 (by decide)
      have hcons : (String.ofList (c :: l)).utf8ByteSize = 1 + (String.ofList l).utf8ByteSize := by
        rw [String.ofList_cons, String.utf8ByteSize_append, String.utf8ByteSize_singleton, hone]
      have ih : (String.ofList l).utf8ByteSize = l.length := ih hl
      calc (String.ofList (c :: l)).toUTF8.size = 1 + (String.ofList l).utf8ByteSize := hcons
        _ = (c :: l).length := by rw [ih, List.length_cons, Nat.add_comm]
  rw [Nat.repr_eq_ofList_toDigits, String.length_ofList]
  exact hdigits _ fun c hc => Nat.isDigit_of_mem_toDigits (by decide) (by decide) hc

/-- The length of the body of the frame that carries a message to its recipient: a message of so
many bytes under an id, with a time of so many digits. -/
def pushLength (size : Nat) (id : UInt64) (digits : Nat) : Nat :=
  2 + fieldLength (22 + bytesLength size + numberLength id.toNat + fieldLength (19 + digits))

theorem Queued.length_request (q : Queued) :
    (Message.ofRequest q.request).length =
      pushLength q.body.size q.id (Nat.repr q.timestamp).length := by
  have hheader : (Header.line serverTimestamp (Nat.repr q.timestamp)).toUTF8.size =
      19 + (Nat.repr q.timestamp).length := by
    have happend : ∀ s t : String, (s ++ t).toUTF8.size = s.toUTF8.size + t.toUTF8.size :=
      fun s t => String.utf8ByteSize_append
    rw [Header.line, happend, happend, size_toUTF8_repr]
    rfl
  have htexts : textsLength q.request.headers =
      fieldLength (19 + (Nat.repr q.timestamp).length) := by
    rw [Queued.request, textsLength, hheader]
    rfl
  rw [Message.length_ofRequest, pushLength, Request.length, htexts]
  rfl

/-- A message that leaves 84 bytes of the limit to its push can be sent, whatever its id is and
until the times have more than twenty digits. -/
theorem pushLength_le {size : Nat} {id : UInt64} {digits : Nat}
    (hsize : size + 84 ≤ Frame.maxLength) (hdigits : digits ≤ 20) :
    pushLength size id digits ≤ Frame.maxLength := by
  have hthree : ∀ n, n ≤ Frame.maxLength → Varint.length n ≤ 3 := by
    intro n hn
    have hmax : Varint.length Frame.maxLength = 3 := by decide
    rw [← hmax]
    exact Varint.length_mono hn
  have hbytes : bytesLength size ≤ 4 + size := by
    have := hthree size (by omega)
    unfold bytesLength fieldLength
    split <;> omega
  have hnumber : numberLength id.toNat ≤ 11 := by
    have := Varint.length_le id.toNat
    unfold numberLength
    split <;> omega
  have hheader : fieldLength (19 + digits) ≤ 41 := by
    have : Varint.length (19 + digits) = 1 := Varint.length_of_lt (by omega)
    unfold fieldLength
    omega
  have hcontent : 22 + bytesLength size + numberLength id.toNat + fieldLength (19 + digits) ≤
      size + 78 := by omega
  have := hthree _ (Nat.le_trans hcontent (by omega))
  rw [pushLength, fieldLength]
  omega

/-! ## Taking a push from the line -/

/-- A message can be sent: its push has a frame, and no session that takes it from its line, signed
in as anyone at any time, ends because a frame is too large. -/
structure Queued.Sendable (q : Queued) : Prop where
  framed : ∃ frame, Frame.encode (.ofRequest q.request) = .ok frame
  passed : ∀ (t : Session.Turn) (i : SignIn) (m : Mailroom) (now wallClock length limit : Nat),
    t.session.phase = .serving (some i) → t.mailroom.receive? i.line = some (q.request, m) →
      (Session.step .push now wallClock t).session.result? ≠
        some (.error (.frame (.tooLarge length limit)))

/-- A message stands in the way: its push has no frame, and every session that takes it from its
line ends because of that and leaves the message in its mailbox. -/
structure Queued.Blocking (q : Queued) : Prop where
  unframed : Frame.maxLength < (Message.ofRequest q.request).length
  ends : ∀ (t : Session.Turn) (i : SignIn) (m : Mailroom) (now wallClock : Nat),
    t.session.phase = .serving (some i) → t.mailroom.receive? i.line = some (q.request, m) →
      (Session.step .push now wallClock t).session.result? = some
          (.error (.frame (.tooLarge (Message.ofRequest q.request).length Frame.maxLength))) ∧
        ∀ login, (Session.step .push now wallClock t).mailroom.mailbox login =
          t.mailroom.mailbox login

namespace Session

/-- A message within the limit does not end the session that writes it as too large. -/
theorem Turn.writeMessage_of_le (t : Turn) (signIn : Option SignIn) {m : Message}
    (hfit : m.length ≤ Frame.maxLength) (length limit : Nat) :
    (t.writeMessage signIn m).session.result? ≠
      some (.error (.frame (.tooLarge length limit))) := by
  rw [Turn.writeMessage, Frame.encode_of_le hfit]
  dsimp only
  rcases t.write_cases signIn (Frame.ofBody m.encode) with h | h
  · rw [h, (t.signOut_eq signIn _).1]
    simp [result?]
  · rcases h.phase with hphase | ⟨rest, hphase, -⟩ <;> simp [result?, hphase]

/-- A message above the limit ends the session that writes it, and leaves the mailboxes as they are.
-/
theorem Turn.writeMessage_of_lt (t : Turn) (signIn : Option SignIn) {m : Message}
    (hlong : Frame.maxLength < m.length) :
    (t.writeMessage signIn m).session.result? =
        some (.error (.frame (.tooLarge m.length Frame.maxLength))) ∧
      ∀ login, (t.writeMessage signIn m).mailroom.mailbox login = t.mailroom.mailbox login := by
  rw [Turn.writeMessage, Frame.encode_of_lt hlong]
  obtain ⟨hsession, -, hmailroom⟩ := t.signOut_eq signIn
    (.error (.frame (.tooLarge m.length Frame.maxLength)))
  constructor
  · rw [hsession]
    rfl
  · intro login
    rw [hmailroom]
    cases signIn with
    | none => rfl
    | some i => rw [Mailroom.mailbox_unregister, Mailroom.mailbox_hangUp]

end Session

/-- A message can be sent exactly if its push is within the limit. -/
theorem Queued.sendable_iff (q : Queued) : q.Sendable ↔
    pushLength q.body.size q.id (Nat.repr q.timestamp).length ≤ Frame.maxLength := by
  rw [← q.length_request]
  constructor
  · rintro ⟨⟨frame, hframe⟩, -⟩
    by_cases hfit : (Message.ofRequest q.request).length ≤ Frame.maxLength
    · exact hfit
    · rw [Frame.encode_of_lt (by omega)] at hframe
      cases hframe
  · intro hfit
    refine ⟨⟨_, Frame.encode_of_le hfit⟩, ?_⟩
    intro t i m now wallClock length limit hphase hline
    rw [Session.step_push hphase hline]
    exact Session.Turn.writeMessage_of_le _ _ hfit length limit

/-- A message stands in the way exactly if its push is above the limit. -/
theorem Queued.blocking_iff (q : Queued) : q.Blocking ↔
    Frame.maxLength < pushLength q.body.size q.id (Nat.repr q.timestamp).length := by
  rw [← q.length_request]
  constructor
  · exact fun h => h.unframed
  · intro hlong
    refine ⟨hlong, ?_⟩
    intro t i m now wallClock hphase hline
    rw [Session.step_push hphase hline]
    obtain ⟨hresult, hboxes⟩ :=
      Session.Turn.writeMessage_of_lt { t with mailroom := m } (some i) hlong
    exact ⟨hresult, fun login => (hboxes login).trans (Mailroom.mailbox_receive? hline login)⟩

/-! ## A message that stands in the way -/

namespace Session

/-- A session that is signed in, and what is around it: it makes steps, its link changes in any way,
and so does the mailroom, but for its line, to which requests may be added. -/
inductive Passing (line : Nat) (t : Turn) : Turn → Prop
  | refl : Passing line t t
  | step {t' : Turn} (before : Passing line t t') (branch : Branch) (now wallClock : Nat) :
    Passing line t (Session.step branch now wallClock t')
  | around {t' : Turn} (before : Passing line t t') (link : Link) (m : Mailroom)
    (more : List Wire.Request) (hline : m.onLine line = t'.mailroom.onLine line ++ more) :
    Passing line t { t' with link, mailroom := m }

/-- **No session gets past a message that stands in the way.** However long it goes on, the message
and all that stood behind it are still on its line, or the session has ended. -/
theorem Passing.blocked {t t' : Turn} {i : SignIn} (h : Passing i.line t t') {q : Queued}
    (hq : q.Blocking) (hi : t.session.phase.signIn? = some i) {front behind : List Wire.Request}
    (hline : t.mailroom.onLine i.line = front ++ q.request :: behind) :
    (∃ result, t'.session.result? = some result) ∨
      t'.session.phase.signIn? = some i ∧ ∃ front' more,
        t'.mailroom.onLine i.line = front' ++ q.request :: (behind ++ more) := by
  induction h with
  | refl => exact .inr ⟨hi, front, [], by rw [List.append_nil, hline]⟩
  | @step t' _ branch now wallClock ih =>
    rcases ih with ⟨result, hended⟩ | ⟨hi', front', more, hline'⟩
    · -- a session that has ended makes no step
      have hstay : Session.step branch now wallClock t' = t' := by
        unfold result? at hended
        split at hended
        · next hphase => simp only [Session.step, hphase]
        · cases hended
      exact .inl ⟨result, by rw [hstay]; exact hended⟩
    · rcases (step_does branch now wallClock t').line hi' with
        hended | ⟨hi'', ⟨added, hadded⟩ | ⟨r, htaken, hfit⟩⟩
      · exact .inl hended
      · refine .inr ⟨hi'', front', more ++ added, ?_⟩
        rw [hadded, hline']
        simp
      · rw [hline'] at htaken
        cases front' with
        | nil =>
          injection htaken with hr
          rw [← hr] at hfit
          exact absurd hq.unframed (by omega)
        | cons first front' =>
          injection htaken with _ hrest
          exact .inr ⟨hi'', front', more, hrest.symm⟩
  | around _ link m added hadded ih =>
    rcases ih with hended | ⟨hi', front', more, hline'⟩
    · exact .inl hended
    · refine .inr ⟨hi', front', more ++ added, ?_⟩
      show m.onLine i.line = _
      rw [hadded, hline']
      simp

end Session

/-! ## Accepting a message -/

namespace Session

/-- A request that brings a message for a login is answered by 200 exactly if the login has an
account, and then the message is delivered. -/
theorem answer_of_message {r : Wire.Request} {recipient : String} (hverb : r.verb = "PUT")
    (hpath : r.path = Path.messagesTo ++ recipient) (m : Mailroom) (wallClock : Nat)
    (login : Option String) :
    answer m wallClock login r =
      if m.hasAccount recipient = true then
        (.plain r.id 200 "OK", (m.deliver wallClock recipient r.body).2)
      else (.plain r.id 404 "Unknown recipient", m) := by
  have hget : ¬ r.verb = "GET" := by rw [hverb]; decide
  have hafter : Text.after? Path.messagesTo.toList r.path.toList = some recipient.toList := by
    rw [Text.after?_eq_some_iff, hpath, String.toList_append]
  unfold answer
  rw [if_neg fun h => hget h.1, if_neg fun h => hget h.1, if_pos hverb, hafter]
  dsimp only
  rw [String.ofList_toList, Mailroom.deliver_eq]
  by_cases haccount : m.hasAccount recipient = true
  · rw [if_pos haccount, if_pos haccount]
  · rw [if_neg haccount, if_neg haccount]

/-- **Which accepted messages can be sent.** A request that brings a message for a recipient and is
answered by 200 leaves it in the recipient's mailbox. The message can be sent exactly if its push is
within the limit of a frame, and stands in the way of all that follow it otherwise. -/
theorem accepted_sendable_iff (m : Mailroom) (wallClock : Nat) (login : Option String)
    (r : Wire.Request) (recipient : String) (hverb : r.verb = "PUT")
    (hpath : r.path = Path.messagesTo ++ recipient)
    (hok : (answer m wallClock login r).1.status = 200) :
    ∃ q : Queued, (answer m wallClock login r).2.mailbox recipient = m.mailbox recipient ++ [q] ∧
      q.id = m.nextId ∧ q.body = r.body ∧ q.timestamp = wallClock ∧
      (q.Sendable ↔
        pushLength r.body.size m.nextId (Nat.repr wallClock).length ≤ Frame.maxLength) ∧
      (q.Blocking ↔
        Frame.maxLength < pushLength r.body.size m.nextId (Nat.repr wallClock).length) := by
  rw [answer_of_message hverb hpath] at hok ⊢
  by_cases haccount : m.hasAccount recipient = true
  · rw [if_pos haccount]
    have hmailbox := m.mailbox_deliver wallClock recipient r.body recipient
    rw [if_pos ⟨rfl, haccount⟩] at hmailbox
    exact ⟨⟨m.nextId, r.body, wallClock⟩, hmailbox, rfl, rfl, rfl, Queued.sendable_iff _,
      Queued.blocking_iff _⟩
  · rw [if_neg haccount] at hok
    have hstatus : ¬ (404 : UInt32) = 200 := by decide
    exact absurd hok hstatus

/-- A mailroom with one account. -/
def oneAccount : Mailroom := .new (.ofList [("bob", "secret")])

/-- A message of one byte can be sent. -/
theorem accepted_sendable_of_one_byte :
    ∃ q : Queued, (answer oneAccount 1700000000000 none
        { verb := "PUT", path := "/v1/messages/bob", body := ⟨#[0]⟩ }).2.mailbox "bob" = [q] ∧
      q.Sendable := by
  obtain ⟨q, hmailbox, -, -, -, hsendable, -⟩ := accepted_sendable_iff oneAccount 1700000000000 none
    { verb := "PUT", path := "/v1/messages/bob", body := ⟨#[0]⟩ } "bob" rfl rfl (by decide)
  exact ⟨q, hmailbox, hsendable.2 (by decide)⟩

/-- The longest message for `bob` that a frame brings to the server, under the id 1. -/
def longest : Wire.Request :=
  { verb := "PUT", path := "/v1/messages/bob", body := ⟨Array.replicate 1048541 0⟩, id := 1 }

/-- The longest message is read from its frame and accepted, and then stands in the way. -/
theorem longest_accepted_not_sendable :
    (Message.ofRequest longest).length = Frame.maxLength ∧
      (∃ d, (Decoder.new.extend (Frame.ofBody (Message.ofRequest longest).encode)).next =
        (.ok (some (.ofRequest longest)), d)) ∧
      (answer oneAccount 1700000000000 none longest).1.status = 200 ∧
      ∃ q : Queued, (answer oneAccount 1700000000000 none longest).2.mailbox "bob" = [q] ∧
        ¬ q.Sendable ∧ q.Blocking := by
  have hsize : longest.body.size = 1048541 := Array.size_replicate
  have hlength : (Message.ofRequest longest).length = Frame.maxLength := by
    have hverb : longest.verb.toUTF8.size = 3 := by decide
    have hpath : longest.path.toUTF8.size = 16 := by decide
    rw [Message.length_ofRequest, Request.length, hverb, hpath, hsize]
    decide
  have haccepted : (answer oneAccount 1700000000000 none longest).1.status = 200 := by
    have haccount : oneAccount.hasAccount "bob" = true := by decide
    have hpath : longest.path = Path.messagesTo ++ "bob" := by decide
    have hanswer := answer_of_message rfl hpath oneAccount 1700000000000 none
    rw [if_pos haccount] at hanswer
    rw [hanswer]
    rfl
  refine ⟨hlength, ?_, haccepted, ?_⟩
  · have hbuffer : (Decoder.new.extend (Frame.ofBody (Message.ofRequest longest).encode)).buffer =
        Frame.ofBody (Message.ofRequest longest).encode ++ .empty := by
      rw [Decoder.buffer_extend, ByteArray.append_empty]
      exact ByteArray.empty_append
    obtain ⟨d, hnext, -, -⟩ :=
      Decoder.next_of_ofBody (Decoder.limit_extend .new _) (Nat.le_of_eq hlength) hbuffer
    exact ⟨d, hnext⟩
  · obtain ⟨q, hmailbox, -, -, -, hsendable, hblocking⟩ := accepted_sendable_iff oneAccount
      1700000000000 none longest "bob" rfl rfl haccepted
    rw [hsize] at hsendable hblocking
    exact ⟨q, hmailbox, fun h => absurd (hsendable.1 h) (by decide), hblocking.2 (by decide)⟩

end Session

end ChatSockets
