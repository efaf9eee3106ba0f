import ChatSockets.Proofs.Application.Intake
import ChatSockets.Proofs.Header
import ChatSockets.Proofs.Server.Push

/-!
# A message from its mailbox to the application

A server writes the time at which it accepted a message as a header line, and its client reads it
back from there (`incomingOf_request`): a line that was made of a name without a colon and of a
value is a header with this name and the trimmed value (`Header.value?_line`). The frame of the
message gives the request in whatever pieces it is read, and the client does two things for it: it
puts the message on the channel of incoming messages, and it answers by 200 under the id of the
message. The session that reads this answer takes the message out of the mailbox, and does nothing
else (`Session.step_grant`). So the server and its client agree on every message whose push is
within the limit of a frame (`handed_over`).
-/

namespace ChatSockets

open Wire Keeper

/-! ## What is written and what is read -/

namespace Queued

variable {q : Queued}

/-- **The time of a message is read back** from the header line that it was written to. -/
theorem incomingOf_request (socket : SocketKind) (hstamp : q.timestamp < UInt64.size) :
    Turn.incomingOf socket q.request = ⟨socket, q.body, some q.timestamp⟩ := by
  have hkey : ':' ∉ serverTimestamp.toList := by decide
  have hname : Text.trim serverTimestamp.toList = serverTimestamp.toList := by decide
  have hvalue : Header.value? serverTimestamp.toList
      (Header.line serverTimestamp (Nat.repr q.timestamp)).toList =
      some (Nat.repr q.timestamp).toList := by
    rw [Header.value?_line hkey, hname, if_pos (Header.sameName_self _),
      Text.trim_of_unpadded (Text.unpadded_repr _)]
  have hfind : Header.find? q.request.headers serverTimestamp = some (Nat.repr q.timestamp) := by
    rw [Header.find?, request, List.findSome?_cons, hvalue, Option.map_some, String.ofList_toList]
  unfold Turn.incomingOf
  rw [hfind, Option.bind_some, Text.unsigned?_repr hstamp]
  rfl

/-- What a client puts on the channel for the push of a message. -/
theorem deliveries_push (socket : SocketKind) (hstamp : q.timestamp < UInt64.size) :
    deliveries socket [.ofRequest q.request] = [⟨socket, q.body, some q.timestamp⟩] :=
  congrArg (fun i => [i]) (incomingOf_request socket hstamp)

/-- The push of a message is answered by 200. -/
theorem repliesTo_push (q : Queued) :
    repliesTo [.ofRequest q.request] = [.ofResponse (.plain q.id 200 "OK")] := rfl

end Queued

/-! ## What the session does -/

namespace Session

/-- A session whose pipe is open goes on after it wrote what there was room for. -/
theorem Turn.write_goes (t : Turn) (signIn : Option SignIn) (b : ByteArray)
    (hopen : t.link.down.closed = false) : t.Goes signIn b (t.write signIn b) := by
  refine (t.write_cases signIn b).resolve_left fun hout => ?_
  obtain ⟨rest, down, hwrite⟩ := Pipe.exists_write? hopen b
  have hphase := t.signOut_phase signIn (.error .brokenPipe)
  rw [← hout, Turn.write, hwrite] at hphase
  dsimp only [Turn.goTo] at hphase
  split at hphase <;> cases hphase

/-- **The session that reads the answer to a push** takes the message out of the mailbox of its
login, and does nothing else. -/
theorem step_grant {t : Turn} {i : SignIn} {id : UInt64} {decoder : Decoder}
    (hphase : t.session.phase = .serving (some i))
    (hnext : t.session.decoder.next = (.ok (some (.ofResponse (.plain id 200 "OK"))), decoder))
    (now wallClock : Nat) :
    step .frame now wallClock t =
      { t.withDecoder decoder with mailroom := (t.mailroom.acknowledge i.login id).2 } :=
  step_handles hphase hnext now wallClock

end Session

/-! ## What the client does -/

/-- A client took the push of a message behind some messages and before others: in its place, the
message is on the channel with its body and its time, and it is answered by 200 under its id. -/
structure Application.Received (a : Application) (k : SocketKind) (n : Nat) (put : List Incoming)
    (q : Queued) (before after : List Message) : Prop where
  took : a.Took k n put (before ++ .ofRequest q.request :: after)
  put : put = deliveries k before ++ ⟨k, q.body, some q.timestamp⟩ :: deliveries k after
  granted : (a.records k).repliesOn n =
    repliesTo before ++ .ofResponse (.plain q.id 200 "OK") :: repliesTo after

theorem Application.Took.received {a : Application} {k : SocketKind} {n : Nat} {put : List Incoming}
    {q : Queued} {before after : List Message}
    (h : a.Took k n put (before ++ .ofRequest q.request :: after))
    (hstamp : q.timestamp < UInt64.size) : a.Received k n put q before after := by
  refine ⟨h, h.put.trans ?_, h.replies.trans ?_⟩
  · rw [← List.singleton_append, deliveries_append, deliveries_append,
      Queued.deliveries_push k hstamp]
    rfl
  · rw [← List.singleton_append, repliesTo_append, repliesTo_append, Queued.repliesTo_push]
    rfl

/-- What was taken of some messages is a part of those before one of them, and this one is still to
come with those after it, or it was taken. -/
theorem taken_before_or_after {before after taken rest : List Message} {m : Message}
    (h : before ++ m :: after = taken ++ rest) :
    (taken <+: before ∧ ∃ m' later, rest = m' :: later ∧ after <:+ later) ∨
      ∃ taken', taken = before ++ m :: taken' ∧ after = taken' ++ rest := by
  rcases List.append_eq_append_iff.1 h with ⟨more, rfl, hmore⟩ | ⟨more, rfl, rfl⟩
  · cases more with
    | nil => exact .inl ⟨by simp, m, after, hmore.symm, List.suffix_refl after⟩
    | cons first more =>
      injection hmore with hm hafter
      exact .inr ⟨more, by rw [hm], hafter⟩
  · refine .inl ⟨List.prefix_append _ _, ?_⟩
    cases more with
    | nil => exact ⟨m, after, rfl, List.suffix_refl after⟩
    | cons first more => exact ⟨first, more ++ m :: after, rfl, more ++ [m], by simp⟩

/-- **The server and its clients agree on a message** whose push is within the limit of a frame,
whatever its id, its body and its time are.

* A session that takes the push from its line writes its frame, unless the pipe is closed, and the
  frame gives the push in whatever pieces it is read.
* Whatever happens in a client, if the bytes that it reads from a link are those of this frame,
  behind the frames of some messages and before those of others, it has taken the push and put the
  message on the channel once, with its body and its time, and answered it by 200 under its id; or
  it has not taken the push, and put and answered only what came before. It takes the push at the
  latest when it has read the whole frame and waits for more, and not before it has read it.
* The answer has a frame, too, and a session that reads it takes exactly this message out of the
  mailbox of its login, and leaves all else as it was. -/
theorem handed_over (q : Queued) (hstamp : q.timestamp < UInt64.size)
    (hfit : (Message.ofRequest q.request).length ≤ Frame.maxLength) :
    ∃ push grant, Frame.Carries push (.ofRequest q.request) ∧
      Frame.Carries grant (.ofResponse (.plain q.id 200 "OK")) ∧
      (∀ (t : Session.Turn) (i : SignIn) (m : Mailroom) (now wallClock : Nat),
        t.session.phase = .serving (some i) → t.mailroom.receive? i.line = some (q.request, m) →
        t.link.down.closed = false →
        { t with mailroom := m }.Goes (some i) push (Session.step .push now wallClock t)) ∧
      (∀ (config : ClientConfig) (moves : List Application.Move) (k : SocketKind) (n : Nat)
        (before after : List Message) (more : ByteArray), Framed before → Framed after →
        (Application.start config).readOn k n moves ++ more =
          stream before ++ push ++ stream after →
        let a := (Application.start config).makeAll moves
        let put := (Application.start config).putOn k n moves
        ((∃ taken, taken <+: before ∧ a.Took k n put taken) ∨
          ∃ taken, taken <+: after ∧ a.Received k n put q before taken ∧
            more.size ≤ (stream after).size) ∧
        (a.Waits k n → more.size ≤ (stream after).size →
          ∃ taken, taken <+: after ∧ a.Received k n put q before taken)) ∧
      ∀ (t : Session.Turn) (i : SignIn) (decoder : Decoder) (now wallClock : Nat),
        t.session.phase = .serving (some i) →
        t.session.decoder.next = (.ok (some (.ofResponse (.plain q.id 200 "OK"))), decoder) →
        let t' := Session.step .frame now wallClock t
        t'.session = { t.session with decoder } ∧ t'.link = t.link ∧
          (∃ mailboxes, t'.mailroom = { t.mailroom with mailboxes }) ∧
          (∀ login, login ≠ i.login → t'.mailroom.mailbox login = t.mailroom.mailbox login) ∧
          ∀ before after, t.mailroom.mailbox i.login = before ++ q :: after →
            (∀ p ∈ before, p.id ≠ q.id) → t'.mailroom.mailbox i.login = before ++ after := by
  have hgrant : (Message.ofResponse (.plain q.id 200 "OK")).length ≤ Frame.maxLength :=
    Nat.le_trans (Message.length_plainResponse_le q.id 200 "OK") (by decide)
  refine ⟨_, _, Frame.carries_of_le hfit, Frame.carries_of_le hgrant, ?_, ?_, ?_⟩
  · intro t i m now wallClock hphase hline hopen
    rw [Session.step_push hphase hline, Session.Turn.writeMessage, Frame.encode_of_le hfit]
    exact Session.Turn.write_goes { t with mailroom := m } (some i) _ hopen
  · intro config moves k n before after more hbefore hafter hread a put
    have hframed : Framed (before ++ .ofRequest q.request :: after) :=
      hbefore.append fun m hm => (List.mem_cons.1 hm).elim (fun h => h ▸ hfit) (hafter m)
    have hstream : (Application.start config).readOn k n moves ++ more =
        stream (before ++ .ofRequest q.request :: after) := by
      rw [hread, stream_append, stream, ByteArray.append_assoc]
    obtain ⟨taken, rest, hsplit, htook, hsize, hwaits⟩ :=
      Application.takes_stream config moves k n hframed hstream
    rcases taken_before_or_after hsplit with ⟨hfront, m, later, rfl, hlater⟩ | ⟨taken', rfl, rfl⟩
    · refine ⟨.inl ⟨taken, hfront, htook⟩, fun hidle hwhole => ?_⟩
      have hlonger := Nat.lt_of_lt_of_le (hwaits hidle m later rfl) hwhole
      exact absurd (size_stream_le hlater) (Nat.not_le_of_gt hlonger)
    · have hreceived := htook.received hstamp
      have hle := Nat.le_trans hsize (size_stream_le (List.suffix_append taken' rest))
      exact ⟨.inr ⟨taken', List.prefix_append _ _, hreceived, hle⟩,
        fun _ _ => ⟨taken', List.prefix_append _ _, hreceived⟩⟩
  · intro t i decoder now wallClock hphase hnext t'
    have hstep : t' = _ := Session.step_grant hphase hnext now wallClock
    have hmailbox := t.mailroom.mailbox_acknowledge i.login q.id
    rw [hstep]
    refine ⟨rfl, rfl, t.mailroom.acknowledge_eq i.login q.id, fun login hne => ?_,
      fun before after hbox hfirst => ?_⟩
    · exact (hmailbox login).trans (if_neg hne)
    · refine ((hmailbox i.login).trans (if_pos rfl)).trans ?_
      rw [hbox, List.eraseP_append_right _ (by simpa using hfirst),
        List.eraseP_cons_of_pos (by simp)]

/-- A client opens a socket and reads some pieces on it, one after the other. After each of them its
keeper goes on until it waits again. -/
def reading (pieces : List ByteArray) : List Application.Move :=
  [.operate .unidentified (.setActive true), .atHead .unidentified {} 0 .hanging,
    .connected .unidentified {} 0 0 {}] ++ Application.looks .unidentified {} 0 ++
  pieces.flatMap fun b => .keeper .unidentified .receive {} 0 { down := { held := b } } ::
    List.replicate 4 (.keeper .unidentified .timer {} 0 {})

/-- A message of two bytes that comes in two pieces, the first of which ends in the middle of its
time. -/
theorem handed_over_in_two_pieces :
    let q : Queued := ⟨7, ⟨#[104, 105]⟩, 1700000000000⟩
    let push := Frame.ofBody (Message.ofRequest q.request).encode
    let moves := reading [push.extract 0 62, push.extract 62 push.size]
    (Application.start {}).putOn .unidentified 0 moves =
        [⟨.unidentified, ⟨#[104, 105]⟩, some 1700000000000⟩] ∧
      (((Application.start {}).makeAll moves).records .unidentified).repliesOn 0 =
        [.ofResponse (.plain 7 200 "OK")] := by
  intro q push moves
  have hfit : (Message.ofRequest q.request).length ≤ Frame.maxLength := by decide +kernel
  obtain ⟨frame, -, hframe, -, -, hclient, -⟩ := handed_over q (by decide) hfit
  have hpush : frame = push := by
    have hencoded := hframe.encoded
    rw [Frame.encode_of_le hfit] at hencoded
    exact (Except.ok.inj hencoded).symm
  have hread : (Application.start {}).readOn .unidentified 0 moves ++ .empty =
      stream [] ++ frame ++ stream [] := by
    rw [hpush]
    decide +kernel
  have hwaits : ((Application.start {}).makeAll moves).Waits .unidentified 0 := by
    decide +kernel
  obtain ⟨taken, hnone, hreceived⟩ :=
    (hclient {} moves .unidentified 0 [] [] .empty (List.forall_mem_nil _) (List.forall_mem_nil _)
      hread).2 hwaits (Nat.le_refl _)
  rw [List.prefix_nil] at hnone
  rw [hnone] at hreceived
  exact ⟨hreceived.put, hreceived.granted⟩

end ChatSockets
