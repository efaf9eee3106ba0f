import ChatSockets.Proofs.Wire.Reassembly
import ChatSockets.Proofs.Wire.RoundTrip
import ChatSockets.Proofs.Wire.Size

/-!
# Streams of messages

`stream ms` is what a writer of the messages `ms` puts on a pipe. A decoder that holds the front of
such a stream, wherever it was cut, either waits or gives the first message, and then holds the
front of the stream of the others (`Decoder.next_of_stream`). So all that it gives for the bytes it
has is a front of the messages (`Decoder.feed_of_stream`), and for the whole stream, in whatever
pieces it comes, it gives the messages and keeps nothing (`messages_round_trip`).
-/

namespace ChatSockets.Wire

/-- The frames of messages, one behind the other. -/
def stream : List Message → ByteArray
  | [] => .empty
  | m :: ms => Frame.ofBody m.encode ++ stream ms

/-- Messages of which every one has a frame. -/
def Framed (ms : List Message) : Prop := ∀ m ∈ ms, m.length ≤ Frame.maxLength

@[simp] theorem stream_nil : stream [] = .empty := rfl

theorem stream_singleton (m : Message) : stream [m] = Frame.ofBody m.encode := by
  rw [stream, stream_nil, ByteArray.append_empty]

theorem stream_append (ms more : List Message) :
    stream (ms ++ more) = stream ms ++ stream more := by
  induction ms with
  | nil => exact (ByteArray.empty_append).symm
  | cons m ms ih => rw [List.cons_append, stream, stream, ih, ByteArray.append_assoc]

/-- The stream of the last of some messages is no longer than that of all. -/
theorem size_stream_le {ms later : List Message} (h : ms <:+ later) :
    (stream ms).size ≤ (stream later).size := by
  obtain ⟨front, rfl⟩ := h
  rw [stream_append, ByteArray.size_append]
  exact Nat.le_add_left _ _

theorem Framed.append {ms more : List Message} (h : Framed ms) (h' : Framed more) :
    Framed (ms ++ more) := by
  intro m hm
  rcases List.mem_append.1 hm with hm | hm
  · exact h m hm
  · exact h' m hm

/-- The messages that have a frame. -/
def fitting (ms : List Message) : List Message := ms.filter (·.length ≤ Frame.maxLength)

theorem fitting_append (ms more : List Message) :
    fitting (ms ++ more) = fitting ms ++ fitting more := List.filter_append ..

theorem framed_fitting (ms : List Message) : Framed (fitting ms) :=
  fun _ hm => by simpa using (List.mem_filter.1 hm).2

/-- The frame of a message, if it has one. -/
def offer (m : Message) : ByteArray := stream (fitting [m])

theorem offer_of_le {m : Message} (h : m.length ≤ Frame.maxLength) :
    offer m = Frame.ofBody m.encode := by
  rw [offer, fitting, List.filter_cons_of_pos (by simpa using h), List.filter_nil, stream_singleton]

theorem offer_of_lt {m : Message} (h : Frame.maxLength < m.length) : offer m = .empty := by
  rw [offer, fitting, List.filter_cons_of_neg (by simpa using h), List.filter_nil, stream_nil]

/-! ## What a message is to who reads it -/

/-- The request in a message, if it is one. -/
def Message.asked? (m : Message) : Option Request :=
  match m.kindOf with
  | .request => m.request
  | _ => none

theorem Message.asked?_of_request {m : Message} (h : m.kindOf = .request) :
    m.asked? = m.request := by
  rw [asked?, h]

theorem Message.asked?_of_ne {m : Message} (h : m.kindOf = .request → m.request = none) :
    m.asked? = none := by
  unfold asked?
  split
  · next hkind => exact h hkind
  · rfl

/-- The response in a message, if it is one. -/
def Message.answered? (m : Message) : Option Response :=
  match m.kindOf with
  | .response => m.response
  | _ => none

namespace Decoder

/-- What stands at the head of a front of a stream. -/
theorem head_of_stream {b tail : ByteArray} {ms : List Message} (hframed : Framed ms)
    (h : b ++ tail = stream ms) :
    Frame.head Frame.maxLength b = .incomplete ∨
      ∃ m rest after, ms = m :: rest ∧ Frame.head Frame.maxLength b = .frame m.encode after ∧
        after ++ tail = stream rest := by
  cases hhead : Frame.head Frame.maxLength b with
  | incomplete => exact .inl rfl
  | refused n =>
    have hlonger := Frame.head_append_refused hhead tail
    rw [h] at hlonger
    cases ms with
    | nil => cases hlonger
    | cons m rest =>
      have hfit : m.encode.size ≤ Frame.maxLength := by
        rw [Message.size_encode]
        exact hframed m (List.mem_cons_self ..)
      rw [stream, Frame.head_ofBody hfit (Nat.lt_of_le_of_lt hfit (by decide))] at hlonger
      cases hlonger
  | frame body after =>
    have hlonger := Frame.head_append_frame hhead (Frame.size_of_head_frame hhead) tail
    rw [h] at hlonger
    cases ms with
    | nil => cases hlonger
    | cons m rest =>
      have hfit : m.encode.size ≤ Frame.maxLength := by
        rw [Message.size_encode]
        exact hframed m (List.mem_cons_self ..)
      rw [stream, Frame.head_ofBody hfit (Nat.lt_of_le_of_lt hfit (by decide))] at hlonger
      injection hlonger with hbody hafter
      refine .inr ⟨m, rest, after, rfl, ?_, hafter.symm⟩
      rw [hbody]

/-- The body of a message that has a frame is read as the message. -/
theorem item_encode {m : Message} (hfit : m.length ≤ Frame.maxLength) :
    item m.encode = .ok m := by
  have hsize : m.encode.size < UInt64.size := by
    rw [Message.size_encode]
    exact Nat.lt_of_le_of_lt hfit (by decide)
  rw [item, Message.decode_encode m hsize]
  rfl

/-- **A decoder that holds the front of a stream** waits for more of it, or gives its first message
and then holds the front of the rest. -/
theorem next_of_stream {d : Decoder} {tail : ByteArray} {ms : List Message}
    (hlimit : d.limit = Frame.maxLength) (hframed : Framed ms)
    (h : d.buffer ++ tail = stream ms) :
    d.next = (.ok none, d) ∨
      ∃ m rest d', ms = m :: rest ∧ d.next = (.ok (some m), d') ∧
        d'.limit = Frame.maxLength ∧ d'.buffer ++ tail = stream rest := by
  rcases head_of_stream hframed h with hhead | ⟨m, rest, after, rfl, hhead, hafter⟩
  · rw [← hlimit] at hhead
    exact .inl (next_of_incomplete hhead)
  · rw [← hlimit] at hhead
    obtain ⟨d', hnext, hbuffer, hlimit'⟩ := next_of_frame hhead
    rw [item_encode (hframed m (List.mem_cons_self ..))] at hnext
    refine .inr ⟨m, rest, d', rfl, hnext, hlimit'.trans hlimit, ?_⟩
    rw [hbuffer]
    exact hafter

/-- The message that a decoder gives next, if it has one. -/
def message? (d : Decoder) : Option Message :=
  match d.next with
  | (.ok m, _) => m
  | (.error _, _) => none

theorem message?_of_ok {d d' : Decoder} {m : Option Message} (h : d.next = (.ok m, d')) :
    d.message? = m := by
  rw [message?, h]

theorem message?_of_error {d d' : Decoder} {e : FrameError} (h : d.next = (.error e, d')) :
    d.message? = none := by
  rw [message?, h]

/-- A decoder has some messages before it: what it holds, and the bytes that are still to come, are
their stream. -/
structure Expects (d : Decoder) (b : ByteArray) (ms : List Message) : Prop where
  limit : d.limit = Frame.maxLength
  framed : Framed ms
  stream : d.buffer ++ b = Wire.stream ms

theorem expects_new : Expects .new .empty [] := ⟨rfl, nofun, rfl⟩

/-- A decoder gives the messages that it has before it one after the other. -/
theorem Expects.next {d d' : Decoder} {b : ByteArray} {ms : List Message} {m : Message}
    (h : d.Expects b ms) (hnext : d.next = (.ok (some m), d')) :
    ∃ rest, ms = m :: rest ∧ d'.Expects b rest := by
  rcases next_of_stream h.limit h.framed h.stream with
    hnone | ⟨m', rest, d'', rfl, hsome, hlimit, hrest⟩
  · rw [hnone] at hnext
    cases hnext
  · rw [hsome] at hnext
    cases hnext
    exact ⟨rest, rfl, hlimit, fun m' hm' => h.framed m' (List.mem_cons_of_mem _ hm'), hrest⟩

/-- Bytes that a decoder takes are no longer to come. -/
theorem Expects.extend {d : Decoder} {piece b : ByteArray} {ms : List Message}
    (h : d.Expects (piece ++ b) ms) : (d.extend piece).Expects b ms := by
  refine ⟨(limit_extend d piece).trans h.limit, h.framed, ?_⟩
  rw [buffer_extend, ByteArray.append_assoc]
  exact h.stream

/-- No more bytes are still to come than those of the messages. -/
theorem Expects.size_le {d : Decoder} {b : ByteArray} {ms : List Message} (h : d.Expects b ms) :
    b.size ≤ (Wire.stream ms).size := by
  rw [← h.stream, ByteArray.size_append]
  exact Nat.le_add_left _ _

/-- More messages come behind the others. -/
theorem Expects.append {d : Decoder} {b : ByteArray} {ms more : List Message}
    (h : d.Expects b ms) (hframed : Framed more) :
    d.Expects (b ++ Wire.stream more) (ms ++ more) := by
  refine ⟨h.limit, h.framed.append hframed, ?_⟩
  rw [stream_append, ← h.stream, ByteArray.append_assoc]

/-- A decoder that holds a whole frame gives its message. -/
theorem next_of_ofBody {d : Decoder} {m : Message} {more : ByteArray}
    (hlimit : d.limit = Frame.maxLength) (hfit : m.length ≤ Frame.maxLength)
    (h : d.buffer = Frame.ofBody m.encode ++ more) :
    ∃ d', d.next = (.ok (some m), d') ∧ d'.buffer = more ∧ d'.limit = Frame.maxLength := by
  have hsize : m.encode.size ≤ Frame.maxLength := by
    rw [Message.size_encode]
    exact hfit
  have hhead : Frame.head d.limit d.buffer = .frame m.encode more := by
    rw [hlimit, h]
    exact Frame.head_ofBody hsize (Nat.lt_of_le_of_lt hsize (by decide)) more
  obtain ⟨d', hnext, hbuffer, hlimit'⟩ := next_of_frame hhead
  rw [item_encode hfit] at hnext
  exact ⟨d', hnext, hbuffer, hlimit'.trans hlimit⟩

/-- A decoder that gives no message has not got the whole frame of the first one before it. -/
theorem Expects.size_lt {d : Decoder} {b : ByteArray} {m : Message} {ms : List Message}
    (h : d.Expects b (m :: ms)) (hnone : d.message? = none) : (Wire.stream ms).size < b.size := by
  refine Nat.lt_of_not_le fun hle => ?_
  let n := (Wire.stream ms).size - b.size
  have hcut : Wire.stream ms = (Wire.stream ms).extract 0 n ++
      (Wire.stream ms).extract n (Wire.stream ms).size := by
    rw [← ByteArray.extract_eq_extract_append_extract n (Nat.zero_le _) (Nat.sub_le _ _),
      ByteArray.extract_zero_size]
  have hsize : b.size = ((Wire.stream ms).extract n (Wire.stream ms).size).size := by
    rw [ByteArray.size_extract]
    omega
  have hstream := h.stream
  rw [Wire.stream, hcut, ← ByteArray.append_assoc,
    ByteArray.append_eq_append_iff_of_size_eq_right hsize] at hstream
  obtain ⟨d', hnext, -⟩ := next_of_ofBody h.limit (h.framed m List.mem_cons_self) hstream.1
  rw [message?_of_ok hnext] at hnone
  cases hnone

/-- All that is read from a front of a stream is a front of its messages. -/
theorem drains_of_stream {b tail left : ByteArray} {items : List Item}
    (h : Drains Frame.maxLength b items left) {ms : List Message} (hframed : Framed ms)
    (hstream : b ++ tail = stream ms) :
    ∃ seen rest, ms = seen ++ rest ∧ items = seen.map .ok ∧ left ++ tail = stream rest := by
  induction h generalizing ms with
  | incomplete hb => exact ⟨[], ms, rfl, rfl, hstream⟩
  | refused hb =>
    rcases head_of_stream hframed hstream with hhead | ⟨_, _, _, -, hhead, -⟩
    · rw [hb] at hhead
      cases hhead
    · rw [hb] at hhead
      cases hhead
  | frame hb _ ih =>
    rcases head_of_stream hframed hstream with hhead | ⟨m, rest, after, rfl, hhead, hafter⟩
    · rw [hb] at hhead
      cases hhead
    · rw [hb] at hhead
      injection hhead with hbody hrest
      rw [← hrest] at hafter
      obtain ⟨seen, rest', rfl, hitems, hleft⟩ :=
        ih (fun m' hm' => hframed m' (List.mem_cons_of_mem _ hm')) hafter
      refine ⟨m :: seen, rest', rfl, ?_, hleft⟩
      rw [hbody, item_encode (hframed m (List.mem_cons_self ..)), hitems]
      rfl

/-- All that a decoder gives for a piece of a stream is a front of the messages. -/
theorem feed_of_stream {d : Decoder} {piece tail : ByteArray} {ms : List Message}
    (hlimit : d.limit = Frame.maxLength) (hframed : Framed ms)
    (h : d.buffer ++ piece ++ tail = stream ms) :
    ∃ seen rest, ms = seen ++ rest ∧ (d.feed piece).1 = seen.map .ok ∧
      (d.feed piece).2.buffer ++ tail = stream rest := by
  have hdrains := d.feed_drains piece
  rw [hlimit] at hdrains
  exact drains_of_stream hdrains hframed h

/-! ## Whole streams -/

/-- A whole stream is read up to its end, and gives its messages. -/
theorem drains_stream {ms : List Message} (hframed : Framed ms) :
    Drains Frame.maxLength (stream ms) (ms.map .ok) .empty := by
  induction ms with
  | nil => exact .incomplete rfl
  | cons m ms ih =>
    have hfit : m.encode.size ≤ Frame.maxLength := by
      rw [Message.size_encode]
      exact hframed m (List.mem_cons_self ..)
    have hframe := Drains.frame
      (Frame.head_ofBody hfit (Nat.lt_of_le_of_lt hfit (by decide)) (stream ms))
      (ih fun m' hm' => hframed m' (List.mem_cons_of_mem _ hm'))
    rwa [item_encode (hframed m (List.mem_cons_self ..))] at hframe

/-- The pieces of a whole stream give its messages and leave nothing. -/
theorem feedPieces_stream {ms : List Message} (hframed : Framed ms) {pieces : List ByteArray}
    (h : join pieces = stream ms) :
    itemsOf (Script.feedPieces .new #[] 0 pieces).1 = ms.map .ok ∧
      (Script.feedPieces .new #[] 0 pieces).2.buffer = .empty := by
  have hfeed := feed_drains (withLimit Frame.maxLength) (join pieces)
  rw [limit_withLimit, buffer_withLimit, ByteArray.empty_append, h] at hfeed
  obtain ⟨hitems, hbuffer⟩ := hfeed.unique (drains_stream hframed)
  rw [← h] at hitems hbuffer
  obtain ⟨hsame, again, hall, hagain⟩ := feedPieces_eq_feed Frame.maxLength pieces
  have hnone : again = [] := by
    refine List.eq_nil_iff_forall_not_mem.2 fun x hx => ?_
    obtain ⟨hread, hlast⟩ := hagain x hx
    rw [hitems] at hlast
    obtain ⟨m, -, rfl⟩ := List.mem_map.1 (List.mem_of_getLast? hlast)
    cases hread
  rw [hnone, List.append_nil, hitems] at hall
  exact ⟨hall, hsame.trans hbuffer⟩

end Decoder

/-- A frame carries a message: it is the frame of the message, and whoever reads it, in whatever
pieces, reads the message and nothing else. -/
structure Frame.Carries (frame : ByteArray) (m : Message) : Prop where
  encoded : Frame.encode m = .ok frame
  decoded : ∀ pieces, Decoder.join pieces = frame →
    Decoder.itemsOf (Script.feedPieces .new #[] 0 pieces).1 = [.ok m] ∧
      (Script.feedPieces .new #[] 0 pieces).2.buffer = .empty

theorem Frame.carries_of_le {m : Message} (hfit : m.length ≤ Frame.maxLength) :
    Frame.Carries (Frame.ofBody m.encode) m := by
  refine ⟨Frame.encode_of_le hfit, fun pieces hjoin => ?_⟩
  have hframed : Framed [m] := by simpa [Framed] using hfit
  exact Decoder.feedPieces_stream hframed (hjoin.trans (stream_singleton m).symm)

/-- The frames of messages, in their order; a message without a frame gives none. -/
def frames (ms : List Message) : List ByteArray :=
  ms.filterMap fun m => (Frame.encode m).toOption

/-- The frames of messages are the stream of those within the limit. -/
theorem join_frames (ms : List Message) :
    Decoder.join (frames ms) = stream (ms.filter (·.length ≤ Frame.maxLength)) := by
  induction ms with
  | nil => rfl
  | cons m ms ih =>
    by_cases hfit : m.length ≤ Frame.maxLength
    · have hframe : frames (m :: ms) = Frame.ofBody m.encode :: frames ms := by
        rw [frames, List.filterMap_cons, Frame.encode_of_le hfit]
        rfl
      rw [hframe, List.filter_cons_of_pos (by simpa using hfit), stream, ← ih]
      rfl
    · have hframe : frames (m :: ms) = frames ms := by
        rw [frames, List.filterMap_cons, Frame.encode_of_lt (by omega)]
        rfl
      rw [hframe, List.filter_cons_of_neg (by simpa using hfit), ih]

/-- **Messages survive the wire.** The body of a message has the length that is computed from its
parts. The message has a frame exactly if this is within the limit, and the only error there is
names the length. And the frames of messages, joined and cut again in any way, give back exactly the
messages that have frames, in their order, and leave nothing in the decoder. -/
theorem messages_round_trip :
    (∀ m : Message, m.encode.size = m.length ∧
      (m.length ≤ Frame.maxLength → Frame.encode m = .ok (Frame.ofBody m.encode)) ∧
      (Frame.maxLength < m.length →
        Frame.encode m = .error (.tooLarge m.length Frame.maxLength))) ∧
    ∀ (ms : List Message) (pieces : List ByteArray),
      Decoder.join pieces = Decoder.join (frames ms) →
      Decoder.itemsOf (Script.feedPieces .new #[] 0 pieces).1 =
          (ms.filter (·.length ≤ Frame.maxLength)).map .ok ∧
        (Script.feedPieces .new #[] 0 pieces).2.buffer = .empty := by
  refine ⟨fun m => ⟨m.size_encode, Frame.encode_of_le, Frame.encode_of_lt⟩, ?_⟩
  intro ms pieces h
  exact Decoder.feedPieces_stream (framed_fitting ms) (h.trans (join_frames ms))

/-- A message of a negative kind with a handshake of an empty login, and an empty message, byte by
byte. -/
theorem messages_round_trip_bytewise :
    let ms : List Message := [{ kind := -1, handshake := some { login := some "" } }, {}]
    let pieces := Script.piecesOf 1 (Decoder.join (frames ms))
    Decoder.join pieces = Decoder.join (frames ms) ∧
      Decoder.itemsOf (Script.feedPieces .new #[] 0 pieces).1 = ms.map .ok := by
  intro ms pieces
  have hcut : Decoder.join pieces = Decoder.join (frames ms) := by decide +kernel
  have hfit : ms.filter (·.length ≤ Frame.maxLength) = ms := by
    rw [List.filter_eq_self]
    decide +kernel
  obtain ⟨hitems, -⟩ := messages_round_trip.2 ms pieces hcut
  exact ⟨hcut, hfit ▸ hitems⟩

end ChatSockets.Wire
