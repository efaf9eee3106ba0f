import ChatSockets.Script.Decoder

/-!
# Frames come out of a stream however it is cut

`Frame.Head` says what the bytes of a stream begin with: a part of a frame, a length that is
refused, or a frame with what follows it. `Decoder.next` does what the head of the decoder's
buffer says (`next_of_incomplete`, `next_of_refused`, `next_of_frame`), and a head that is complete
stays the same when bytes are added behind it (`head_append_refused`, `head_append_frame`). `Drains`
is the reading of a whole buffer, one head after the other; `drain` computes it, so a drain always
ends (`drain_drains`).

`feedPieces_eq_feed` compares the pieces of a stream with the whole of it: the items are the same,
except that a refused length is reported again after every later piece.
-/

namespace ChatSockets.Wire

/-! ## The length in front of a body -/

namespace Decoder

/-- The length in front of a body is that of the first four bytes, wherever they stand. -/
theorem lengthAt?_extract (b : ByteArray) (i : Nat) (hi : i ≤ b.size) :
    lengthAt? (b.extract i b.size) 0 = lengthAt? b i := by
  have hsize : (b.extract i b.size).size = b.size - i := by simp
  by_cases h : i + 3 < b.size
  · have h' : 0 + 3 < (b.extract i b.size).size := by omega
    simp only [lengthAt?, h, h', dif_pos, ByteArray.getElem_extract, Nat.add_zero, Nat.zero_add]
  · have h' : ¬ 0 + 3 < (b.extract i b.size).size := by omega
    simp only [lengthAt?, h, h', dif_neg, not_false_iff]

/-- A length that is complete does not change when bytes are added. -/
theorem lengthAt?_append {a b : ByteArray} {n : Nat} (h : lengthAt? a 0 = some n) :
    lengthAt? (a ++ b) 0 = some n := by
  by_cases ha : 0 + 3 < a.size
  · have hab : 0 + 3 < (a ++ b).size := by rw [ByteArray.size_append]; omega
    simp only [lengthAt?, ha, hab, dif_pos] at h ⊢
    rw [ByteArray.getElem_append_left (by omega), ByteArray.getElem_append_left (by omega),
      ByteArray.getElem_append_left (by omega), ByteArray.getElem_append_left (by omega)]
    exact h
  · simp only [lengthAt?, ha, dif_neg, not_false_iff] at h
    cases h

/-- A length takes four bytes. -/
theorem size_of_lengthAt? {b : ByteArray} {n : Nat} (h : lengthAt? b 0 = some n) : 4 ≤ b.size := by
  unfold lengthAt? at h
  split at h
  · omega
  · cases h

/-- A length in four bytes is below 2^32. -/
theorem lengthAt?_lt {b : ByteArray} {n : Nat} (h : lengthAt? b 0 = some n) : n < 4294967296 := by
  unfold lengthAt? at h
  split at h
  · next hb =>
    cases h
    have hb := fun i (hi : i < b.size) => b[i].toNat_lt
    have hb0 := hb 0 (by omega)
    have hb1 := hb (0 + 1) (by omega)
    have hb2 := hb (0 + 2) (by omega)
    have hb3 := hb (0 + 3) (by omega)
    omega
  · cases h

/-- A length takes no more than four bytes. -/
theorem size_of_lengthAt?_eq_none {b : ByteArray} (h : lengthAt? b 0 = none) : b.size < 4 := by
  unfold lengthAt? at h
  split at h
  · cases h
  · omega

end Decoder

namespace Frame

@[simp] theorem size_header (n : Nat) : (header n).size = headerLength := rfl

@[simp] theorem size_ofBody (b : ByteArray) : (ofBody b).size = headerLength + b.size := by
  simp [ofBody]

/-- A length below 2^32 reads back. -/
theorem lengthAt?_header {n : Nat} (h : n < 4294967296) (rest : ByteArray) :
    Decoder.lengthAt? (header n ++ rest) 0 = some n := by
  refine Decoder.lengthAt?_append ?_
  have h4 : 0 + 3 < (header n).size := by rw [size_header]; decide
  rw [Decoder.lengthAt?, dif_pos h4]
  have h0 : (header n)[0].toNat = n / 16777216 % 256 := rfl
  have h1 : (header n)[0 + 1].toNat = n / 65536 % 256 := rfl
  have h2 : (header n)[0 + 2].toNat = n / 256 % 256 := rfl
  have h3 : (header n)[0 + 3].toNat = n % 256 := rfl
  rw [h0, h1, h2, h3, Option.some.injEq]
  omega

/-- Four bytes that are read as a length are the header of it. -/
theorem header_of_lengthAt? {b : ByteArray} {n : Nat} (h : Decoder.lengthAt? b 0 = some n) :
    b.extract 0 headerLength = header n := by
  have h4 := Decoder.size_of_lengthAt? h
  have h3 : 0 + 3 < b.size := by omega
  rw [Decoder.lengthAt?, dif_pos h3, Option.some.injEq] at h
  have hb := fun i (hi : i < b.size) => b[i].toNat_lt
  have hb0 := hb 0 (by omega)
  have hb1 := hb (0 + 1) (by omega)
  have hb2 := hb (0 + 2) (by omega)
  have hb3 := hb (0 + 3) (by omega)
  have heq : ∀ (x : UInt8) (k : Nat), x.toNat = k % 256 → x = k.toUInt8 := fun x k hx =>
    UInt8.toNat_inj.1 (by simpa using hx)
  have hsize : (b.extract 0 headerLength).size = 4 := by simp [headerLength]; omega
  refine ByteArray.ext_getElem (by rw [hsize, size_header]; rfl) fun i hi _ => ?_
  rw [ByteArray.getElem_extract]
  rw [hsize] at hi
  obtain rfl | rfl | rfl | rfl : i = 0 ∨ i = 1 ∨ i = 2 ∨ i = 3 := by omega
  · exact heq b[0] (n / 16777216) (by omega)
  · exact heq b[0 + 1] (n / 65536) (by omega)
  · exact heq b[0 + 2] (n / 256) (by omega)
  · exact heq b[0 + 3] n (by omega)

/-! ## The head of a stream -/

/-- What the bytes of a stream begin with. -/
inductive Head
  /-- not even a whole frame -/
  | incomplete
  /-- a length above the limit -/
  | refused (length : Nat)
  /-- a frame, and what follows it -/
  | frame (body rest : ByteArray)

/-- What some bytes begin with, under a limit for bodies. -/
def head (limit : Nat) (b : ByteArray) : Head :=
  match Decoder.lengthAt? b 0 with
  | none => .incomplete
  | some n =>
    if n > limit then .refused n
    else if headerLength + n ≤ b.size then
      .frame (b.extract headerLength (headerLength + n)) (b.extract (headerLength + n) b.size)
    else .incomplete

/-- A head of an incomplete frame leaves fewer bytes than a header and a longest body. -/
theorem size_of_head_incomplete {limit : Nat} {b : ByteArray} (h : head limit b = .incomplete) :
    b.size < headerLength + limit := by
  unfold head at h
  split at h
  · next hn =>
    have hsize := Decoder.size_of_lengthAt?_eq_none hn
    exact Nat.lt_of_lt_of_le hsize (Nat.le_add_right _ _)
  · split at h
    · cases h
    · split at h
      · cases h
      · omega

/-- A complete frame is its body behind its length, in front of the rest. -/
theorem eq_of_head_frame {limit : Nat} {b body rest : ByteArray}
    (h : head limit b = .frame body rest) : b = ofBody body ++ rest ∧ body.size ≤ limit := by
  unfold head at h
  split at h
  · cases h
  · next n hn =>
    split at h
    · cases h
    · split at h
      · next hle hfit =>
        cases h
        have hsize : (b.extract headerLength (headerLength + n)).size = n := by
          simp; omega
        refine ⟨?_, by omega⟩
        rw [ofBody, hsize, ← header_of_lengthAt? hn,
          ← ByteArray.extract_eq_extract_append_extract headerLength (by omega) (by omega),
          ← ByteArray.extract_eq_extract_append_extract (headerLength + n) (by omega) hfit,
          ByteArray.extract_zero_size]
      · cases h

/-- A body that fits, behind its length, is the head of whatever follows. -/
theorem head_ofBody {limit : Nat} {body : ByteArray} (hle : body.size ≤ limit)
    (hlt : body.size < 4294967296) (rest : ByteArray) :
    head limit (ofBody body ++ rest) = .frame body rest := by
  have hn : Decoder.lengthAt? (ofBody body ++ rest) 0 = some body.size := by
    rw [ofBody, ByteArray.append_assoc]
    exact lengthAt?_header hlt _
  have hfit : headerLength + body.size ≤ (ofBody body ++ rest).size := by simp
  rw [head, hn]
  simp only [gt_iff_lt, Nat.not_lt.2 hle, if_false, hfit, if_true, Head.frame.injEq]
  constructor
  · rw [ofBody, ByteArray.append_assoc]
    show (header body.size ++ (body ++ rest)).extract (headerLength + 0) _ = body
    rw [ByteArray.extract_append_size_add' (size_header _).symm,
      ByteArray.extract_append_eq_left rfl]
  · rw [ByteArray.size_append, ← size_ofBody, ByteArray.extract_append_eq_right rfl rfl]

/-- A refused length is refused whatever follows. -/
theorem head_append_refused {limit n : Nat} {b : ByteArray} (h : head limit b = .refused n)
    (more : ByteArray) : head limit (b ++ more) = .refused n := by
  unfold head at h
  split at h
  · cases h
  · next m hm =>
    split at h
    · next hlt =>
      cases h
      rw [head, Decoder.lengthAt?_append hm]
      simp only [hlt, if_true]
    · split at h <;> cases h

/-- A complete frame stays the head when bytes are added, and they come behind the rest. -/
theorem head_append_frame {limit : Nat} {b body rest : ByteArray}
    (h : head limit b = .frame body rest) (hlt : body.size < 4294967296) (more : ByteArray) :
    head limit (b ++ more) = .frame body (rest ++ more) := by
  obtain ⟨rfl, hle⟩ := eq_of_head_frame h
  rw [ByteArray.append_assoc]
  exact head_ofBody hle hlt _

/-- Every complete frame has a body below 2^32, as its length is written in four bytes. -/
theorem size_of_head_frame {limit : Nat} {b body rest : ByteArray}
    (h : head limit b = .frame body rest) : body.size < 4294967296 := by
  unfold head at h
  split at h
  · cases h
  · next n hn =>
    have hlt := Decoder.lengthAt?_lt hn
    split at h
    · cases h
    · split at h
      · cases h
        simp; omega
      · cases h

end Frame

namespace Decoder

/-! ## A decoder through its buffer -/

@[simp] theorem size_buffer (d : Decoder) : d.buffer.size = d.buffered := by
  simp [buffer, buffered]

@[simp] theorem limit_withLimit (limit : Nat) : (withLimit limit).limit = limit := rfl

@[simp] theorem buffer_withLimit (limit : Nat) : (withLimit limit).buffer = .empty := by
  simp [buffer, withLimit]

/-- Added bytes come behind those that are there. -/
@[simp] theorem buffer_extend (d : Decoder) (more : ByteArray) :
    (d.extend more).buffer = d.buffer ++ more := by
  obtain ⟨held, start, limit, hle⟩ := d
  simp only [extend]
  split
  · next h =>
    subst h
    exact (ByteArray.extract_zero_size).trans (by rw [buffer, ByteArray.extract_zero_size])
  · exact ByteArray.extract_zero_size

@[simp] theorem limit_extend (d : Decoder) (more : ByteArray) :
    (d.extend more).limit = d.limit := by
  obtain ⟨held, start, limit, hle⟩ := d
  simp only [extend]
  split <;> rfl

/-- What a frame with a given body is read as. -/
def item (body : ByteArray) : Item := (Message.decode body).mapError .malformed

/-- Whether an item was taken from the stream; a length that is refused was not. -/
def isRead : Item → Bool
  | .error (.tooLarge ..) => false
  | _ => true

@[simp] theorem isRead_item (body : ByteArray) : isRead (item body) = true := by
  unfold item
  cases Message.decode body <;> rfl

/-- The head of the buffer, in the bytes that are held. -/
theorem head_buffer (d : Decoder) : Frame.head d.limit d.buffer =
    match lengthAt? d.held d.start with
    | none => .incomplete
    | some n =>
      if n > d.limit then .refused n
      else if d.start + Frame.headerLength + n ≤ d.held.size then
        .frame
          (d.held.extract (d.start + Frame.headerLength) (d.start + Frame.headerLength + n))
          (d.held.extract (d.start + Frame.headerLength + n) d.held.size)
      else .incomplete := by
  have hle := d.start_le
  have hsize : d.buffer.size = d.held.size - d.start := by simp [buffered]
  rw [Frame.head, buffer, lengthAt?_extract _ _ hle, ← buffer]
  cases lengthAt? d.held d.start with
  | none => rfl
  | some n =>
    by_cases hn : n > d.limit
    · simp only [hn, if_true]
    · by_cases hfit : d.start + Frame.headerLength + n ≤ d.held.size
      · have hfit' : Frame.headerLength + n ≤ d.buffer.size := by omega
        simp only [hn, hfit, hfit', if_true, if_false, Frame.Head.frame.injEq]
        constructor
        · rw [buffer, ByteArray.extract_extract, Nat.add_assoc, Nat.min_eq_left (by omega)]
        · rw [hsize, buffer, ByteArray.extract_extract, Nat.add_assoc, Nat.min_eq_right (by omega)]
      · have hfit' : ¬ Frame.headerLength + n ≤ d.buffer.size := by omega
        simp only [hn, hfit, hfit', if_false]

/-- `next` finds nothing at the head of an incomplete frame. -/
theorem next_of_incomplete {d : Decoder} (h : Frame.head d.limit d.buffer = .incomplete) :
    d.next = (.ok none, d) := by
  rw [head_buffer] at h
  unfold next
  cases hlength : lengthAt? d.held d.start with
  | none => rfl
  | some n =>
    rw [hlength] at h
    dsimp only at h ⊢
    by_cases hlimit : n > d.limit
    · rw [if_pos hlimit] at h
      cases h
    · rw [if_neg hlimit] at h
      by_cases hfit : d.start + Frame.headerLength + n ≤ d.held.size
      · rw [if_pos hfit] at h
        cases h
      · rw [if_neg hlimit, dif_neg hfit]

/-- `next` reports a length that is refused, and takes nothing. -/
theorem next_of_refused {d : Decoder} {n : Nat}
    (h : Frame.head d.limit d.buffer = .refused n) :
    d.next = (.error (.tooLarge n d.limit), d) := by
  rw [head_buffer] at h
  unfold next
  cases hlength : lengthAt? d.held d.start with
  | none =>
    rw [hlength] at h
    cases h
  | some m =>
    rw [hlength] at h
    dsimp only at h ⊢
    by_cases hlimit : m > d.limit
    · rw [if_pos hlimit] at h
      cases h
      rw [if_pos hlimit]
    · rw [if_neg hlimit] at h
      split at h <;> cases h

/-- `next` reads a complete frame, and takes it from the buffer. -/
theorem next_of_frame {d : Decoder} {body rest : ByteArray}
    (h : Frame.head d.limit d.buffer = .frame body rest) :
    ∃ d', d.next = ((item body).map some, d') ∧ d'.buffer = rest ∧ d'.limit = d.limit := by
  rw [head_buffer] at h
  unfold next
  cases hlength : lengthAt? d.held d.start with
  | none =>
    rw [hlength] at h
    cases h
  | some n =>
    rw [hlength] at h
    dsimp only at h ⊢
    by_cases hlimit : n > d.limit
    · rw [if_pos hlimit] at h
      cases h
    · rw [if_neg hlimit] at h
      by_cases hfit : d.start + Frame.headerLength + n ≤ d.held.size
      · rw [if_pos hfit] at h
        cases h
        rw [if_neg hlimit, dif_pos hfit, item]
        refine ⟨⟨d.held, d.start + Frame.headerLength + n, d.limit, hfit⟩, ?_, rfl, rfl⟩
        cases Message.decode _ <;> rfl
      · rw [if_neg hfit] at h
        cases h

/-! ## Reading a whole buffer -/

/-- The reading of a buffer: the items it gives one after the other, and the bytes that are left at
the end. It ends at an incomplete frame or at a length that is refused. -/
inductive Drains (limit : Nat) : ByteArray → List Item → ByteArray → Prop
  | incomplete {b : ByteArray} (h : Frame.head limit b = .incomplete) : Drains limit b [] b
  | refused {b : ByteArray} {n : Nat} (h : Frame.head limit b = .refused n) :
    Drains limit b [.error (.tooLarge n limit)] b
  | frame {b body rest left : ByteArray} {items : List Item}
    (h : Frame.head limit b = .frame body rest) (more : Drains limit rest items left) :
    Drains limit b (item body :: items) left

namespace Drains

variable {limit : Nat} {b left : ByteArray} {items : List Item}

/-- A buffer is read in one way only. -/
theorem unique {items' : List Item} {left' : ByteArray} (h : Drains limit b items left)
    (h' : Drains limit b items' left') : items = items' ∧ left = left' := by
  induction h generalizing items' left' with
  | incomplete hb => cases h' <;> simp_all
  | refused hb => cases h' <;> simp_all
  | frame hb _ ih =>
    cases h' with
    | incomplete hb' => simp_all
    | refused hb' => simp_all
    | frame hb' more' =>
      rw [hb] at hb'
      cases hb'
      obtain ⟨rfl, rfl⟩ := ih more'
      exact ⟨rfl, rfl⟩

/-- A reading that ends at an incomplete frame has read all its items, and goes on with the bytes
that are left when more are added. -/
theorem append_of_incomplete (h : Drains limit b items left)
    (hleft : Frame.head limit left = .incomplete) {more left' : ByteArray} {items' : List Item}
    (h' : Drains limit (left ++ more) items' left') :
    Drains limit (b ++ more) (items ++ items') left' := by
  induction h with
  | incomplete _ => exact h'
  | refused hb => rw [hb] at hleft; cases hleft
  | frame hb _ ih =>
    exact .frame (Frame.head_append_frame hb (Frame.size_of_head_frame hb) more) (ih hleft h')

/-- A reading that ends at a refused length ends there whatever is added. -/
theorem append_of_refused (h : Drains limit b items left) {n : Nat}
    (hleft : Frame.head limit left = .refused n) (more : ByteArray) :
    Drains limit (b ++ more) items (left ++ more) := by
  induction h with
  | incomplete hb => rw [hb] at hleft; cases hleft
  | refused hb => exact .refused (Frame.head_append_refused hb more)
  | frame hb _ ih =>
    exact .frame (Frame.head_append_frame hb (Frame.size_of_head_frame hb) more) (ih hleft)

/-- How a reading ends: at an incomplete frame after items that were all read, or at a refused
length, which is its last item and the only one that was not read. -/
theorem ending (h : Drains limit b items left) :
    (Frame.head limit left = .incomplete ∧ ∀ x ∈ items, isRead x = true) ∨
    ∃ n readItems, Frame.head limit left = .refused n ∧
      items = readItems ++ [.error (.tooLarge n limit)] ∧ ∀ x ∈ readItems, isRead x = true := by
  induction h with
  | incomplete hb => exact .inl ⟨hb, by simp⟩
  | refused hb => exact .inr ⟨_, [], hb, rfl, by simp⟩
  | @frame _ body _ _ _ _ _ ih =>
    rcases ih with ⟨hleft, hread⟩ | ⟨n, readItems, hleft, rfl, hread⟩
    · exact .inl ⟨hleft, by simpa using hread⟩
    · exact .inr ⟨n, item body :: readItems, hleft, rfl, by simpa using hread⟩

end Drains

/-- Taking items in as many rounds as there are bytes, and one more, reads the whole buffer. -/
theorem drainRounds_drains (rounds : Nat) (d : Decoder) (hr : d.buffered < rounds) :
    Drains d.limit d.buffer (drainRounds rounds d).1 (drainRounds rounds d).2.buffer ∧
      (drainRounds rounds d).2.limit = d.limit := by
  induction rounds generalizing d with
  | zero => omega
  | succ rounds ih =>
    cases hhead : Frame.head d.limit d.buffer with
    | incomplete =>
      rw [drainRounds, next_of_incomplete hhead]
      exact ⟨.incomplete hhead, rfl⟩
    | refused n =>
      rw [drainRounds, next_of_refused hhead]
      exact ⟨.refused hhead, rfl⟩
    | frame body rest =>
      obtain ⟨d', hnext, hrest, hlimit⟩ := next_of_frame hhead
      have hsize := congrArg ByteArray.size (Frame.eq_of_head_frame hhead).1
      rw [size_buffer, ByteArray.size_append, Frame.size_ofBody, Frame.headerLength, ← hrest,
        size_buffer] at hsize
      obtain ⟨hd, hl⟩ := ih d' (by omega)
      rw [hlimit, hrest] at hd
      have hframe := Drains.frame hhead hd
      rw [drainRounds, hnext]
      unfold item at hframe ⊢
      generalize Message.decode body = result at hframe ⊢
      cases result <;> exact ⟨hframe, hl.trans hlimit⟩

/-- `drain` reads the whole buffer. -/
theorem drain_drains (d : Decoder) : Drains d.limit d.buffer d.drain.1 d.drain.2.buffer :=
  (drainRounds_drains _ d (Nat.lt_succ_self _)).1

@[simp] theorem limit_drain (d : Decoder) : d.drain.2.limit = d.limit :=
  (drainRounds_drains _ d (Nat.lt_succ_self _)).2

/-- A piece of a stream is read behind what the decoder holds. -/
theorem feed_drains (d : Decoder) (piece : ByteArray) :
    Drains d.limit (d.buffer ++ piece) (d.feed piece).1 (d.feed piece).2.buffer := by
  have h := drain_drains (d.extend piece)
  rwa [limit_extend, buffer_extend] at h

@[simp] theorem limit_feed (d : Decoder) (piece : ByteArray) :
    (d.feed piece).2.limit = d.limit := by
  rw [feed, limit_drain, limit_extend]

/-! ## The pieces of a stream -/

/-- The items that pieces give, without the numbers of the pieces. -/
def itemsOf (items : Array (Nat × Item)) : List Item := items.toList.map Prod.snd

theorem itemsOf_append (items : Array (Nat × Item)) (i : Nat) (more : List Item) :
    itemsOf (items ++ more.map fun x => (i, x)) = itemsOf items ++ more := by
  simp [itemsOf, Function.comp_def]

/-- A stream from its pieces. -/
def join (pieces : List ByteArray) : ByteArray := pieces.foldr (· ++ ·) .empty

/-- Behind a refused length, every piece only brings the refusal again. -/
theorem feedPieces_of_refused {n : Nat} (pieces : List ByteArray) (d : Decoder)
    (items : Array (Nat × Item)) (i : Nat) (h : Frame.head d.limit d.buffer = .refused n) :
    itemsOf (Script.feedPieces d items i pieces).1 =
        itemsOf items ++ List.replicate pieces.length (.error (.tooLarge n d.limit)) ∧
      (Script.feedPieces d items i pieces).2.buffer = d.buffer ++ join pieces ∧
      (Script.feedPieces d items i pieces).2.limit = d.limit := by
  induction pieces generalizing d items i with
  | nil => simp [Script.feedPieces, join]
  | cons piece pieces ih =>
    have hpiece := Frame.head_append_refused h piece
    obtain ⟨hitems, hbuffer⟩ := (feed_drains d piece).unique (.refused hpiece)
    have hd : Frame.head (d.feed piece).2.limit (d.feed piece).2.buffer = .refused n := by
      rw [limit_feed, hbuffer, hpiece]
    obtain ⟨ih1, ih2, ih3⟩ := ih (d.feed piece).2
      (items ++ (d.feed piece).1.map fun x => (i, x)) (i + 1) hd
    rw [limit_feed] at ih1 ih3
    refine ⟨?_, ?_, ih3⟩
    · refine ih1.trans ?_
      rw [itemsOf_append, hitems, List.append_assoc, List.length_cons, List.replicate_succ]
      rfl
    · refine ih2.trans ?_
      rw [hbuffer, ByteArray.append_assoc]
      rfl

/-- The pieces of a stream give what the whole of it gives, and after that only the length that the
whole of it was refused for. -/
theorem feedPieces_drains (pieces : List ByteArray) (d : Decoder) (items : Array (Nat × Item))
    (i : Nat) (h : Frame.head d.limit d.buffer = .incomplete) :
    ∃ whole again,
      Drains d.limit (d.buffer ++ join pieces) whole (Script.feedPieces d items i pieces).2.buffer ∧
      itemsOf (Script.feedPieces d items i pieces).1 = itemsOf items ++ (whole ++ again) ∧
      ∀ x ∈ again, isRead x = false ∧ whole.getLast? = some x := by
  induction pieces generalizing d items i with
  | nil =>
    refine ⟨[], [], ?_, by simp [Script.feedPieces], by simp⟩
    rw [join, List.foldr_nil, ByteArray.append_empty]
    exact .incomplete h
  | cons piece pieces ih =>
    have hfeed := feed_drains d piece
    have hjoin : d.buffer ++ join (piece :: pieces) = d.buffer ++ piece ++ join pieces := by
      rw [ByteArray.append_assoc]; rfl
    rw [hjoin]
    rcases hfeed.ending with ⟨hleft, -⟩ | ⟨n, readItems, hleft, hitems, -⟩
    · -- the piece was read up to an incomplete frame, and the next piece comes behind that
      obtain ⟨whole, again, hd, hall, hagain⟩ := ih (d.feed piece).2
        (items ++ (d.feed piece).1.map fun x => (i, x)) (i + 1) (by rwa [limit_feed])
      rw [limit_feed] at hd
      refine ⟨_, again, hfeed.append_of_incomplete hleft hd, ?_, fun x hx => ?_⟩
      · refine hall.trans ?_
        rw [itemsOf_append]
        simp only [List.append_assoc]
      · obtain ⟨hread, hlast⟩ := hagain x hx
        exact ⟨hread, by rw [List.getLast?_append, hlast]; rfl⟩
    · -- the piece ended in a length that is refused, and the decoder stays there
      have hstop : Frame.head (d.feed piece).2.limit (d.feed piece).2.buffer = .refused n := by
        rw [limit_feed, hleft]
      obtain ⟨hrest, hbuffer, -⟩ := feedPieces_of_refused pieces (d.feed piece).2
        (items ++ (d.feed piece).1.map fun x => (i, x)) (i + 1) hstop
      rw [limit_feed, itemsOf_append, List.append_assoc] at hrest
      have hd := hfeed.append_of_refused hleft (join pieces)
      rw [← hbuffer] at hd
      refine ⟨(d.feed piece).1, _, hd, hrest, fun x hx => ?_⟩
      obtain rfl := List.eq_of_mem_replicate hx
      rw [hitems]
      exact ⟨rfl, List.getLast?_concat⟩

/-- A new decoder gives the same for the pieces of a stream and for the whole of it, except that a
length that is refused comes again after every later piece. -/
theorem feedPieces_eq_feed (limit : Nat) (pieces : List ByteArray) :
    (Script.feedPieces (withLimit limit) #[] 0 pieces).2.buffer =
        ((withLimit limit).feed (join pieces)).2.buffer ∧
      ∃ again, itemsOf (Script.feedPieces (withLimit limit) #[] 0 pieces).1 =
          ((withLimit limit).feed (join pieces)).1 ++ again ∧
        ∀ x ∈ again, isRead x = false ∧
          ((withLimit limit).feed (join pieces)).1.getLast? = some x := by
  have hnew : Frame.head (withLimit limit).limit (withLimit limit).buffer = .incomplete := by
    rw [buffer_withLimit]; rfl
  obtain ⟨whole, again, hd, hall, hagain⟩ := feedPieces_drains pieces (withLimit limit) #[] 0 hnew
  obtain ⟨rfl, hbuffer⟩ := hd.unique (feed_drains (withLimit limit) (join pieces))
  exact ⟨hbuffer, again, hall, hagain⟩

/-! ## Whatever happens to a decoder -/

/-- The decoder after a script. -/
def after (d : Decoder) (script : List Script.DecoderAct) : Decoder :=
  script.foldl (fun d a => (Script.decoderAct d a).2) d

/-- What `next` gives is read from the head of the buffer. -/
theorem head_of_next_tooLarge {d d' : Decoder} {n limit : Nat}
    (h : d.next = (.error (.tooLarge n limit), d')) :
    Frame.head d.limit d.buffer = .refused n ∧ limit = d.limit ∧ d' = d := by
  cases hhead : Frame.head d.limit d.buffer with
  | incomplete => rw [next_of_incomplete hhead] at h; cases h
  | refused m => rw [next_of_refused hhead] at h; cases h; exact ⟨rfl, rfl, rfl⟩
  | frame body rest =>
    obtain ⟨d'', hnext, -⟩ := next_of_frame hhead
    rw [hnext, item] at h
    cases hm : Message.decode body <;> rw [hm] at h <;> cases h

/-- A body that is no message was a frame of its own, in front of what is left. -/
theorem head_of_next_malformed {d d' : Decoder} {e : DecodeError}
    (h : d.next = (.error (.malformed e), d')) :
    ∃ body, Message.decode body = .error e ∧ d.buffer = Frame.ofBody body ++ d'.buffer ∧
      d'.limit = d.limit := by
  cases hhead : Frame.head d.limit d.buffer with
  | incomplete => rw [next_of_incomplete hhead] at h; cases h
  | refused m => rw [next_of_refused hhead] at h; cases h
  | frame body rest =>
    obtain ⟨d'', hnext, hrest, hlimit⟩ := next_of_frame hhead
    rw [hnext, item] at h
    cases hm : Message.decode body with
    | ok m => rw [hm] at h; cases h
    | error e' =>
      rw [hm] at h
      cases h
      exact ⟨body, hm, hrest ▸ (Frame.eq_of_head_frame hhead).1, hlimit⟩

/-- Whatever is done with a decoder that refused a length, it stays where it is. -/
theorem head_after_of_refused {n : Nat} (script : List Script.DecoderAct) (d : Decoder)
    (h : Frame.head d.limit d.buffer = .refused n) :
    Frame.head (d.after script).limit (d.after script).buffer = .refused n ∧
      (d.after script).limit = d.limit := by
  induction script generalizing d with
  | nil => exact ⟨h, rfl⟩
  | cons act script ih =>
    have hact : Frame.head (Script.decoderAct d act).2.limit (Script.decoderAct d act).2.buffer =
        .refused n ∧ (Script.decoderAct d act).2.limit = d.limit := by
      cases act with
      | extend b =>
        simp only [Script.decoderAct, limit_extend, buffer_extend, and_true]
        exact Frame.head_append_refused h b
      | next =>
        simp only [Script.decoderAct, next_of_refused h, and_true]
        exact h
      | feed b length =>
        obtain ⟨-, hbuffer, hlimit⟩ := feedPieces_of_refused (Script.piecesOf length b) d #[] 0 h
        simp only [Script.decoderAct, hbuffer, hlimit, and_true]
        exact Frame.head_append_refused h _
    obtain ⟨hhead, hlimit⟩ := ih (Script.decoderAct d act).2 hact.1
    exact ⟨hhead, hlimit.trans hact.2⟩

/-- A decoder with more rounds than `drain` takes reads no more. -/
theorem drainRounds_add (k : Nat) (d : Decoder) :
    (drainRounds (d.buffered + 1 + k) d).1 = d.drain.1 ∧
      (drainRounds (d.buffered + 1 + k) d).2.buffer = d.drain.2.buffer :=
  (drainRounds_drains _ d (by omega)).1.unique (drain_drains d)

end Decoder

open Decoder in
/-- **Reassembly does not depend on the cut.** The pieces of a stream give the items of the whole
stream in its order, and leave the same bytes; a length is refused in both or in neither, behind
the same items, and later pieces only repeat it. A body that is no message takes its own frame from
the stream, and what follows it is read as by a new decoder. A length that is refused takes nothing
and is refused ever after. A drain ends, with fewer bytes left than a longest frame has, or at a
length that is refused. -/
theorem reassembly_independent_of_cut (limit : Nat) :
    (∀ pieces : List ByteArray,
      let whole := (withLimit limit).feed (join pieces)
      let cut := Script.feedPieces (withLimit limit) #[] 0 pieces
      (itemsOf cut.1).filter isRead = whole.1.filter isRead ∧
      cut.2.buffer = whole.2.buffer ∧
      (∀ n, .error (.tooLarge n limit) ∈ itemsOf cut.1 ↔
        .error (.tooLarge n limit) ∈ whole.1) ∧
      ∃ again, itemsOf cut.1 = whole.1 ++ again ∧
        ∀ x ∈ again, isRead x = false ∧ whole.1.getLast? = some x) ∧
    ∀ d : Decoder, d.limit = limit →
      (∀ e d', d.next = (.error (.malformed e), d') →
        (∃ body, Message.decode body = .error e ∧ d.buffer = Frame.ofBody body ++ d'.buffer) ∧
        d'.drain.1 = ((withLimit limit).feed d'.buffer).1 ∧
        d'.drain.2.buffer = ((withLimit limit).feed d'.buffer).2.buffer) ∧
      (∀ n l d', d.next = (.error (.tooLarge n l), d') →
        d' = d ∧ l = limit ∧ ∀ script,
          (d.after script).next = (.error (.tooLarge n l), d.after script)) ∧
      (((∀ x ∈ d.drain.1, isRead x = true) ∧ d.drain.2.next = (.ok none, d.drain.2) ∧
          d.drain.2.buffered < Frame.headerLength + limit) ∨
        ∃ n readItems, d.drain.1 = readItems ++ [.error (.tooLarge n limit)] ∧
          (∀ x ∈ readItems, isRead x = true) ∧
          d.drain.2.next = (.error (.tooLarge n limit), d.drain.2)) ∧
      ∀ k, (drainRounds (d.buffered + 1 + k) d).1 = d.drain.1 ∧
        (drainRounds (d.buffered + 1 + k) d).2.buffer = d.drain.2.buffer := by
  refine ⟨fun pieces => ?_, fun d hd => ⟨fun e d' h => ?_, fun n l d' h => ?_, ?_, fun k => ?_⟩⟩
  · obtain ⟨hbuffer, again, hall, hagain⟩ := feedPieces_eq_feed limit pieces
    refine ⟨?_, hbuffer, fun n => ?_, again, hall, hagain⟩
    · have hnone : again.filter isRead = [] :=
        List.filter_eq_nil_iff.2 fun x hx => by simp [(hagain x hx).1]
      rw [hall, List.filter_append, hnone, List.append_nil]
    · rw [hall, List.mem_append]
      exact ⟨fun h => h.elim id fun hx => List.mem_of_getLast? (hagain _ hx).2, .inl⟩
  · obtain ⟨body, hbody, hbuffer, hlimit⟩ := head_of_next_malformed h
    have hfeed := feed_drains (withLimit limit) d'.buffer
    rw [limit_withLimit, buffer_withLimit, ByteArray.empty_append] at hfeed
    have hdrain := drain_drains d'
    rw [hlimit, hd] at hdrain
    exact ⟨⟨body, hbody, hbuffer⟩, hdrain.unique hfeed⟩
  · obtain ⟨hhead, rfl, rfl⟩ := head_of_next_tooLarge h
    refine ⟨rfl, hd, fun script => ?_⟩
    obtain ⟨hafter, hlimit⟩ := head_after_of_refused script d' hhead
    rw [next_of_refused hafter, hlimit]
  · subst hd
    have hlimit := limit_drain d
    rcases (drain_drains d).ending with ⟨hleft, hread⟩ | ⟨n, readItems, hleft, hitems, hread⟩
    · refine .inl ⟨hread, next_of_incomplete (hlimit ▸ hleft), ?_⟩
      rw [← size_buffer]
      exact Frame.size_of_head_incomplete hleft
    · refine .inr ⟨n, readItems, hitems, hread, ?_⟩
      rw [next_of_refused (hlimit.symm ▸ hleft), hlimit]
  · exact drainRounds_add k d

open Decoder in
/-- A body of one byte that is no message, in front of a length that is refused: the body is taken,
and the refusal is what a new decoder gives for the rest. -/
theorem reassembly_of_bad_body :
    ∃ e d', ((withLimit 8).extend (Frame.ofBody ⟨#[255]⟩ ++ Frame.header 9)).next =
        (.error (.malformed e), d') ∧
      d'.drain.1 = ((withLimit 8).feed (Frame.header 9)).1 := by
  have hbody : Frame.head 8 (Frame.ofBody ⟨#[255]⟩ ++ Frame.header 9) =
      .frame ⟨#[255]⟩ (Frame.header 9) :=
    Frame.head_ofBody (by decide) (by decide) _
  have hbuffer : ((withLimit 8).extend (Frame.ofBody ⟨#[255]⟩ ++ Frame.header 9)).buffer =
      Frame.ofBody ⟨#[255]⟩ ++ Frame.header 9 := by
    rw [buffer_extend, buffer_withLimit, ByteArray.empty_append]
  obtain ⟨d', hnext, hrest, -⟩ := next_of_frame (d := (withLimit 8).extend
    (Frame.ofBody ⟨#[255]⟩ ++ Frame.header 9)) (by rw [limit_extend, hbuffer]; exact hbody)
  have hbad : item ⟨#[255]⟩ = .error (.malformed ⟨[], .varint⟩) := rfl
  rw [hbad] at hnext
  have hread := ((reassembly_independent_of_cut 8).2 _ (limit_extend _ _)).1 _ _ hnext
  exact ⟨_, d', hnext, hrest ▸ hread.2.1⟩

end ChatSockets.Wire
