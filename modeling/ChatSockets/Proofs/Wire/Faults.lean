import ChatSockets.Proofs.Wire.Stream

/-!
# A stream up to its first bad frame

A reader that gives up at the first bad frame gets the messages before it (`good`) and what is wrong
with it (`fault?`), if there is one. Both are defined by reading the whole stream at once. A reader
that has taken some messages from a stream is left with the rest of it (`Leaves`), whatever comes
behind, and what its decoder does next tells what the rest begins with
(`Leaves.next`, `Leaves.fails`, `Leaves.waits`).
-/

namespace ChatSockets.Wire

open Decoder

/-- The messages before the first error, and the error. -/
def untilFault : List Item → List Message × Option FrameError
  | [] => ([], none)
  | .ok m :: items => (m :: (untilFault items).1, (untilFault items).2)
  | .error e :: _ => ([], some e)

/-- The messages of a stream before its first bad frame. -/
def good (b : ByteArray) : List Message := (untilFault (Decoder.new.feed b).1).1

/-- What is wrong with the first bad frame of a stream. -/
def fault? (b : ByteArray) : Option FrameError := (untilFault (Decoder.new.feed b).1).2

/-- A stream has one reading. -/
theorem untilFault_of_drains {b left : ByteArray} {items : List Item}
    (h : Drains Frame.maxLength b items left) : untilFault items = (good b, fault? b) := by
  have hfeed : Drains Frame.maxLength (Decoder.new.buffer ++ b) (Decoder.new.feed b).1 _ :=
    Decoder.new.feed_drains b
  have hnew : Decoder.new.buffer = .empty := buffer_withLimit Frame.maxLength
  rw [hnew, ByteArray.empty_append] at hfeed
  rw [(h.unique hfeed).1]
  rfl

/-- Every stream has a reading. -/
theorem exists_drains (b : ByteArray) : ∃ items left, Drains Frame.maxLength b items left := by
  have hfeed := Decoder.new.feed_drains b
  have hnew : Decoder.new.buffer = .empty := buffer_withLimit Frame.maxLength
  rw [hnew, ByteArray.empty_append] at hfeed
  exact ⟨_, _, hfeed⟩

/-! ## What a stream begins with -/

section Head

variable {b body rest : ByteArray}

/-- A stream that is not even a whole frame brings nothing. -/
theorem of_head_incomplete (h : Frame.head Frame.maxLength b = .incomplete) :
    good b = [] ∧ fault? b = none :=
  (Prod.mk.inj (untilFault_of_drains (.incomplete h))).imp .symm .symm

/-- A length that is too large is a bad frame. -/
theorem of_head_refused {n : Nat} (h : Frame.head Frame.maxLength b = .refused n) :
    good b = [] ∧ fault? b = some (.tooLarge n Frame.maxLength) :=
  (Prod.mk.inj (untilFault_of_drains (.refused h))).imp .symm .symm

/-- A body that is no message is a bad frame, whatever follows it. -/
theorem of_head_malformed {e : DecodeError} (h : Frame.head Frame.maxLength b = .frame body rest)
    (hbody : Message.decode body = .error e) : good b = [] ∧ fault? b = some (.malformed e) := by
  obtain ⟨items, left, hrest⟩ := exists_drains rest
  have hread := untilFault_of_drains (.frame h hrest)
  rw [item, hbody] at hread
  exact (Prod.mk.inj hread).imp .symm .symm

/-- A frame of a message comes before what its rest brings. -/
theorem of_head_message {m : Message} (h : Frame.head Frame.maxLength b = .frame body rest)
    (hbody : Message.decode body = .ok m) : good b = m :: good rest ∧ fault? b = fault? rest := by
  obtain ⟨items, left, hrest⟩ := exists_drains rest
  have hread := untilFault_of_drains (.frame h hrest)
  have hitem : item body = .ok m := by
    rw [item, hbody]
    rfl
  rw [hitem, untilFault, untilFault_of_drains hrest] at hread
  exact (Prod.mk.inj hread).imp .symm .symm

end Head

/-- What a decoder does next, by what its bytes begin with. -/
inductive Decoder.Nexts (d : Decoder) : Except FrameError (Option Message) → Decoder → Prop
  | waits (hhead : Frame.head d.limit d.buffer = .incomplete) : Nexts d (.ok none) d
  | refuses (n : Nat) (hhead : Frame.head d.limit d.buffer = .refused n) :
    Nexts d (.error (.tooLarge n d.limit)) d
  | gives (body : ByteArray) (m : Message) (d' : Decoder)
    (hhead : Frame.head d.limit d.buffer = .frame body d'.buffer) (hlimit : d'.limit = d.limit)
    (hbody : Message.decode body = .ok m) : Nexts d (.ok (some m)) d'
  | rejects (body : ByteArray) (e : DecodeError) (d' : Decoder)
    (hhead : Frame.head d.limit d.buffer = .frame body d'.buffer)
    (hbody : Message.decode body = .error e) : Nexts d (.error (.malformed e)) d'

/-- A decoder does what its bytes begin with. -/
theorem Decoder.nexts_of_next {d d' : Decoder} {result : Except FrameError (Option Message)}
    (h : d.next = (result, d')) : d.Nexts result d' := by
  cases hhead : Frame.head d.limit d.buffer with
  | incomplete =>
    obtain ⟨rfl, rfl⟩ := Prod.mk.inj ((next_of_incomplete hhead).symm.trans h)
    exact .waits hhead
  | refused n =>
    obtain ⟨rfl, rfl⟩ := Prod.mk.inj ((next_of_refused hhead).symm.trans h)
    exact .refuses n hhead
  | frame body rest =>
    obtain ⟨d₁, hnext, rfl, hlimit⟩ := next_of_frame hhead
    obtain ⟨rfl, rfl⟩ := Prod.mk.inj (hnext.symm.trans h)
    rw [item]
    cases hbody : Message.decode body with
    | ok m => exact .gives body m d₁ hhead hlimit hbody
    | error e => exact .rejects body e d₁ hhead hbody

/-- A decoder that gives nothing is left as it is. -/
theorem Decoder.eq_of_next_none {d d' : Decoder} (h : d.next = (.ok none, d')) : d' = d := by
  cases nexts_of_next h
  rfl

/-- A decoder that gives a message has fewer bytes left, and the same limit. -/
theorem Decoder.lt_of_next {d d' : Decoder} {m : Message} (h : d.next = (.ok (some m), d')) :
    d'.buffered < d.buffered ∧ d'.limit = d.limit := by
  cases nexts_of_next h with
  | gives body _ _ hhead hlimit hbody =>
    have hsize := congrArg ByteArray.size (Frame.eq_of_head_frame hhead).1
    rw [ByteArray.size_append, Frame.size_ofBody, Frame.headerLength, size_buffer, size_buffer]
      at hsize
    exact ⟨by omega, hlimit⟩

/-! ## What a reader is left with -/

/-- Some messages were taken from the beginning of a stream, and this rest is left, whatever comes
behind it. -/
def Leaves (sent : ByteArray) (heard : List Message) (rest : ByteArray) : Prop :=
  ∀ more, good (sent ++ more) = heard ++ good (rest ++ more) ∧
    fault? (sent ++ more) = fault? (rest ++ more)

theorem leaves_all (b : ByteArray) : Leaves b [] b := fun _ => ⟨rfl, rfl⟩

namespace Leaves

variable {sent rest held : ByteArray} {heard : List Message} {d d' : Decoder}

/-- More of the stream comes behind the rest. -/
theorem append (h : Leaves sent heard rest) (b : ByteArray) :
    Leaves (sent ++ b) heard (rest ++ b) := by
  intro more
  rw [ByteArray.append_assoc, ByteArray.append_assoc]
  exact h (b ++ more)

/-- The stream as it is. -/
theorem now (h : Leaves sent heard rest) :
    good sent = heard ++ good rest ∧ fault? sent = fault? rest := by
  have hnow := h .empty
  rwa [ByteArray.append_empty, ByteArray.append_empty] at hnow

/-- What was taken is the front of what the stream brings. -/
theorem prefix_good (h : Leaves sent heard rest) : heard <+: good sent :=
  h.now.1 ▸ List.prefix_append ..

/-- A rest that brings no message. -/
theorem good_eq (h : Leaves sent heard rest) {fault : Option FrameError}
    (hrest : good rest = [] ∧ fault? rest = fault) : good sent = heard ∧ fault? sent = fault := by
  rw [h.now.1, h.now.2, hrest.1, List.append_nil]
  exact ⟨rfl, hrest.2⟩

/-- A decoder takes the next message from the rest. -/
theorem next (h : Leaves sent heard (d.buffer ++ held)) (hlimit : d.limit = Frame.maxLength)
    {m : Message} (hnext : d.next = (.ok (some m), d')) :
    Leaves sent (heard ++ [m]) (d'.buffer ++ held) := by
  cases nexts_of_next hnext with
  | gives body m d' hhead hkept hbody =>
    rw [hlimit] at hhead
    intro more
    obtain ⟨hgood, hfault⟩ := h more
    rw [ByteArray.append_assoc] at hgood hfault ⊢
    obtain ⟨hmessage, hsame⟩ := of_head_message
      (Frame.head_append_frame hhead (Frame.size_of_head_frame hhead) (held ++ more)) hbody
    rw [List.append_assoc, hgood, hfault, hmessage, hsame]
    exact ⟨rfl, rfl⟩

/-- A decoder that gives an error has come to the first bad frame. -/
theorem fails (h : Leaves sent heard (d.buffer ++ held)) (hlimit : d.limit = Frame.maxLength)
    {e : FrameError} (hnext : d.next = (.error e, d')) :
    good sent = heard ∧ fault? sent = some e := by
  refine h.good_eq ?_
  cases nexts_of_next hnext with
  | refuses n hhead =>
    rw [hlimit] at hhead ⊢
    exact of_head_refused (Frame.head_append_refused hhead held)
  | rejects body e d' hhead hbody =>
    rw [hlimit] at hhead
    exact of_head_malformed
      (Frame.head_append_frame hhead (Frame.size_of_head_frame hhead) held) hbody

/-- A decoder that has all of the stream and gives nothing has taken all that it brings. -/
theorem waits (h : Leaves sent heard d.buffer) (hlimit : d.limit = Frame.maxLength)
    (hnext : d.next = (.ok none, d)) : good sent = heard ∧ fault? sent = none := by
  refine h.good_eq ?_
  cases nexts_of_next hnext with
  | waits hhead =>
    rw [hlimit] at hhead
    exact of_head_incomplete hhead

end Leaves

end ChatSockets.Wire
