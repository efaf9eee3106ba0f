import ChatSockets.Wire.Encode
import ChatSockets.Wire.Decode

/-!
# Frames and their reassembly

A frame is the length of a body in four bytes, the highest first, and the body of one message.
`Frame.encode` refuses a body above `maxLength`. A `Decoder` takes the bytes of a stream in pieces
of any size and gives the messages back: `next` looks for one message, `drain` for all that are
there.

A length above the decoder's limit is refused as soon as its four bytes are there and nothing is
taken from the stream, so it is refused for good. A body that is no message is taken from the stream
like any other.
-/

namespace ChatSockets.Wire

/-- Why a frame was not written or not read. -/
inductive FrameError
  /-- a body longer than the limit -/
  | tooLarge (length limit : Nat)
  /-- a body that is no message -/
  | malformed (cause : DecodeError)
  deriving DecidableEq, Repr

/-- The words for an error. -/
def FrameError.message : FrameError → String
  | tooLarge length limit => s!"Frame of {length} bytes exceeds the {limit} byte limit"
  | malformed cause => "Malformed frame: " ++ cause.message

namespace Frame

/-- The number of bytes in front of a body. -/
def headerLength : Nat := 4

/-- The longest body of a frame. -/
def maxLength : Nat := 1024 * 1024

/-- A number below 2^32 in four bytes, the highest first. -/
def header (n : Nat) : ByteArray :=
  ⟨#[(n / 16777216).toUInt8, (n / 65536).toUInt8, (n / 256).toUInt8, n.toUInt8]⟩

/-- A body behind its length. -/
def ofBody (body : ByteArray) : ByteArray := header body.size ++ body

/-- The frame of a message. -/
def encode (m : Message) : Except FrameError ByteArray :=
  let body := m.encode
  if body.size > maxLength then .error (.tooLarge body.size maxLength) else .ok (ofBody body)

end Frame

/-- The bytes of a stream that are not read yet, as the bytes of `held` from `start` on. -/
structure Decoder where
  held : ByteArray
  start : Nat
  limit : Nat
  start_le : start ≤ held.size

namespace Decoder

/-- A decoder at the start of a stream, which refuses bodies above `limit`. -/
def withLimit (limit : Nat) : Decoder := ⟨.empty, 0, limit, Nat.le_refl _⟩

/-- A decoder at the start of a stream. -/
def new : Decoder := withLimit Frame.maxLength

instance : Inhabited Decoder := ⟨.new⟩

/-- The number of bytes not read yet. -/
def buffered (d : Decoder) : Nat := d.held.size - d.start

/-- The bytes not read yet. -/
def buffer (d : Decoder) : ByteArray := d.held.extract d.start d.held.size

/-- More bytes of the stream. -/
def extend (d : Decoder) (more : ByteArray) : Decoder :=
  match d with
  | ⟨held, start, limit, _⟩ =>
    if start = 0 then ⟨held ++ more, 0, limit, Nat.zero_le _⟩
    else ⟨held.extract start held.size ++ more, 0, limit, Nat.zero_le _⟩

/-- The number that four bytes from a place on write, where there are four. -/
def lengthAt? (b : ByteArray) (i : Nat) : Option Nat :=
  if h : i + 3 < b.size then
    some (((b[i].toNat * 256 + b[i + 1].toNat) * 256 + b[i + 2].toNat) * 256 + b[i + 3].toNat)
  else none

/-- The next message, if it is complete, and the decoder after it. -/
def next (d : Decoder) : Except FrameError (Option Message) × Decoder :=
  match lengthAt? d.held d.start with
  | none => (.ok none, d)
  | some n =>
    if n > d.limit then (.error (.tooLarge n d.limit), d)
    else if h : d.start + Frame.headerLength + n ≤ d.held.size then
      let body := d.held.extract (d.start + Frame.headerLength) (d.start + Frame.headerLength + n)
      let d := { d with start := d.start + Frame.headerLength + n, start_le := h }
      match Message.decode body with
      | .ok m => (.ok (some m), d)
      | .error e => (.error (.malformed e), d)
    else (.ok none, d)

/-- Whether `next` has a message or an error to give. -/
def ready (d : Decoder) : Bool :=
  match lengthAt? d.held d.start with
  | none => false
  | some n => n > d.limit || d.start + Frame.headerLength + n ≤ d.held.size

/-- `ready` says exactly whether `next` gives something. -/
theorem ready_eq_false_iff (d : Decoder) : d.ready = false ↔ d.next = (.ok none, d) := by
  simp only [ready, next]
  split
  · simp
  · by_cases h1 : d.limit < ‹Nat›
    · simp [h1]
    · simp only [gt_iff_lt, h1, decide_false, Bool.false_or, decide_eq_false_iff_not, if_false]
      split
      · rename_i h2
        simp only [h2, not_true_eq_false, false_iff]
        split <;> simp
      · rename_i h2
        simp [h2]

/-- A message or the error of a frame that was read in its place. -/
abbrev Item := Except FrameError Message

/-- Takes messages until none is complete or a length is refused. Every round but the last takes at
least the four bytes of a length. -/
def drainRounds : Nat → Decoder → List Item × Decoder
  | 0, d => ([], d)
  | rounds + 1, d =>
    match d.next with
    | (.ok none, d) => ([], d)
    | (.ok (some m), d) =>
      let (items, d) := drainRounds rounds d
      (.ok m :: items, d)
    | (.error (.tooLarge n limit), d) => ([.error (.tooLarge n limit)], d)
    | (.error e, d) =>
      let (items, d) := drainRounds rounds d
      (.error e :: items, d)

/-- All messages that are complete, up to a length that is refused. -/
def drain (d : Decoder) : List Item × Decoder := drainRounds (d.buffered + 1) d

/-- A piece of the stream, and what can be read after it. -/
def feed (d : Decoder) (piece : ByteArray) : List Item × Decoder := (d.extend piece).drain

end Decoder

end ChatSockets.Wire
