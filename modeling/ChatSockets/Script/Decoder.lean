import ChatSockets.Wire.Frame

/-!
# Scripts of a decoder

What happens to a decoder is a list of `DecoderAct`s: bytes come, in pieces or not, and messages are
taken. A `DecoderReport` follows each (`decoderReports`).
-/

namespace ChatSockets.Script

open Wire

/-- One thing that happens to a decoder. -/
inductive DecoderAct
  | extend (b : ByteArray)
  | next
  /-- bytes come in pieces of a length, and all messages are taken after each piece -/
  | feed (b : ByteArray) (length : Nat)

/-- What a decoder gave. -/
inductive DecoderReply
  | nothing
  | next (r : Except FrameError (Option Message))
  /-- messages and errors, each with the number of the piece after which it was taken -/
  | items (items : Array (Nat × Decoder.Item))

/-- What a decoder gave, and how many bytes it holds. -/
structure DecoderReport where
  reply : DecoderReply
  buffered : Nat

/-- The pieces of a length, of which there are at most so many; the last one may be shorter. -/
def piecesOf (length : Nat) (b : ByteArray) : List ByteArray :=
  (List.range ((b.size + length - 1) / length)).map fun i =>
    b.extract (i * length) ((i + 1) * length)

/-- What pieces give, from the piece with a number on. -/
def feedPieces (d : Decoder) (items : Array (Nat × Decoder.Item)) :
    Nat → List ByteArray → Array (Nat × Decoder.Item) × Decoder
  | _, [] => (items, d)
  | i, piece :: pieces =>
    let (more, d) := d.feed piece
    feedPieces d (items ++ more.map fun item => (i, item)) (i + 1) pieces

/-- One thing happens. -/
def decoderAct (d : Decoder) : DecoderAct → DecoderReply × Decoder
  | .extend b => (.nothing, d.extend b)
  | .next =>
    let (r, d) := d.next
    (.next r, d)
  | .feed b length =>
    let (items, d) := feedPieces d #[] 0 (piecesOf length b)
    (.items items, d)

/-- A report for each thing that happens. -/
def decoderReports (d : Decoder) : List DecoderAct → List DecoderReport
  | [] => []
  | a :: script =>
    let (reply, d) := decoderAct d a
    ⟨reply, d.buffered⟩ :: decoderReports d script

end ChatSockets.Script
