/-!
# Bytes still to be read

A reader of the wire format takes an `Input`, the bytes it has not read yet, and gives back a value
and the rest. The number of bytes left is kept beside them, so that a length can be compared with it
without counting.
-/

namespace ChatSockets.Wire

/-- Bytes not read yet, and how many they are. -/
structure Input where
  bytes : List UInt8
  left : Nat
  left_eq : left = bytes.length

namespace Input

/-- All of a list of bytes. -/
def ofList (bytes : List UInt8) : Input := ⟨bytes, bytes.length, rfl⟩

/-- All of a byte string. -/
def ofBytes (b : ByteArray) : Input := ⟨b.data.toList, b.size, rfl⟩

/-- Inputs with the same bytes are equal. -/
theorem eq_of_bytes {i j : Input} (h : i.bytes = j.bytes) : i = j := by
  obtain ⟨bs, n, hn⟩ := i
  obtain ⟨cs, m, hm⟩ := j
  simp_all

/-- The first byte and the rest. -/
def next? : Input → Option (UInt8 × Input)
  | ⟨[], _, _⟩ => none
  | ⟨b :: bs, n, h⟩ => some (b, ⟨bs, n - 1, by simp [h]⟩)

/-- The first `n` bytes and the rest, where there are as many. -/
def take? (n : Nat) (i : Input) : Option (List UInt8 × Input) :=
  if n ≤ i.left then
    some (i.bytes.take n, ⟨i.bytes.drop n, i.left - n, by simp [i.left_eq]⟩)
  else none

@[simp] theorem left_ofList (bs : List UInt8) : (ofList bs).left = bs.length := rfl

@[simp] theorem bytes_ofList (bs : List UInt8) : (ofList bs).bytes = bs := rfl

@[simp] theorem next?_ofList_nil : (ofList []).next? = none := rfl

@[simp] theorem next?_ofList_cons (b : UInt8) (bs : List UInt8) :
    (ofList (b :: bs)).next? = some (b, ofList bs) := rfl

/-- Taking as many bytes as stand in front gives those and leaves the others. -/
theorem take?_ofList_append (a b : List UInt8) :
    (ofList (a ++ b)).take? a.length = some (a, ofList b) := by
  rw [take?, if_pos (by simp)]
  simp only [Option.some.injEq, Prod.mk.injEq]
  exact ⟨by simp, eq_of_bytes (by simp)⟩

end Input

end ChatSockets.Wire
