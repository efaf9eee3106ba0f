import ChatSockets.Wire.Input
import ChatSockets.Wire.Fault

/-!
# Numbers in groups of seven bits

A number below 2^64 is written in groups of seven bits, the lowest first, and every byte but the
last has its top bit set. A reader takes at most ten groups, and the tenth holds a single bit; it
accepts more groups than a number needs. Reading gives back what was written (`read_write`).
-/

namespace ChatSockets.Wire.Varint

/-- A number in at most `k + 1` groups. -/
def groups : Nat → Nat → List UInt8
  | 0, n => [n.toUInt8]
  | k + 1, n => if n < 128 then [n.toUInt8] else (n % 128 + 128).toUInt8 :: groups k (n / 128)

/-- The bytes of a number below 2^64. -/
def write (n : Nat) : List UInt8 := groups 9 n

/-- Reads a number of at most `k` groups, where the last group possible holds one bit. -/
def readGroups : Nat → Input → Except Fault (Nat × Input)
  | 0, _ => .error .varint
  | k + 1, i =>
    match i.next? with
    | none => .error .varint
    | some (b, i) =>
      if b < 128 then
        if k = 0 ∧ b ≥ 2 then .error .varint else .ok (b.toNat, i)
      else
        match readGroups k i with
        | .error e => .error e
        | .ok (n, i) => .ok (b.toNat % 128 + 128 * n, i)

/-- Reads a number. -/
def read (i : Input) : Except Fault (Nat × Input) := readGroups 10 i

theorem readGroups_groups (k n : Nat) (rest : List UInt8) (h : n < 2 * Nat.pow 128 k) :
    readGroups (k + 1) (.ofList (groups k n ++ rest)) = .ok (n, .ofList rest) := by
  induction k generalizing n with
  | zero =>
    have h : n < 2 := by simpa using h
    have h1 : n.toUInt8.toNat = n := by simp; omega
    have h2 : n.toUInt8 < 128 := by rw [UInt8.lt_iff_toNat_lt, h1]; simp; omega
    have h3 : ¬ n.toUInt8 ≥ 2 := by rw [ge_iff_le, UInt8.le_iff_toNat_le, h1]; simp; omega
    simp [groups, readGroups, h2, h3, h1, -UInt8.not_le, -Nat.toUInt8_eq]
  | succ k ih =>
    rw [groups]
    by_cases hn : n < 128
    · have h1 : n.toUInt8.toNat = n := by simp; omega
      have h2 : n.toUInt8 < 128 := by rw [UInt8.lt_iff_toNat_lt, h1]; simpa using hn
      simp [hn, readGroups, h2, h1, -Nat.toUInt8_eq]
    · have h1 : (n % 128 + 128).toUInt8.toNat = n % 128 + 128 := by simp; omega
      have h2 : ¬ (n % 128 + 128).toUInt8 < 128 := by
        rw [UInt8.lt_iff_toNat_lt, h1]; simp
      have h3 : n / 128 < 2 * Nat.pow 128 k := by
        rw [Nat.div_lt_iff_lt_mul (by decide)]
        have h : n < 2 * (Nat.pow 128 k * 128) := h
        omega
      rw [if_neg hn, List.cons_append, readGroups, Input.next?_ofList_cons]
      simp only [h2, if_false, ih (n / 128) h3, h1]
      congr 2
      omega

/-- A number below 2^64 reads back, and what follows it is left. -/
theorem read_write (n : Nat) (rest : List UInt8) (h : n < UInt64.size) :
    read (.ofList (write n ++ rest)) = .ok (n, .ofList rest) :=
  readGroups_groups 9 n rest (Nat.lt_of_lt_of_le h (by decide))

end ChatSockets.Wire.Varint
