/-!
# Unsigned decimal numbers

`unsigned? bound s` reads a number written as an optional plus sign and at least one decimal digit,
and refuses one that is not below `bound`. Leading zeros are allowed.
-/

namespace ChatSockets.Text

/-- The value of a decimal digit. -/
def digit? (c : Char) : Option Nat :=
  if '0' ≤ c ∧ c ≤ '9' then some (c.toNat - '0'.toNat) else none

/-- The number written by digits that follow a number already read; it stops at the bound, so a
long text of digits is never multiplied out. -/
def digitsFrom? (bound : Nat) : Nat → List Char → Option Nat
  | n, [] => some n
  | n, c :: s =>
    match digit? c with
    | none => none
    | some d => if 10 * n + d < bound then digitsFrom? bound (10 * n + d) s else none

/-- The number below `bound` that a text writes. -/
def unsigned? (bound : Nat) (s : List Char) : Option Nat :=
  match (match s with
    | '+' :: s => s
    | s => s) with
  | [] => none
  | s => digitsFrom? bound 0 s

example : unsigned? 65536 "+0080".toList = some 80 := by decide
example : unsigned? 65536 "65536".toList = none := by decide
example : unsigned? 65536 "+".toList = none := by decide

end ChatSockets.Text
