/-!
# Durations and their text

A `Duration` is a whole number of nanoseconds. Its text counts in the largest of the units s, ms, µs
and ns whose whole part is not zero, and writes the fraction without the zeros it would end with.
-/

namespace ChatSockets

/-- A length of time. -/
structure Duration where
  nanos : Nat
  deriving DecidableEq, Repr

namespace Duration

/-- A duration of whole milliseconds. -/
def ofMillis (ms : Nat) : Duration := ⟨ms * 1000000⟩

/-- The whole milliseconds of a duration. -/
def millis (d : Duration) : Nat := d.nanos / 1000000

/-- The decimals of a part of a unit that has that many places, without the zeros at the end. -/
def decimals (places part : Nat) : List Char :=
  let digits := (Nat.repr part).toList
  ((List.replicate (places - digits.length) '0' ++ digits).reverse.dropWhile (· = '0')).reverse

/-- A number of units, of which one is `size` nanoseconds, a 1 and so many zeros. -/
def inUnit (places size : Nat) (unit : String) (nanos : Nat) : String :=
  let fraction := decimals places (nanos % size)
  let point := if fraction = [] then "" else "."
  Nat.repr (nanos / size) ++ point ++ String.ofList fraction ++ unit

/-- The text of a duration. -/
def text (d : Duration) : String :=
  if d.nanos ≥ 1000000000 then inUnit 9 1000000000 "s" d.nanos
  else if d.nanos ≥ 1000000 then inUnit 6 1000000 "ms" d.nanos
  else if d.nanos ≥ 1000 then inUnit 3 1000 "µs" d.nanos
  else inUnit 0 1 "ns" d.nanos

end Duration

end ChatSockets
