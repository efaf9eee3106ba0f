import ChatSockets.Text.Hidden

/-!
# Quoted text

`quote` puts a text between double quotes. Quotes and backslashes get a backslash before them, NUL,
tab and the line ends have a letter each, and any other character without a glyph of its own is
written by its code point.
-/

namespace ChatSockets.Text

/-- The lower-case hexadecimal digits of a number. -/
def hex (n : Nat) : List Char := Nat.toDigits 16 n

/-- What stands for a character inside quotes. -/
def escape (c : Char) : List Char :=
  if c = '"' then ['\\', '"']
  else if c = '\\' then ['\\', '\\']
  else if c.toNat = 0 then ['\\', '0']
  else if c = '\t' then ['\\', 't']
  else if c = '\n' then ['\\', 'n']
  else if c = '\r' then ['\\', 'r']
  else if isHidden c then ['\\', 'u', '{'] ++ hex c.toNat ++ ['}']
  else [c]

/-- A text between quotes. -/
def quote (s : String) : String := String.ofList (['"'] ++ s.toList.flatMap escape ++ ['"'])

end ChatSockets.Text
