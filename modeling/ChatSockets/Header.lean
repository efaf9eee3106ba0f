import ChatSockets.Text.Blank

/-!
# Header lines

A header line is a name, a colon and a value. `Header.find?` gives the value of the first line with
a name; blanks around name and value do not count, nor does the case of ASCII letters in the name.
A line without a colon is no header.
-/

namespace ChatSockets.Header

/-- Whether two texts differ at most in the case of ASCII letters. -/
def sameName (a b : List Char) : Bool := a.map Char.toLower = b.map Char.toLower

/-- The header line of a name and a value. -/
def line (name value : String) : String := name ++ ":" ++ value

/-- The value of a line, if it is a header with the name. -/
def value? (name : List Char) (line : List Char) : Option (List Char) :=
  match Text.cut? ':' line with
  | none => none
  | some (key, value) => if sameName (Text.trim key) name then some (Text.trim value) else none

/-- The value of the first header with the name. -/
def find? (lines : List String) (name : String) : Option String :=
  (lines.findSome? fun line => value? name.toList line.toList).map String.ofList

end ChatSockets.Header
