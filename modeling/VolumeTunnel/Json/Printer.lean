import VolumeTunnel.Json.Basic

/-!
# Writing JSON

Documents are written on one line, in ASCII only: a code point outside printable ASCII is escaped
by its UTF-16 units. Items are separated by a comma and a blank, and so are a name and its value
by a colon and a blank.
-/

namespace VolumeTunnel.Json

/-- A UTF-16 unit as an escape. -/
def unitEscape (n : Nat) : Text :=
  .char '\\' :: .char 'u' :: Text.padded 16 4 n

/-- How a code point is written inside a string. -/
def escaped (c : CodePoint) : Text :=
  if c = .char '\x22' ∨ c = .char '\\' then [.char '\\', c]
  else if c = .char '\n' then "\\n"
  else if c = .char '\r' then "\\r"
  else if c = .char '\t' then "\\t"
  else if c = .char '\x0c' then "\\f"
  else if c = .char '\x08' then "\\b"
  else if 0x20 ≤ c.val ∧ c.val < 0x7F then [c]
  else if c.val < 0x10000 then unitEscape c.val
  else
    unitEscape (0xD800 + (c.val - 0x10000) / 0x400)
      ++ unitEscape (0xDC00 + (c.val - 0x10000) % 0x400)

/-- A string between its marks. -/
def writeString (t : Text) : Text :=
  .char '\x22' :: t.flatMap escaped ++ [.char '\x22']

/-- The text of a number that is not an integer. -/
def writeReal : Double → Text
  | .nan => "NaN"
  | .infinite negative => if negative then "-Infinity" else "Infinity"
  | d => d.text

mutual

/-- The text of a document. -/
def write : Json → Text
  | null => "null"
  | bool b => if b then "true" else "false"
  | int i => Text.ofInt i
  | real d => writeReal d
  | text t => writeString t
  | array items => .char '[' :: writeItems items ++ [.char ']']
  | object members => .char '\x7b' :: writeMembers members ++ [.char '\x7d']

/-- The items of an array. -/
def writeItems : List Json → Text
  | [] => []
  | [j] => write j
  | j :: js => write j ++ ", " ++ writeItems js

/-- The members of an object. -/
def writeMembers : List (Text × Json) → Text
  | [] => []
  | [(name, j)] => writeString name ++ ": " ++ write j
  | (name, j) :: ms => writeString name ++ ": " ++ write j ++ ", " ++ writeMembers ms

end

end VolumeTunnel.Json
