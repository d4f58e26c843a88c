import VolumeTunnel.Text.Basic

/-!
# Numerals

Reading decimal numerals the lenient way: decimal digits of every script count, blanks around the
numeral are dropped, and single underscores may stand between digits. The tables are those of the
Unicode character database.

* `Text.natValue` is the value of a run of digits in a base;
* `Text.toInt?` and `Text.stripBlank` read whole numerals.
-/

namespace VolumeTunnel

/-- The code points of the digit zero, one for each run of ten decimal digits. -/
def decimalZeros : List Nat :=
  [0x30, 0x660, 0x6F0, 0x7C0, 0x966, 0x9E6, 0xA66, 0xAE6, 0xB66, 0xBE6, 0xC66, 0xCE6, 0xD66,
   0xDE6, 0xE50, 0xED0, 0xF20, 0x1040, 0x1090, 0x17E0, 0x1810, 0x1946, 0x19D0, 0x1A80, 0x1A90,
   0x1B50, 0x1BB0, 0x1C40, 0x1C50, 0xA620, 0xA8D0, 0xA900, 0xA9D0, 0xA9F0, 0xAA50, 0xABF0,
   0xFF10, 0x104A0, 0x10D30, 0x11066, 0x110F0, 0x11136, 0x111D0, 0x112F0, 0x11450, 0x114D0,
   0x11650, 0x116C0, 0x11730, 0x118E0, 0x11950, 0x11C50, 0x11D50, 0x11DA0, 0x16A60, 0x16AC0,
   0x16B50, 0x1D7CE, 0x1D7D8, 0x1D7E2, 0x1D7EC, 0x1D7F6, 0x1E140, 0x1E2F0, 0x1E950, 0x1FBF0]

/-- The ranges of code points that are blank around a numeral. -/
def blankRanges : List (Nat × Nat) :=
  [(0x9, 0xD), (0x20, 0x20), (0x85, 0x85), (0xA0, 0xA0), (0x1680, 0x1680), (0x2000, 0x200A),
   (0x2028, 0x2029), (0x202F, 0x202F), (0x205F, 0x205F), (0x3000, 0x3000)]

namespace CodePoint

/-- Whether the code point is blank. -/
def isBlank (c : CodePoint) : Bool :=
  blankRanges.any fun (low, high) => low ≤ c.val && c.val ≤ high

/-- The value of a decimal digit of any script. -/
def decimal? (c : CodePoint) : Option Nat :=
  (decimalZeros.find? fun z => z ≤ c.val && c.val < z + 10).map (c.val - ·)

/-- The value of a digit in a base up to 36: a decimal digit of any script, or an ASCII letter. -/
def digit? (base : Nat) (c : CodePoint) : Option Nat :=
  let value := match c.decimal? with
    | some d => some d
    | none => match c with
      | .char c =>
        if c.isLower then some (c.toNat - 87)
        else if c.isUpper then some (c.toNat - 55)
        else none
      | .lone _ => none
  value.filter (· < base)

/-- The value of an ASCII hexadecimal digit. -/
def hexDigit? : CodePoint → Option Nat
  | .char c =>
    if c.isDigit then some (c.toNat - 48)
    else if 'a' ≤ c ∧ c ≤ 'f' then some (c.toNat - 87)
    else if 'A' ≤ c ∧ c ≤ 'F' then some (c.toNat - 55)
    else none
  | .lone _ => none

/-- Whether the code point is an ASCII digit. -/
def isDigit : CodePoint → Bool
  | .char c => c.isDigit
  | .lone _ => false

end CodePoint

namespace Text

/-- The text without the blanks at its two ends. -/
def stripBlank (t : Text) : Text :=
  ((t.dropWhile CodePoint.isBlank).reverse.dropWhile CodePoint.isBlank).reverse

/-- The digits of a numeral in which single underscores may stand between digits. -/
def digits? (base : Nat) : Text → Option (List Nat)
  | [] => none
  | [c] => (c.digit? base).map ([·])
  | c :: .char '_' :: t => do
    let d ← c.digit? base
    let ds ← digits? base t
    pure (d :: ds)
  | c :: t => do
    let d ← c.digit? base
    let ds ← digits? base t
    pure (d :: ds)

/-- The number that a list of digits denotes, the most significant first. -/
def natValue (base : Nat) (digits : List Nat) : Nat :=
  digits.foldl (fun n d => n * base + d) 0

/-- The number that ASCII digits denote. -/
def digitsValue (t : Text) : Nat :=
  t.foldl (fun n c => n * 10 + (c.val - 48)) 0

/-- Reads a sign, giving whether it is a minus. -/
def takeSign : Text → Bool × Text
  | .char '-' :: t => (true, t)
  | .char '+' :: t => (false, t)
  | t => (false, t)

/-- The most digits that a decimal numeral may have. -/
def maxDecimalDigits : Nat := 4300

/-- Whether `n` has a decimal numeral of at most `maxDecimalDigits` digits. -/
def hasDecimalNumeral (n : Nat) : Bool :=
  n < Nat.pow 10 maxDecimalDigits

/-- Reads a numeral: blanks around it, a sign, the base's own marker (`0b`, `0o` or `0x` for the
bases 2, 8 and 16), and digits. A decimal numeral is refused if it is too long. -/
def toInt? (base : Nat) (t : Text) : Option Int := do
  let (negative, t) := takeSign (stripBlank t)
  let body : Text := match t with
    | .char '0' :: .char m :: .char '_' :: rest =>
      if (m.toLower, base) ∈ [('b', 2), ('o', 8), ('x', 16)] then rest else t
    | .char '0' :: .char m :: rest =>
      if (m.toLower, base) ∈ [('b', 2), ('o', 8), ('x', 16)] then rest else t
    | _ => t
  let ds ← digits? base body
  if base = 10 ∧ maxDecimalDigits < ds.length then none
  else
    let n : Int := natValue base ds
    pure (if negative then -n else n)

end Text

end VolumeTunnel
