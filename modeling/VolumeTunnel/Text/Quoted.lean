import VolumeTunnel.Text.Printable

/-!
# Quoted text and bytes

The quoted form of a text stands between apostrophes, or between quotation marks when the text
holds an apostrophe and no quotation mark. Inside, the backslash and the mark itself are escaped,
so are line feed, carriage return and tab by their letters, and every other code point that is
not printable by `\x`, `\u` or `\U` and its hexadecimal number. Bytes are quoted the same way
after a `b`, with only ASCII counted as printable.
-/

namespace VolumeTunnel

/-- The apostrophe. -/
def apostrophe : CodePoint := .char '\x27'

/-- The quotation mark. -/
def quotationMark : CodePoint := .char '\x22'

/-- The mark around a quoted text: an apostrophe unless only apostrophes occur inside. -/
def quoteFor (t : Text) : CodePoint :=
  if apostrophe ∈ t ∧ quotationMark ∉ t then quotationMark else apostrophe

/-- A backslash, a letter, and a hexadecimal number of fixed width. -/
def hexEscape (letter : Char) (width n : Nat) : Text :=
  .char '\\' :: .char letter :: Text.padded 16 width n

namespace CodePoint

/-- How the code point is written between two marks `mark`. -/
def escaped (mark : CodePoint) (c : CodePoint) : Text :=
  if c = mark ∨ c = .char '\\' then [.char '\\', c]
  else if c = .char '\n' then "\\n"
  else if c = .char '\r' then "\\r"
  else if c = .char '\t' then "\\t"
  else if c.isPrintable then [c]
  else if c.val < 0x100 then hexEscape 'x' 2 c.val
  else if c.val < 0x10000 then hexEscape 'u' 4 c.val
  else hexEscape 'U' 8 c.val

end CodePoint

/-- The text between marks, with what cannot stand for itself escaped. -/
def Text.quoted (t : Text) : Text :=
  quoteFor t :: t.flatMap (CodePoint.escaped (quoteFor t)) ++ [quoteFor t]

/-- How a byte is written between two marks `mark`. -/
def escapedByte (mark : CodePoint) (b : UInt8) : Text :=
  let c : CodePoint := .char (Char.ofNat b.toNat)
  if b < 0x7F then CodePoint.escaped mark c else hexEscape 'x' 2 b.toNat

/-- The bytes between marks, after a `b`. -/
def quotedBytes (bytes : List UInt8) : Text :=
  let mark := quoteFor (bytes.map fun b => .char (Char.ofNat b.toNat))
  .char 'b' :: mark :: bytes.flatMap (escapedByte mark) ++ [mark]

end VolumeTunnel
