/-!
# Text

A `Text` is a list of code points. Besides characters it can hold lone surrogates, because
settings files and response bodies can name them by escapes. This file has the type, the
coercion from string literals, decimal and hexadecimal numerals, joining, splitting at one
code point, and the code point order.

* `Text.ofInt`, `Text.ofNat` : decimal numerals;
* `Text.join`, `Text.splitOn`, `Text.cutAt` : putting texts together and taking them apart;
* `Text.ble` : the code point order.
-/

namespace VolumeTunnel

/-- One code point: a character, or a surrogate that stands alone. -/
inductive CodePoint where
  | char (c : Char)
  /-- The surrogate `0xD800 + unit`. -/
  | lone (unit : Fin 0x800)
deriving DecidableEq, Repr

namespace CodePoint

/-- The number of the code point. -/
def val : CodePoint → Nat
  | char c => c.toNat
  | lone u => 0xD800 + u.val

/-- The code point of a number, `none` above `0x10FFFF`. -/
def ofNat? (n : Nat) : Option CodePoint :=
  if h : n.isValidChar then some (char (Char.ofNatAux n h))
  else if h : 0xD800 ≤ n ∧ n - 0xD800 < 0x800 then some (lone ⟨n - 0xD800, h.2⟩)
  else none

/-- The character, if it is one. -/
def toChar? : CodePoint → Option Char
  | char c => some c
  | lone _ => none

end CodePoint

/-- A sequence of code points. -/
abbrev Text := List CodePoint

namespace Text

/-- The text of a list of characters. -/
def ofChars (cs : List Char) : Text :=
  cs.map .char

/-- The text of a string. -/
def ofString (s : String) : Text :=
  ofChars s.toList

instance : Coe String Text := ⟨ofString⟩

/-- The characters of a text, `none` if it holds a lone surrogate. -/
def toChars? (t : Text) : Option (List Char) :=
  t.mapM CodePoint.toChar?

/-- The texts one after the other, with `sep` between neighbours. -/
def join (sep : Text) : List Text → Text
  | [] => []
  | [t] => t
  | t :: ts => t ++ sep ++ join sep ts

/-- The pieces between the occurrences of `sep`; always at least one. -/
def splitOn (sep : CodePoint) : Text → List Text
  | [] => [[]]
  | c :: t =>
    if c = sep then [] :: splitOn sep t
    else match splitOn sep t with
      | [] => [[c]]
      | p :: ps => (c :: p) :: ps

/-- What stands before and after the first `sep`; all and nothing if there is none. -/
def cutAt (sep : CodePoint) : Text → Text × Text
  | [] => ([], [])
  | c :: t =>
    if c = sep then ([], t)
    else ((c :: (cutAt sep t).1), (cutAt sep t).2)

/-- Whether `t` begins with the characters `p`. -/
def startsWith (t : Text) (p : Text) : Bool :=
  p.isPrefixOf t

/-- The code point order: the first difference decides, a beginning comes before its extensions. -/
def ble : Text → Text → Bool
  | [], _ => true
  | _ :: _, [] => false
  | a :: s, b :: t => a.val < b.val || (a.val == b.val && ble s t)

/-- The digit character of a number below 36, in lower case. -/
def digitChar (d : Nat) : Char :=
  if d < 10 then Char.ofNat (48 + d) else Char.ofNat (87 + d)

/-- The numeral of `n` in the given base. -/
def numeral (base : Nat) (n : Nat) : List Char :=
  if _h : n < base ∨ base < 2 then [digitChar n]
  else numeral base (n / base) ++ [digitChar (n % base)]
termination_by n
decreasing_by
  simp only [not_or, Nat.not_lt] at _h
  exact Nat.div_lt_self (by omega) (by omega)

/-- The decimal numeral of a natural number. -/
def ofNat (n : Nat) : Text :=
  ofChars (numeral 10 n)

/-- The decimal numeral of an integer, with a minus sign if it is negative. -/
def ofInt : Int → Text
  | .ofNat n => ofNat n
  | .negSucc n => .char '-' :: ofNat (n + 1)

/-- The numeral of `n` in `base`, filled with zeros on the left up to `width`. -/
def padded (base width n : Nat) : Text :=
  let digits := numeral base n
  ofChars (List.replicate (width - digits.length) '0' ++ digits)

end Text

end VolumeTunnel
