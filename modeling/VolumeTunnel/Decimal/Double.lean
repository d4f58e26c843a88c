import VolumeTunnel.Text.Numeral

/-!
# Double precision numbers

A `Double` is a binary64 number given exactly: a sign, a mantissa and a power of two. Decimal
text becomes the nearest one, a tie going to the even mantissa; past the largest finite number
the result is infinite. Arithmetic is exact arithmetic followed by that rounding.

* `Double.ofRatio` rounds a quotient of natural numbers;
* `Double.ofText?` reads decimal text;
* `Double.same` compares values, so that the two zeros are equal and a `nan` equals nothing.
-/

namespace VolumeTunnel

/-- A binary64 number. A finite one is `mantissa * 2 ^ exponent` with its sign. -/
inductive Double where
  | nan
  | infinite (negative : Bool)
  | finite (negative : Bool) (mantissa : Nat) (exponent : Int)
deriving DecidableEq, Repr

/-- The integer nearest to `num / den`, a tie going to the even one. -/
def roundHalfEven (num den : Nat) : Nat :=
  let q := num / den
  let r := num % den
  if 2 * r < den then q
  else if den < 2 * r then q + 1
  else if q % 2 = 0 then q else q + 1

namespace Double

/-- The least exponent of a finite number. -/
def minExponent : Int := -1074

/-- The number of bits of a mantissa. -/
def precision : Nat := 53

/-- The greatest `l` with `2 ^ l ≤ num / den`, for positive `num` and `den`. -/
def log2Ratio (num den : Nat) : Int :=
  let l : Int := (Nat.log2 num : Int) - Nat.log2 den
  if den * Nat.pow 2 l.toNat ≤ num * Nat.pow 2 (-l).toNat then l else l - 1

/-- The number nearest to `num / den`, with the given sign. -/
def ofRatio (negative : Bool) (num den : Nat) : Double :=
  if num = 0 then finite negative 0 minExponent
  else
    let q := max (log2Ratio num den - 52) minExponent
    let m := roundHalfEven (num * Nat.pow 2 (-q).toNat) (den * Nat.pow 2 q.toNat)
    let (m, q) := if m = Nat.pow 2 precision then (Nat.pow 2 (precision - 1), q + 1) else (m, q)
    if q > 971 then infinite negative else finite negative m q

/-- The number nearest to `digits * 10 ^ exponent`. An exponent far out of range decides at once. -/
def ofDecimal (negative : Bool) (digits : Nat) (exponent : Int) : Double :=
  let size : Int := (Text.numeral 10 digits).length
  if digits = 0 then ofRatio negative 0 1
  else if size + exponent > 400 then infinite negative
  else if size + exponent < -400 then ofRatio negative 0 1
  else ofRatio negative (digits * Nat.pow 10 exponent.toNat) (Nat.pow 10 (-exponent).toNat)

/-- The number nearest to an integer. -/
def ofInt (i : Int) : Double :=
  ofRatio (i < 0) i.natAbs 1

/-- The sign, `true` for negative; a `nan` counts as positive. -/
def isNegative : Double → Bool
  | nan => false
  | infinite s => s
  | finite s _ _ => s

/-- The number with the opposite sign. -/
def neg : Double → Double
  | nan => nan
  | infinite s => infinite !s
  | finite s m q => finite (!s) m q

/-- Whether the number is one of the two zeros. -/
def isZero : Double → Bool
  | finite _ m _ => m == 0
  | _ => false

/-- The magnitude of a finite number as a quotient. -/
def ratio (m : Nat) (q : Int) : Nat × Nat :=
  (m * Nat.pow 2 q.toNat, Nat.pow 2 (-q).toNat)

/-- The rounded product. -/
def mul : Double → Double → Double
  | nan, _ => nan
  | _, nan => nan
  | infinite s, b => if b.isZero then nan else infinite (s != b.isNegative)
  | a, infinite s => if a.isZero then nan else infinite (s != a.isNegative)
  | finite s m q, finite t n r =>
    ofRatio (s != t) (ratio (m * n) (q + r)).1 (ratio (m * n) (q + r)).2

/-- The rounded sum. -/
def add : Double → Double → Double
  | nan, _ => nan
  | _, nan => nan
  | infinite s, infinite t => if s = t then infinite s else nan
  | infinite s, finite _ _ _ => infinite s
  | finite _ _ _, infinite s => infinite s
  | finite s m q, finite t n r =>
    let low := min q r
    let a : Int := m * Nat.pow 2 (q - low).toNat
    let b : Int := n * Nat.pow 2 (r - low).toNat
    let sum := (if s then -a else a) + (if t then -b else b)
    if sum = 0 then finite (s && t) 0 minExponent
    else ofRatio (sum < 0) (ratio sum.natAbs low).1 (ratio sum.natAbs low).2

/-- Compares a finite number with an integer. -/
def sameInt : Double → Int → Bool
  | finite s m q, i =>
    let (num, den) := ratio m q
    let num : Int := num
    (if s then -num else num) == i * den
  | _, _ => false

/-- Equality of values. -/
def same : Double → Double → Bool
  | finite s m q, finite t n r =>
    let low := min q r
    let a : Int := m * Nat.pow 2 (q - low).toNat
    let b : Int := n * Nat.pow 2 (r - low).toNat
    (if s then -a else a) == (if t then -b else b)
  | infinite s, infinite t => s == t
  | _, _ => false

/-- The digits before an exponent mark: digits, a point and digits, at least one digit in all. -/
def mantissa? (t : Text) : Option (List Nat × Nat) :=
  match t.splitOn (.char '.') with
  | [whole] => (whole.digits? 10).map (·, 0)
  | [whole, fraction] =>
    if whole.isEmpty && fraction.isEmpty then none
    else do
      let a ← if whole.isEmpty then some [] else whole.digits? 10
      let b ← if fraction.isEmpty then some [] else fraction.digits? 10
      pure (a ++ b, b.length)
  | _ => none

/-- The text with ASCII letters in lower case. -/
def lowerAscii (t : Text) : Text :=
  t.map fun
    | .char c => .char c.toLower
    | c => c

/-- Reads decimal text: blanks around it, a sign, then a decimal number with an optional exponent,
or `inf`, `infinity` or `nan` in any case. -/
def ofText? (t : Text) : Option Double :=
  let (negative, body) := Text.takeSign t.stripBlank
  let body := lowerAscii body
  if body = "inf" ∨ body = "infinity" then some (infinite negative)
  else if body = "nan" then some nan
  else match body.splitOn (.char 'e') with
    | [m] => (mantissa? m).map fun (ds, places) =>
      ofDecimal negative (Text.natValue 10 ds) (-(places : Int))
    | [m, e] => do
      let (ds, places) ← mantissa? m
      let (down, e) := Text.takeSign e
      let e : Int := Text.natValue 10 (← e.digits? 10)
      pure (ofDecimal negative (Text.natValue 10 ds) ((if down then -e else e) - places))
    | _ => none

end Double

end VolumeTunnel
