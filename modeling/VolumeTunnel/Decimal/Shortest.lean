import VolumeTunnel.Decimal.Double

/-!
# Shortest decimal text

The text of a finite number has the fewest digits that read back as that number, and of those
the ones nearest to it. The reals that read back as `m * 2 ^ q` form an interval around it, whose
ends belong to it iff `m` is even. On each decimal grid, from one digit to seventeen, only the
two neighbours of the number are tried, in exact arithmetic.

`DecimalLayout` says how the chosen digits are written out.
-/

namespace VolumeTunnel

/-- An interval around a positive quotient: everything is over the denominator `den`. -/
structure RoundingInterval where
  low : Nat
  value : Nat
  high : Nat
  den : Nat
  closed : Bool

namespace Double

/-- The reals nearest to `m * 2 ^ q`; below a power of two the lower half is narrower. -/
def interval (m : Nat) (q : Int) : RoundingInterval :=
  let scale := Nat.pow 2 (q - 2).toNat
  let low := if m = Nat.pow 2 (precision - 1) ∧ q > minExponent then 4 * m - 1 else 4 * m - 2
  { low := low * scale
    value := 4 * m * scale
    high := (4 * m + 2) * scale
    den := Nat.pow 2 (2 - q).toNat
    closed := m % 2 = 0 }

end Double

namespace RoundingInterval

variable (r : RoundingInterval)

/-- Whether `digits * 10 ^ k` lies in the interval. -/
def contains (digits : Nat) (k : Int) : Bool :=
  let point := digits * Nat.pow 10 k.toNat * r.den
  let low := r.low * Nat.pow 10 (-k).toNat
  let high := r.high * Nat.pow 10 (-k).toNat
  if r.closed then low ≤ point && point ≤ high else low < point && point < high

/-- The greatest `e` with `10 ^ e` at most the value. -/
def decimalExponent : Int :=
  let l := Double.log2Ratio r.value r.den
  let e := (l * 30103).fdiv 100000
  let next := e + 1
  if r.den * Nat.pow 10 next.toNat ≤ r.value * Nat.pow 10 (-next).toNat then next else e

/-- The point of the grid `10 ^ k` to choose: a neighbour of the value that lies in the interval,
the nearer if both do, the even one of two equally near. -/
def pick? (k : Int) : Option Nat :=
  let num := r.value * Nat.pow 10 (-k).toNat
  let den := r.den * Nat.pow 10 k.toNat
  let below := num / den
  let above := below + 1
  match r.contains below k, r.contains above k with
  | true, true => some (roundHalfEven num den)
  | true, false => some below
  | false, true => some above
  | false, false => none

/-- The first hit among the grids of `d`, `d + 1`, … digits, trying `tries` of them. -/
def search (e : Int) : Nat → Nat → Nat × Int
  | 0, d =>
    (r.value * Nat.pow 10 (-(e - d)).toNat / (r.den * Nat.pow 10 (e - d).toNat), e - d)
  | tries + 1, d =>
    match r.pick? (e - d) with
    | some digits => (digits, e - d)
    | none => search e tries (d + 1)

end RoundingInterval

/-- Drops the zeros at the end of a positive number, counting them into the exponent. -/
def dropZeros : Nat → Nat → Int → Nat × Int
  | 0, digits, k => (digits, k)
  | tries + 1, digits, k =>
    if digits % 10 = 0 then dropZeros tries (digits / 10) (k + 1) else (digits, k)

namespace Double

/-- The fewest digits `d` and the exponent `k` such that `d * 10 ^ k` reads back as the
positive number `m * 2 ^ q`. -/
def shortest (m : Nat) (q : Int) : Nat × Int :=
  let r := interval m q
  let (digits, k) := r.search r.decimalExponent 17 0
  dropZeros 20 digits k

end Double

/-- How chosen digits are laid out. -/
structure DecimalLayout where
  /-- Positional notation is used while the point is at most this far right of the first digit. -/
  maxPoint : Int
  /-- Positional notation is used while the point is at least this far right of the first digit. -/
  minPoint : Int
  /-- The least number of digits of an exponent. -/
  exponentWidth : Nat
  /-- Written after a whole number. -/
  wholeSuffix : Text

namespace DecimalLayout

variable (layout : DecimalLayout)

/-- The exponent mark, its sign and its digits. -/
def exponentText (e : Int) : Text :=
  .char 'e' :: .char (if e < 0 then '-' else '+') :: Text.padded 10 layout.exponentWidth e.natAbs

/-- Writes the digits `d` of the number `d * 10 ^ k`. -/
def write (d : Nat) (k : Int) : Text :=
  let digits := Text.ofNat d
  let point : Int := digits.length + k
  if layout.minPoint ≤ point ∧ point ≤ layout.maxPoint then
    if point ≤ 0 then
      ("0." : Text) ++ List.replicate (-point).toNat (.char '0') ++ digits
    else if k ≥ 0 then
      digits ++ List.replicate k.toNat (.char '0') ++ layout.wholeSuffix
    else
      digits.take point.toNat ++ .char '.' :: digits.drop point.toNat
  else
    match digits with
    | [] => []
    | [c] => c :: layout.exponentText (point - 1)
    | c :: rest => c :: .char '.' :: rest ++ layout.exponentText (point - 1)

end DecimalLayout

/-- Numbers are written positionally from `0.0001` to below `10 ^ 16`, whole ones end in `.0`, and
an exponent has a sign and at least two digits. -/
def numberLayout : DecimalLayout where
  maxPoint := 16
  minPoint := -3
  exponentWidth := 2
  wholeSuffix := ".0"

/-- The text of a number: `nan`, `inf`, or the shortest decimal that reads back as it. -/
def Double.text : Double → Text
  | .nan => "nan"
  | .infinite negative => if negative then "-inf" else "inf"
  | .finite negative m q =>
    let body : Text :=
      if m = 0 then "0.0"
      else numberLayout.write (Double.shortest m q).1 (Double.shortest m q).2
    if negative then .char '-' :: body else body

end VolumeTunnel
