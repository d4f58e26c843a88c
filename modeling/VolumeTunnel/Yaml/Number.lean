import VolumeTunnel.Value.Basic
import VolumeTunnel.Yaml.Basic

/-!
# Numbers

Integers are decimal, binary (`0b101`), octal with a zero in front (`017`), hexadecimal (`0x1F`) or
in base 60 (`1:30`). Real numbers have a point, and an exponent only with a sign; they may be in
base 60 as well. Underscores may stand between the digits.

* `Number.isInteger`, `Number.isReal` : whether a plain text is a number;
* `Number.integer`, `Number.real` : the value of a text that is to be a number.
-/

namespace VolumeTunnel.Yaml.Number

/-- Whether the code point is an underscore or a digit below a base up to ten. -/
def isDigitIn (base : Nat) (c : CodePoint) : Bool :=
  c = .char '_' || (c.isDigit && c.val - 48 < base)

/-- Whether the text is not empty and all its code points are of a class. -/
def isRun (p : CodePoint → Bool) (t : Text) : Bool :=
  !t.isEmpty && t.all p

/-- Whether the text is a place of a number in base 60: below 60, with one or two digits. -/
def isPlace : Text → Bool
  | [a] => a.isDigit
  | [a, b] => a.isDigit && a.val < 54 && b.isDigit
  | _ => false

/-- Whether the text is a decimal digit that `first` admits, followed by digits and underscores. -/
def isDecimal (first : CodePoint → Bool) : Text → Bool
  | [] => false
  | c :: t => c.isDigit && first c && t.all (isDigitIn 10)

/-- Whether the text is a number in base 60, of at least two places. -/
def isBase60 (first : CodePoint → Bool) (t : Text) : Bool :=
  match t.splitOn (.char ':') with
  | a :: b :: places => isDecimal first a && (b :: places).all isPlace
  | _ => false

/-- Whether the digit is not a zero. -/
def isNonzero (c : CodePoint) : Bool :=
  c ≠ .char '0'

/-- Whether a plain text is an integer. -/
def isInteger (t : Text) : Bool :=
  let (_, body) := Text.takeSign t
  (match body with
    | .char '0' :: .char 'b' :: ds => isRun (isDigitIn 2) ds
    | .char '0' :: .char 'x' :: ds => isRun (fun c => c = .char '_' || c.hexDigit?.isSome) ds
    | [.char '0'] => true
    | .char '0' :: ds => isRun (isDigitIn 8) ds
    | _ => isDecimal isNonzero body)
  || isBase60 isNonzero body

/-- Whether the text is nothing, or an exponent with a sign. -/
def isExponent : Text → Bool
  | [] => true
  | m :: s :: ds => isOneOf ['e', 'E'] m && isOneOf ['+', '-'] s && isRun CodePoint.isDigit ds
  | _ => false

/-- Whether the text is digits and underscores followed by nothing or an exponent. -/
def isFraction (t : Text) : Bool :=
  isExponent (t.dropWhile (isDigitIn 10))

/-- Whether a plain text is a real number. -/
def isReal (t : Text) : Bool :=
  let (_, body) := Text.takeSign t
  let (whole, fraction) := body.cutAt (.char '.')
  body.contains (.char '.')
    && ((isDecimal (fun _ => true) whole && isFraction fraction)
      || (isBase60 (fun _ => true) whole && fraction.all (isDigitIn 10))
      || (whole.isEmpty && (fraction = "inf" || fraction = "Inf" || fraction = "INF")))
  || (match t with
    | .char '.' :: d :: rest => d.isDigit && isFraction rest
    | _ => false)
  || t = ".nan" || t = ".NaN" || t = ".NAN"

/-- The result, or the fault of a text that is no number. -/
def orFault {α : Type} (result : Option α) : Except Flaw α :=
  match result with
  | some x => .ok x
  | none => .error (.fault .wrongValue)

/-- The value of places in a base, the greatest first. -/
def ofPlaces (base : Int) (places : List Int) : Int :=
  places.foldl (fun n d => n * base + d) 0

/-- The value of a text that is to be an integer. -/
def integer (t : Text) : Except Flaw Int := do
  let (negative, body) := Text.takeSign (t.filter (· ≠ .char '_'))
  let magnitude ← match body with
    | [] => .error (.fault .indexOutOfRange)
    | [.char '0'] => .ok 0
    | .char '0' :: .char 'b' :: ds => orFault (Text.toInt? 2 ds)
    | .char '0' :: .char 'x' :: ds => orFault (Text.toInt? 16 ds)
    | .char '0' :: _ => orFault (Text.toInt? 8 body)
    | _ =>
      let places := body.splitOn (.char ':')
      (ofPlaces 60) <$> orFault (places.mapM (Text.toInt? 10))
  pure (if negative then -magnitude else magnitude)

/-- The sum of the places of a real number in base 60, the least first. Each place is rounded, and
so is each sum. -/
def sumPlaces (scale : Nat) (sum : Double) : List Double → Except Flaw Double
  | [] => .ok sum
  | d :: ds =>
    match Double.ofInt scale with
    | .infinite _ => .error (.fault .tooLarge)
    | s => sumPlaces (scale * 60) (sum.add (d.mul s)) ds

/-- The sign and the rest of a text that is to be a real number. -/
def realParts (t : Text) : Bool × Text :=
  Text.takeSign (Double.lowerAscii (t.filter (· ≠ .char '_')))

/-- Whether the text is written as what is not a number. -/
def isNan (t : Text) : Bool :=
  (realParts t).2 = ".nan"

/-- The value of a text that is to be a real number. -/
def real (t : Text) : Except Flaw Double := do
  if t.all (· = .char '_') then .error (.fault .indexOutOfRange)
  else
    let (negative, body) := realParts t
    let magnitude : Double ←
      if body = ".inf" then .ok (.infinite false)
      else if body = ".nan" then .ok .nan
      else if body.contains (.char ':') then do
        let places ← orFault ((body.splitOn (.char ':')).mapM Double.ofText?)
        sumPlaces 1 (.ofInt 0) places.reverse
      else orFault (Double.ofText? body)
    pure (if negative then magnitude.neg else magnitude)

end VolumeTunnel.Yaml.Number
