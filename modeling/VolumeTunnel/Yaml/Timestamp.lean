import VolumeTunnel.Value.Basic
import VolumeTunnel.Yaml.Basic

/-!
# Timestamps

A day, `2001-12-14`, or a day with a time, `2001-12-14 21:59:43.1 -5`. The time may have a fraction
of a second, of which six digits count, and a distance from universal time.

* `Timestamp.ofText?` : the parts of a text of this form;
* `Timestamp.value?` : the date or moment of these parts, if there is one.
-/

namespace VolumeTunnel.Yaml

/-- The time of a timestamp. -/
structure Clock where
  hour : Nat
  minute : Nat
  second : Nat
  /-- The digits after the point. -/
  fraction : Text
  /-- The distance from universal time in minutes. -/
  offset : Option Int

/-- The parts of a timestamp. -/
structure Timestamp where
  year : Nat
  month : Nat
  day : Nat
  clock : Option Clock

namespace Timestamp

/-- Reads at least `least` and at most `most` digits. -/
def readDigits? (least most : Nat) (t : Text) : Option (Nat × Text) :=
  let ds := (t.take most).takeWhile CodePoint.isDigit
  if least ≤ ds.length then some (Text.digitsValue ds, t.drop ds.length) else none

/-- The text after a character at its start. -/
def after? (c : Char) : Text → Option Text
  | .char d :: t => if c = d then some t else none
  | _ => none

/-- The text after what may separate a day from a time. -/
def afterSeparator? : Text → Option Text
  | .char 'T' :: t => some t
  | .char 't' :: t => some t
  | c :: t => if isSpaceOrTab c then some (t.dropWhile isSpaceOrTab) else none
  | [] => none

/-- The digits after a point, if there is one. -/
def readFraction : Text → Text × Text
  | .char '.' :: t => (t.takeWhile CodePoint.isDigit, t.dropWhile CodePoint.isDigit)
  | t => ([], t)

/-- The minutes of a distance, if they are given. -/
def offsetMinutes? : Text → Option Nat
  | [] => some 0
  | t => do
    let (minutes, rest) ← readDigits? 2 2 (← after? ':' t)
    if rest.isEmpty then pure minutes else none

/-- The distance from universal time that a text names. -/
def offset? (t : Text) : Option Int :=
  match t.dropWhile isSpaceOrTab with
  | [.char 'Z'] => some 0
  | .char sign :: t => do
    if sign ≠ '+' ∧ sign ≠ '-' then none
    else
      let (hours, rest) ← readDigits? 1 2 t
      let minutes ← offsetMinutes? rest
      let distance : Int := hours * 60 + minutes
      pure (if sign = '-' then -distance else distance)
  | _ => none

/-- The time that a text names. -/
def clock? (t : Text) : Option Clock := do
  let (hour, t) ← readDigits? 1 2 t
  let (minute, t) ← readDigits? 2 2 (← after? ':' t)
  let (second, t) ← readDigits? 2 2 (← after? ':' t)
  let (fraction, t) := readFraction t
  if t.isEmpty then pure ⟨hour, minute, second, fraction, none⟩
  else
    let offset ← offset? t
    pure ⟨hour, minute, second, fraction, some offset⟩

/-- The parts of a text that is a timestamp. -/
def ofText? (t : Text) : Option Timestamp := do
  let (year, t) ← readDigits? 4 4 t
  let (month, t) ← readDigits? 1 2 (← after? '-' t)
  let (day, t) ← readDigits? 1 2 (← after? '-' t)
  if t.isEmpty then pure ⟨year, month, day, none⟩
  else
    let clock ← clock? (← afterSeparator? t)
    pure ⟨year, month, day, some clock⟩

/-- Whether a plain text is a timestamp. A day alone must have two digits for month and day. -/
def isPlain (t : Text) : Bool :=
  match ofText? t with
  | none => false
  | some s => s.clock.isSome || t.length = 10

/-- The microseconds of a fraction, of which six digits count. -/
def microseconds (fraction : Text) : Nat :=
  let ds := fraction.take 6
  Text.digitsValue ds * Nat.pow 10 (6 - ds.length)

/-- The date or moment that a timestamp names. -/
def value? (s : Timestamp) : Option Value := do
  let date ← Date.ofParts? s.year s.month s.day
  match s.clock with
  | none => pure (.date date)
  | some c =>
    let m ← Moment.ofParts? date c.hour c.minute c.second (microseconds c.fraction) c.offset
    pure (.moment m)

end Timestamp

end VolumeTunnel.Yaml
