import VolumeTunnel.Text.Basic

/-!
# Dates and moments

Dates of the Gregorian calendar from year 1 to 9999, and moments of a day with an optional
distance from universal time. Both are written in the ISO form.

* `Date.ofParts?`, `Moment.ofParts?` : the parts must name a day, and a time, that exist;
* `Moment.same` : moments with a distance are compared as instants, others by their parts.
-/

namespace VolumeTunnel

/-- Whether the year has a leap day. -/
def isLeapYear (year : Nat) : Bool :=
  year % 4 = 0 && (year % 100 ≠ 0 || year % 400 = 0)

/-- The number of days of a month. -/
def daysInMonth (year month : Nat) : Nat :=
  if month = 2 then (if isLeapYear year then 29 else 28)
  else if month ∈ [4, 6, 9, 11] then 30 else 31

/-- A day of the calendar. -/
structure Date where
  year : Nat
  month : Nat
  day : Nat
deriving DecidableEq, Repr

namespace Date

/-- The date with these parts, if there is such a day. -/
def ofParts? (year month day : Nat) : Option Date :=
  if 1 ≤ year ∧ year ≤ 9999 ∧ 1 ≤ month ∧ month ≤ 12 ∧ 1 ≤ day ∧ day ≤ daysInMonth year month
  then some ⟨year, month, day⟩ else none

/-- The number of days from the first day of year 1 to this day. -/
def dayNumber (d : Date) : Nat :=
  let y := d.year - 1
  y * 365 + y / 4 - y / 100 + y / 400
    + (List.range (d.month - 1)).foldr (fun m n => daysInMonth d.year (m + 1) + n) (d.day - 1)

/-- Year, month and day in the ISO form. -/
def text (d : Date) : Text :=
  Text.padded 10 4 d.year ++ .char '-' :: Text.padded 10 2 d.month
    ++ .char '-' :: Text.padded 10 2 d.day

end Date

/-- A moment of a day. `offset` is the distance of the local time from universal time in minutes. -/
structure Moment where
  date : Date
  hour : Nat
  minute : Nat
  second : Nat
  microsecond : Nat
  offset : Option Int
deriving DecidableEq, Repr

namespace Moment

/-- The moment with these parts, if there is such a time of day and the distance from universal
time is less than a day. -/
def ofParts? (date : Date) (hour minute second microsecond : Nat) (offset : Option Int) :
    Option Moment :=
  if hour < 24 ∧ minute < 60 ∧ second < 60 ∧ microsecond < 1000000
    ∧ (offset.all fun o => o.natAbs < 24 * 60)
  then some ⟨date, hour, minute, second, microsecond, offset⟩ else none

/-- The microseconds from the start of year 1, local time. -/
def localMicroseconds (m : Moment) : Int :=
  ((((m.date.dayNumber * 24 + m.hour) * 60 + m.minute) * 60 + m.second) * 1000000 + m.microsecond
    : Nat)

/-- Equality of moments: of instants if both have a distance from universal time, of parts if
neither has. -/
def same (a b : Moment) : Bool :=
  match a.offset, b.offset with
  | none, none => a.localMicroseconds == b.localMicroseconds
  | some o, some p =>
    a.localMicroseconds - o * 60000000 == b.localMicroseconds - p * 60000000
  | _, _ => false

/-- The distance from universal time, with a sign. -/
def offsetText (o : Int) : Text :=
  .char (if o < 0 then '-' else '+') :: Text.padded 10 2 (o.natAbs / 60)
    ++ .char ':' :: Text.padded 10 2 (o.natAbs % 60)

/-- Date and time in the ISO form, with `between` separating them. -/
def text (between : CodePoint) (m : Moment) : Text :=
  m.date.text ++ between :: Text.padded 10 2 m.hour ++ .char ':' :: Text.padded 10 2 m.minute
    ++ .char ':' :: Text.padded 10 2 m.second
    ++ (if m.microsecond = 0 then [] else .char '.' :: Text.padded 10 6 m.microsecond)
    ++ m.offset.elim [] offsetText

end Moment

end VolumeTunnel
