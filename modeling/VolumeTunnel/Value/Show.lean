import VolumeTunnel.Value.Basic

/-!
# The text of a value

A value has two written forms. Its `shown` form is what interpolation puts into a message: a text
stands for itself. Its `quoted` form is what stands inside a collection: a text is quoted, and a
date or moment names its parts.

* `Value.shown_text` : the shown form of a text is the text;
* `Value.isWritable` : which values have a written form at all.

Not every value has one : a number that is too long has no numeral. This is tested wherever a value
of any type is written, which is where ports, labels, levels of logging, the settings of a host and
of a proxy, the entries of a mapping and the model and kind of an object come from. Names,
namespaces, prefixes and messages are texts, which are always written.
-/

namespace VolumeTunnel

namespace Value

/-- A number of parts in parentheses after a name. -/
def callText (name : Text) (parts : List Nat) : Text :=
  name ++ .char '(' :: Text.join ", " (parts.map Text.ofNat) ++ [.char ')']

/-- The quoted form of a distance from universal time. -/
def offsetQuoted (o : Int) : Text :=
  if o = 0 then "datetime.timezone.utc"
  else
    let days := o.fdiv 1440
    let seconds := (o - days * 1440) * 60
    let parts := (if days = 0 then [] else [("days=" : Text) ++ Text.ofInt days])
      ++ (if seconds = 0 then [] else [("seconds=" : Text) ++ Text.ofInt seconds])
    "datetime.timezone(datetime.timedelta(" ++ Text.join ", " parts ++ "))"

/-- The quoted form of a moment; a microsecond or a second of zero at the end is left out. -/
def momentQuoted (m : Moment) : Text :=
  let parts := [m.date.year, m.date.month, m.date.day, m.hour, m.minute]
    ++ (if m.microsecond ≠ 0 then [m.second, m.microsecond]
        else if m.second ≠ 0 then [m.second] else [])
  let zone : Text := match m.offset with
    | Option.none => []
    | some o => ", tzinfo=" ++ offsetQuoted o
  "datetime.datetime(" ++ Text.join ", " (parts.map Text.ofNat) ++ zone ++ ")"

mutual

/-- The form of a value inside a collection. -/
def quoted : Value → Text
  | none => "None"
  | bool b => if b then "True" else "False"
  | int i => Text.ofInt i
  | float d => d.text
  | text t => t.quoted
  | bytes bs => quotedBytes bs
  | list xs => .char '[' :: quotedMembers xs ++ [.char ']']
  | tuple [x] => .char '(' :: quoted x ++ ",)"
  | tuple xs => .char '(' :: quotedMembers xs ++ [.char ')']
  | dict es => .char '\x7b' :: quotedEntries es ++ [.char '\x7d']
  | set [] => "set()"
  | set xs => .char '\x7b' :: quotedMembers xs ++ [.char '\x7d']
  | date d => callText "datetime.date" [d.year, d.month, d.day]
  | moment m => momentQuoted m
  | elided mapping => if mapping then "\x7b...\x7d" else "[...]"

/-- The members of a collection, separated by commas. -/
def quotedMembers : List Value → Text
  | [] => []
  | [x] => quoted x
  | x :: xs => quoted x ++ ", " ++ quotedMembers xs

/-- The entries of a dictionary, separated by commas. -/
def quotedEntries : List (Value × Value) → Text
  | [] => []
  | [(k, v)] => quoted k ++ ": " ++ quoted v
  | (k, v) :: es => quoted k ++ ": " ++ quoted v ++ ", " ++ quotedEntries es

end

/-- The form of a value in a message. -/
def shown : Value → Text
  | text t => t
  | date d => d.text
  | moment m => m.text (.char ' ')
  | v => v.quoted

mutual

/-- Whether the value can be written: every integer in it has a decimal numeral. -/
def isWritable : Value → Bool
  | int i => Text.hasDecimalNumeral i.natAbs
  | list xs => areWritable xs
  | tuple xs => areWritable xs
  | dict es => areWritableEntries es
  | set xs => areWritable xs
  | _ => true

/-- Whether all values of a list can be written. -/
def areWritable : List Value → Bool
  | [] => true
  | x :: xs => isWritable x && areWritable xs

/-- Whether all keys and values of a dictionary can be written. -/
def areWritableEntries : List (Value × Value) → Bool
  | [] => true
  | (k, v) :: es => isWritable k && isWritable v && areWritableEntries es

end

@[simp] theorem shown_text (t : Text) : shown (text t) = t := rfl

theorem isWritable_natCast (n : Nat) :
    (int n).isWritable = decide (n < Nat.pow 10 Text.maxDecimalDigits) := by
  rw [isWritable, Int.natAbs_natCast, Text.hasDecimalNumeral]

/-- The least number with more digits than can be written. -/
def longNumber : Value :=
  int (Nat.pow 10 Text.maxDecimalDigits : Nat)

theorem isWritable_longNumber : longNumber.isWritable = false :=
  (isWritable_natCast _).trans (decide_eq_false (Nat.lt_irrefl _))

end Value

end VolumeTunnel
