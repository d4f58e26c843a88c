import VolumeTunnel.Json.Basic

/-!
# Reading JSON

A document stands alone in a text, with blanks around it. Besides the standard numbers the words
`NaN`, `Infinity` and `-Infinity` are read. A string may not hold control characters, an escaped
pair of surrogates is one character, and a surrogate escaped alone stays alone. An integer may
have as many digits as any decimal numeral.

`Json.read?` gives the document of a text, `none` where the text is no document.
-/

namespace VolumeTunnel.Json

/-- The text without the blanks at its start. -/
def skipBlank : Text → Text
  | .char ' ' :: t => skipBlank t
  | .char '\t' :: t => skipBlank t
  | .char '\n' :: t => skipBlank t
  | .char '\r' :: t => skipBlank t
  | t => t

/-- The number of four hexadecimal digits. -/
def hex4? (a b c d : CodePoint) : Option Nat := do
  let a ← CodePoint.hexDigit? a
  let b ← CodePoint.hexDigit? b
  let c ← CodePoint.hexDigit? c
  let d ← CodePoint.hexDigit? d
  pure (((a * 16 + b) * 16 + c) * 16 + d)

/-- The code point of a number below `0x110000`, and otherwise the number zero. -/
def codePoint (n : Nat) : CodePoint :=
  (CodePoint.ofNat? n).getD (.char (Char.ofNat 0))

/-- The character that two surrogates name together. -/
def pairUp (high low : Nat) : CodePoint :=
  codePoint (0x10000 + (high - 0xD800) * 0x400 + (low - 0xDC00))

/-- The code point that a backslash and the letter `c` name. -/
def simpleEscape? : Char → Option Char
  | '\x22' => some '\x22'
  | '\\' => some '\\'
  | '/' => some '/'
  | 'b' => some '\x08'
  | 'f' => some '\x0c'
  | 'n' => some '\n'
  | 'r' => some '\r'
  | 't' => some '\t'
  | _ => none

/-- Reads the rest of a string after its opening mark, giving it and what follows. -/
def readString : Text → Option (Text × Text)
  | [] => none
  | .char '\x22' :: t => some ([], t)
  | .char '\\' :: .char 'u' :: a :: b :: c :: d :: t =>
    match hex4? a b c d with
    | none => none
    | some high =>
      match t with
      | .char '\\' :: .char 'u' :: e :: f :: g :: h :: t' =>
        match hex4? e f g h with
        | none => none
        | some low =>
          if 0xD800 ≤ high ∧ high < 0xDC00 ∧ 0xDC00 ≤ low ∧ low < 0xE000 then
            (readString t').map fun (s, rest) => (pairUp high low :: s, rest)
          else
            (readString (.char '\\' :: .char 'u' :: e :: f :: g :: h :: t')).map
              fun (s, rest) => (codePoint high :: s, rest)
      | t => (readString t).map fun (s, rest) => (codePoint high :: s, rest)
  | .char '\\' :: .char c :: t =>
    match simpleEscape? c with
    | none => none
    | some c => (readString t).map fun (s, rest) => (.char c :: s, rest)
  | .char '\\' :: _ => none
  | c :: t =>
    if c.val < 0x20 then none
    else (readString t).map fun (s, rest) => (c :: s, rest)

/-- The longest beginning of ASCII digits, and the rest. -/
def takeDigits (t : Text) : Text × Text :=
  (t.takeWhile CodePoint.isDigit, t.dropWhile CodePoint.isDigit)

/-- Reads the digits of a whole number. After a zero at its start there are no more. -/
def takeWhole : Text → Text × Text
  | .char '0' :: t => ([.char '0'], t)
  | t => takeDigits t

/-- Reads the digits of a fraction, if a point with a digit follows. -/
def takeFraction : Text → Option Text × Text
  | .char '.' :: t =>
    let (ds, rest) := takeDigits t
    if ds.isEmpty then (none, .char '.' :: t) else (some ds, rest)
  | t => (none, t)

/-- Reads an exponent, if its mark, an optional sign and a digit follow. -/
def takeExponent : Text → Option Int × Text
  | .char m :: t =>
    if m = 'e' ∨ m = 'E' then
      let (down, u) := Text.takeSign t
      let (ds, rest) := takeDigits u
      if ds.isEmpty then (none, .char m :: t)
      else
        let e : Int := Text.digitsValue ds
        (some (if down then -e else e), rest)
    else (none, .char m :: t)
  | t => (none, t)

/-- Reads a number after its minus sign, if it had one. -/
def readNumber (negative : Bool) (t : Text) : Option (Json × Text) :=
  let (whole, rest) := takeWhole t
  if whole.isEmpty then none
  else
    let (fraction, rest) := takeFraction rest
    let (exponent, rest) := takeExponent rest
    match fraction, exponent with
    | none, none =>
      if Text.maxDecimalDigits < whole.length then none
      else
        let n : Int := Text.digitsValue whole
        some (.int (if negative then -n else n), rest)
    | _, _ =>
      let ds := whole ++ fraction.getD []
      let places : Int := (fraction.getD []).length
      some (.real (.ofDecimal negative (Text.digitsValue ds) (exponent.getD 0 - places)), rest)

/-- The words that stand for a document of their own. -/
def words : List (Text × Json) :=
  [("null", .null), ("true", .bool true), ("false", .bool false), ("NaN", .real .nan),
   ("Infinity", .real (.infinite false)), ("-Infinity", .real (.infinite true))]

/-- Reads a word or a number. -/
def readPlain (t : Text) : Option (Json × Text) :=
  match words.find? fun w => t.startsWith w.1 with
  | some (word, j) => some (j, t.drop word.length)
  | none =>
    match t with
    | .char '-' :: t => readNumber true t
    | t => readNumber false t

mutual

/-- Reads a document whose first code point is at the start of the text. The fuel bounds the
number of documents, items and members on the way. -/
def readDocument : Nat → Text → Option (Json × Text)
  | 0, _ => none
  | _ + 1, .char '\x22' :: t => (readString t).map fun (s, rest) => (.text s, rest)
  | fuel + 1, .char '[' :: t =>
    match skipBlank t with
    | .char ']' :: rest => some (.array [], rest)
    | t => (readItems fuel t).map fun (js, rest) => (.array js, rest)
  | fuel + 1, .char '\x7b' :: t =>
    match skipBlank t with
    | .char '\x7d' :: rest => some (.object [], rest)
    | t => (readMembers fuel t).map fun (ms, rest) => (.object ms, rest)
  | _ + 1, t => readPlain t

/-- Reads the items of an array up to its closing bracket. -/
def readItems : Nat → Text → Option (List Json × Text)
  | 0, _ => none
  | fuel + 1, t => do
    let (j, t) ← readDocument fuel t
    match skipBlank t with
    | .char ']' :: rest => pure ([j], rest)
    | .char ',' :: t =>
      let (js, rest) ← readItems fuel (skipBlank t)
      pure (j :: js, rest)
    | _ => none

/-- Reads the members of an object up to its closing brace. -/
def readMembers : Nat → Text → Option (List (Text × Json) × Text)
  | 0, _ => none
  | fuel + 1, .char '\x22' :: t => do
    let (name, t) ← readString t
    match skipBlank t with
    | .char ':' :: t =>
      let (j, t) ← readDocument fuel (skipBlank t)
      match skipBlank t with
      | .char '\x7d' :: rest => pure ([(name, j)], rest)
      | .char ',' :: t =>
        let (ms, rest) ← readMembers fuel (skipBlank t)
        pure ((name, j) :: ms, rest)
      | _ => none
    | _ => none
  | _ + 1, _ => none

end

/-- The document that a text is. -/
def read? (t : Text) : Option Json :=
  match readDocument (2 * t.length + 1) (skipBlank t) with
  | some (j, rest) => if (skipBlank rest).isEmpty then some j else none
  | none => none

end VolumeTunnel.Json
