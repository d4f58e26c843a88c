import VolumeTunnel.Text.Basic

/-!
# UTF-8

Bytes to text in two ways: strictly, and with one replacement character for each maximal part that
no well-formed sequence continues. The second bytes allowed after `E0`, `ED`, `F0` and `F4` exclude
overlong forms, surrogates and numbers above `10FFFF`.

* `Utf8.encode?` : the bytes of a text, if it has any, and `Utf8.isEncodable` whether it has;
* `Utf8.rest_length_le` : reading a character leaves no more bytes than there were.
-/

namespace VolumeTunnel.Utf8

/-- The bytes of a character. -/
def encodeChar (c : Char) : List UInt8 :=
  let n := c.toNat
  let tail (shift : Nat) : UInt8 := UInt8.ofNat (0x80 + n / Nat.pow 2 shift % 64)
  if n < 0x80 then [UInt8.ofNat n]
  else if n < 0x800 then [UInt8.ofNat (0xC0 + n / 64), tail 0]
  else if n < 0x10000 then [UInt8.ofNat (0xE0 + n / 4096), tail 6, tail 0]
  else [UInt8.ofNat (0xF0 + n / 262144), tail 12, tail 6, tail 0]

/-- The bytes of a text, `none` if it holds a lone surrogate. -/
def encode? (t : Text) : Option (List UInt8) :=
  (Text.toChars? t).map fun cs => cs.flatMap encodeChar

/-- Whether a text has bytes. -/
def isEncodable (t : Text) : Bool :=
  (encode? t).isSome

/-- The second bytes that may follow a first byte, and how many tail bytes come after the second. -/
def expects (first : UInt8) : Option (UInt8 × UInt8 × Nat) :=
  if 0xC2 ≤ first ∧ first ≤ 0xDF then some (0x80, 0xBF, 0)
  else if first = 0xE0 then some (0xA0, 0xBF, 1)
  else if first = 0xED then some (0x80, 0x9F, 1)
  else if 0xE1 ≤ first ∧ first ≤ 0xEF then some (0x80, 0xBF, 1)
  else if first = 0xF0 then some (0x90, 0xBF, 2)
  else if 0xF1 ≤ first ∧ first ≤ 0xF3 then some (0x80, 0xBF, 2)
  else if first = 0xF4 then some (0x80, 0x8F, 2)
  else none

/-- The payload bits of a first byte that announces tail bytes. -/
def firstBits (first : UInt8) : Nat :=
  if first < 0xE0 then first.toNat % 32
  else if first < 0xF0 then first.toNat % 16
  else first.toNat % 8

/-- Takes `count` tail bytes onto `value`; `none` where one is missing. The bytes not taken
are returned in both cases. -/
def takeTails : Nat → Nat → List UInt8 → Option Nat × List UInt8
  | 0, value, bytes => (some value, bytes)
  | _ + 1, _, [] => (none, [])
  | count + 1, value, b :: bytes =>
    if 0x80 ≤ b ∧ b ≤ 0xBF then takeTails count (value * 64 + b.toNat % 64) bytes
    else (none, b :: bytes)

/-- The character that begins with `first`, or `none` for the maximal part that cannot be
continued, with the bytes after it. -/
def readChar (first : UInt8) (bytes : List UInt8) : Option Char × List UInt8 :=
  if first < 0x80 then (some (Char.ofNat first.toNat), bytes)
  else match expects first with
    | none => (none, bytes)
    | some (low, high, more) =>
      match bytes with
      | [] => (none, [])
      | b :: rest =>
        if low ≤ b ∧ b ≤ high then
          let (value, rest) := takeTails more (firstBits first * 64 + b.toNat % 64) rest
          (value.map Char.ofNat, rest)
        else (none, b :: rest)

theorem takeTails_length_le (count value : Nat) (bytes : List UInt8) :
    (takeTails count value bytes).2.length ≤ bytes.length := by
  induction count generalizing value bytes with
  | zero => simp [takeTails]
  | succ count ih =>
    cases bytes with
    | nil => simp [takeTails]
    | cons b bytes =>
      unfold takeTails
      split
      · exact Nat.le_succ_of_le (ih _ _)
      · simp

theorem rest_length_le (first : UInt8) (bytes : List UInt8) :
    (readChar first bytes).2.length ≤ bytes.length := by
  unfold readChar
  split
  · simp
  · split
    · simp
    · split
      · simp
      · split
        · exact Nat.le_succ_of_le (takeTails_length_le _ _ _)
        · simp

/-- The characters of a byte sequence, `none` for each malformed part. -/
def readAll : List UInt8 → List (Option Char)
  | [] => []
  | b :: bytes => (readChar b bytes).1 :: readAll (readChar b bytes).2
termination_by bytes => bytes.length
decreasing_by
  exact Nat.lt_succ_of_le (rest_length_le b bytes)

/-- The characters of a well-formed byte sequence. -/
def decode? (bytes : List UInt8) : Option (List Char) :=
  (readAll bytes).mapM id

/-- The characters before the first malformed part, and the bytes from it on. -/
def splitGood : List UInt8 → List Char × List UInt8
  | [] => ([], [])
  | b :: bytes =>
    match (readChar b bytes).1 with
    | some c =>
      let (good, bad) := splitGood (readChar b bytes).2
      (c :: good, bad)
    | none => ([], b :: bytes)
termination_by bytes => bytes.length
decreasing_by
  exact Nat.lt_succ_of_le (rest_length_le b bytes)

/-- The number of bytes at the start that are the beginning of a character which does not go on. -/
def brokenWidth : List UInt8 → Nat
  | [] => 0
  | b :: bytes =>
    if (expects b).isSome then bytes.length + 1 - (readChar b bytes).2.length else 0

/-- The text of a byte sequence, each malformed part read as the replacement character. -/
def decodeReplacing (bytes : List UInt8) : Text :=
  (readAll bytes).map fun c => .char (c.getD (Char.ofNat 0xFFFD))

end VolumeTunnel.Utf8
