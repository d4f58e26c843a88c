import VolumeTunnel.Text.Basic

/-!
# Base64

Bytes as text: three bytes become four symbols of an alphabet of 64, and a last group of one or
two bytes is filled up with padding.

* `Base64.encode` : the text of bytes;
* `Base64.decode?` : the bytes of a text;
* `Base64.decodeAround?` : the bytes of a text in which other code points may stand.
-/

namespace VolumeTunnel.Base64

/-- The symbol of a number below 64. -/
def symbol (n : Nat) : CodePoint :=
  .char <|
    if n < 26 then Char.ofNat (65 + n)
    else if n < 52 then Char.ofNat (71 + n)
    else if n < 62 then Char.ofNat (n - 4)
    else if n = 62 then '+'
    else '/'

/-- The number of a symbol. -/
def value? : CodePoint → Option Nat
  | .char c =>
    if 'A' ≤ c ∧ c ≤ 'Z' then some (c.toNat - 65)
    else if 'a' ≤ c ∧ c ≤ 'z' then some (c.toNat - 71)
    else if '0' ≤ c ∧ c ≤ '9' then some (c.toNat + 4)
    else if c = '+' then some 62
    else if c = '/' then some 63
    else none
  | .lone _ => none

/-- What fills up a last group. -/
def padding : CodePoint := .char '='

/-- The text of bytes. -/
def encode : List UInt8 → Text
  | [] => []
  | [a] =>
    let a := a.toNat
    [symbol (a / 4), symbol (a % 4 * 16), padding, padding]
  | [a, b] =>
    let a := a.toNat
    let b := b.toNat
    [symbol (a / 4), symbol (a % 4 * 16 + b / 16), symbol (b % 16 * 4), padding]
  | a :: b :: c :: rest =>
    let a := a.toNat
    let b := b.toNat
    let c := c.toNat
    symbol (a / 4) :: symbol (a % 4 * 16 + b / 16) :: symbol (b % 16 * 4 + c / 64)
      :: symbol (c % 64) :: encode rest

/-- The bytes of a text; padding may end it, and only fill up zeros. -/
def decode? : Text → Option (List UInt8)
  | [] => some []
  | w :: x :: y :: z :: rest =>
    if z = padding then
      if rest ≠ [] then none
      else if y = padding then do
        let w ← value? w
        let x ← value? x
        if x % 16 = 0 then pure [UInt8.ofNat (w * 4 + x / 16)] else none
      else do
        let w ← value? w
        let x ← value? x
        let y ← value? y
        if y % 4 = 0 then
          pure [UInt8.ofNat (w * 4 + x / 16), UInt8.ofNat (x % 16 * 16 + y / 4)]
        else none
    else do
      let w ← value? w
      let x ← value? x
      let y ← value? y
      let z ← value? z
      let bytes ← decode? rest
      pure (UInt8.ofNat (w * 4 + x / 16) :: UInt8.ofNat (x % 16 * 16 + y / 4)
        :: UInt8.ofNat (y % 4 * 64 + z) :: bytes)
  | _ => none

/-- The bytes of a text in which code points that are no symbols are skipped. `group` holds the
symbols of the group begun, the last first, and `pads` counts the paddings after them; padding that
fills a group ends the text. -/
def decodeSkipping? (group : List Nat) (pads : Nat) : Text → Option (List UInt8)
  | [] => if group.isEmpty then some [] else none
  | c :: t =>
    if c = padding then
      match group with
      | _ :: _ :: _ =>
        if 4 ≤ group.length + pads + 1 then some [] else decodeSkipping? group (pads + 1) t
      | _ => decodeSkipping? group pads t
    else match value? c, group with
      | none, _ => decodeSkipping? group pads t
      | some v, [] => decodeSkipping? [v] 0 t
      | some v, [a] => (decodeSkipping? [v, a] 0 t).map (UInt8.ofNat (a * 4 + v / 16) :: ·)
      | some v, [b, a] =>
        (decodeSkipping? [v, b, a] 0 t).map (UInt8.ofNat (b % 16 * 16 + v / 4) :: ·)
      | some v, c :: _ => (decodeSkipping? [] 0 t).map (UInt8.ofNat (c % 4 * 64 + v) :: ·)

/-- The bytes of a text in which code points that are no symbols are skipped. -/
def decodeAround? (t : Text) : Option (List UInt8) :=
  decodeSkipping? [] 0 t

end VolumeTunnel.Base64
