import VolumeTunnel.Proofs.Yaml.Ascii
import VolumeTunnel.Text.Utf8

/-!
# Well-formed bytes are read back

The bytes of a character are read as that character, whatever follows them
(`Utf8.readChar_encodeChar`). So a text without lone surrogates has bytes, and they are read as that
text even where malformed parts would be replaced (`Utf8.exists_encode?`).

* `Text.Encodable` : a text without lone surrogates.
-/

namespace VolumeTunnel

namespace Utf8

/-! ## One character -/

/-- A tail byte adds its six bits. -/
theorem takeTails_tail (count value m : Nat) (bytes : List UInt8) :
    takeTails (count + 1) value (UInt8.ofNat (0x80 + m % 64) :: bytes) =
      takeTails count (value * 64 + m % 64) bytes := by
  have hbyte : (UInt8.ofNat (0x80 + m % 64)).toNat = 0x80 + m % 64 :=
    UInt8.toNat_ofNat_of_lt (show 0x80 + m % 64 < 256 by omega)
  have hbits : (0x80 + m % 64) % 64 = m % 64 := by omega
  have htail : 0x80 ≤ UInt8.ofNat (0x80 + m % 64) ∧ UInt8.ofNat (0x80 + m % 64) ≤ 0xBF := by
    simp only [UInt8.le_iff_toNat_le, hbyte, UInt8.reduceToNat]
    omega
  rw [takeTails, if_pos htail, hbyte, hbits]

/-- Only a byte outside ASCII announces more. -/
theorem le_of_expects {first : UInt8} {expected : UInt8 × UInt8 × Nat}
    (h : expects first = some expected) : ¬first < 0x80 := by
  intro hlt
  unfold expects at h
  simp only [UInt8.lt_iff_toNat_lt, UInt8.le_iff_toNat_le, ← UInt8.toNat_inj, UInt8.reduceToNat]
    at hlt h
  rw [if_neg (by omega), if_neg (by omega), if_neg (by omega), if_neg (by omega), if_neg (by omega),
    if_neg (by omega), if_neg (by omega)] at h
  exact nomatch h

/-- A second byte that is expected is taken like a tail byte. -/
theorem readChar_of_expects {first low high : UInt8} {more m : Nat}
    (hexpects : expects first = some (low, high, more)) (hlow : low.toNat ≤ 0x80 + m % 64)
    (hhigh : 0x80 + m % 64 ≤ high.toNat) (bytes : List UInt8) :
    readChar first (UInt8.ofNat (0x80 + m % 64) :: bytes) =
      ((takeTails more (firstBits first * 64 + m % 64) bytes).1.map Char.ofNat,
        (takeTails more (firstBits first * 64 + m % 64) bytes).2) := by
  have hbyte : (UInt8.ofNat (0x80 + m % 64)).toNat = 0x80 + m % 64 :=
    UInt8.toNat_ofNat_of_lt (show 0x80 + m % 64 < 256 by omega)
  have hbits : (0x80 + m % 64) % 64 = m % 64 := by omega
  rw [readChar, if_neg (le_of_expects hexpects), hexpects]
  simp only [UInt8.le_iff_toNat_le, hbyte, hlow, hhigh, and_self, if_true, hbits]

theorem expects_two {n : Nat} (hlow : 0x80 ≤ n) (hhigh : n < 0x800) :
    expects (UInt8.ofNat (0xC0 + n / 64)) = some (0x80, 0xBF, 0) := by
  have hbyte : (UInt8.ofNat (0xC0 + n / 64)).toNat = 0xC0 + n / 64 :=
    UInt8.toNat_ofNat_of_lt (show 0xC0 + n / 64 < 256 by omega)
  have hrange : 0xC2 ≤ UInt8.ofNat (0xC0 + n / 64) ∧ UInt8.ofNat (0xC0 + n / 64) ≤ 0xDF := by
    simp only [UInt8.le_iff_toNat_le, hbyte, UInt8.reduceToNat]
    omega
  rw [expects, if_pos hrange]

/-- Where three bytes are announced, the second is in the range that excludes overlong forms and
surrogates. -/
theorem expects_three {n : Nat} (hlow : 0x800 ≤ n) (hhigh : n < 0x10000)
    (hsurrogate : n < 0xD800 ∨ 0xDFFF < n) :
    ∃ low high, expects (UInt8.ofNat (0xE0 + n / 4096)) = some (low, high, 1) ∧
      low.toNat ≤ 0x80 + n / 64 % 64 ∧ 0x80 + n / 64 % 64 ≤ high.toNat := by
  have hbyte : (UInt8.ofNat (0xE0 + n / 4096)).toNat = 0xE0 + n / 4096 :=
    UInt8.toNat_ofNat_of_lt (show 0xE0 + n / 4096 < 256 by omega)
  unfold expects
  simp only [UInt8.le_iff_toNat_le, ← UInt8.toNat_inj, hbyte, UInt8.reduceToNat]
  split
  · omega
  split
  · exact ⟨0xA0, 0xBF, rfl, by simp only [UInt8.reduceToNat]; omega⟩
  split
  · exact ⟨0x80, 0x9F, rfl, by simp only [UInt8.reduceToNat]; omega⟩
  · rw [if_pos (by omega)]
    exact ⟨0x80, 0xBF, rfl, by simp only [UInt8.reduceToNat]; omega⟩

/-- Where four bytes are announced, the second is in the range that excludes overlong forms and
numbers that are too large. -/
theorem expects_four {n : Nat} (hlow : 0x10000 ≤ n) (hhigh : n < 0x110000) :
    ∃ low high, expects (UInt8.ofNat (0xF0 + n / 262144)) = some (low, high, 2) ∧
      low.toNat ≤ 0x80 + n / 4096 % 64 ∧ 0x80 + n / 4096 % 64 ≤ high.toNat := by
  have hbyte : (UInt8.ofNat (0xF0 + n / 262144)).toNat = 0xF0 + n / 262144 :=
    UInt8.toNat_ofNat_of_lt (show 0xF0 + n / 262144 < 256 by omega)
  unfold expects
  simp only [UInt8.le_iff_toNat_le, ← UInt8.toNat_inj, hbyte, UInt8.reduceToNat]
  rw [if_neg (by omega), if_neg (by omega), if_neg (by omega), if_neg (by omega)]
  split
  · exact ⟨0x90, 0xBF, rfl, by simp only [UInt8.reduceToNat]; omega⟩
  split
  · exact ⟨0x80, 0xBF, rfl, by simp only [UInt8.reduceToNat]; omega⟩
  · rw [if_pos (by omega)]
    exact ⟨0x80, 0x8F, rfl, by simp only [UInt8.reduceToNat]; omega⟩

theorem firstBits_ofNat {f : Nat} (h : f < 256) :
    firstBits (UInt8.ofNat f) =
      if f < 0xE0 then f % 32 else if f < 0xF0 then f % 16 else f % 8 := by
  have hbyte : (UInt8.ofNat f).toNat = f := UInt8.toNat_ofNat_of_lt h
  simp only [firstBits, UInt8.lt_iff_toNat_lt, hbyte, UInt8.reduceToNat]

theorem readChar_two {n : Nat} (hlow : 0x80 ≤ n) (hhigh : n < 0x800) (bytes : List UInt8) :
    readChar (UInt8.ofNat (0xC0 + n / 64)) (UInt8.ofNat (0x80 + n % 64) :: bytes) =
      (some (Char.ofNat n), bytes) := by
  have hvalue : firstBits (UInt8.ofNat (0xC0 + n / 64)) * 64 + n % 64 = n := by
    rw [firstBits_ofNat (by omega), if_pos (by omega)]
    omega
  rw [readChar_of_expects (expects_two hlow hhigh)
    (by simp only [UInt8.reduceToNat]; omega) (by simp only [UInt8.reduceToNat]; omega), hvalue]
  rfl

theorem readChar_three {n : Nat} (hlow : 0x800 ≤ n) (hhigh : n < 0x10000)
    (hsurrogate : n < 0xD800 ∨ 0xDFFF < n) (bytes : List UInt8) :
    readChar (UInt8.ofNat (0xE0 + n / 4096))
        (UInt8.ofNat (0x80 + n / 64 % 64) :: UInt8.ofNat (0x80 + n % 64) :: bytes) =
      (some (Char.ofNat n), bytes) := by
  have hvalue :
      (firstBits (UInt8.ofNat (0xE0 + n / 4096)) * 64 + n / 64 % 64) * 64 + n % 64 = n := by
    rw [firstBits_ofNat (by omega), if_neg (by omega), if_pos (by omega)]
    omega
  obtain ⟨low, high, hexpects, hle, hge⟩ := expects_three hlow hhigh hsurrogate
  rw [readChar_of_expects hexpects hle hge, takeTails_tail, hvalue]
  rfl

theorem readChar_four {n : Nat} (hlow : 0x10000 ≤ n) (hhigh : n < 0x110000) (bytes : List UInt8) :
    readChar (UInt8.ofNat (0xF0 + n / 262144))
        (UInt8.ofNat (0x80 + n / 4096 % 64) :: UInt8.ofNat (0x80 + n / 64 % 64) ::
          UInt8.ofNat (0x80 + n % 64) :: bytes) =
      (some (Char.ofNat n), bytes) := by
  have hvalue : ((firstBits (UInt8.ofNat (0xF0 + n / 262144)) * 64 + n / 4096 % 64) * 64
      + n / 64 % 64) * 64 + n % 64 = n := by
    rw [firstBits_ofNat (by omega), if_neg (by omega), if_neg (by omega)]
    omega
  obtain ⟨low, high, hexpects, hle, hge⟩ := expects_four hlow hhigh
  rw [readChar_of_expects hexpects hle hge, takeTails_tail, takeTails_tail, hvalue]
  rfl

/-- The bytes of a character are read as that character, whatever follows. -/
theorem readChar_encodeChar (c : Char) :
    ∃ first tails, encodeChar c = first :: tails ∧
      ∀ bytes, readChar first (tails ++ bytes) = (some c, bytes) := by
  have hvalid : c.toNat < 0xD800 ∨ 0xDFFF < c.toNat ∧ c.toNat < 0x110000 := c.valid
  have hc : Char.ofNat c.toNat = c := Char.ofNat_toNat c
  unfold encodeChar
  simp only [Nat.pow_eq, Nat.pow_zero, Nat.div_one, Nat.reducePow]
  -- one case for each width
  split
  · exact ⟨_, [], rfl, fun bytes => readChar_ascii (by omega) bytes⟩
  split
  · refine ⟨_, _, rfl, fun bytes => ?_⟩
    exact (readChar_two (n := c.toNat) (by omega) (by omega) bytes).trans (by rw [hc])
  split
  · refine ⟨_, _, rfl, fun bytes => ?_⟩
    exact (readChar_three (n := c.toNat) (by omega) (by omega) (by omega) bytes).trans (by rw [hc])
  · refine ⟨_, _, rfl, fun bytes => ?_⟩
    exact (readChar_four (n := c.toNat) (by omega) (by omega) bytes).trans (by rw [hc])

/-! ## A text -/

end Utf8

/-- The text holds no lone surrogate. -/
def Text.Encodable (t : Text) : Prop :=
  ∀ c ∈ t, ∃ d, c = .char d

namespace Text

@[simp] theorem encodable_nil : Encodable [] := by
  simp [Encodable]

@[simp] theorem encodable_cons {c : CodePoint} {t : Text} :
    Encodable (c :: t) ↔ (∃ d, c = .char d) ∧ Encodable t :=
  List.forall_mem_cons

@[simp] theorem encodable_append {s t : Text} : Encodable (s ++ t) ↔ Encodable s ∧ Encodable t :=
  List.forall_mem_append

@[simp] theorem encodable_ofChars (cs : List Char) : Encodable (ofChars cs) := by
  simp [Encodable, ofChars]

theorem Encodable.exists_eq_ofChars {t : Text} (h : t.Encodable) : ∃ cs, t = ofChars cs := by
  induction t with
  | nil => exact ⟨[], rfl⟩
  | cons c t ih =>
    obtain ⟨⟨d, rfl⟩, ht⟩ := encodable_cons.1 h
    obtain ⟨cs, rfl⟩ := ih ht
    exact ⟨d :: cs, rfl⟩

theorem toChars?_ofChars (cs : List Char) : toChars? (ofChars cs) = some cs := by
  induction cs with
  | nil => rfl
  | cons c cs ih =>
    simp only [toChars?, ofChars] at ih
    simp [toChars?, ofChars, CodePoint.toChar?, ih]

end Text

namespace Utf8

theorem readAll_flatMap_encodeChar (cs : List Char) :
    readAll (cs.flatMap encodeChar) = cs.map some := by
  induction cs with
  | nil => rw [List.flatMap_nil, readAll, List.map_nil]
  | cons c cs ih =>
    obtain ⟨first, tails, hc, hread⟩ := readChar_encodeChar c
    rw [List.flatMap_cons, hc, List.cons_append, readAll, hread, ih, List.map_cons]

/-- The bytes of characters are read as those characters. -/
theorem decodeReplacing_flatMap_encodeChar (cs : List Char) :
    decodeReplacing (cs.flatMap encodeChar) = Text.ofChars cs := by
  rw [decodeReplacing, readAll_flatMap_encodeChar, List.map_map]
  rfl

/-- A text without lone surrogates has bytes, and is read back from them. -/
theorem exists_encode? {t : Text} (h : t.Encodable) :
    ∃ bs, encode? t = some bs ∧ decodeReplacing bs = t := by
  obtain ⟨cs, rfl⟩ := h.exists_eq_ofChars
  refine ⟨cs.flatMap encodeChar, ?_, decodeReplacing_flatMap_encodeChar cs⟩
  rw [encode?, Text.toChars?_ofChars, Option.map_some]

end Utf8

end VolumeTunnel
