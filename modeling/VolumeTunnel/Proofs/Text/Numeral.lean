import VolumeTunnel.Text.Numeral
import Mathlib.Algebra.Group.Nat.Defs

/-!
# Decimal numerals are read back

The decimal numeral of a number consists of digits that denote it (`Text.digitsValue_ofNat`), so no
two integers have the same numeral (`Text.ofInt_injective`). It begins with a zero only if it is
that of zero (`Text.ofNat_eq_zero_cons`). A number below a power of the base has no more digits than
the exponent says (`Text.length_numeral_le`), and digits denote a number below the power with as
many digits (`Text.digitsValue_lt`).
-/

namespace VolumeTunnel.Text

theorem numeral_of_lt {base n : Nat} (h : n < base) : numeral base n = [digitChar n] := by
  unfold numeral
  rw [dif_pos (Or.inl h)]

theorem numeral_of_le {base n : Nat} (hbase : 1 < base) (h : base ≤ n) :
    numeral base n = numeral base (n / base) ++ [digitChar (n % base)] := by
  rw [numeral]
  exact dif_neg (by omega)

/-- A number below a power of the base has no more digits than the exponent says. -/
theorem length_numeral_le {base width : Nat} (hbase : 1 < base) (hwidth : 0 < width) (n : Nat)
    (h : n < base ^ width) : (numeral base n).length ≤ width := by
  induction width generalizing n with
  | zero => omega
  | succ width ih =>
    rcases Nat.lt_or_ge n base with hn | hn
    · simp [numeral_of_lt hn]
    · have hdiv : n / base < base ^ width :=
        Nat.div_lt_of_lt_mul (by rwa [Nat.mul_comm, ← Nat.pow_succ])
      have hpos : 0 < width := by
        rcases Nat.eq_zero_or_pos width with rfl | hpos
        · have hone : 0 < n / base := Nat.div_pos hn (by omega)
          simp at hdiv
          omega
        · exact hpos
      have hinit := ih hpos _ hdiv
      simpa [numeral_of_le hbase hn] using hinit

/-- A numeral that is filled with zeros has the width that it is filled up to. -/
theorem length_padded {base width n : Nat} (hbase : 1 < base) (hwidth : 0 < width)
    (h : n < base ^ width) : (padded base width n).length = width := by
  have hle := length_numeral_le hbase hwidth n h
  simp only [padded, ofChars, List.length_map, List.length_append, List.length_replicate]
  omega

/-! ## Decimal digits -/

theorem isDigit_digitChar : ∀ d < 10, (digitChar d).isDigit = true := by
  decide

theorem toNat_digitChar : ∀ d < 10, (digitChar d).toNat = 48 + d := by
  decide

theorem ne_of_isDigit {c d : CodePoint} (hc : c.isDigit = true) (hd : d.isDigit = false) :
    c ≠ d := by
  rintro rfl
  simp [hc] at hd

theorem lt_val_of_isDigit {c : CodePoint} (h : c.isDigit = true) : 0x20 < c.val := by
  cases c with
  | char d =>
    have hzero : 48 ≤ d.val ∧ d.val ≤ 57 := by
      simpa [CodePoint.isDigit, Char.isDigit] using h
    exact Nat.lt_of_lt_of_le (by decide) (UInt32.le_iff_toNat_le.1 hzero.1)
  | lone u => simp [CodePoint.isDigit] at h

theorem ofNat_of_lt {n : Nat} (h : n < 10) : ofNat n = [.char (digitChar n)] := by
  simp [ofNat, ofChars, numeral_of_lt h]

theorem ofNat_of_le {n : Nat} (h : 10 ≤ n) :
    ofNat n = ofNat (n / 10) ++ [.char (digitChar (n % 10))] := by
  simp [ofNat, ofChars, numeral_of_le (by decide) h]

/-- A decimal numeral consists of digits. -/
theorem isDigit_of_mem_ofNat (n : Nat) : ∀ c ∈ ofNat n, c.isDigit = true := by
  induction n using Nat.strongRecOn with
  | ind n ih =>
    intro c hc
    rcases Nat.lt_or_ge n 10 with hn | hn
    · simp only [ofNat_of_lt hn, List.mem_singleton] at hc
      exact hc ▸ isDigit_digitChar n hn
    · simp only [ofNat_of_le hn, List.mem_append, List.mem_singleton] at hc
      rcases hc with hc | rfl
      · exact ih (n / 10) (by omega) c hc
      · exact isDigit_digitChar (n % 10) (by omega)

theorem not_mem_ofNat {c : CodePoint} (h : c.isDigit = false) (n : Nat) : c ∉ ofNat n := by
  intro hc
  simp [isDigit_of_mem_ofNat n c hc] at h

/-- A numeral holds digits and a minus sign at most. -/
theorem not_mem_ofInt {c : CodePoint} (h : c.isDigit = false) (hminus : c ≠ .char '-') (i : Int) :
    c ∉ ofInt i := by
  cases i with
  | ofNat n => exact not_mem_ofNat h n
  | negSucc n => simpa [ofInt, hminus] using not_mem_ofNat h (n + 1)

theorem ofNat_ne_nil (n : Nat) : ofNat n ≠ [] := by
  rcases Nat.lt_or_ge n 10 with hn | hn
  · simp [ofNat_of_lt hn]
  · simp [ofNat_of_le hn]

/-- A numeral begins with a digit. -/
theorem exists_ofNat_eq_cons (n : Nat) : ∃ c t, ofNat n = c :: t ∧ c.isDigit = true := by
  obtain ⟨c, t, hc⟩ := List.exists_cons_of_ne_nil (ofNat_ne_nil n)
  exact ⟨c, t, hc, isDigit_of_mem_ofNat n c (hc ▸ List.mem_cons_self)⟩

theorem hasDecimalNumeral_of_lt {n width : Nat} (hwidth : width ≤ maxDecimalDigits)
    (h : n < 10 ^ width) : hasDecimalNumeral n = true := by
  unfold hasDecimalNumeral
  -- the power is too large to be computed
  generalize maxDecimalDigits = limit at *
  exact decide_eq_true (Nat.lt_of_lt_of_le h (Nat.pow_le_pow_right (by decide) hwidth))

theorem length_ofNat_le {n : Nat} (h : hasDecimalNumeral n = true) :
    (ofNat n).length ≤ maxDecimalDigits := by
  have hpos : 0 < maxDecimalDigits := by decide
  unfold hasDecimalNumeral at h
  generalize maxDecimalDigits = width at *
  rw [ofNat, ofChars, List.length_map]
  exact length_numeral_le (by decide) hpos n (of_decide_eq_true h)

/-- Only the numeral of zero begins with a zero. -/
theorem ofNat_eq_zero_cons {n : Nat} {t : Text} (h : ofNat n = .char '0' :: t) : n = 0 := by
  induction n using Nat.strongRecOn generalizing t with
  | ind n ih =>
    rcases Nat.lt_or_ge n 10 with hn | hn
    · have hzero : ∀ d < 10, digitChar d = '0' → d = 0 := by decide
      simp only [ofNat_of_lt hn, List.cons.injEq, CodePoint.char.injEq] at h
      exact hzero n hn h.1
    · have hne := ofNat_ne_nil (n / 10)
      rw [ofNat_of_le hn] at h
      cases hinit : ofNat (n / 10) with
      | nil => exact absurd hinit hne
      | cons c s =>
        simp only [hinit, List.cons_append, List.cons.injEq] at h
        have := ih (n / 10) (by omega) (hinit.trans (by rw [h.1]))
        omega

theorem digitsValue_append (t : Text) (c : CodePoint) :
    digitsValue (t ++ [c]) = digitsValue t * 10 + (c.val - 48) := by
  simp [digitsValue]

theorem val_lt_of_isDigit {c : CodePoint} (h : c.isDigit = true) : c.val - 48 < 10 := by
  cases c with
  | char c =>
    simp only [CodePoint.isDigit, Char.isDigit, Bool.and_eq_true, decide_eq_true_eq] at h
    have hle : c.toNat ≤ 57 := h.2
    have hval : (CodePoint.char c).val = c.toNat := rfl
    omega
  | lone n => exact nomatch h

/-- Digits denote a number below the power of the base with as many digits. -/
theorem digitsValue_lt {t : Text} (h : ∀ c ∈ t, c.isDigit = true) :
    digitsValue t < 10 ^ t.length := by
  have hfold : ∀ (t : Text) (n : Nat), (∀ c ∈ t, c.isDigit = true) →
      t.foldl (fun n c => n * 10 + (c.val - 48)) n < (n + 1) * 10 ^ t.length := by
    intro t
    induction t with
    | nil => intro n _; simp
    | cons c t ih =>
      intro n h
      obtain ⟨hc, ht⟩ := List.forall_mem_cons.1 h
      have hdigit := val_lt_of_isDigit hc
      calc t.foldl (fun n c => n * 10 + (c.val - 48)) (n * 10 + (c.val - 48))
          < (n * 10 + (c.val - 48) + 1) * 10 ^ t.length := ih _ ht
        _ ≤ ((n + 1) * 10) * 10 ^ t.length := Nat.mul_le_mul_right _ (by omega)
        _ = (n + 1) * 10 ^ (c :: t).length := by
          rw [List.length_cons, Nat.pow_succ, Nat.mul_assoc, Nat.mul_comm 10]
  simpa [digitsValue] using hfold t 0 h

/-- The digits of a numeral denote its number. -/
theorem digitsValue_ofNat (n : Nat) : digitsValue (ofNat n) = n := by
  induction n using Nat.strongRecOn with
  | ind n ih =>
    rcases Nat.lt_or_ge n 10 with hn | hn
    · simp [ofNat_of_lt hn, digitsValue, CodePoint.val, toNat_digitChar n hn]
    · rw [ofNat_of_le hn, digitsValue_append, ih (n / 10) (by omega), CodePoint.val,
        toNat_digitChar (n % 10) (by omega)]
      omega

theorem ofNat_injective : Function.Injective ofNat :=
  Function.LeftInverse.injective digitsValue_ofNat

theorem ofNat_ne_minus_cons (n : Nat) (t : Text) : ofNat n ≠ .char '-' :: t := by
  intro h
  have hminus : CodePoint.char '-' ∉ ofNat n := not_mem_ofNat (by decide) n
  simp [h] at hminus

/-- A numeral begins with a digit or a minus sign. -/
theorem exists_ofInt_eq_cons (i : Int) :
    ∃ c t, ofInt i = c :: t ∧ (c.isDigit = true ∨ c = .char '-') := by
  cases i with
  | ofNat n =>
    obtain ⟨c, t, hc, hdigit⟩ := exists_ofNat_eq_cons n
    exact ⟨c, t, hc, .inl hdigit⟩
  | negSucc n => exact ⟨_, _, rfl, .inr rfl⟩

/-- No two integers have the same numeral. -/
theorem ofInt_injective : Function.Injective ofInt := by
  intro i j h
  cases i with
  | ofNat m =>
    cases j with
    | ofNat n => rw [ofNat_injective h]
    | negSucc n => exact absurd h (ofNat_ne_minus_cons m _)
  | negSucc m =>
    cases j with
    | ofNat n => exact absurd h.symm (ofNat_ne_minus_cons n _)
    | negSucc n =>
      have hsucc := ofNat_injective (List.cons.inj h).2
      rw [Nat.succ.inj hsucc]

end VolumeTunnel.Text
