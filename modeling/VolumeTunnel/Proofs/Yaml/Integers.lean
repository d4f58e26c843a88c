import VolumeTunnel.Proofs.Text.Numeral
import VolumeTunnel.Proofs.Transfer.Selection
import VolumeTunnel.Yaml.Number
import Mathlib.Data.List.Induction

/-!
# Integers that are written as they are read

A plain integer may be written in many ways, but one of them is its decimal numeral. Among the texts
that are read as integers, those that are the numeral of the integer are the ones in canonical form
(`Text.IsCanonical`) : a zero, or digits of which the first is no zero, perhaps after a minus sign.

* `Text.isCanonical_iff` : the texts in canonical form are the numerals of integers;
* `Yaml.Number.eq_of_integer_ofInt` : the numeral of an integer is read as no other one;
* `Yaml.Number.ofInt_eq_iff` : a text that is read as an integer is its numeral exactly if it is in
  canonical form.
-/

namespace VolumeTunnel

namespace Text

variable {c : CodePoint} {s t : Text}

/-! ## Canonical form -/

/-- A zero, or digits of which the first is no zero, perhaps after a minus sign. -/
def IsCanonical (s : Text) : Prop :=
  s = "0" ∨ ∃ c digits, (s = c :: digits ∨ s = .char '-' :: c :: digits) ∧ c ≠ .char '0' ∧
    ∀ d ∈ c :: digits, d.isDigit = true

/-- A digit is that of its value. -/
theorem exists_digitChar (h : c.isDigit = true) : ∃ d < 10, c = .char (digitChar d) := by
  cases c with
  | lone u => exact absurd h Bool.false_ne_true
  | char a =>
    have ha : 48 ≤ a.toNat ∧ a.toNat ≤ 57 := by
      simpa [CodePoint.isDigit, Char.isDigit, UInt32.le_iff_toNat_le] using h
    refine ⟨a.toNat - 48, by omega, congrArg CodePoint.char (Char.toNat_inj.1 ?_)⟩
    rw [toNat_digitChar _ (by omega)]
    omega

/-- Digits that do not begin with a zero are the numeral of their value. -/
theorem ofNat_digitsValue (hc : c ≠ .char '0') (h : ∀ d ∈ c :: t, d.isDigit = true) :
    ofNat (digitsValue (c :: t)) = c :: t := by
  induction t using List.reverseRecOn with
  | nil =>
    obtain ⟨d, hd, rfl⟩ := exists_digitChar (h c List.mem_cons_self)
    rw [← ofNat_of_lt hd, digitsValue_ofNat]
  | append_singleton t e ih =>
    rw [← List.cons_append, List.forall_mem_append] at h
    have hinit := ih h.1
    obtain ⟨d, hd, rfl⟩ := exists_digitChar (h.2 e (List.mem_singleton.2 rfl))
    have hpos : digitsValue (c :: t) ≠ 0 := by
      intro hzero
      rw [hzero, ofNat_of_lt (by decide)] at hinit
      exact hc (List.cons.inj hinit).1.symm
    have hvalue : (CodePoint.char (digitChar d)).val - 48 = d := by
      rw [CodePoint.val, toNat_digitChar d hd, Nat.add_sub_cancel_left]
    rw [← List.cons_append, digitsValue_append, hvalue, ofNat_of_le (by omega),
      show (digitsValue (c :: t) * 10 + d) / 10 = digitsValue (c :: t) by omega,
      show (digitsValue (c :: t) * 10 + d) % 10 = d by omega, hinit]

theorem isCanonical_ofInt (i : Int) : IsCanonical (ofInt i) := by
  have hnat (n : Nat) (hn : n ≠ 0) : ∃ c digits, ofNat n = c :: digits ∧ c ≠ .char '0' ∧
      ∀ d ∈ c :: digits, d.isDigit = true := by
    obtain ⟨c, digits, hcons, -⟩ := exists_ofNat_eq_cons n
    refine ⟨c, digits, hcons, fun hzero => hn ?_, hcons ▸ isDigit_of_mem_ofNat n⟩
    exact ofNat_eq_zero_cons (hcons.trans (by rw [hzero]))
  cases i with
  | ofNat n =>
    by_cases hn : n = 0
    · subst hn
      exact Or.inl (ofNat_of_lt (by decide))
    · obtain ⟨c, digits, hcons, h⟩ := hnat n hn
      exact Or.inr ⟨c, digits, Or.inl hcons, h⟩
  | negSucc n =>
    obtain ⟨c, digits, hcons, h⟩ := hnat (n + 1) (Nat.succ_ne_zero n)
    exact Or.inr ⟨c, digits, Or.inr (congrArg _ hcons), h⟩

/-- The texts in canonical form are the numerals of integers. -/
theorem isCanonical_iff : IsCanonical s ↔ ∃ i, s = ofInt i := by
  constructor
  · rintro (rfl | ⟨c, digits, rfl | rfl, hc, h⟩)
    · exact ⟨.ofNat 0, (ofNat_of_lt (show 0 < 10 by decide)).symm⟩
    · exact ⟨.ofNat _, (ofNat_digitsValue hc h).symm⟩
    · have hnumeral := ofNat_digitsValue hc h
      cases hvalue : digitsValue (c :: digits) with
      | zero =>
        rw [hvalue, ofNat_of_lt (by decide)] at hnumeral
        exact absurd (List.cons.inj hnumeral).1.symm hc
      | succ n => exact ⟨.negSucc n, by rw [ofInt, ← hvalue, hnumeral]⟩
  · rintro ⟨i, rfl⟩
    exact isCanonical_ofInt i

/-! ## Reading numerals -/

theorem digit?_of_isDigit (h : c.isDigit = true) : c.digit? 10 = some (c.val - 48) := by
  have hall : ∀ d < 10, (CodePoint.char (digitChar d)).digit? 10 =
      some ((CodePoint.char (digitChar d)).val - 48) := by decide
  obtain ⟨d, hd, rfl⟩ := exists_digitChar h
  exact hall d hd

theorem isBlank_of_isDigit (h : c.isDigit = true) : c.isBlank = false := by
  have hall : ∀ d < 10, (CodePoint.char (digitChar d)).isBlank = false := by decide
  obtain ⟨d, hd, rfl⟩ := exists_digitChar h
  exact hall d hd

theorem digits?_of_forall (hne : t ≠ []) (h : ∀ c ∈ t, c.isDigit = true) :
    digits? 10 t = some (t.map fun c => c.val - 48) := by
  induction t with
  | nil => exact absurd rfl hne
  | cons c t ih =>
    rw [List.forall_mem_cons] at h
    cases t with
    | nil => rw [digits?, digit?_of_isDigit h.1]; rfl
    | cons d t =>
      have hd : d ≠ .char '_' := ne_of_isDigit (h.2 d List.mem_cons_self) (by decide)
      rw [digits?, digit?_of_isDigit h.1, ih (List.cons_ne_nil _ _) h.2]
      · rfl
      · exact fun heq => absurd heq (List.cons_ne_nil _ _)
      · exact fun _ heq => hd (List.cons.inj heq).1

theorem stripBlank_of_forall (h : ∀ c ∈ t, c.isDigit = true) : stripBlank t = t := by
  have hnone : ∀ s : Text, (∀ c ∈ s, c.isDigit = true) → s.dropWhile CodePoint.isBlank = s := by
    intro s hs
    cases s with
    | nil => rfl
    | cons c s =>
      exact List.dropWhile_cons_of_neg
        (Bool.eq_false_iff.1 (isBlank_of_isDigit (hs c List.mem_cons_self)))
  rw [stripBlank, hnone t h, hnone t.reverse (by simpa using h), List.reverse_reverse]

theorem takeSign_ofNat (n : Nat) : takeSign (ofNat n) = (false, ofNat n) := by
  rw [takeSign.eq_def]
  split
  next t h => exact absurd h (ofNat_ne_minus_cons n t)
  next t h =>
    have hplus : CodePoint.char '+' ∉ ofNat n := not_mem_ofNat (by decide) n
    exact absurd (h ▸ List.mem_cons_self) hplus
  next => rfl

/-- The numeral of a number that is not zero is read as this number, unless it is too long. -/
theorem toInt?_ofNat {n : Nat} (hn : n ≠ 0) : toInt? 10 (ofNat n) =
    if maxDecimalDigits < (ofNat n).length then none else some (n : Int) := by
  have hdigits := isDigit_of_mem_ofNat n
  have hvalue : natValue 10 ((ofNat n).map fun c => c.val - 48) = n := by
    rw [natValue, List.foldl_map, ← digitsValue, digitsValue_ofNat]
  rw [toInt?, stripBlank_of_forall hdigits, takeSign_ofNat]
  dsimp only
  split
  -- a marker would begin with a zero
  next h => exact absurd (ofNat_eq_zero_cons h) hn
  next h => exact absurd (ofNat_eq_zero_cons h) hn
  next =>
    rw [digits?_of_forall (ofNat_ne_nil n) hdigits]
    simp [hvalue]

end Text

namespace Yaml.Number

variable {i j : Int}

/-- The numeral of a number that is not zero, perhaps after a minus sign, is read as no other. -/
theorem eq_of_takeSign {n : Nat} (hn : n ≠ 0) {negative : Bool} {t : Text}
    (hsign : Text.takeSign t = (negative, Text.ofNat n)) (ht : .char '_' ∉ t)
    (h : integer t = .ok i) : i = if negative then -(n : Int) else n := by
  have hfilter : t.filter (· ≠ .char '_') = t :=
    List.filter_eq_self.2 fun c hc => decide_eq_true fun hunderscore => ht (hunderscore ▸ hc)
  have hplaces : (Text.ofNat n).splitOn (.char ':') = [Text.ofNat n] :=
    Text.splitOn_of_not_mem (Text.not_mem_ofNat (by decide) n)
  have hzero {ds : Text} (hds : Text.ofNat n = .char '0' :: ds) : False :=
    hn (Text.ofNat_eq_zero_cons hds)
  rw [integer, hfilter, hsign] at h
  dsimp only at h
  split at h
  next hnil => exact absurd hnil (Text.ofNat_ne_nil n)
  next hds => exact (hzero hds).elim
  next hds => exact (hzero hds).elim
  next hds => exact (hzero hds).elim
  next hds => exact (hzero hds).elim
  next =>
    rw [hplaces, List.mapM_cons, List.mapM_nil, Text.toInt?_ofNat hn] at h
    split at h
    · exact nomatch h
    · cases negative <;> simpa [orFault, ofPlaces] using (Except.ok.inj h).symm

/-- The numeral of an integer is read as no other one. -/
theorem eq_of_integer_ofInt (h : integer (Text.ofInt j) = .ok i) : i = j := by
  have hunderscore := Text.not_mem_ofInt (c := .char '_') (by decide) (by decide) j
  cases j with
  | ofNat n =>
    by_cases hn : n = 0
    · subst hn
      have hzero : integer (Text.ofInt (.ofNat 0)) = .ok 0 := by
        rw [Text.ofInt, Text.ofNat_of_lt (by decide)]
        rfl
      exact Except.ok.inj (h.symm.trans hzero)
    · exact eq_of_takeSign hn (Text.takeSign_ofNat n) hunderscore h
  | negSucc n => exact eq_of_takeSign (Nat.succ_ne_zero n) rfl hunderscore h

/-- A text that is read as an integer is its numeral exactly if it is in canonical form. -/
theorem ofInt_eq_iff {s : Text} (h : integer s = .ok i) :
    Text.ofInt i = s ↔ s.IsCanonical := by
  rw [Text.isCanonical_iff]
  constructor
  · rintro rfl
    exact ⟨i, rfl⟩
  · rintro ⟨j, rfl⟩
    rw [eq_of_integer_ofInt h]

end Yaml.Number

end VolumeTunnel
