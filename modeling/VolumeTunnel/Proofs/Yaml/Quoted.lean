import VolumeTunnel.Proofs.Text.Numeral
import VolumeTunnel.Proofs.Yaml.Ascii
import VolumeTunnel.Text.Quoted
import VolumeTunnel.Yaml.Quoted
import Mathlib.Data.List.Forall2

/-!
# Double-quoted scalars as they are written

Any text can be written between double quotes in ASCII. What is printable there stands for itself, a
quotation mark or a backslash comes after a backslash, and any other code point is written by its
number, in one of three widths and in either case of the digits (`Quoted.Writes`).

* `Quoted.exists_writes` : every text can be written so;
* `Quoted.read_of_writes` : what was written is read back, up to the closing quote.
-/

namespace VolumeTunnel

theorem CodePoint.ofNat?_val (c : CodePoint) : CodePoint.ofNat? c.val = some c := by
  cases c with
  | char d =>
    have hvalid : d.toNat.isValidChar := d.valid
    rw [CodePoint.ofNat?, CodePoint.val, dif_pos hvalid]
    rfl
  | lone u =>
    have hlow : ¬(0xD800 + u.val).isValidChar := by
      simp only [Nat.isValidChar]
      omega
    rw [CodePoint.ofNat?, CodePoint.val, dif_neg hlow, dif_pos ⟨by omega, by omega⟩]
    simp only [Nat.add_sub_cancel_left, Fin.eta]

theorem CodePoint.val_lt (c : CodePoint) : c.val < 0x110000 := by
  cases c with
  | char d =>
    have hvalid : d.toNat.isValidChar := d.valid
    simp only [Nat.isValidChar] at hvalid
    simp only [CodePoint.val]
    omega
  | lone u =>
    simp only [CodePoint.val]
    omega

namespace Yaml.Quoted

/-- The backslash. -/
def backslash : CodePoint := .char '\\'

/-- The code point is the hexadecimal digit of a value, in either case. -/
def IsDigit (c : CodePoint) (v : Nat) : Prop :=
  c.hexDigit? = some v

/-- The hexadecimal digits denote the number. -/
def Denotes (digits : Text) (n : Nat) : Prop :=
  ∃ values, List.Forall₂ IsDigit digits values ∧ Text.natValue 16 values = n

/-- How the code points of a text are written between double quotes. -/
inductive Writes : Text → Text → Prop
  | nil : Writes [] []
  | same {c : CodePoint} {s w : Text} (hc : c.isPrintableAscii) (hmark : c ≠ quotationMark)
    (hslash : c ≠ backslash) (h : Writes s w) : Writes (c :: s) (c :: w)
  | marked {c : CodePoint} {s w : Text} (hc : c = quotationMark ∨ c = backslash) (h : Writes s w) :
    Writes (c :: s) (backslash :: c :: w)
  | numbered {c : CodePoint} {letter : Char} {s digits w : Text} (hc : ¬c.isPrintableAscii)
    (hwidth : escapeWidth? letter = some digits.length) (hdigits : Denotes digits c.val)
    (h : Writes s w) : Writes (c :: s) (backslash :: .char letter :: (digits ++ w))

/-! ## Digits -/

theorem Denotes.zero {digits : Text} {n : Nat} (h : Denotes digits n) :
    Denotes (.char '0' :: digits) n := by
  obtain ⟨values, hvalues, hn⟩ := h
  exact ⟨0 :: values, .cons rfl hvalues, hn⟩

theorem Denotes.append {digits : Text} {n v : Nat} {c : CodePoint} (h : Denotes digits n)
    (hc : IsDigit c v) : Denotes (digits ++ [c]) (n * 16 + v) := by
  obtain ⟨values, hvalues, rfl⟩ := h
  refine ⟨values ++ [v], List.rel_append hvalues (.cons hc .nil), ?_⟩
  rw [Text.natValue, List.foldl_append]
  rfl

theorem isDigit_digitChar {d : Nat} (h : d < 16) : IsDigit (.char (Text.digitChar d)) d :=
  (by decide : ∀ d : Fin 16, (CodePoint.char (Text.digitChar d)).hexDigit? = some d.val) ⟨d, h⟩

theorem denotes_numeral (n : Nat) : Denotes (Text.ofChars (Text.numeral 16 n)) n := by
  induction n using Nat.strongRecOn with
  | ind n ih =>
    rw [Text.numeral]
    split
    next h =>
      have hdigit := isDigit_digitChar (show n < 16 by omega)
      exact ⟨[n], .cons hdigit .nil, by rw [Text.natValue, List.foldl_cons, Nat.zero_mul, Nat.zero_add,
        List.foldl_nil]⟩
    next h =>
      have hlast := isDigit_digitChar (Nat.mod_lt n (show 0 < 16 by decide))
      have hn : n / 16 * 16 + n % 16 = n := Nat.div_add_mod' n 16
      have hall := (ih (n / 16) (by omega)).append hlast
      rw [hn] at hall
      rw [Text.ofChars, List.map_append]
      exact hall

/-- A numeral that is filled with zeros denotes the same. -/
theorem denotes_padded (width n : Nat) : Denotes (Text.padded 16 width n) n := by
  have hzeros (k : Nat) : Denotes (Text.ofChars (List.replicate k '0' ++ Text.numeral 16 n)) n := by
    induction k with
    | zero => exact denotes_numeral n
    | succ k ih => exact ih.zero
  exact hzeros _

/-- Printable ASCII without quotation marks and backslashes stands for itself. -/
theorem writes_self {s : Text}
    (h : ∀ c ∈ s, c.isPrintableAscii = true ∧ c ≠ quotationMark ∧ c ≠ backslash) : Writes s s := by
  induction s with
  | nil => exact .nil
  | cons c s ih =>
    obtain ⟨⟨hc, hmark, hslash⟩, hs⟩ := List.forall_mem_cons.1 h
    exact .same hc hmark hslash (ih hs)

/-- Every text can be written between double quotes. -/
theorem exists_writes (s : Text) : ∃ w, Writes s w := by
  induction s with
  | nil => exact ⟨[], .nil⟩
  | cons c s ih =>
    obtain ⟨w, hw⟩ := ih
    by_cases hmark : c = quotationMark ∨ c = backslash
    · exact ⟨_, .marked hmark hw⟩
    by_cases hc : c.isPrintableAscii = true
    · exact ⟨_, .same hc (fun h => hmark (Or.inl h)) (fun h => hmark (Or.inr h)) hw⟩
    · have hval : c.val < 16 ^ 8 := Nat.lt_trans c.val_lt (by decide)
      have hwidth : escapeWidth? 'U' = some (Text.padded 16 8 c.val).length := by
        rw [Text.length_padded (by decide) (by decide) hval]
        rfl
      exact ⟨_, .numbered hc hwidth (denotes_padded 8 c.val) hw⟩

/-! ## What is written -/

/-- A hexadecimal digit is printable. -/
theorem IsDigit.isPrintableAscii {c : CodePoint} {v : Nat} (h : IsDigit c v) :
    c.isPrintableAscii = true := by
  cases c with
  | lone u => exact nomatch h
  | char c =>
    rw [CodePoint.isPrintableAscii_iff, CodePoint.val]
    rw [IsDigit, CodePoint.hexDigit?] at h
    split at h
    next hdigit =>
      obtain ⟨hlow, hhigh⟩ : 48 ≤ c.toNat ∧ c.toNat ≤ 57 := by
        simpa [Char.isDigit, UInt32.le_iff_toNat_le] using hdigit
      omega
    next =>
      split at h
      next hletter =>
        have hlow : 97 ≤ c.toNat := hletter.1
        have hhigh : c.toNat ≤ 102 := hletter.2
        omega
      next =>
        split at h
        next hletter =>
          have hlow : 65 ≤ c.toNat := hletter.1
          have hhigh : c.toNat ≤ 70 := hletter.2
          omega
        next => cases h

theorem Denotes.isPrintableAscii {digits : Text} {n : Nat} (h : Denotes digits n) :
    ∀ c ∈ digits, c.isPrintableAscii = true := by
  obtain ⟨values, hvalues, -⟩ := h
  induction hvalues with
  | nil => exact fun c hc => nomatch hc
  | cons hdigit _ ih => exact List.forall_mem_cons.2 ⟨hdigit.isPrintableAscii, ih⟩

/-- Only printable ASCII is written. -/
theorem Writes.isPrintableAscii {s w : Text} (h : Writes s w) :
    ∀ c ∈ w, c.isPrintableAscii = true := by
  induction h with
  | nil => exact fun c hc => nomatch hc
  | same hc _ _ _ ih => exact List.forall_mem_cons.2 ⟨hc, ih⟩
  | marked hc _ ih =>
    refine List.forall_mem_cons.2 ⟨by decide, List.forall_mem_cons.2 ⟨?_, ih⟩⟩
    rcases hc with rfl | rfl <;> decide
  | @numbered _ letter _ _ _ _ hwidth hdigits _ ih =>
    refine List.forall_mem_cons.2 ⟨by decide, List.forall_mem_cons.2 ⟨?_, ?_⟩⟩
    · rw [escapeWidth?.eq_def] at hwidth
      split at hwidth
      · decide
      · decide
      · decide
      · exact nomatch hwidth
    · exact List.forall_mem_append.2 ⟨hdigits.isPrintableAscii, ih⟩

/-! ## Reading -/

theorem codePoint_val (c : CodePoint) : codePoint c.val = .ok c := by
  have hval : ¬Nat.pow 2 31 ≤ c.val := Nat.not_le.2 (Nat.lt_trans c.val_lt (by decide))
  rw [codePoint, if_neg hval, CodePoint.ofNat?_val]

theorem hexNumber_append {digits : Text} {n : Nat} (h : Denotes digits n) (rest : Text) :
    hexNumber digits.length (digits ++ rest) = .ok n := by
  obtain ⟨values, hvalues, rfl⟩ := h
  have hread : digits.mapM CodePoint.hexDigit? = some values := by
    induction hvalues with
    | nil => rfl
    | cons hdigit _ ih =>
      rw [List.mapM_cons, show CodePoint.hexDigit? _ = _ from hdigit, ih]
      rfl
  rw [hexNumber, List.take_left, hread]
  dsimp only
  rw [if_pos hvalues.length_eq.symm]

theorem readEscape_numbered {c : CodePoint} {letter : Char} {digits : Text}
    (hwidth : escapeWidth? letter = some digits.length) (hdigits : Denotes digits c.val)
    (rest : Text) : readEscape (.char letter :: (digits ++ rest)) = .ok ([c], rest) := by
  have hsimple : simpleEscape? letter = none := by
    rw [escapeWidth?.eq_def] at hwidth
    split at hwidth
    · rfl
    · rfl
    · rfl
    · exact nomatch hwidth
  rw [readEscape, hsimple, hwidth]
  dsimp only
  rw [hexNumber_append hdigits]
  simp only [bind, Except.bind, codePoint_val, List.drop_left]
  rfl

theorem readEscape_marked {c : CodePoint} (hc : c = quotationMark ∨ c = backslash) (rest : Text) :
    readEscape (c :: rest) = .ok ([c], rest) := by
  rcases hc with rfl | rfl <;> rfl

/-- What follows blanks in a written text is no line end. -/
theorem exists_dropWhile {w : Text} (h : ∀ c ∈ w, c.isPrintableAscii = true) (rest : Text) :
    ∃ b t, (w ++ quotationMark :: rest).dropWhile isSpaceOrTab = b :: t ∧ isBreak b = false := by
  induction w with
  | nil => exact ⟨quotationMark, rest, rfl, by decide⟩
  | cons c w ih =>
    obtain ⟨hc, hw⟩ := List.forall_mem_cons.1 h
    rw [List.cons_append, List.dropWhile_cons]
    split
    · exact ih hw
    · exact ⟨c, _, rfl, isBreak_of_isPrintableAscii hc⟩

theorem readWith_cons_same {c : CodePoint} (hmark : c ≠ quotationMark) (hslash : c ≠ backslash)
    {t : Text} (hbreak : ∃ d t', (c :: t).dropWhile isSpaceOrTab = d :: t' ∧ isBreak d = false)
    (fuel : Nat) :
    readWith true (fuel + 1) (c :: t) =
      (readWith true fuel t).map fun (s, rest) => (c :: s, rest) := by
  obtain ⟨d, t', hdrop, hd⟩ := hbreak
  have hquote : ¬(decide (c = .char '\x22') && true) = true := fun h =>
    hmark (of_decide_eq_true (Bool.and_eq_true_iff.1 h).1)
  have hbackslash : ¬(decide (c = .char '\\') && true) = true := fun h =>
    hslash (of_decide_eq_true (Bool.and_eq_true_iff.1 h).1)
  have hsingle : ¬(decide (c = .char '\x27') && !true) = true := fun h =>
    Bool.false_ne_true (Bool.and_eq_true_iff.1 h).2
  rw [readWith.eq_def]
  dsimp only
  rw [if_neg hquote, if_neg hsingle, if_neg hbackslash, hdrop]
  dsimp only
  rw [hd, if_neg Bool.false_ne_true, ite_self]
  rfl

theorem readWith_backslash {t part rest : Text} (h : readEscape t = .ok (part, rest)) (fuel : Nat) :
    readWith true (fuel + 1) (backslash :: t) =
      (readWith true fuel rest).map fun (s, rest) => (part ++ s, rest) := by
  rw [readWith.eq_def]
  simp only [h]
  rfl

/-- What was written is read back, up to the closing quote. -/
theorem readWith_of_writes {s w : Text} (h : Writes s w) (rest : Text) {fuel : Nat}
    (hfuel : w.length < fuel) :
    readWith true fuel (w ++ quotationMark :: rest) = .ok (s, rest) := by
  induction h generalizing fuel with
  | nil =>
    obtain ⟨fuel, rfl⟩ := Nat.exists_eq_add_one_of_ne_zero (Nat.ne_of_gt hfuel)
    rfl
  | @same c s w hc hmark hslash h ih =>
    obtain ⟨fuel, rfl⟩ := Nat.exists_eq_add_one_of_ne_zero (Nat.ne_of_gt (Nat.zero_lt_of_lt hfuel))
    have hdrop := exists_dropWhile (List.forall_mem_cons.2 ⟨hc, h.isPrintableAscii⟩) rest
    refine (readWith_cons_same (t := w ++ quotationMark :: rest) hmark hslash hdrop fuel).trans ?_
    rw [ih (Nat.lt_of_succ_lt_succ hfuel)]
    rfl
  | @marked c s w hc h ih =>
    obtain ⟨fuel, rfl⟩ := Nat.exists_eq_add_one_of_ne_zero (Nat.ne_of_gt (Nat.zero_lt_of_lt hfuel))
    have hescape := readEscape_marked hc (w ++ quotationMark :: rest)
    refine (readWith_backslash hescape fuel).trans ?_
    rw [ih (by simp only [List.length_cons] at hfuel; omega)]
    rfl
  | @numbered c letter s digits w hc hwidth hdigits h ih =>
    obtain ⟨fuel, rfl⟩ := Nat.exists_eq_add_one_of_ne_zero (Nat.ne_of_gt (Nat.zero_lt_of_lt hfuel))
    have hescape := readEscape_numbered hwidth hdigits (w ++ quotationMark :: rest)
    rw [← List.append_assoc] at hescape
    refine (readWith_backslash hescape fuel).trans ?_
    rw [ih (by simp only [List.length_cons, List.length_append] at hfuel; omega)]
    rfl

theorem read_of_writes {s w : Text} (h : Writes s w) (rest : Text) :
    read true (w ++ quotationMark :: rest) = .ok (s, rest) := by
  refine readWith_of_writes h rest ?_
  rw [List.length_append]
  omega

end Yaml.Quoted

end VolumeTunnel
