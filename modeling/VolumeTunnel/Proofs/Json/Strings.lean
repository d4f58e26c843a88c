import VolumeTunnel.Json.Printer
import VolumeTunnel.Json.Reader
import VolumeTunnel.Proofs.Yaml.Quoted

/-!
# Strings of JSON documents

A string is read back from its written form up to its closing mark, with one loss : a high surrogate
that stands directly before a low one cannot be told from the character that the two name together,
so it is read as that character (`Json.readString_flatMap_escaped`). All other texts are read back
as they are (`Text.Unpaired.joinSurrogates_eq`).

* `CodePoint.Pairs` : a high surrogate before a low one;
* `Text.joinSurrogates` : every such pair replaced by its character;
* `Json.Written` : the forms in which a code point is written;
* `Json.StartsLow` : a written form in which a low surrogate comes first.
-/

namespace VolumeTunnel

/-- A high surrogate before a low one. -/
def CodePoint.Pairs (high low : CodePoint) : Prop :=
  (0xD800 ≤ high.val ∧ high.val < 0xDC00) ∧ 0xDC00 ≤ low.val ∧ low.val < 0xE000

instance (high low : CodePoint) : Decidable (high.Pairs low) :=
  inferInstanceAs (Decidable (_ ∧ _))

namespace Text

/-- The text in which each high surrogate directly before a low one is, with it, the character that
they name together. -/
def joinSurrogates : Text → Text
  | c :: d :: t =>
    if c.Pairs d then Json.pairUp c.val d.val :: joinSurrogates t else c :: joinSurrogates (d :: t)
  | [c] => [c]
  | [] => []

/-- No high surrogate stands directly before a low one. -/
def Unpaired (t : Text) : Prop :=
  t.IsChain fun c d => ¬c.Pairs d

instance (t : Text) : Decidable t.Unpaired :=
  inferInstanceAs (Decidable (List.IsChain _ t))

theorem Unpaired.joinSurrogates_eq {t : Text} (h : t.Unpaired) : t.joinSurrogates = t := by
  induction t using joinSurrogates.induct with
  | case1 c d t hpairs ih => exact absurd hpairs (List.isChain_cons_cons.1 h).1
  | case2 c d t hpairs ih =>
    rw [joinSurrogates, if_neg hpairs, ih (List.isChain_cons_cons.1 h).2]
  | case3 c => rfl
  | case4 => rfl

end Text

namespace Json

/-! ## The written forms of a code point -/

/-- A code point with one of its written forms. -/
inductive Written : CodePoint → Text → Prop
  | marked {letter c : Char} (h : simpleEscape? letter = some c) :
    Written (.char c) [.char '\\', .char letter]
  | itself {c : CodePoint} (hval : 0x20 ≤ c.val ∧ c.val < 0x7F) (hmark : c ≠ .char '\x22')
    (hslash : c ≠ .char '\\') : Written c [c]
  | unit {c : CodePoint} (h : c.val < 0x10000) : Written c (unitEscape c.val)
  | pair {c : CodePoint} (h : 0x10000 ≤ c.val) :
    Written c (unitEscape (0xD800 + (c.val - 0x10000) / 0x400)
      ++ unitEscape (0xDC00 + (c.val - 0x10000) % 0x400))

theorem written_escaped (c : CodePoint) : Written c (escaped c) := by
  unfold escaped
  split
  next h => rcases h with rfl | rfl <;> exact .marked rfl
  next hplain =>
    split
    next h => exact h ▸ .marked rfl
    split
    next h => exact h ▸ .marked rfl
    split
    next h => exact h ▸ .marked rfl
    split
    next h => exact h ▸ .marked rfl
    split
    next h => exact h ▸ .marked rfl
    split
    next h => exact .itself h (fun hmark => hplain (.inl hmark)) fun hslash => hplain (.inr hslash)
    split
    next h => exact .unit h
    next h => exact .pair (Nat.not_lt.1 h)

theorem escaped_surrogate {c : CodePoint} (hfrom : 0xD800 ≤ c.val) (hto : c.val < 0xE000) :
    escaped c = unitEscape c.val := by
  cases c with
  | char d =>
    have hvalid : d.toNat < 0xD800 ∨ 0xDFFF < d.toNat ∧ d.toNat < 0x110000 := d.valid
    simp only [CodePoint.val] at hfrom hto
    omega
  | lone u =>
    have hplain : ¬(0x20 ≤ CodePoint.val (.lone u) ∧ CodePoint.val (.lone u) < 0x7F) := by omega
    have hunit : CodePoint.val (.lone u) < 0x10000 := by omega
    simp only [escaped, hplain, hunit, reduceCtorEq, if_true, if_false, or_false]

/-- A UTF-16 unit is escaped by four digits, from which it is read. -/
theorem exists_unitEscape {n : Nat} (h : n < 0x10000) :
    ∃ a b c d, unitEscape n = [.char '\\', .char 'u', a, b, c, d] ∧ hex4? a b c d = some n := by
  have hlength : (Text.padded 16 4 n).length = 4 := Text.length_padded (by decide) (by decide) h
  obtain ⟨values, hvalues, hn⟩ := Yaml.Quoted.denotes_padded 4 n
  obtain ⟨a, b, c, d, hdigits⟩ := List.length_eq_four.1 hlength
  rw [hdigits] at hvalues
  obtain ⟨va, _, ha, hbcd, rfl⟩ := List.forall₂_cons_left_iff.1 hvalues
  obtain ⟨vb, _, hb, hcd, rfl⟩ := List.forall₂_cons_left_iff.1 hbcd
  obtain ⟨vc, _, hc, hlast, rfl⟩ := List.forall₂_cons_left_iff.1 hcd
  obtain ⟨vd, _, hd, hnil, rfl⟩ := List.forall₂_cons_left_iff.1 hlast
  obtain rfl := List.forall₂_nil_left_iff.1 hnil
  refine ⟨a, b, c, d, by rw [unitEscape, hdigits], ?_⟩
  rw [← hn, hex4?, ha, hb, hc, hd]
  simp [Text.natValue]

/-! ## What comes next -/

/-- The text begins with the escape of a low surrogate. -/
def StartsLow (s : Text) : Prop :=
  ∃ e f g h s' low, s = .char '\\' :: .char 'u' :: e :: f :: g :: h :: s' ∧
    hex4? e f g h = some low ∧ 0xDC00 ≤ low ∧ low < 0xE000

theorem StartsLow.of_unitEscape {n : Nat} (hn : n < 0x10000) {s : Text}
    (h : StartsLow (unitEscape n ++ s)) : 0xDC00 ≤ n ∧ n < 0xE000 := by
  obtain ⟨e, f, g, h', s', low, hs, hread, hrange⟩ := h
  obtain ⟨a, b, c, d, hunit, hread'⟩ := exists_unitEscape hn
  simp only [hunit, List.cons_append, List.cons.injEq] at hs
  obtain ⟨-, -, rfl, rfl, rfl, rfl, -⟩ := hs
  obtain rfl := Option.some.inj (hread'.symm.trans hread)
  exact hrange

/-- What is written of a text begins with the escape of a low surrogate only if the text begins with
one. -/
theorem StartsLow.of_flatMap_escaped {t rest : Text}
    (h : StartsLow (t.flatMap escaped ++ .char '\x22' :: rest)) :
    ∃ c t', t = c :: t' ∧ 0xDC00 ≤ c.val ∧ c.val < 0xE000 := by
  cases t with
  | nil =>
    obtain ⟨_, _, _, _, _, _, hs, -⟩ := h
    simp at hs
  | cons c t =>
    refine ⟨c, t, rfl, ?_⟩
    have hwritten := written_escaped c
    rw [List.flatMap_cons, List.append_assoc] at h
    generalize escaped c = w at h hwritten
    cases hwritten with
    | marked hmark =>
      obtain ⟨_, _, _, _, _, _, hs, -⟩ := h
      simp only [List.cons_append, List.cons.injEq, CodePoint.char.injEq] at hs
      rw [hs.2.1] at hmark
      simp [simpleEscape?] at hmark
    | itself hval hmark hslash =>
      obtain ⟨_, _, _, _, _, _, hs, -⟩ := h
      exact absurd (List.cons.inj hs).1 hslash
    | unit hval => exact h.of_unitEscape hval
    | pair hval =>
      have hlt := CodePoint.val_lt c
      rw [List.append_assoc] at h
      have hrange := h.of_unitEscape (by omega)
      omega

/-! ## Reading what was written -/

theorem readString_marked {letter c : Char} (h : simpleEscape? letter = some c) (s : Text) :
    readString (.char '\\' :: .char letter :: s) =
      (readString s).map fun (t, rest) => (.char c :: t, rest) := by
  have hletter : letter ≠ 'u' := by
    rintro rfl
    simp [simpleEscape?] at h
  rw [readString]
  · simp only [h]
  · exact fun _ _ _ _ _ _ hu => hletter hu

theorem readString_itself {c : CodePoint} (hval : 0x20 ≤ c.val) (hmark : c ≠ .char '\x22')
    (hslash : c ≠ .char '\\') (s : Text) :
    readString (c :: s) = (readString s).map fun (t, rest) => (c :: t, rest) := by
  rw [readString, if_neg (Nat.not_lt.2 hval)]
  · exact hmark
  · exact fun _ _ _ _ _ hc _ => hslash hc
  · exact fun _ _ hc _ => hslash hc
  · exact hslash

/-- A unit is read alone unless it is high and a low one comes next. -/
theorem readString_unit {n : Nat} (hn : n < 0x10000) {s : Text}
    (h : 0xD800 ≤ n → n < 0xDC00 → ¬StartsLow s) :
    readString (unitEscape n ++ s) =
      (readString s).map fun (t, rest) => (codePoint n :: t, rest) := by
  obtain ⟨a, b, c, d, hunit, hread⟩ := exists_unitEscape hn
  rw [hunit]
  simp only [List.cons_append, List.nil_append]
  rw [readString]
  simp only [hread]
  -- an escape that comes next is looked at, and read again if the two name nothing together
  split
  next e f g h' s' =>
    cases hlow : hex4? e f g h' with
    | none => rw [readString, hlow]; rfl
    | some low =>
      have hpair : ¬(0xD800 ≤ n ∧ n < 0xDC00 ∧ 0xDC00 ≤ low ∧ low < 0xE000) := by
        rintro ⟨hfrom, hto, hrange⟩
        exact h hfrom hto ⟨e, f, g, h', s', low, rfl, hlow, hrange⟩
      simp only [hpair, if_false]
  · rfl

theorem readString_pair {high low : Nat} (hhigh : 0xD800 ≤ high ∧ high < 0xDC00)
    (hlow : 0xDC00 ≤ low ∧ low < 0xE000) (s : Text) :
    readString (unitEscape high ++ (unitEscape low ++ s)) =
      (readString s).map fun (t, rest) => (pairUp high low :: t, rest) := by
  obtain ⟨a, b, c, d, hunit, hread⟩ := exists_unitEscape (show high < 0x10000 by omega)
  obtain ⟨e, f, g, h, hunit', hread'⟩ := exists_unitEscape (show low < 0x10000 by omega)
  rw [hunit, hunit']
  simp only [List.cons_append, List.nil_append]
  rw [readString]
  simp only [hread, hread', hhigh, hlow, and_self, if_true]

theorem codePoint_val (c : CodePoint) : codePoint c.val = c := by
  rw [codePoint, CodePoint.ofNat?_val, Option.getD_some]

/-- The units of a character above `FFFF` name it together. -/
theorem pairUp_units {n : Nat} (h : 0x10000 ≤ n) :
    pairUp (0xD800 + (n - 0x10000) / 0x400) (0xDC00 + (n - 0x10000) % 0x400) = codePoint n := by
  have hn : 0x10000 + (0xD800 + (n - 0x10000) / 0x400 - 0xD800) * 0x400
      + (0xDC00 + (n - 0x10000) % 0x400 - 0xDC00) = n := by omega
  rw [pairUp, hn]

/-- A code point is read from its written form, unless it is a high surrogate before a low one. -/
theorem readString_escaped (c : CodePoint) {s : Text}
    (h : 0xD800 ≤ c.val → c.val < 0xDC00 → ¬StartsLow s) :
    readString (escaped c ++ s) = (readString s).map fun (t, rest) => (c :: t, rest) := by
  have hlt := CodePoint.val_lt c
  have hwritten := written_escaped c
  generalize escaped c = w at hwritten
  cases hwritten with
  | marked hmark => exact readString_marked hmark s
  | itself hval hmark hslash => exact readString_itself hval.1 hmark hslash s
  | unit hval => rw [readString_unit hval h, codePoint_val]
  | pair hval =>
    rw [List.append_assoc, readString_pair (by omega) (by omega), pairUp_units hval, codePoint_val]

/-- A string is read back with its surrogates joined. -/
theorem readString_flatMap_escaped (t rest : Text) :
    readString (t.flatMap escaped ++ .char '\x22' :: rest) = some (t.joinSurrogates, rest) := by
  -- the cases of the joining : a pair, no pair, one code point, none
  induction t using Text.joinSurrogates.induct with
  | case1 c d t hpairs ih =>
    obtain ⟨hc, hd⟩ := hpairs
    rw [List.flatMap_cons, List.flatMap_cons, escaped_surrogate hc.1 (by omega),
      escaped_surrogate (by omega) hd.2, List.append_assoc, List.append_assoc,
      readString_pair hc hd, ih, Text.joinSurrogates, if_pos ⟨hc, hd⟩, Option.map_some]
  | case2 c d t hpairs ih =>
    rw [List.flatMap_cons, List.append_assoc, readString_escaped, ih, Text.joinSurrogates,
      if_neg hpairs, Option.map_some]
    intro hfrom hto hlow
    obtain ⟨d', t', heq, hd⟩ := hlow.of_flatMap_escaped
    rw [← (List.cons.inj heq).1] at hd
    exact hpairs ⟨⟨hfrom, hto⟩, hd⟩
  | case3 c =>
    rw [List.flatMap_cons, List.append_assoc, readString_escaped, List.flatMap_nil, List.nil_append,
      readString, Text.joinSurrogates, Option.map_some]
    intro _ _ hlow
    obtain ⟨_, _, heq, -⟩ := hlow.of_flatMap_escaped
    exact absurd heq (List.cons_ne_nil _ _).symm
  | case4 => rw [List.flatMap_nil, List.nil_append, readString, Text.joinSurrogates]

/-- Two surrogates name a character above `FFFF`. -/
theorem le_val_pairUp {high low : CodePoint} (h : high.Pairs low) :
    0x10000 ≤ (pairUp high.val low.val).val := by
  obtain ⟨hhigh, hlow⟩ := h
  have hvalid : (0x10000 + (high.val - 0xD800) * 0x400 + (low.val - 0xDC00)).isValidChar := by
    simp only [Nat.isValidChar]
    omega
  rw [pairUp, codePoint, CodePoint.ofNat?, dif_pos hvalid]
  change 0x10000 ≤ 0x10000 + (high.val - 0xD800) * 0x400 + (low.val - 0xDC00)
  omega

/-- Joining makes a text of small code points only of that text. -/
theorem eq_of_joinSurrogates_eq {s t : Text} (hs : ∀ c ∈ s, c.val < 0x10000)
    (h : t.joinSurrogates = s) : t = s := by
  induction t using Text.joinSurrogates.induct generalizing s with
  | case1 c d t hpairs ih =>
    rw [Text.joinSurrogates, if_pos hpairs] at h
    have hlt := hs (pairUp c.val d.val) (h ▸ List.mem_cons_self)
    have hle := le_val_pairUp hpairs
    omega
  | case2 c d t hpairs ih =>
    rw [Text.joinSurrogates, if_neg hpairs] at h
    subst h
    exact congrArg (c :: ·) (ih (fun e he => hs e (List.mem_cons_of_mem _ he)) rfl)
  | case3 c => exact h
  | case4 => exact h

end Json

end VolumeTunnel
