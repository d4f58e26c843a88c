import VolumeTunnel.Yaml.Source

/-!
# ASCII files

A text in ASCII is one byte for each code point, and its bytes are read back as that text
(`Utf8.splitGood_asciiBytes`). If it is printable but for line feeds, a document may hold all of it
(`Yaml.Source.ofBytes_asciiBytes`).
-/

namespace VolumeTunnel

/-- Whether the code point is an ASCII character that can be printed. -/
def CodePoint.isPrintableAscii (c : CodePoint) : Bool :=
  0x20 ≤ c.val && c.val ≤ 0x7E

/-- Whether the code point may stand in a written text : it can be printed, or ends a line. -/
def CodePoint.isLineAscii (c : CodePoint) : Bool :=
  c.isPrintableAscii || c = .char '\n'

/-- The bytes of an ASCII text. -/
def Text.asciiBytes (t : Text) : List UInt8 :=
  t.map fun c => UInt8.ofNat c.val

namespace CodePoint

theorem isPrintableAscii_iff (c : CodePoint) : c.isPrintableAscii ↔ 0x20 ≤ c.val ∧ c.val ≤ 0x7E := by
  simp [isPrintableAscii]

theorem val_lt_of_isLineAscii {c : CodePoint} (h : c.isLineAscii) : c.val < 0x80 := by
  rcases Bool.or_eq_true_iff.1 h with h | h
  · exact Nat.lt_succ_of_le (Nat.le_succ_of_le ((isPrintableAscii_iff c).1 h).2)
  · rw [of_decide_eq_true h]
    decide

theorem exists_char_of_lt {c : CodePoint} (h : c.val < 0x80) : ∃ d : Char, c = .char d := by
  cases c with
  | char d => exact ⟨d, rfl⟩
  | lone u => exact absurd h (by simp only [val]; omega)

end CodePoint

namespace Utf8

theorem readChar_ascii {c : Char} (h : c.toNat < 0x80) (bytes : List UInt8) :
    readChar (UInt8.ofNat c.toNat) bytes = (some c, bytes) := by
  have hbyte : (UInt8.ofNat c.toNat).toNat = c.toNat := by
    rw [UInt8.toNat_ofNat']
    omega
  have hlt : UInt8.ofNat c.toNat < 0x80 := by
    rw [UInt8.lt_iff_toNat_lt, hbyte]
    exact h
  rw [readChar, if_pos hlt, hbyte, Char.ofNat_toNat]

theorem splitGood_asciiBytes {t : Text} (h : ∀ c ∈ t, c.val < 0x80) :
    ∃ cs, splitGood t.asciiBytes = (cs, []) ∧ Text.ofChars cs = t := by
  induction t with
  | nil => exact ⟨[], by rw [Text.asciiBytes, List.map_nil, splitGood], rfl⟩
  | cons c t ih =>
    obtain ⟨cs, hsplit, hcs⟩ := ih fun d hd => h d (List.mem_cons_of_mem _ hd)
    have hc := h c List.mem_cons_self
    obtain ⟨d, rfl⟩ := CodePoint.exists_char_of_lt hc
    refine ⟨d :: cs, ?_, by rw [← hcs]; rfl⟩
    rw [Text.asciiBytes] at hsplit ⊢
    rw [List.map_cons, splitGood, CodePoint.val, readChar_ascii hc]
    dsimp only
    rw [hsplit]

end Utf8

namespace Yaml

/-- A text without carriage returns has its line feeds already. -/
theorem withLineFeeds_eq {t : Text} (h : ∀ c ∈ t, c ≠ .char '\r') : withLineFeeds t = t := by
  induction t with
  | nil => rfl
  | cons c t ih =>
    have hc : c ≠ .char '\r' := h c List.mem_cons_self
    rw [withLineFeeds, ih fun d hd => h d (List.mem_cons_of_mem _ hd)]
    · exact fun _ hr _ => absurd hr hc
    · exact fun hr => absurd hr hc

theorem isAllowed_of_isLineAscii {c : CodePoint} (h : c.isLineAscii) : isAllowed c = true := by
  rcases Bool.or_eq_true_iff.1 h with h | h
  · obtain ⟨hlow, hhigh⟩ := (CodePoint.isPrintableAscii_iff c).1 h
    simp [isAllowed, hlow, hhigh]
  · rw [of_decide_eq_true h]
    decide

/-- What can be printed in ASCII ends no line. -/
theorem isBreak_of_isPrintableAscii {c : CodePoint} (h : c.isPrintableAscii) :
    isBreak c = false := by
  cases c with
  | lone u => rfl
  | char c =>
    refine Bool.eq_false_iff.2 fun hbreak => ?_
    simp only [isBreak, isOneOf, List.contains_iff_mem, List.mem_cons, List.not_mem_nil,
      or_false] at hbreak
    rcases hbreak with rfl | rfl | rfl | rfl <;> exact absurd h (by decide)

/-- All of an ASCII file is read as it is. -/
theorem Source.ofBytes_asciiBytes {t : Text} (h : ∀ c ∈ t, c.isLineAscii) :
    Source.ofBytes t.asciiBytes = ⟨t, none⟩ := by
  obtain ⟨cs, hsplit, hcs⟩ := Utf8.splitGood_asciiBytes fun c hc =>
    CodePoint.val_lt_of_isLineAscii (h c hc)
  have hreturn : ∀ c ∈ t, c ≠ .char '\r' := by
    rintro c hc rfl
    exact absurd (h _ hc) (by decide)
  rw [Source.ofBytes, hsplit]
  dsimp only
  rw [hcs, withLineFeeds_eq hreturn,
    Source.ofText_eq (List.all_eq_true.2 fun c hc => isAllowed_of_isLineAscii (h c hc))]

end Yaml

end VolumeTunnel
