import VolumeTunnel.Proofs.Yaml.Quoted
import VolumeTunnel.Yaml.Plain
import VolumeTunnel.Yaml.Tag

/-!
# Block mappings as they are written

An entry of a block mapping is written in a line of its own : spaces, a key that is a word, a colon
and a space, and a text between double quotes or a truth value (`WritesDatum`, `WritesEntries`). One
of the entries may be a mapping, whose entries are in the lines after its key (`Outline.Writes`).
What follows a line is indented by some spaces, then there is a word or nothing (`Margin`).

The second part is about reading what is written so : where the places in a line are, and where a
plain scalar ends.
-/

namespace VolumeTunnel.Yaml

/-! ## Lines -/

/-- Whether the code point is an ASCII letter or an underscore. -/
def isWordChar (c : CodePoint) : Bool :=
  (0x41 ≤ c.val && c.val ≤ 0x5A) || (0x61 ≤ c.val && c.val ≤ 0x7A) || c.val = 0x5F

/-- A key that is a word : it stands for itself as a plain scalar, and is read as a text. -/
structure IsWord (key : Text) : Prop where
  ne_nil : key ≠ []
  letters : ∀ c ∈ key, isWordChar c = true
  short : key.length ≤ 1024
  tag : Tag.ofPlain key = .str

instance (key : Text) : Decidable (IsWord key) :=
  decidable_of_iff
    (key ≠ [] ∧ (∀ c ∈ key, isWordChar c = true) ∧ key.length ≤ 1024 ∧ Tag.ofPlain key = .str)
    ⟨fun ⟨hne, hletters, hshort, htag⟩ => ⟨hne, hletters, hshort, htag⟩,
      fun h => ⟨h.ne_nil, h.letters, h.short, h.tag⟩⟩

theorem IsWord.endsOr_append {key : Text} (hkey : IsWord key) (t : Text) :
    endsOr isWordChar (key ++ t) = true := by
  obtain ⟨c, key', rfl⟩ := List.exists_cons_of_ne_nil hkey.ne_nil
  exact hkey.letters c List.mem_cons_self

/-- The plain scalar for a truth value. -/
def flagWord (b : Bool) : Text :=
  if b then "true" else "false"

/-- What an entry gives to its key. -/
inductive Datum where
  | text (s : Text)
  | flag (b : Bool)
deriving DecidableEq, Repr

/-- The value that is given. -/
def Datum.value : Datum → Value
  | text s => .text s
  | flag b => .bool b

/-- How a text or a truth value is written. -/
inductive WritesDatum : Datum → Text → Prop
  | text {s w : Text} (h : Quoted.Writes s w) :
    WritesDatum (.text s) (quotationMark :: (w ++ [quotationMark]))
  | flag (b : Bool) : WritesDatum (.flag b) (flagWord b)

/-- The given number of spaces. -/
def spaces (n : Nat) : Text :=
  List.replicate n (.char ' ')

/-- The line of an entry, given how its value is written. -/
def entryLine (indent : Nat) (key w : Text) : Text :=
  spaces indent ++ (key ++ .char ':' :: .char ' ' :: (w ++ [.char '\n']))

/-- How the entries of a mapping are written, each in a line. -/
inductive WritesEntries (indent : Nat) : List (Text × Datum) → Text → Prop
  | nil : WritesEntries indent [] []
  | cons {key : Text} {v : Datum} {w : Text} {es : List (Text × Datum)} {t : Text}
    (hv : WritesDatum v w) (h : WritesEntries indent es t) :
    WritesEntries indent ((key, v) :: es) (entryLine indent key w ++ t)

/-- The line of a key whose value is the mapping in the lines after it. -/
def headerLine (key : Text) : Text :=
  key ++ [.char ':', .char '\n']

/-- A mapping in which a mapping stands under one key, and texts and truth values under others. -/
structure Outline where
  before : List (Text × Datum)
  key : Text
  inner : List (Text × Datum)
  after : List (Text × Datum)

namespace Outline

/-- The entries of both mappings in which texts and truth values stand. -/
def entries (o : Outline) : List (Text × Datum) :=
  o.before ++ o.inner ++ o.after

/-- All keys are words, of which none is there twice in a mapping, and the mapping inside is not
empty. -/
structure IsPlain (o : Outline) : Prop where
  key : IsWord o.key
  entries : ∀ e ∈ o.entries, IsWord e.1
  inner : o.inner ≠ []
  keys : (o.before.map Prod.fst ++ o.key :: o.after.map Prod.fst).Nodup
  innerKeys : (o.inner.map Prod.fst).Nodup

theorem IsPlain.words {o : Outline} (h : o.IsPlain) :
    ((∀ e ∈ o.before, IsWord e.1) ∧ ∀ e ∈ o.inner, IsWord e.1) ∧ ∀ e ∈ o.after, IsWord e.1 := by
  simpa only [Outline.entries, List.forall_mem_append] using h.entries

/-- How an outline is written, with the entries of the mapping inside indented. -/
structure Writes (o : Outline) (t : Text) : Prop where
  parts : ∃ indent before inner after, 0 < indent ∧ WritesEntries 0 o.before before ∧
    WritesEntries indent o.inner inner ∧ WritesEntries 0 o.after after ∧
    t = before ++ (headerLine o.key ++ (inner ++ after))

end Outline

/-- Every text and every truth value can be written. -/
theorem exists_writesDatum (v : Datum) : ∃ w, WritesDatum v w := by
  cases v with
  | text s =>
    obtain ⟨w, hw⟩ := Quoted.exists_writes s
    exact ⟨_, .text hw⟩
  | flag b => exact ⟨_, .flag b⟩

theorem exists_writesEntries (indent : Nat) (es : List (Text × Datum)) :
    ∃ w, WritesEntries indent es w := by
  induction es with
  | nil => exact ⟨[], .nil⟩
  | cons e es ih =>
    obtain ⟨w, hw⟩ := exists_writesDatum e.2
    obtain ⟨t, ht⟩ := ih
    exact ⟨_, .cons hw ht⟩

theorem Outline.exists_writes (o : Outline) : ∃ t, o.Writes t := by
  obtain ⟨before, hbefore⟩ := exists_writesEntries 0 o.before
  obtain ⟨inner, hinner⟩ := exists_writesEntries 1 o.inner
  obtain ⟨after, hafter⟩ := exists_writesEntries 0 o.after
  exact ⟨_, 1, before, inner, after, Nat.one_pos, hbefore, hinner, hafter, rfl⟩

/-- The text begins with some spaces, after which it ends or there is a word. -/
def Margin (t : Text) (column : Nat) (rest : Text) : Prop :=
  t = spaces column ++ rest ∧ endsOr isWordChar rest

theorem Margin.eq {t rest rest' : Text} {m m' : Nat} (h : Margin t m rest) (h' : Margin t m' rest') :
    m' = m ∧ rest' = rest := by
  obtain ⟨rfl, hrest⟩ := h
  obtain ⟨ht, hrest'⟩ := h'
  have hspace : ¬isWordChar (.char ' ') = true := by decide
  induction m generalizing m' with
  | zero =>
    cases m' with
    | zero => exact ⟨rfl, ht.symm⟩
    | succ m' =>
      obtain rfl : rest = .char ' ' :: (spaces m' ++ rest') := ht
      exact absurd hrest hspace
  | succ m ih =>
    cases m' with
    | zero =>
      obtain rfl : .char ' ' :: (spaces m ++ rest) = rest' := ht
      exact absurd hrest' hspace
    | succ m' =>
      obtain ⟨rfl, rfl⟩ := ih (List.cons.inj ht).2
      exact ⟨rfl, rfl⟩

theorem WritesEntries.margin {indent m : Nat} {es : List (Text × Datum)} {w t rest : Text}
    (h : WritesEntries indent es w) (hwords : ∀ e ∈ es, IsWord e.1) (ht : Margin t m rest)
    (hm : m ≤ indent) : ∃ m' rest', Margin (w ++ t) m' rest' ∧ m' ≤ indent := by
  cases h with
  | nil => exact ⟨m, rest, ht, hm⟩
  | @cons key v w es u hv h =>
    have hkey : IsWord key := hwords (key, v) List.mem_cons_self
    have hword := hkey.endsOr_append (.char ':' :: .char ' ' :: (w ++ .char '\n' :: (u ++ t)))
    exact ⟨indent, _, ⟨by simp [entryLine], hword⟩, Nat.le_refl _⟩

theorem WritesEntries.length_le {indent : Nat} {es : List (Text × Datum)} {w : Text}
    (h : WritesEntries indent es w) : 3 * es.length ≤ w.length := by
  induction h with
  | nil => exact Nat.le_refl 0
  | cons _ _ ih =>
    simp only [entryLine, List.length_append, List.length_cons, List.length_nil]
    omega

/-! ## Code points of a line -/

theorem isPrintableAscii_of_isWordChar {c : CodePoint} (h : isWordChar c) :
    c.isPrintableAscii = true := by
  rw [CodePoint.isPrintableAscii_iff]
  simp only [isWordChar, Bool.or_eq_true, Bool.and_eq_true, decide_eq_true_eq] at h
  omega

theorem isOneOf_of_isWordChar {c : CodePoint} (h : isWordChar c) {chars : List Char}
    (hchars : (chars.any fun d => isWordChar (.char d)) = false) : isOneOf chars c = false := by
  cases c with
  | lone u => rfl
  | char d =>
    refine Bool.eq_false_iff.2 fun hmem => ?_
    have hany : (chars.any fun d => isWordChar (.char d)) = true :=
      List.any_eq_true.2 ⟨d, List.contains_iff_mem.1 hmem, h⟩
    exact Bool.false_ne_true (hchars.symm.trans hany)

theorem isGap_of_isWordChar {c : CodePoint} (h : isWordChar c) : isGap c = false := by
  rw [isGap, isSpaceOrTab, isOneOf_of_isWordChar h (by rfl),
    isBreak_of_isPrintableAscii (isPrintableAscii_of_isWordChar h)]
  rfl

theorem ne_of_isWordChar {c d : CodePoint} (h : isWordChar c) (hd : isWordChar d = false) :
    c ≠ d := by
  rintro rfl
  exact Bool.false_ne_true (hd.symm.trans h)

@[simp] theorem length_spaces (n : Nat) : (spaces n).length = n :=
  List.length_replicate

theorem isPrintableAscii_spaces (n : Nat) : ∀ c ∈ spaces n, c.isPrintableAscii = true := by
  intro c hc
  rw [List.eq_of_mem_replicate hc]
  decide

theorem isWordChar_flagWord (b : Bool) : ∀ c ∈ flagWord b, isWordChar c = true := by
  cases b <;> decide

/-- A value is written in one line, in printable ASCII. -/
theorem WritesDatum.isPrintableAscii {v : Datum} {w : Text} (h : WritesDatum v w) :
    ∀ c ∈ w, c.isPrintableAscii = true := by
  cases h with
  | text h =>
    refine List.forall_mem_cons.2 ⟨by decide, List.forall_mem_append.2 ⟨h.isPrintableAscii, ?_⟩⟩
    exact List.forall_mem_singleton.2 (by decide)
  | flag b => exact fun c hc => isPrintableAscii_of_isWordChar (isWordChar_flagWord b c hc)

theorem isLineAscii_of_isPrintableAscii {c : CodePoint} (h : c.isPrintableAscii) :
    c.isLineAscii = true :=
  Bool.or_eq_true_iff.2 (Or.inl h)

theorem IsWord.isLineAscii {key : Text} (h : IsWord key) : ∀ c ∈ key, c.isLineAscii = true :=
  fun c hc => isLineAscii_of_isPrintableAscii (isPrintableAscii_of_isWordChar (h.letters c hc))

theorem WritesEntries.isLineAscii {indent : Nat} {es : List (Text × Datum)} {w : Text}
    (h : WritesEntries indent es w) (hwords : ∀ e ∈ es, IsWord e.1) :
    ∀ c ∈ w, c.isLineAscii = true := by
  induction h with
  | nil => exact fun c hc => nomatch hc
  | cons hv _ ih =>
    obtain ⟨hkey, hwords⟩ := List.forall_mem_cons.1 hwords
    have hspaces := fun c hc => isLineAscii_of_isPrintableAscii (isPrintableAscii_spaces indent c hc)
    have hvalue := fun c hc => isLineAscii_of_isPrintableAscii (hv.isPrintableAscii c hc)
    simp only [entryLine, List.forall_mem_append, List.forall_mem_cons, List.not_mem_nil,
      false_imp_iff, implies_true, and_true]
    exact ⟨⟨hspaces, hkey.isLineAscii, by decide, by decide, hvalue, by decide⟩, ih hwords⟩

/-- What is written is in ASCII. -/
theorem Outline.Writes.isLineAscii {o : Outline} {t : Text} (h : o.Writes t) (ho : o.IsPlain) :
    ∀ c ∈ t, c.isLineAscii = true := by
  obtain ⟨indent, before, inner, after, -, hbefore, hinner, hafter, rfl⟩ := h.parts
  obtain ⟨⟨hwordsBefore, hwordsInner⟩, hwordsAfter⟩ := ho.words
  have hheader : ∀ c ∈ headerLine o.key, c.isLineAscii = true :=
    List.forall_mem_append.2 ⟨ho.key.isLineAscii, by decide⟩
  simp only [List.forall_mem_append]
  exact ⟨hbefore.isLineAscii hwordsBefore, hheader, hinner.isLineAscii hwordsInner,
    hafter.isLineAscii hwordsAfter⟩

/-! ## Places in a line -/

namespace Cursor

/-- The place after some printable text in a line. -/
theorem skip_append {p : Cursor} {w rest : Text} (h : p.rest = w ++ rest)
    (hw : ∀ c ∈ w, c.isPrintableAscii = true) :
    p.skip w.length = ⟨rest, p.index + w.length, p.line, p.column + w.length⟩ := by
  induction w generalizing p with
  | nil =>
    obtain ⟨text, index, line, column⟩ := p
    obtain rfl : text = rest := h
    rfl
  | cons c w ih =>
    obtain ⟨hc, hw⟩ := List.forall_mem_cons.1 hw
    have hmark : c ≠ byteOrderMark := by
      rintro rfl
      exact absurd hc (by decide)
    have hnext : p.next = ⟨w ++ rest, p.index + 1, p.line, p.column + 1⟩ := by
      rw [next, h, List.cons_append]
      dsimp only
      rw [if_neg (Bool.eq_false_iff.1 (isBreak_of_isPrintableAscii hc)), if_neg hmark]
    rw [List.length_cons, skip, hnext, ih rfl hw]
    simp only [Cursor.mk.injEq, true_and]
    omega

theorem moveTo_append {p : Cursor} {w rest : Text} (h : p.rest = w ++ rest)
    (hw : ∀ c ∈ w, c.isPrintableAscii = true) :
    p.moveTo rest = ⟨rest, p.index + w.length, p.line, p.column + w.length⟩ := by
  rw [moveTo, h, List.length_append, Nat.add_sub_cancel, skip_append h hw]

theorem skip_add (p : Cursor) (n m : Nat) : p.skip (n + m) = (p.skip n).skip m := by
  induction n generalizing p with
  | zero => rw [Nat.zero_add, skip]
  | succ n ih => rw [Nat.succ_add, skip, skip, ih]

/-- The place in the next line after its indentation. -/
theorem moveTo_nextLine {p : Cursor} {n : Nat} {w rest : Text}
    (h : p.rest = w ++ .char '\n' :: (spaces n ++ rest)) (hw : ∀ c ∈ w, c.isPrintableAscii = true) :
    p.moveTo rest = ⟨rest, p.index + w.length + 1 + n, p.line + 1, n⟩ := by
  have hlength : p.rest.length - rest.length = w.length + (1 + n) := by
    rw [h, List.length_append, List.length_cons, List.length_append, length_spaces]
    omega
  have hnext : Cursor.skip ⟨.char '\n' :: (spaces n ++ rest), p.index + w.length, p.line,
      p.column + w.length⟩ 1 = ⟨spaces n ++ rest, p.index + w.length + 1, p.line + 1, 0⟩ := rfl
  have hspaces := skip_append (p := ⟨spaces n ++ rest, p.index + w.length + 1, p.line + 1, 0⟩) rfl
    (isPrintableAscii_spaces n)
  rw [length_spaces] at hspaces
  rw [moveTo, hlength, skip_add, skip_append h hw, skip_add, hnext, hspaces, Nat.zero_add]

end Cursor

/-- Only hyphens and dots begin a mark between documents. -/
theorem isDocumentMark_cons {c : CodePoint} (hhyphen : c ≠ .char '-') (hdot : c ≠ .char '.')
    (t : Text) : isDocumentMark (c :: t) = false := by
  have hthree : ¬(c :: t).take 3 = Text.ofString "---" := fun h => hhyphen (List.cons.inj h).1
  have hdots : ¬(c :: t).take 3 = Text.ofString "..." := fun h => hdot (List.cons.inj h).1
  rw [isDocumentMark, decide_eq_false hthree, decide_eq_false hdots]
  rfl

/-! ## Plain scalars -/

namespace Plain

theorem stopsAt_of_isWordChar {c : CodePoint} (h : isWordChar c) (t : Text) :
    stopsAt false (c :: t) = false := by
  rw [stopsAt, isGap_of_isWordChar h, decide_eq_false (ne_of_isWordChar h (by decide))]
  rfl

theorem readWord_append_of_stopsAt {w rest : Text} (hw : ∀ c ∈ w, isWordChar c = true)
    (hrest : stopsAt false rest = true) : readWord false (w ++ rest) = (w, rest) := by
  induction w with
  | nil =>
    cases rest with
    | nil => rfl
    | cons c t => rw [List.nil_append, readWord, if_pos hrest]
  | cons c w ih =>
    obtain ⟨hc, hw⟩ := List.forall_mem_cons.1 hw
    rw [List.cons_append, readWord, if_neg (Bool.eq_false_iff.1 (stopsAt_of_isWordChar hc _)), ih hw]

/-- A word ends at a colon that separates. -/
theorem read_key {key t : Text} (hkey : ∀ c ∈ key, isWordChar c = true) (ht : gapAt t)
    (width : Nat) : read false width (key ++ .char ':' :: t) = (key, false, .char ':' :: t) := by
  have hstop : stopsAt false (.char ':' :: t) = true := by
    rw [stopsAt, ht]
    rfl
  have hgap : readGap (.char ':' :: t) = ⟨[], none, .char ':' :: t⟩ := rfl
  rw [read, readWith, readWord_append_of_stopsAt hkey hstop]
  dsimp only
  rw [hgap]
  rfl

theorem readBreaks_margin {t rest : Text} {m : Nat} (h : Margin t m rest) (column : Nat) :
    readBreaks column t = (some [], column + m, rest) := by
  obtain ⟨rfl, hrest⟩ := h
  induction m generalizing column with
  | zero =>
    cases rest with
    | nil => rfl
    | cons c t =>
      have hc : isWordChar c = true := hrest
      have hbreak := isBreak_of_isPrintableAscii (isPrintableAscii_of_isWordChar hc)
      have hspace : isSpace c = false := decide_eq_false (ne_of_isWordChar hc (by decide))
      rw [show spaces 0 ++ c :: t = c :: t from rfl, readBreaks,
        isDocumentMark_cons (ne_of_isWordChar hc (by decide)) (ne_of_isWordChar hc (by decide)),
        Bool.and_false, if_neg Bool.false_ne_true, hspace, if_neg Bool.false_ne_true, hbreak]
      rfl
  | succ m ih =>
    rw [show spaces (m + 1) ++ rest = .char ' ' :: (spaces m ++ rest) from rfl, readBreaks,
      isDocumentMark_cons (by decide) (by decide), Bool.and_false, if_neg Bool.false_ne_true,
      if_pos (by decide), ih (column + 1), Nat.add_right_comm]
    rfl

/-- What stands left of the width of a scalar in a later line is not part of it. -/
theorem goesOn_of_lt {m width : Nat} (h : m < width) (between rest : Text) :
    Gap.goesOn false width ⟨between, some m, rest⟩ = false := by
  have hcolumn : (some m).all (width ≤ ·) = false := decide_eq_false (Nat.not_le.2 h)
  rw [Gap.goesOn, hcolumn, Bool.false_or, Bool.and_false]

/-- A word ends with its line if the next line is not indented enough. -/
theorem read_line {w t rest : Text} {m width : Nat} (hw : ∀ c ∈ w, isWordChar c = true)
    (h : Margin t m rest) (hwidth : m < width) :
    read false width (w ++ .char '\n' :: t) = (w, true, rest) := by
  have hgap : readGap (.char '\n' :: t) = ⟨[.char ' '], some m, rest⟩ := by
    have hbreaks := readBreaks_margin h 0
    rw [Nat.zero_add] at hbreaks
    have hbreak : isBreak (.char '\n') = true := by decide
    have hspace : (.char '\n' :: t : Text).dropWhile isSpace = .char '\n' :: t := rfl
    rw [readGap, hspace]
    dsimp only
    rw [if_pos hbreak, hbreaks]
    rfl
  rw [read, readWith, readWord_append_of_stopsAt hw rfl]
  dsimp only
  rw [hgap, goesOn_of_lt hwidth]
  rfl

end Plain

end VolumeTunnel.Yaml
