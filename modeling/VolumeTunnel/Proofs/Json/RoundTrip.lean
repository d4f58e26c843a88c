import VolumeTunnel.Proofs.Json.Strings
import VolumeTunnel.Proofs.Text.Numeral

/-!
# Documents are read back

A document of null, booleans, integers that have a numeral, strings, arrays and objects
(`Json.Data`) is read back from its text, however deep it is, with the surrogates of its strings
joined (`Json.read?_write`). If no string of it holds a pair to join, it is read back as it is
(`Json.Data.joined_eq`).

* `Json.joined` : the document with the surrogates in all its strings joined;
* `Json.Ends` : what may come after a document inside another one;
* `Json.ReadBack` : a document is read back whatever comes after it.
-/

namespace VolumeTunnel.Json

/-- A document made of null, booleans, integers that have a numeral, arrays, objects, and of strings
as described; the names of members are among its strings. -/
inductive Data (string : Text → Prop) : Json → Prop
  | null : Data string null
  | bool (b : Bool) : Data string (bool b)
  | int {i : Int} (h : Text.hasDecimalNumeral i.natAbs = true) : Data string (int i)
  | text {t : Text} (h : string t) : Data string (text t)
  | array {items : List Json} (h : ∀ j ∈ items, Data string j) : Data string (array items)
  | object {members : List (Text × Json)} (hnames : ∀ m ∈ members, string m.1)
    (h : ∀ m ∈ members, Data string m.2) : Data string (object members)

/-- A document of such parts, whatever its strings are. -/
abbrev IsData : Json → Prop :=
  Data fun _ => True

mutual

/-- The document with the surrogates in all its strings joined. -/
def joined : Json → Json
  | text t => text t.joinSurrogates
  | array items => array (joinedItems items)
  | object members => object (joinedMembers members)
  | j => j

/-- The items of an array, with the surrogates in them joined. -/
def joinedItems : List Json → List Json
  | [] => []
  | j :: js => joined j :: joinedItems js

/-- The members of an object, with the surrogates in them and in their names joined. -/
def joinedMembers : List (Text × Json) → List (Text × Json)
  | [] => []
  | (name, j) :: ms => (name.joinSurrogates, joined j) :: joinedMembers ms

end

theorem joinedItems_eq_map (items : List Json) : joinedItems items = items.map joined := by
  induction items with
  | nil => rfl
  | cons j js ih => rw [joinedItems, ih, List.map_cons]

theorem joinedMembers_eq_map (members : List (Text × Json)) :
    joinedMembers members = members.map fun m => (m.1.joinSurrogates, m.2.joined) := by
  induction members with
  | nil => rfl
  | cons m ms ih => rw [joinedMembers, ih, List.map_cons]

/-- A document of strings without pairs stays as it is. -/
theorem Data.joined_eq {j : Json} (h : Data Text.Unpaired j) : j.joined = j := by
  induction h with
  | null => rfl
  | bool b => rfl
  | int h => rfl
  | text h => rw [joined, h.joinSurrogates_eq]
  | array h ih =>
    rw [joined, joinedItems_eq_map, List.map_congr_left ih, List.map_id']
  | @object members hnames h ih =>
    have hmember : ∀ m ∈ members, (m.1.joinSurrogates, m.2.joined) = m := by
      intro m hm
      rw [(hnames m hm).joinSurrogates_eq, ih m hm]
    rw [joined, joinedMembers_eq_map, List.map_congr_left hmember, List.map_id']

/-! ## What comes before and after a document -/

/-- Nothing, or what separates and closes items and members. -/
def Ends (rest : Text) : Prop :=
  ∀ c t, rest = c :: t → c = .char ',' ∨ c = .char ']' ∨ c = .char '\x7d'

theorem ends_cons {c : CodePoint} (h : c = .char ',' ∨ c = .char ']' ∨ c = .char '\x7d')
    (t : Text) : Ends (c :: t) := by
  intro d u heq
  rwa [← (List.cons.inj heq).1]

theorem skipBlank_cons {c : CodePoint} (h : 0x20 < c.val) (t : Text) :
    skipBlank (c :: t) = c :: t := by
  rw [skipBlank]
  all_goals
    intro t' heq
    rw [(List.cons.inj heq).1] at h
    exact absurd h (by decide)

/-- The text of a document begins with a code point that is neither blank nor a closing bracket. -/
theorem exists_write_eq_cons (j : Json) (h : IsData j) :
    ∃ c t, write j = c :: t ∧ 0x20 < c.val ∧ c ≠ .char ']' := by
  cases h with
  | null => exact ⟨_, _, rfl, by decide, by decide⟩
  | bool b => cases b <;> exact ⟨_, _, rfl, by decide, by decide⟩
  | @int i hi =>
    obtain ⟨c, t, hc, hdigit | rfl⟩ := Text.exists_ofInt_eq_cons i
    · exact ⟨c, t, hc, Text.lt_val_of_isDigit hdigit, Text.ne_of_isDigit hdigit (by decide)⟩
    · exact ⟨_, t, hc, by decide, by decide⟩
  | text h => exact ⟨_, _, rfl, by decide, by decide⟩
  | array h => exact ⟨_, _, rfl, by decide, by decide⟩
  | object hnames h => exact ⟨_, _, rfl, by decide, by decide⟩

/-! ## Numbers -/

theorem Ends.isDigit_eq_false {rest : Text} (h : Ends rest) :
    ∀ c t, rest = c :: t → c.isDigit = false := by
  intro c t heq
  rcases h c t heq with rfl | rfl | rfl <;> decide

/-- What comes after a document continues no number. -/
theorem takeDigits_append {ds rest : Text} (hds : ∀ c ∈ ds, c.isDigit = true) (hrest : Ends rest) :
    takeDigits (ds ++ rest) = (ds, rest) := by
  have hstop : rest.takeWhile CodePoint.isDigit = [] ∧ rest.dropWhile CodePoint.isDigit = rest := by
    cases rest with
    | nil => exact ⟨rfl, rfl⟩
    | cons c t =>
      have hc := hrest.isDigit_eq_false c t rfl
      exact ⟨List.takeWhile_cons_of_neg (by simp [hc]), List.dropWhile_cons_of_neg (by simp [hc])⟩
  rw [takeDigits, List.takeWhile_append_of_pos hds, List.dropWhile_append_of_pos hds, hstop.1,
    hstop.2, List.append_nil]

theorem Ends.takeFraction_eq {rest : Text} (h : Ends rest) : takeFraction rest = (none, rest) := by
  cases rest with
  | nil => rfl
  | cons c t =>
    rcases h c t rfl with rfl | rfl | rfl <;> rfl

theorem Ends.takeExponent_eq {rest : Text} (h : Ends rest) : takeExponent rest = (none, rest) := by
  cases rest with
  | nil => rfl
  | cons c t =>
    rcases h c t rfl with rfl | rfl | rfl <;> rfl

theorem takeWhole_ofNat (n : Nat) {rest : Text} (hrest : Ends rest) :
    takeWhole (Text.ofNat n ++ rest) = (Text.ofNat n, rest) := by
  obtain ⟨c, t, hc, hdigit⟩ := Text.exists_ofNat_eq_cons n
  by_cases hzero : c = .char '0'
  · subst hzero
    obtain rfl := Text.ofNat_eq_zero_cons hc
    rw [Text.ofNat_of_lt (by decide)]
    rfl
  · have hdigits := takeDigits_append (Text.isDigit_of_mem_ofNat n) hrest
    rw [hc] at hdigits ⊢
    rw [← hdigits, List.cons_append, takeWhole]
    exact fun _ heq => hzero (List.cons.inj heq).1

theorem readNumber_ofNat (negative : Bool) {n : Nat} (hn : Text.hasDecimalNumeral n = true)
    {rest : Text} (hrest : Ends rest) :
    readNumber negative (Text.ofNat n ++ rest) =
      some (.int (if negative then -(n : Int) else n), rest) := by
  have hlength : ¬Text.maxDecimalDigits < (Text.ofNat n).length :=
    Nat.not_lt.2 (Text.length_ofNat_le hn)
  have hne : (Text.ofNat n).isEmpty = false := by
    simp [Text.ofNat_ne_nil n]
  simp only [readNumber, takeWhole_ofNat n hrest, hne, hrest.takeFraction_eq, hrest.takeExponent_eq,
    hlength, Text.digitsValue_ofNat, if_false, Bool.false_eq_true]

/-- A numeral is none of the words : it has a digit among its first two code points. -/
theorem find?_words_ofInt (i : Int) (rest : Text) :
    words.find? (fun w => (Text.ofInt i ++ rest).startsWith w.1) = none := by
  have hletters : ∀ w ∈ words, 2 ≤ w.1.length ∧ ∀ c ∈ w.1.take 2, c.isDigit = false := by
    decide
  have hnumeral : ∃ c ∈ (Text.ofInt i ++ rest).take 2, c.isDigit = true := by
    cases i with
    | ofNat n =>
      obtain ⟨c, t, hc, hdigit⟩ := Text.exists_ofNat_eq_cons n
      exact ⟨c, by simp [Text.ofInt, hc], hdigit⟩
    | negSucc n =>
      obtain ⟨c, t, hc, hdigit⟩ := Text.exists_ofNat_eq_cons (n + 1)
      exact ⟨c, by simp [Text.ofInt, hc], hdigit⟩
  refine List.find?_eq_none.2 fun w hw hstarts => ?_
  obtain ⟨s, hs⟩ := List.isPrefixOf_iff_prefix.1 hstarts
  obtain ⟨hlength, hnone⟩ := hletters w hw
  obtain ⟨c, hc, hdigit⟩ := hnumeral
  rw [← hs, List.take_append_of_le_length hlength] at hc
  simp [hnone c hc] at hdigit

theorem readPlain_ofInt {i : Int} (hi : Text.hasDecimalNumeral i.natAbs = true) {rest : Text}
    (hrest : Ends rest) : readPlain (Text.ofInt i ++ rest) = some (.int i, rest) := by
  unfold readPlain
  rw [find?_words_ofInt]
  cases i with
  | ofNat n =>
    have hread := readNumber_ofNat false hi hrest
    dsimp only [Text.ofInt]
    split
    next t ht =>
      obtain ⟨c, t', hc, hdigit⟩ := Text.exists_ofNat_eq_cons n
      rw [hc] at ht
      exact absurd (List.cons.inj ht).1 (Text.ne_of_isDigit hdigit (by decide))
    · exact hread
  -- the sign is read before the number
  | negSucc n => exact readNumber_ofNat true hi hrest

/-! ## Documents -/

/-- A document is read back, with its surrogates joined, whatever comes after it. Fuel of twice the
length of its text is enough, since a document in another one is two steps below it. -/
def ReadBack (j : Json) : Prop :=
  ∀ fuel rest, Ends rest → 2 * (write j).length ≤ fuel →
    readDocument fuel (write j ++ rest) = some (j.joined, rest)

theorem skipBlank_write {j : Json} (h : IsData j) (rest : Text) :
    skipBlank (write j ++ rest) = write j ++ rest := by
  obtain ⟨c, t, hwrite, hc, -⟩ := exists_write_eq_cons j h
  rw [hwrite]
  exact skipBlank_cons hc _

theorem writeItems_cons_cons (j k : Json) (js : List Json) :
    writeItems (j :: k :: js) =
      write j ++ .char ',' :: .char ' ' :: writeItems (k :: js) := by
  rw [writeItems, List.append_assoc]
  · rfl
  · exact List.cons_ne_nil k js

/-- The items of an array begin as the first of them does. -/
theorem exists_writeItems_eq (j : Json) (js : List Json) :
    ∃ t, writeItems (j :: js) = write j ++ t := by
  cases js with
  | nil => exact ⟨[], by rw [writeItems, List.append_nil]⟩
  | cons k js => exact ⟨_, writeItems_cons_cons j k js⟩

theorem readItems_writeItems (j : Json) (js : List Json)
    (hdata : ∀ k ∈ j :: js, IsData k) (hread : ∀ k ∈ j :: js, ReadBack k) (fuel : Nat)
    (rest : Text) (hfuel : 2 * (writeItems (j :: js)).length + 1 ≤ fuel) :
    readItems fuel (writeItems (j :: js) ++ .char ']' :: rest) =
      some ((j :: js).map joined, rest) := by
  induction js generalizing j fuel with
  | nil =>
    cases fuel with
    | zero => omega
    | succ fuel =>
      have hfirst := hread j List.mem_cons_self fuel (.char ']' :: rest) (ends_cons (by simp) rest)
        (Nat.le_of_succ_le_succ hfuel)
      rw [writeItems, readItems, hfirst]
      rfl
  | cons k js ih =>
    cases fuel with
    | zero => omega
    | succ fuel =>
      rw [writeItems_cons_cons] at hfuel ⊢
      simp only [List.length_append, List.length_cons] at hfuel
      have hfirst := hread j List.mem_cons_self fuel
        (.char ',' :: .char ' ' :: (writeItems (k :: js) ++ .char ']' :: rest))
        (ends_cons (by simp) _) (by omega)
      have hrest := ih k (fun l hl => hdata l (List.mem_cons_of_mem _ hl))
        (fun l hl => hread l (List.mem_cons_of_mem _ hl)) fuel (by omega)
      have hblank : skipBlank (.char ' ' :: (writeItems (k :: js) ++ .char ']' :: rest)) =
          writeItems (k :: js) ++ .char ']' :: rest := by
        obtain ⟨t, ht⟩ := exists_writeItems_eq k js
        rw [ht, List.append_assoc, skipBlank]
        exact skipBlank_write (hdata k (by simp)) _
      rw [List.append_assoc, List.cons_append, List.cons_append, readItems, hfirst]
      simp only [Option.bind_eq_bind, Option.bind_some, skipBlank_cons (c := .char ',') (by decide),
        hblank, hrest]
      rfl

theorem writeMembers_singleton (name : Text) (j : Json) :
    writeMembers [(name, j)] = writeString name ++ .char ':' :: .char ' ' :: write j := by
  simp [writeMembers, Text.ofString, Text.ofChars]

theorem writeMembers_cons_cons (name : Text) (j : Json) (m : Text × Json)
    (ms : List (Text × Json)) :
    writeMembers ((name, j) :: m :: ms) =
      writeString name ++ .char ':' :: .char ' ' ::
        (write j ++ .char ',' :: .char ' ' :: writeMembers (m :: ms)) := by
  rw [writeMembers]
  · simp [Text.ofString, Text.ofChars]
  · exact List.cons_ne_nil m ms

/-- The members of an object begin with a name. -/
theorem exists_writeMembers_eq (m : Text × Json) (ms : List (Text × Json)) :
    ∃ t, writeMembers (m :: ms) = .char '\x22' :: t := by
  cases ms with
  | nil => exact ⟨_, writeMembers_singleton m.1 m.2⟩
  | cons n ms => exact ⟨_, writeMembers_cons_cons m.1 m.2 n ms⟩

/-- One member of an object is read, and then the rest. -/
theorem readMembers_member (name : Text) {j : Json} (hdata : IsData j)
    (hread : ReadBack j) {fuel : Nat} (hfuel : 2 * (write j).length ≤ fuel) {rest : Text}
    (hrest : Ends rest) :
    readMembers (fuel + 1)
        (writeString name ++ .char ':' :: .char ' ' :: (write j ++ rest)) =
      match skipBlank rest with
      | .char '\x7d' :: rest => some ([(name.joinSurrogates, j.joined)], rest)
      | .char ',' :: t => do
        let (ms, rest) ← readMembers fuel (skipBlank t)
        pure ((name.joinSurrogates, j.joined) :: ms, rest)
      | _ => none := by
  have hname := readString_flatMap_escaped name (.char ':' :: .char ' ' :: (write j ++ rest))
  have hblank : skipBlank (.char ' ' :: (write j ++ rest)) = write j ++ rest :=
    skipBlank_write hdata rest
  rw [writeString, List.append_assoc, List.cons_append, List.singleton_append, readMembers, hname]
  simp only [Option.bind_eq_bind, Option.bind_some, skipBlank_cons (c := .char ':') (by decide),
    hblank, hread fuel rest hrest hfuel]
  rfl

theorem readMembers_writeMembers (m : Text × Json) (ms : List (Text × Json))
    (hdata : ∀ n ∈ m :: ms, IsData n.2) (hread : ∀ n ∈ m :: ms, ReadBack n.2)
    (fuel : Nat) (rest : Text) (hfuel : 2 * (writeMembers (m :: ms)).length + 1 ≤ fuel) :
    readMembers fuel (writeMembers (m :: ms) ++ .char '\x7d' :: rest) =
      some ((m :: ms).map fun n => (n.1.joinSurrogates, n.2.joined), rest) := by
  induction ms generalizing m fuel with
  | nil =>
    cases fuel with
    | zero => omega
    | succ fuel =>
      rw [writeMembers_singleton] at hfuel ⊢
      simp only [List.length_append, List.length_cons] at hfuel
      rw [List.append_assoc, List.cons_append, List.cons_append,
        readMembers_member m.1 (hdata m List.mem_cons_self) (hread m List.mem_cons_self) (by omega)
          (ends_cons (by simp) rest)]
      rfl
  | cons n ms ih =>
    cases fuel with
    | zero => omega
    | succ fuel =>
      rw [writeMembers_cons_cons] at hfuel ⊢
      simp only [List.length_append, List.length_cons] at hfuel
      have hrest := ih n (fun l hl => hdata l (List.mem_cons_of_mem _ hl))
        (fun l hl => hread l (List.mem_cons_of_mem _ hl)) fuel (by omega)
      have hblank : skipBlank (.char ' ' :: (writeMembers (n :: ms) ++ .char '\x7d' :: rest)) =
          writeMembers (n :: ms) ++ .char '\x7d' :: rest := by
        obtain ⟨t, ht⟩ := exists_writeMembers_eq n ms
        rw [ht, skipBlank]
        exact skipBlank_cons (by decide) _
      simp only [List.append_assoc, List.cons_append]
      rw [readMembers_member m.1 (hdata m List.mem_cons_self) (hread m List.mem_cons_self)
        (by omega) (ends_cons (by simp) _)]
      simp only [skipBlank_cons (c := .char ',') (by decide), hblank, hrest]
      rfl

theorem readBack_null : ReadBack null := by
  intro fuel rest hrest hfuel
  cases fuel with
  | zero => exact absurd hfuel (by decide)
  | succ fuel => rfl

theorem readBack_bool (b : Bool) : ReadBack (bool b) := by
  intro fuel rest hrest hfuel
  cases fuel with
  | zero => exact absurd hfuel (by cases b <;> decide)
  | succ fuel => cases b <;> rfl

theorem readBack_int {i : Int} (h : Text.hasDecimalNumeral i.natAbs = true) : ReadBack (int i) := by
  intro fuel rest hrest hfuel
  have hplain := readPlain_ofInt h hrest
  obtain ⟨c, t, hc, hfirst⟩ := Text.exists_ofInt_eq_cons i
  rw [write, hc] at hfuel
  cases fuel with
  | zero => simp at hfuel
  | succ fuel =>
    change readDocument (fuel + 1) (Text.ofInt i ++ rest) = some (int i, rest)
    rw [← hplain, hc, List.cons_append, readDocument]
    all_goals
      intro t' heq
      rw [(List.cons.inj heq).1] at hfirst
      exact absurd hfirst (by decide)

theorem readBack_text (t : Text) : ReadBack (text t) := by
  intro fuel rest hrest hfuel
  cases fuel with
  | zero => simp [write, writeString] at hfuel
  | succ fuel =>
    rw [write, writeString, List.append_assoc, List.cons_append, List.singleton_append,
      readDocument, readString_flatMap_escaped]
    rfl

theorem readBack_array {items : List Json} (hdata : ∀ j ∈ items, IsData j)
    (hread : ∀ j ∈ items, ReadBack j) : ReadBack (array items) := by
  intro fuel rest hrest hfuel
  cases fuel with
  | zero => simp [write] at hfuel
  | succ fuel =>
    rw [joined, joinedItems_eq_map]
    simp only [write, List.length_append, List.length_cons] at hfuel
    simp only [write, List.append_assoc, List.cons_append, List.nil_append]
    cases items with
    | nil => rfl
    | cons j js =>
      have hitems := readItems_writeItems j js hdata hread fuel rest (by omega)
      obtain ⟨t, ht⟩ := exists_writeItems_eq j js
      obtain ⟨c, t', hwrite, hc, hclosing⟩ := exists_write_eq_cons j (hdata j List.mem_cons_self)
      rw [ht, hwrite] at hitems ⊢
      simp only [List.cons_append] at hitems ⊢
      rw [readDocument, skipBlank_cons hc]
      split
      next heq => exact absurd (List.cons.inj heq).1 hclosing
      next => rw [hitems]; rfl

theorem readBack_object {members : List (Text × Json)}
    (hdata : ∀ m ∈ members, IsData m.2) (hread : ∀ m ∈ members, ReadBack m.2) :
    ReadBack (object members) := by
  intro fuel rest hrest hfuel
  cases fuel with
  | zero => simp [write] at hfuel
  | succ fuel =>
    rw [joined, joinedMembers_eq_map]
    simp only [write, List.length_append, List.length_cons] at hfuel
    simp only [write, List.append_assoc, List.cons_append, List.nil_append]
    cases members with
    | nil => rfl
    | cons m ms =>
      have hmembers := readMembers_writeMembers m ms hdata hread fuel rest (by omega)
      obtain ⟨t, ht⟩ := exists_writeMembers_eq m ms
      rw [ht] at hmembers ⊢
      rw [List.cons_append] at hmembers ⊢
      rw [readDocument, skipBlank_cons (by decide)]
      split
      next heq => exact absurd (List.cons.inj heq).1 (by decide)
      next => rw [hmembers]; rfl

theorem Data.readBack {j : Json} (h : IsData j) : ReadBack j := by
  induction h with
  | null => exact readBack_null
  | bool b => exact readBack_bool b
  | int h => exact readBack_int h
  | text h => exact readBack_text _
  | array h ih => exact readBack_array h ih
  | object hnames h ih => exact readBack_object h ih

/-- A document is read back with the surrogates of its strings joined. -/
theorem read?_write {j : Json} (h : IsData j) : read? (write j) = some j.joined := by
  have hends : Ends [] := fun _ _ heq => absurd heq.symm (List.cons_ne_nil _ _)
  have hread := h.readBack (2 * (write j).length + 1) [] hends (Nat.le_succ _)
  have hblank := skipBlank_write h []
  rw [List.append_nil] at hread hblank
  rw [read?, hblank, hread]
  rfl

end VolumeTunnel.Json
