import VolumeTunnel.Text.Basic

/-!
# Lines of a text

A text is read line by line, a line being what stands before a line feed (`Text.lines`). Texts that
are written one to a line are read back as they are if and only if none of them holds a line feed
(`Text.lines_flatMap_eq_iff`). Whatever they hold, each of them is read on its own
(`Text.lines_flatMap`).

A line that begins with a word and a blank begins with no other word (`Text.startsWith_word`).
-/

namespace VolumeTunnel.Text

/-- The lines of a text : what stands before each line feed, and what stands after the last one
unless that is nothing. -/
def lines : Text → List Text
  | [] => []
  | c :: t =>
    if c = .char '\n' then [] :: lines t
    else match lines t with
      | [] => [[c]]
      | l :: ls => (c :: l) :: ls

theorem lines_append_lineFeed_ne_nil (s : Text) : lines (s ++ [.char '\n']) ≠ [] := by
  cases s with
  | nil => simp [lines]
  | cons c s =>
    rw [List.cons_append, lines]
    split
    · simp
    · split <;> simp

/-- What stands before a line feed is read apart from what stands after it. -/
theorem lines_append (s t : Text) :
    lines (s ++ .char '\n' :: t) = lines (s ++ [.char '\n']) ++ lines t := by
  induction s with
  | nil => simp [lines]
  | cons c s ih =>
    have hne := lines_append_lineFeed_ne_nil s
    by_cases hc : c = .char '\n'
    · simp [lines, hc, ih]
    · cases hs : lines (s ++ [.char '\n']) with
      | nil => exact absurd hs hne
      | cons l ls => simp [lines, hc, ih, hs]

theorem lines_of_not_mem {s : Text} (h : .char '\n' ∉ s) : lines (s ++ [.char '\n']) = [s] := by
  induction s with
  | nil => simp [lines]
  | cons c s ih =>
    have hc : c ≠ .char '\n' := fun hc => h (hc ▸ List.mem_cons_self)
    have hs : .char '\n' ∉ s := fun hs => h (List.mem_cons_of_mem _ hs)
    simp [lines, hc, ih hs]

/-- Every line feed makes a line more. -/
theorem length_lines (s : Text) :
    (lines (s ++ [.char '\n'])).length = s.count (.char '\n') + 1 := by
  induction s with
  | nil => simp [lines]
  | cons c s ih =>
    have hne := lines_append_lineFeed_ne_nil s
    by_cases hc : c = .char '\n'
    · simp [lines, hc, ih]
    · cases hs : lines (s ++ [.char '\n']) with
      | nil => exact absurd hs hne
      | cons l ls =>
        rw [hs] at ih
        rw [List.count_cons_of_ne hc]
        simpa [lines, hc, hs] using ih

/-! ## Texts written one to a line -/

/-- Texts written one to a line are read one after the other. -/
theorem lines_flatMap (ts : List Text) :
    lines (ts.flatMap fun t => t ++ [.char '\n']) =
      ts.flatMap fun t => lines (t ++ [.char '\n']) := by
  induction ts with
  | nil => rfl
  | cons t ts ih =>
    rw [List.flatMap_cons, List.flatMap_cons, List.append_assoc, List.singleton_append,
      lines_append, ih]

/-- There are as many lines as texts and line feeds in them. -/
theorem length_lines_flatMap (ts : List Text) :
    (lines (ts.flatMap fun t => t ++ [.char '\n'])).length =
      ts.length + ts.flatten.count (.char '\n') := by
  induction ts with
  | nil => rfl
  | cons t ts ih =>
    rw [List.flatMap_cons, List.append_assoc, List.singleton_append, lines_append,
      List.length_append, length_lines, ih, List.length_cons, List.flatten_cons, List.count_append]
    omega

/-- Texts written one to a line are read back if and only if none of them holds a line feed. -/
theorem lines_flatMap_eq_iff (ts : List Text) :
    lines (ts.flatMap fun t => t ++ [.char '\n']) = ts ↔ ∀ t ∈ ts, .char '\n' ∉ t := by
  constructor
  · intro h t ht hmem
    -- a line feed in a text would make more lines than there are texts
    have hlength := length_lines_flatMap ts
    rw [h] at hlength
    have hcount : ts.flatten.count (.char '\n') = 0 := by omega
    exact List.count_eq_zero.1 hcount (List.mem_flatten.2 ⟨t, ht, hmem⟩)
  · intro h
    rw [lines_flatMap]
    induction ts with
    | nil => rfl
    | cons t ts ih =>
      have hts := ih fun u hu => h u (List.mem_cons_of_mem _ hu)
      rw [List.flatMap_cons, lines_of_not_mem (h t List.mem_cons_self), hts]
      rfl

/-! ## First words -/

/-- Two lines that begin with words begin alike only if the words are the same. -/
theorem startsWith_word {k k' : Text} (hk : .char ' ' ∉ k) (hk' : .char ' ' ∉ k') (s s' : Text) :
    startsWith (k' ++ .char ' ' :: s') (k ++ .char ' ' :: s) =
      (decide (k = k') && startsWith s' s) := by
  induction k generalizing k' with
  | nil =>
    cases k' with
    | nil => simp [startsWith]
    | cons c k' =>
      have hc : CodePoint.char ' ' ≠ c := fun hc => hk' (hc ▸ List.mem_cons_self)
      simp [startsWith, List.isPrefixOf, hc]
  | cons c k ih =>
    have hc : c ≠ CodePoint.char ' ' := fun hc => hk (hc ▸ List.mem_cons_self)
    cases k' with
    | nil => simp [startsWith, List.isPrefixOf, hc]
    | cons c' k' =>
      have htail := ih (fun h => hk (List.mem_cons_of_mem _ h))
        (fun h => hk' (List.mem_cons_of_mem _ h))
      simp only [startsWith] at htail
      by_cases hcc : c = c' <;> simp [startsWith, List.isPrefixOf, hcc, htail]

end VolumeTunnel.Text
