import VolumeTunnel.Failure.Basic
import Mathlib.Data.List.Forall2

/-!
# The text of failures reported together

Failures that are gathered may themselves have been gathered, to any depth : a failure is a tree
whose leaves (`Failure.IsLeaf`) are those that gather nothing.

* `Failure.reads_iff` : the rule for the text of a tree, from its leaves to its root
  (`Failure.Reads`);
* `Failure.text_plug_wrapped` : a failure that is gathered alone, any number of times and anywhere
  in a tree, leaves the text of the tree as it is;
* `Failure.leaves_inOrder` : the text of each leaf is in that of the tree, from left to right;
* `Failure.gather?_eq_none_iff`, `Failure.gather?_of_exists` : what is gathered from entries some
  of which may be nothing.

Proofs go by `Failure.tree_induction` : a leaf, or a gathering with the statement for its parts.
-/

namespace VolumeTunnel

namespace Text

/-- The texts occur in a text from left to right, apart from one another. -/
inductive InOrder : List Text → Text → Prop where
  | nil (rest : Text) : InOrder [] rest
  | cons (before t : Text) {ts : List Text} {rest : Text} (h : InOrder ts rest) :
    InOrder (t :: ts) (before ++ (t ++ rest))

namespace InOrder

variable {ts us : List Text} {s t : Text}

theorem self (t : Text) : InOrder [t] t := by
  simpa using cons [] t (nil [])

theorem append (h : InOrder ts s) (h' : InOrder us t) : InOrder (ts ++ us) (s ++ t) := by
  induction h with
  | nil rest =>
    cases h' with
    | nil rest' => exact nil _
    | cons before t h' =>
      rw [List.nil_append, ← List.append_assoc]
      exact cons _ t h'
  | cons before t h ih =>
    rw [List.cons_append, List.append_assoc, List.append_assoc]
    exact cons before t ih

/-- Something in front of a text. -/
theorem prepend (s : Text) (h : InOrder ts t) : InOrder ts (s ++ t) :=
  (nil s).append h

/-- Something after a text. -/
theorem extend (h : InOrder ts t) (s : Text) : InOrder ts (t ++ s) := by
  simpa using h.append (nil s)

variable {α : Type} {pieces : α → List Text} {whole : α → Text} {xs : List α}

/-- What occurs in the parts of a text occurs in the whole. -/
theorem join (sep : Text) (h : ∀ x ∈ xs, InOrder (pieces x) (whole x)) :
    InOrder (xs.flatMap pieces) (Text.join sep (xs.map whole)) := by
  induction xs with
  | nil => exact nil _
  | cons x xs ih =>
    rw [List.forall_mem_cons] at h
    have hrest := ih h.2
    cases xs with
    | nil => simpa [Text.join] using h.1
    | cons y ys => exact (h.1.extend sep).append hrest

theorem combine (h : ∀ x ∈ xs, InOrder (pieces x) (whole x)) :
    InOrder (xs.flatMap pieces) (combine (xs.map whole)) := by
  have hjoin := join ", " h
  match xs with
  | [x] => simpa [VolumeTunnel.combine, Text.join] using hjoin
  | [] => exact nil _
  | x :: y :: xs => exact (hjoin.prepend [.char '[']).extend [.char ']']

end InOrder

end Text

namespace Failure

/-- A failure that gathers no others. -/
def IsLeaf (f : Failure) : Prop :=
  ∀ headline parts, f ≠ several headline parts

/-- From the leaves to the root of a tree of failures. -/
theorem tree_induction {P : Failure → Prop} (leaf : ∀ f, f.IsLeaf → P f)
    (several : ∀ headline parts, (∀ e ∈ parts, P e) → P (several headline parts)) (f : Failure) :
    P f := by
  match f with
  | .several headline parts =>
    exact several headline parts fun e he => tree_induction leaf several e
  | general _ | configuration _ | request _ | pod _ | connection _ | rejected _
  | noClusterSettings _ | unsupportedKind _ | unsupportedObject _ | unknownLogLevel _
  | invalid _ | runtime _ | fault _ => exact leaf _ fun _ _ => nofun
termination_by sizeOf f
decreasing_by
  have := List.sizeOf_lt_of_mem he
  simp only [Failure.several.sizeOf_spec]
  omega

theorem text_several (headline : Text) (parts : List Failure) :
    (several headline parts).text = combine (parts.map text) := by
  rw [text, texts_eq_map]

/-! ## The rule for the text -/

/-- How the text of a failure comes from those of its leaves. -/
inductive Reads : Failure → Text → Prop where
  | leaf {f : Failure} (h : f.IsLeaf) : Reads f f.text
  | one {headline : Text} {e : Failure} {t : Text} (h : Reads e t) :
    Reads (several headline [e]) t
  | many {headline : Text} {parts : List Failure} {ts : List Text} (hlength : parts.length ≠ 1)
    (h : List.Forall₂ Reads parts ts) :
    Reads (several headline parts) (.char '[' :: Text.join ", " ts ++ [.char ']'])

theorem combine_of_length_ne {ts : List Text} (h : ts.length ≠ 1) :
    combine ts = .char '[' :: Text.join ", " ts ++ [.char ']'] := by
  match ts with
  | [] => rfl
  | [_] => exact absurd rfl h
  | _ :: _ :: _ => rfl

theorem reads_text (f : Failure) : Reads f f.text := by
  induction f using tree_induction with
  | leaf f h => exact .leaf h
  | several headline parts ih =>
    rw [text_several]
    by_cases hlength : parts.length = 1
    · obtain ⟨e, rfl⟩ := List.length_eq_one_iff.1 hlength
      exact .one (ih e List.mem_cons_self)
    · rw [combine_of_length_ne (by rwa [List.length_map])]
      refine .many hlength (List.forall₂_map_right_iff.2 ?_)
      exact List.forall₂_same.2 ih

/-- The text of a failure is the one that the rule gives. -/
theorem reads_iff {f : Failure} {t : Text} : Reads f t ↔ t = f.text := by
  refine ⟨fun h => ?_, fun h => h ▸ reads_text f⟩
  induction f using tree_induction generalizing t with
  | leaf f hleaf =>
    cases h with
    | leaf => rfl
    | one | many => exact absurd rfl (hleaf _ _)
  | several headline parts ih =>
    rw [text_several]
    cases h with
    | leaf hleaf => exact absurd rfl (hleaf _ _)
    | one h => exact ih _ List.mem_cons_self h
    | @many _ _ ts hlength h =>
      have hts : List.Forall₂ (· = ·) (parts.map text) ts := by
        rw [List.forall₂_map_left_iff]
        have hboth := (List.forall₂_and_left parts ts).2 ⟨fun e he t => ih e he (t := t), h⟩
        exact hboth.imp fun e t h => (h.1 t h.2).symm
      rw [List.forall₂_eq_eq_eq] at hts
      rw [combine_of_length_ne (by rwa [List.length_map]), hts]

/-! ## Gathered alone -/

/-- A gathering with one of its parts left open. -/
structure Opening where
  headline : Text
  before : List Failure
  after : List Failure

/-- A failure in its place in a tree, given from the inside. -/
def plug (place : List Opening) (e : Failure) : Failure :=
  place.foldl (fun e o => several o.headline (o.before ++ e :: o.after)) e

/-- The text of a tree depends on the one of a failure within it only by its text. -/
theorem text_plug_congr {e e' : Failure} (h : e.text = e'.text) (place : List Opening) :
    (plug place e).text = (plug place e').text := by
  induction place generalizing e e' with
  | nil => exact h
  | cons o place ih =>
    refine ih ?_
    rw [text_several, text_several, List.map_append, List.map_append, List.map_cons,
      List.map_cons, h]

/-- A failure gathered alone, again and again. -/
def wrapped (headlines : List Text) (e : Failure) : Failure :=
  headlines.foldr (fun headline e => several headline [e]) e

theorem text_wrapped (headlines : List Text) (e : Failure) :
    (wrapped headlines e).text = e.text := by
  induction headlines with
  | nil => rfl
  | cons headline headlines ih => exact ih

/-- A failure gathered alone leaves the text of a tree as it is, wherever it is in the tree. -/
theorem text_plug_wrapped (place : List Opening) (headlines : List Text) (e : Failure) :
    (plug place (wrapped headlines e)).text = (plug place e).text :=
  text_plug_congr (text_wrapped headlines e) place

/-! ## Leaves -/

mutual

/-- The failures of a tree that gather no others, from left to right. -/
def leaves : Failure → List Failure
  | several _ parts => leavesOfAll parts
  | other => [other]

/-- The leaves of several trees. -/
def leavesOfAll : List Failure → List Failure
  | [] => []
  | e :: es => leaves e ++ leavesOfAll es

end

theorem leavesOfAll_eq_flatMap (es : List Failure) : leavesOfAll es = es.flatMap leaves := by
  induction es with
  | nil => rfl
  | cons e es ih => rw [leavesOfAll, ih, List.flatMap_cons]

theorem leaves_of_isLeaf {f : Failure} (h : f.IsLeaf) : f.leaves = [f] := by
  cases f with
  | several headline parts => exact absurd rfl (h headline parts)
  | _ => rfl

/-- The texts of the leaves occur in the text of a tree, from left to right. -/
theorem leaves_inOrder (f : Failure) : Text.InOrder (f.leaves.map text) f.text := by
  induction f using tree_induction with
  | leaf f h =>
    rw [leaves_of_isLeaf h]
    exact .self f.text
  | several headline parts ih =>
    rw [leaves, leavesOfAll_eq_flatMap, List.map_flatMap, text_several]
    exact .combine ih

/-! ## Entries -/

/-- Nothing is gathered exactly if no entry is a failure. -/
theorem gather?_eq_none_iff {entries : List (Option Failure)} :
    gather? entries = none ↔ ∀ e ∈ entries, e = none := by
  rw [gather?]
  split
  · next hnone => exact iff_of_true rfl (List.filterMap_eq_nil_iff.1 hnone)
  · next hsome => exact iff_of_false nofun fun hall => hsome (List.filterMap_eq_nil_iff.2 hall)

/-- What is gathered consists of the entries that are failures, in order. -/
theorem gather?_of_exists {entries : List (Option Failure)} (h : ∃ e ∈ entries, e ≠ none) :
    ∃ headline, gather? entries = some (several headline (entries.filterMap id)) := by
  rw [gather?]
  split
  · next hnone =>
    obtain ⟨e, he, hne⟩ := h
    exact absurd (List.filterMap_eq_nil_iff.1 hnone e he) hne
  · next hsome => exact ⟨_, rfl⟩

end Failure

end VolumeTunnel
