import VolumeTunnel.Script
import Mathlib.Data.List.Forall2

/-!
# Scripts on answers that agree

A question may be answered in two ways : directly, or by a script over other questions. The second
way refines the first (`Script.Refines`) if its replies agree with the direct ones, its state shows
the direct state, and exactly one of the questions that it puts counts, which is the one for the
question that it answers.

Two scripts agree (`Script.Agree`) if they put the same questions for as long as they get replies
that agree. Then their runs in the two ways agree, however long they are (`Script.Agree.through`).
-/

namespace VolumeTunnel.Script

variable {Q Q' : Type} {R : Q → Type} {R' : Q' → Type} {α β γ δ C S T : Type}

/-- Scripts that log the same and put the same allowed questions for as long as the replies agree,
with results related by `post`. -/
inductive Agree (allowed : Q → Prop) (same : (q : Q) → R q → R q → Prop) (post : α → β → Prop) :
    Script Q R α → Script Q R β → Prop
  | done {a : α} {b : β} (h : post a b) : Agree allowed same post (.done a) (.done b)
  | tell {r : Record} {x : Script Q R α} {y : Script Q R β} (h : Agree allowed same post x y) :
    Agree allowed same post (.tell r x) (.tell r y)
  | ask {q : Q} {x : R q → Script Q R α} {y : R q → Script Q R β} (hq : allowed q)
    (h : ∀ a b, same q a b → Agree allowed same post (x a) (y b)) :
    Agree allowed same post (.ask q x) (.ask q y)

variable {allowed : Q → Prop} {same : (q : Q) → R q → R q → Prop} {post : α → β → Prop}

theorem Agree.bind {post' : γ → δ → Prop} {x : Script Q R α} {y : Script Q R β}
    {f : α → Script Q R γ} {g : β → Script Q R δ} (h : Agree allowed same post x y)
    (hfg : ∀ a b, post a b → Agree allowed same post' (f a) (g b)) :
    Agree allowed same post' (x.bind f) (y.bind g) := by
  induction h with
  | done h => exact hfg _ _ h
  | tell h ih => exact .tell ih
  | ask hq h ih => exact .ask hq ih

/-- Answers by scripts, of which one question counts, refine direct answers. -/
def Refines (allowed : Q → Prop) (same : (q : Q) → R q → R q → Prop) (counts : Q' → Bool)
    (issues : Q → Q' → Prop) (shows : C → T → S → Prop)
    (serve : (q : Q) → C → Script Q' R' (R q × C)) (answer' : (q' : Q') → T → R' q' × T)
    (answer : (q : Q) → S → R q × S) : Prop :=
  ∀ q c t s, allowed q → shows c t s →
    same q ((serve q c).run answer' t).result.1 (answer q s).1 ∧
    shows ((serve q c).run answer' t).result.2 ((serve q c).run answer' t).state (answer q s).2 ∧
    ∃ q', issues q q' ∧ ((serve q c).run answer' t).asked.filter counts = [q']

/-- Scripts that agree have results that agree, in states that show each other, by one counted
question for each of theirs. -/
theorem Agree.through {counts : Q' → Bool} {issues : Q → Q' → Prop} {shows : C → T → S → Prop}
    {serve : (q : Q) → C → Script Q' R' (R q × C)} {answer' : (q' : Q') → T → R' q' × T}
    {answer : (q : Q) → S → R q × S} {x : Script Q R α} {y : Script Q R β}
    (h : Agree allowed same post x y)
    (href : Refines allowed same counts issues shows serve answer' answer) {c : C} {t : T} {s : S}
    (hs : shows c t s) :
    post ((x.through serve c).run answer' t).result.1 (y.run answer s).result ∧
    shows ((x.through serve c).run answer' t).result.2 ((x.through serve c).run answer' t).state
      (y.run answer s).state ∧
    List.Forall₂ issues (y.run answer s).asked
      (((x.through serve c).run answer' t).asked.filter counts) := by
  induction h generalizing c t s with
  | done h => exact ⟨h, hs, List.Forall₂.nil⟩
  | tell h ih => exact ih hs
  | @ask q x y hq h ih =>
    obtain ⟨hsame, hshows, q', hissues, hasked⟩ := href q c t s hq hs
    obtain ⟨hpost, hshows', hrest⟩ := ih _ _ hsame hshows
    simp only [Script.through, run_bind]
    refine ⟨hpost, hshows', ?_⟩
    rw [List.filter_append, hasked]
    exact List.Forall₂.cons hissues hrest

end VolumeTunnel.Script
