import VolumeTunnel.Script

/-!
# What runs of a script preserve

A script does not choose its answers, but it does choose its questions. If every question it may put
satisfies a predicate (`Script.Only`), so does every question of each of its runs
(`Script.Only.asked`), and a preorder on states that such questions respect relates every state that
a run goes through to all later ones (`Script.Only.pairwise_trail`).

* `Script.Only` : what is true of every question of a script, whatever the answers;
* `Script.trail` : the states that a run goes through, the last one included;
* `Script.exchanges` : the questions of a run with the answers that they got;
* `Script.Answered` : answers that are given one after the other, from one state to another.
-/

namespace VolumeTunnel.Script

variable {Q : Type} {R : Q → Type} {α β S : Type}

/-! ## The questions of a script -/

/-- Every question that the script may put satisfies `P`. -/
def Only (P : Q → Prop) : Script Q R α → Prop
  | done _ => True
  | tell _ next => Only P next
  | ask q next => P q ∧ ∀ r, Only P (next r)

theorem Only.bind {P : Q → Prop} {s : Script Q R α} {f : α → Script Q R β} (hs : s.Only P)
    (hf : ∀ a, (f a).Only P) : (s.bind f).Only P := by
  induction s with
  | done a => exact hf a
  | tell r next ih => exact ih hs
  | ask q next ih => exact ⟨hs.1, fun r => ih r (hs.2 r)⟩

theorem Only.imp {P P' : Q → Prop} (h : ∀ q, P q → P' q) {s : Script Q R α} (hs : s.Only P) :
    s.Only P' := by
  induction s with
  | done a => exact trivial
  | tell r next ih => exact ih hs
  | ask q next ih => exact ⟨h q hs.1, fun r => ih r (hs.2 r)⟩

/-- A run puts no other questions than the script may. -/
theorem Only.asked {P : Q → Prop} {s : Script Q R α} (hs : s.Only P)
    (answer : (q : Q) → S → R q × S) (st : S) : ∀ q ∈ (s.run answer st).asked, P q := by
  induction s generalizing st with
  | done a =>
    intro q hq
    simp [run] at hq
  | tell r next ih => exact ih hs st
  | ask q next ih =>
    intro q' hq'
    rcases List.mem_cons.1 hq' with rfl | hq'
    · exact hs.1
    · exact ih _ (hs.2 _) _ q' hq'

/-- What allowed questions preserve holds after a run if it holds before. -/
theorem Only.invariant {P : Q → Prop} {I : S → Prop} {s : Script Q R α} (hs : s.Only P)
    {answer : (q : Q) → S → R q × S} (hstep : ∀ q st, P q → I st → I (answer q st).2) {st : S}
    (h : I st) : I (s.run answer st).state := by
  induction s generalizing st with
  | done a => exact h
  | tell r next ih => exact ih hs h
  | ask q next ih => exact ih _ (hs.2 _) (hstep q st hs.1 h)

/-! ## The states of a run -/

/-- The states that a run goes through, from the one it starts in to the one it ends in. -/
def trail (answer : (q : Q) → S → R q × S) : Script Q R α → S → List S
  | done _, s => [s]
  | tell _ next, s => trail answer next s
  | ask q next, s => s :: trail answer (next (answer q s).1) (answer q s).2

variable {answer : (q : Q) → S → R q × S}
variable {P : Q → Prop} {rel : S → S → Prop} {s : Script Q R α}

/-- What no allowed question destroys is kept from the start of a run to each of its states. -/
theorem Only.rel_of_mem_trail (hs : s.Only P) (hrefl : ∀ st, rel st st)
    (htrans : ∀ st₁ st₂ st₃, rel st₁ st₂ → rel st₂ st₃ → rel st₁ st₃)
    (hstep : ∀ q st, P q → rel st (answer q st).2) (st : S) :
    ∀ moment ∈ s.trail answer st, rel st moment := by
  induction s generalizing st with
  | done a =>
    intro moment hm
    rw [List.mem_singleton.1 hm]
    exact hrefl st
  | tell r next ih => exact ih hs st
  | ask q next ih =>
    intro moment hm
    rcases List.mem_cons.1 hm with rfl | hm
    · exact hrefl moment
    · exact htrans _ _ _ (hstep q st hs.1) (ih _ (hs.2 _) _ moment hm)

/-- What no allowed question destroys is kept from each state of a run to every later one. -/
theorem Only.pairwise_trail (hs : s.Only P) (hrefl : ∀ st, rel st st)
    (htrans : ∀ st₁ st₂ st₃, rel st₁ st₂ → rel st₂ st₃ → rel st₁ st₃)
    (hstep : ∀ q st, P q → rel st (answer q st).2) (st : S) :
    (s.trail answer st).Pairwise rel := by
  induction s generalizing st with
  | done a => exact List.pairwise_singleton _ _
  | tell r next ih => exact ih hs st
  | ask q next ih =>
    refine List.pairwise_cons.2 ⟨fun moment hm => ?_, ih _ (hs.2 _) _⟩
    exact htrans _ _ _ (hstep q st hs.1)
      ((hs.2 _).rel_of_mem_trail hrefl htrans hstep _ moment hm)

/-! ## The answers of a run -/

/-- The questions of a run in order, each with its answer. -/
def exchanges (answer : (q : Q) → S → R q × S) : Script Q R α → S → List (Sigma R)
  | done _, _ => []
  | tell _ next, s => exchanges answer next s
  | ask q next, s => ⟨q, (answer q s).1⟩ :: exchanges answer (next (answer q s).1) (answer q s).2

theorem exchanges_bind (s : Script Q R α) (f : α → Script Q R β) (st : S) :
    (s.bind f).exchanges answer st = s.exchanges answer st ++
      (f (s.run answer st).result).exchanges answer (s.run answer st).state := by
  induction s generalizing st with
  | done a => rfl
  | tell r next ih => exact ih st
  | ask q next ih => exact congrArg (List.cons _) (ih _ _)

theorem map_fst_exchanges (s : Script Q R α) (st : S) :
    (s.exchanges answer st).map Sigma.fst = (s.run answer st).asked := by
  induction s generalizing st with
  | done a => rfl
  | tell r next ih => exact ih st
  | ask q next ih => exact congrArg (List.cons q) (ih _ _)

/-- No other questions are answered than the script may put. -/
theorem Only.exchanges (hs : s.Only P) (st : S) : ∀ x ∈ s.exchanges answer st, P x.1 := by
  intro x hx
  refine hs.asked answer st x.1 ?_
  rw [← map_fst_exchanges]
  exact List.mem_map_of_mem hx

/-- Questions that get these answers one after the other, from one state to another. -/
inductive Answered (answer : (q : Q) → S → R q × S) : S → List (Sigma R) → S → Prop
  | none (st : S) : Answered answer st [] st
  | next (q : Q) {st st' : S} {xs : List (Sigma R)} (h : Answered answer (answer q st).2 xs st') :
    Answered answer st (⟨q, (answer q st).1⟩ :: xs) st'

/-- The questions of a run are answered from the state that it starts in to the one it ends in. -/
theorem answered_exchanges (s : Script Q R α) (st : S) :
    Answered answer st (s.exchanges answer st) (s.run answer st).state := by
  induction s generalizing st with
  | done a => exact .none st
  | tell r next ih => exact ih st
  | ask q next ih => exact .next q (ih _ _)

end VolumeTunnel.Script
