import VolumeTunnel.Proofs.Script.Run
import Mathlib.Logic.Function.Basic

/-!
# Scripts that run side by side

Any number of scripts share one state. A scheduler lets one of them do one thing at a time : put a
question, which is answered at once, or log a record. Between two questions of a script, any others
may be answered.

What a script achieves in spite of the others is stated against a relation on states that all of
them respect (`Script.Ensures`). It is proved of one script on its own and carries over to any
schedule (`Pool.ensures_run`). A script that takes a bounded number of turns (`Script.Within`) is
done when it has had them (`Pool.done_of_count`).
-/

namespace VolumeTunnel

variable {Q : Type} {R : Q → Type} {α β S ι : Type}

namespace Script

/-! ## One script among others -/

/-- Whatever the others do within `rely`, before each question of the script and after the last, the
script ends with a result and a state that satisfy `post`. -/
def Ensures (answer : (q : Q) → S → R q × S) (rely : S → S → Prop) (post : α → S → Prop) :
    Script Q R α → S → Prop
  | done a, s => ∀ s', rely s s' → post a s'
  | tell _ next, s => ∀ s', rely s s' → Ensures answer rely post next s'
  | ask q next, s => ∀ s', rely s s' →
    Ensures answer rely post (next (answer q s').1) (answer q s').2

variable {answer : (q : Q) → S → R q × S} {rely : S → S → Prop} {post : α → S → Prop}

/-- What the others do does not keep a script from what it ensures. -/
theorem Ensures.of_rely (htrans : ∀ s₁ s₂ s₃, rely s₁ s₂ → rely s₂ s₃ → rely s₁ s₃)
    {x : Script Q R α} {s s' : S} (h : x.Ensures answer rely post s) (hs : rely s s') :
    x.Ensures answer rely post s' := by
  cases x with
  | done a => exact fun s'' hs' => h s'' (htrans _ _ _ hs hs')
  | tell r next => exact fun s'' hs' => h s'' (htrans _ _ _ hs hs')
  | ask q next => exact fun s'' hs' => h s'' (htrans _ _ _ hs hs')

theorem Ensures.imp {post' : α → S → Prop} {x : Script Q R α} {s : S}
    (h : x.Ensures answer rely post s) (hpost : ∀ a s, post a s → post' a s) :
    x.Ensures answer rely post' s := by
  induction x generalizing s with
  | done a => exact fun s' hs => hpost a s' (h s' hs)
  | tell r next ih => exact fun s' hs => ih (h s' hs)
  | ask q next ih => exact fun s' hs => ih _ (h s' hs)

/-- A script that respects `rely` itself ends in a state related to the one it starts in. -/
theorem Ensures.and_rely {P : Q → Prop} {x : Script Q R α} {s₀ s : S}
    (h : x.Ensures answer rely post s) (hx : x.Only P)
    (htrans : ∀ s₁ s₂ s₃, rely s₁ s₂ → rely s₂ s₃ → rely s₁ s₃)
    (hrely : ∀ q s, P q → rely s (answer q s).2) (hs₀ : rely s₀ s) :
    x.Ensures answer rely (fun a s' => post a s' ∧ rely s₀ s') s := by
  induction x generalizing s with
  | done a => exact fun s' hs => ⟨h s' hs, htrans _ _ _ hs₀ hs⟩
  | tell r next ih => exact fun s' hs => ih (h s' hs) hx (htrans _ _ _ hs₀ hs)
  | ask q next ih =>
    exact fun s' hs => ih _ (h s' hs) (hx.2 _)
      (htrans _ _ _ (htrans _ _ _ hs₀ hs) (hrely q s' hx.1))

/-- One script after another ensures what the second ensures after the first. -/
theorem Ensures.bind {post' : β → S → Prop} {x : Script Q R α} {f : α → Script Q R β} {s : S}
    (h : x.Ensures answer rely (fun a s' => (f a).Ensures answer rely post' s') s)
    (hrefl : ∀ s, rely s s) : (x.bind f).Ensures answer rely post' s := by
  induction x generalizing s with
  | done a => exact h s (hrefl s)
  | tell r next ih => exact fun s' hs => ih (h s' hs)
  | ask q next ih => exact fun s' hs => ih _ (h s' hs)

/-- The script is done after `n` turns at most. -/
def Within : Nat → Script Q R α → Prop
  | _, done _ => True
  | 0, tell _ _ => False
  | 0, ask _ _ => False
  | n + 1, tell _ next => Within n next
  | n + 1, ask _ next => ∀ r, Within n (next r)

theorem within_done (n : Nat) (a : α) : (done a : Script Q R α).Within n := by
  cases n <;> exact trivial

theorem Within.succ {n : Nat} {x : Script Q R α} (h : x.Within n) : x.Within (n + 1) := by
  induction x generalizing n with
  | done a => exact trivial
  | tell r next ih =>
    cases n with
    | zero => exact h.elim
    | succ n => exact ih h
  | ask q next ih =>
    cases n with
    | zero => exact h.elim
    | succ n => exact fun r => ih r (h r)

theorem Within.add {n : Nat} {x : Script Q R α} (h : x.Within n) (m : Nat) : x.Within (n + m) := by
  induction m with
  | zero => exact h
  | succ m ih => exact ih.succ

theorem Within.bind {m n : Nat} {x : Script Q R α} {f : α → Script Q R β} (hx : x.Within m)
    (hf : ∀ a, (f a).Within n) : (x.bind f).Within (m + n) := by
  induction x generalizing m with
  | done a =>
    rw [Nat.add_comm]
    exact (hf a).add m
  | tell r next ih =>
    cases m with
    | zero => exact hx.elim
    | succ m =>
      rw [Nat.succ_add]
      exact ih hx
  | ask q next ih =>
    cases m with
    | zero => exact hx.elim
    | succ m =>
      rw [Nat.succ_add]
      exact fun r => ih r (hx r)

theorem Within.done_of_zero {x : Script Q R α} (h : x.Within 0) : ∃ a, x = done a := by
  cases x with
  | done a => exact ⟨a, rfl⟩
  | tell r next => exact h.elim
  | ask q next => exact h.elim

end Script

/-! ## Pools -/

/-- Scripts with names, and the state that they share. -/
structure Pool (ι : Type) (Q : Type) (R : Q → Type) (α S : Type) where
  scripts : ι → Script Q R α
  state : S

namespace Pool

variable [DecidableEq ι]

/-- Lets the script of one name take a turn. The answers may depend on who asks. -/
def step (answer : ι → (q : Q) → S → R q × S) (p : Pool ι Q R α S) (i : ι) : Pool ι Q R α S :=
  match p.scripts i with
  | .done _ => p
  | .tell _ next => { p with scripts := Function.update p.scripts i next }
  | .ask q next =>
    ⟨Function.update p.scripts i (next (answer i q p.state).1), (answer i q p.state).2⟩

/-- Lets scripts take turns in the order of a schedule. -/
def run (answer : ι → (q : Q) → S → R q × S) (p : Pool ι Q R α S) (schedule : List ι) :
    Pool ι Q R α S :=
  schedule.foldl (step answer) p

variable {answer : ι → (q : Q) → S → R q × S} {p : Pool ι Q R α S} {P : ι → Q → Prop}

theorem run_cons (i : ι) (schedule : List ι) :
    p.run answer (i :: schedule) = (p.step answer i).run answer schedule := rfl

/-- No script puts other questions than it may. -/
theorem only_step (hp : ∀ i, (p.scripts i).Only (P i)) (i : ι) :
    ∀ j, ((p.step answer i).scripts j).Only (P j) := by
  have hi := hp i
  rw [step]
  cases hs : p.scripts i with
  | done a => exact hp
  | tell r next =>
    rw [hs] at hi
    exact (Function.forall_update_iff p.scripts fun j x => x.Only (P j)).2 ⟨hi, fun j _ => hp j⟩
  | ask q next =>
    rw [hs] at hi
    exact (Function.forall_update_iff p.scripts fun j x => x.Only (P j)).2
      ⟨hi.2 _, fun j _ => hp j⟩

/-- A turn does what an allowed question does, or nothing. -/
theorem step_state (hp : ∀ i, (p.scripts i).Only (P i)) (i : ι) :
    (p.step answer i).state = p.state ∨
      ∃ q, P i q ∧ (p.step answer i).state = (answer i q p.state).2 := by
  have hi := hp i
  rw [step]
  cases hs : p.scripts i with
  | done a => exact Or.inl rfl
  | tell r next => exact Or.inl rfl
  | ask q next =>
    rw [hs] at hi
    exact Or.inr ⟨q, hi.1, rfl⟩

/-- What allowed questions preserve holds after any schedule if it holds before. -/
theorem invariant_run {I : S → Prop} (hp : ∀ i, (p.scripts i).Only (P i))
    (hstep : ∀ i q s, P i q → I s → I (answer i q s).2) (h : I p.state) (schedule : List ι) :
    I (p.run answer schedule).state := by
  induction schedule generalizing p with
  | nil => exact h
  | cons i schedule ih =>
    rw [run_cons]
    refine ih (only_step hp i) ?_
    rcases step_state hp i with hs | ⟨q, hq, hs⟩
    · rw [hs]
      exact h
    · rw [hs]
      exact hstep i q p.state hq h

/-! ## What each script ensures -/

variable {rely : S → S → Prop} {post : ι → α → S → Prop}

theorem ensures_step (h : ∀ i, (p.scripts i).Ensures (answer i) rely (post i) p.state)
    (hp : ∀ i, (p.scripts i).Only (P i)) (hrefl : ∀ s, rely s s)
    (htrans : ∀ s₁ s₂ s₃, rely s₁ s₂ → rely s₂ s₃ → rely s₁ s₃)
    (hrely : ∀ i q s, P i q → rely s (answer i q s).2) (i : ι) :
    ∀ j, ((p.step answer i).scripts j).Ensures (answer j) rely (post j) (p.step answer i).state := by
  have hi := h i
  have hpi := hp i
  rw [step]
  cases hs : p.scripts i with
  | done a => exact h
  | tell r next =>
    rw [hs] at hi
    exact (Function.forall_update_iff p.scripts fun j x =>
      x.Ensures (answer j) rely (post j) p.state).2 ⟨hi _ (hrefl _), fun j _ => h j⟩
  | ask q next =>
    rw [hs] at hi hpi
    exact (Function.forall_update_iff p.scripts fun j x =>
      x.Ensures (answer j) rely (post j) (answer i q p.state).2).2
        ⟨hi _ (hrefl _), fun j _ => (h j).of_rely htrans (hrely i q p.state hpi.1)⟩

/-- After any schedule, each script still ensures what it did before. -/
theorem ensures_run (h : ∀ i, (p.scripts i).Ensures (answer i) rely (post i) p.state)
    (hp : ∀ i, (p.scripts i).Only (P i)) (hrefl : ∀ s, rely s s)
    (htrans : ∀ s₁ s₂ s₃, rely s₁ s₂ → rely s₂ s₃ → rely s₁ s₃)
    (hrely : ∀ i q s, P i q → rely s (answer i q s).2) (schedule : List ι) :
    ∀ i, ((p.run answer schedule).scripts i).Ensures (answer i) rely (post i)
      (p.run answer schedule).state := by
  induction schedule generalizing p with
  | nil => exact h
  | cons i schedule ih => exact ih (ensures_step h hp hrefl htrans hrely i) (only_step hp i)

/-! ## Turns -/

theorem scripts_step_of_ne {i j : ι} (h : j ≠ i) :
    (p.step answer i).scripts j = p.scripts j := by
  rw [step]
  cases p.scripts i with
  | done a => rfl
  | tell r next => exact Function.update_of_ne h _ _
  | ask q next => exact Function.update_of_ne h _ _

/-- A turn brings a script one step nearer to its end. -/
theorem within_step_self {i : ι} {n : Nat} (h : (p.scripts i).Within n) :
    ((p.step answer i).scripts i).Within (n - 1) := by
  rw [step]
  cases hs : p.scripts i with
  | done a =>
    dsimp only
    rw [hs]
    exact Script.within_done _ _
  | tell r next =>
    rw [hs] at h
    dsimp only
    rw [Function.update_self]
    cases n with
    | zero => exact h.elim
    | succ n => exact h
  | ask q next =>
    rw [hs] at h
    dsimp only
    rw [Function.update_self]
    cases n with
    | zero => exact h.elim
    | succ n => exact h _

theorem within_run {j : ι} {n : Nat} (h : (p.scripts j).Within n) (schedule : List ι) :
    ((p.run answer schedule).scripts j).Within (n - schedule.count j) := by
  induction schedule generalizing p n with
  | nil => exact h
  | cons i schedule ih =>
    rw [run_cons]
    by_cases hij : i = j
    · subst hij
      rw [List.count_cons_self, Nat.add_comm, ← Nat.sub_sub]
      exact ih (within_step_self h)
    · rw [List.count_cons_of_ne hij]
      refine ih ?_
      rw [scripts_step_of_ne (Ne.symm hij)]
      exact h

/-- A script that has had as many turns as it takes is done. -/
theorem done_of_count {j : ι} {n : Nat} (h : (p.scripts j).Within n) {schedule : List ι}
    (hn : n ≤ schedule.count j) : ∃ a, (p.run answer schedule).scripts j = .done a := by
  have hrun : ((p.run answer schedule).scripts j).Within (n - schedule.count j) :=
    within_run h schedule
  rw [Nat.sub_eq_zero_of_le hn] at hrun
  exact hrun.done_of_zero

end Pool

end VolumeTunnel
