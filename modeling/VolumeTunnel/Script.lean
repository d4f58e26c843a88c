import VolumeTunnel.Logging.Record

/-!
# Scripts

A script is a computation that may log records and put questions to something outside, and goes on
with the answers. It is a tree: what answers the questions, in which state and in which order with
those of other scripts, is chosen when it runs.

* `Script.bind` : one script after another;
* `Script.through` : every question answered by a script over other questions;
* `Script.run` : a run against answers that depend on a state;
* `Script.run_bind` : a run of one script after another is their runs in turn.
-/

namespace VolumeTunnel

/-- A computation with questions `Q`, each with its type of answers, and a result in `α`. -/
inductive Script (Q : Type) (R : Q → Type) (α : Type) where
  | done (result : α)
  | tell (record : Record) (next : Script Q R α)
  | ask (question : Q) (next : R question → Script Q R α)

namespace Script

variable {Q : Type} {R : Q → Type} {α β S : Type}

/-- The script that goes on with the result of the first. -/
def bind : Script Q R α → (α → Script Q R β) → Script Q R β
  | done a, f => f a
  | tell r next, f => tell r (bind next f)
  | ask q next, f => ask q fun answer => bind (next answer) f

/-- The script that puts one question. -/
def request (q : Q) : Script Q R (R q) :=
  ask q done

/-- The script that logs one record. -/
def log (r : Record) : Script Q R Unit :=
  tell r (done ())

instance : Monad (Script Q R) where
  pure := done
  bind := bind

/-- The script whose questions are answered by scripts over other questions. What answers them may
keep a state. -/
def through {Q' : Type} {R' : Q' → Type} (serve : (q : Q) → S → Script Q' R' (R q × S)) :
    Script Q R α → S → Script Q' R' (α × S)
  | done a, s => done (a, s)
  | tell r next, s => tell r (through serve next s)
  | ask q next, s => (serve q s).bind fun answer => through serve (next answer.1) answer.2

/-- What a run leaves: the result, the state after it, the questions and the records in order. -/
structure Outcome (Q S α : Type) where
  result : α
  state : S
  asked : List Q
  told : List Record

/-- The outcome with a question before the others. -/
def Outcome.consAsked (q : Q) (o : Outcome Q S α) : Outcome Q S α :=
  { o with asked := q :: o.asked }

/-- The outcome with a record before the others. -/
def Outcome.consTold (r : Record) (o : Outcome Q S α) : Outcome Q S α :=
  { o with told := r :: o.told }

/-- Runs a script against answers that depend on a state and change it. -/
def run (answer : (q : Q) → S → R q × S) : Script Q R α → S → Outcome Q S α
  | done a, s => ⟨a, s, [], []⟩
  | tell r next, s => (run answer next s).consTold r
  | ask q next, s => (run answer (next (answer q s).1) (answer q s).2).consAsked q

@[simp] theorem done_bind (a : α) (f : α → Script Q R β) : bind (done a) f = f a := rfl

theorem bind_done (s : Script Q R α) : bind s done = s := by
  induction s with
  | done a => rfl
  | tell r next ih => simp [bind, ih]
  | ask q next ih => simp [bind, ih]

theorem bind_assoc {γ : Type} (s : Script Q R α) (f : α → Script Q R β) (g : β → Script Q R γ) :
    bind (bind s f) g = bind s fun a => bind (f a) g := by
  induction s with
  | done a => rfl
  | tell r next ih => simp [bind, ih]
  | ask q next ih => simp [bind, ih]

/-- A run of one script after another is their runs in turn. -/
theorem run_bind (answer : (q : Q) → S → R q × S) (s : Script Q R α) (f : α → Script Q R β)
    (st : S) :
    run answer (bind s f) st =
      let first := run answer s st
      let second := run answer (f first.result) first.state
      ⟨second.result, second.state, first.asked ++ second.asked, first.told ++ second.told⟩ := by
  induction s generalizing st with
  | done a => rfl
  | tell r next ih => simp [bind, run, Outcome.consTold, ih]
  | ask q next ih => simp [bind, run, Outcome.consAsked, ih]

end Script

end VolumeTunnel
