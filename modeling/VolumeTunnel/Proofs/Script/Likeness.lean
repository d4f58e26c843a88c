import VolumeTunnel.Proofs.Script.Run
import Mathlib.Data.List.Forall2
import Mathlib.Logic.Function.Basic

/-!
# Scripts that are alike

What a script keeps to itself is stated about two scripts. A `Likeness` says which questions and
which replies are alike. Two scripts are alike (`Script.Like`) if they log the same and put
questions that are alike, for as long as they get replies that are alike. What answers them is blind
to the differences (`Script.Blind`) if alike questions in related states get alike replies and leave
related states.

* `Script.Like.run` : before blind answers, alike scripts have runs that are alike;
* `Script.Like.through` : alike scripts stay alike when their questions are answered by scripts over
  other questions that are alike;
* `Script.sentTo`, `Script.answerEach`, `Script.serveEach` : questions to one of several, each with
  a state of its own.
-/

namespace VolumeTunnel

/-- Which questions are alike, and which replies to such questions are. -/
structure Likeness (Q : Type) (R : Q → Type) where
  question : Q → Q → Prop
  reply : (q q' : Q) → R q → R q' → Prop

/-- Questions to one of several are alike if they go to the same one and are alike. -/
def Likeness.toEach (κ : Type) {Q : Type} {R : Q → Type} (l : Likeness Q R) :
    Likeness (κ × Q) (fun q => R q.2) where
  question q q' := q.1 = q'.1 ∧ l.question q.2 q'.2
  reply q q' := l.reply q.2 q'.2

namespace Script

variable {Q Q' : Type} {R : Q → Type} {R' : Q' → Type} {α β γ δ S : Type}

/-- Scripts that log the same and put questions that are alike, for as long as the replies are, with
results related by `post`. -/
inductive Like (l : Likeness Q R) (post : α → β → Prop) : Script Q R α → Script Q R β → Prop
  | done {a : α} {b : β} (h : post a b) : Like l post (.done a) (.done b)
  | tell {r : Record} {x : Script Q R α} {y : Script Q R β} (h : Like l post x y) :
    Like l post (.tell r x) (.tell r y)
  | ask {q q' : Q} {x : R q → Script Q R α} {y : R q' → Script Q R β} (hq : l.question q q')
    (h : ∀ a b, l.reply q q' a b → Like l post (x a) (y b)) :
    Like l post (.ask q x) (.ask q' y)

/-- Answers that do not tell alike questions apart. -/
def Blind (l : Likeness Q R) (rel : S → S → Prop) (answer : (q : Q) → S → R q × S) : Prop :=
  ∀ q q' s s', l.question q q' → rel s s' →
    l.reply q q' (answer q s).1 (answer q' s').1 ∧ rel (answer q s).2 (answer q' s').2

/-- Outcomes of two runs that are alike : the results and the states are related, the questions are
alike one by one, and the records are the same. -/
structure Outcome.Like (l : Likeness Q R) (post : α → β → Prop) (rel : S → S → Prop)
    (o : Outcome Q S α) (o' : Outcome Q S β) : Prop where
  result : post o.result o'.result
  state : rel o.state o'.state
  asked : List.Forall₂ l.question o.asked o'.asked
  told : o.told = o'.told

variable {l : Likeness Q R} {l' : Likeness Q' R'} {post : α → β → Prop} {post' : γ → δ → Prop}
variable {rel : S → S → Prop} {x : Script Q R α} {y : Script Q R β}

theorem Like.bind {f : α → Script Q R γ} {g : β → Script Q R δ} (h : Like l post x y)
    (hfg : ∀ a b, post a b → Like l post' (f a) (g b)) : Like l post' (x.bind f) (y.bind g) := by
  induction h with
  | done h => exact hfg _ _ h
  | tell h ih => exact .tell ih
  | ask hq h ih => exact .ask hq ih

/-- A script is like itself if its questions are, and if its replies are alike only if they are
equal. -/
theorem Like.refl_of_only (hx : x.Only fun q => l.question q q ∧ ∀ a b, l.reply q q a b → a = b) :
    Like l (fun a b => a = b) x x := by
  induction x with
  | done a => exact .done rfl
  | tell r next ih => exact .tell (ih hx)
  | ask q next ih =>
    obtain ⟨⟨hq, hreply⟩, hnext⟩ := hx
    refine .ask hq fun a b hab => ?_
    obtain rfl := hreply a b hab
    exact ih a (hnext a)

/-- Before blind answers, alike scripts have runs that are alike. -/
theorem Like.run {answer : (q : Q) → S → R q × S} (h : Like l post x y)
    (hblind : Blind l rel answer) {s s' : S} (hs : rel s s') :
    Outcome.Like l post rel (x.run answer s) (y.run answer s') := by
  induction h generalizing s s' with
  | done h => exact ⟨h, hs, List.Forall₂.nil, rfl⟩
  | tell h ih =>
    obtain ⟨hresult, hstate, hasked, htold⟩ := ih hs
    exact ⟨hresult, hstate, hasked, congrArg (List.cons _) htold⟩
  | ask hq h ih =>
    obtain ⟨hreply, hnext⟩ := hblind _ _ _ _ hq hs
    obtain ⟨hresult, hstate, hasked, htold⟩ := ih _ _ hreply hnext
    exact ⟨hresult, hstate, List.Forall₂.cons hq hasked, htold⟩

/-- Alike scripts stay alike when alike questions are answered by alike scripts. -/
theorem Like.through {serve : (q : Q) → S → Script Q' R' (R q × S)} (h : Like l post x y)
    (hserve : ∀ q q' s s', l.question q q' → rel s s' →
      Like l' (fun a b => l.reply q q' a.1 b.1 ∧ rel a.2 b.2) (serve q s) (serve q' s'))
    {s s' : S} (hs : rel s s') :
    Like l' (fun a b => post a.1 b.1 ∧ rel a.2 b.2) (x.through serve s) (y.through serve s') := by
  induction h generalizing s s' with
  | done h => exact .done ⟨h, hs⟩
  | tell h ih => exact .tell (ih hs)
  | ask hq h ih => exact (hserve _ _ _ _ hq hs).bind fun a b hab => ih _ _ hab.1 hab.2

/-! ## Questions to one of several -/

variable {κ : Type}

/-- The script whose questions all go to `k`. -/
def sentTo (k : κ) : Script Q R α → Script (κ × Q) (fun q => R q.2) α
  | done a => done a
  | tell r next => tell r (next.sentTo k)
  | ask q next => ask (k, q) fun r => (next r).sentTo k

theorem Like.sentTo (h : Like l post x y) (k : κ) :
    Like (l.toEach κ) post (x.sentTo k) (y.sentTo k) := by
  induction h with
  | done h => exact .done h
  | tell h ih => exact .tell ih
  | ask hq h ih => exact .ask ⟨rfl, hq⟩ ih

variable [DecidableEq κ]

/-- Each of several answers what goes to it, from a state of its own. -/
def answerEach (answer : (q : Q) → S → R q × S) (q : κ × Q) (s : κ → S) : R q.2 × (κ → S) :=
  ((answer q.2 (s q.1)).1, Function.update s q.1 (answer q.2 (s q.1)).2)

/-- Each of several serves what goes to it by questions to one of its own. -/
def serveEach (serve : (q : Q) → S → Script Q' R' (R q × S)) (q : κ × Q) (s : κ → S) :
    Script (κ × Q') (fun q' => R' q'.2) (R q.2 × (κ → S)) :=
  ((serve q.2 (s q.1)).sentTo q.1).bind fun r => .done (r.1, Function.update s q.1 r.2)

/-- Related states of all stay related when those of one change to related ones. -/
theorem rel_update {s s' : κ → S} (hs : ∀ k, rel (s k) (s' k)) {a a' : S} (ha : rel a a') (k j : κ) :
    rel (Function.update s k a j) (Function.update s' k a' j) := by
  rw [Function.update_apply, Function.update_apply]
  split
  · exact ha
  · exact hs j

theorem Blind.each {answer : (q : Q) → S → R q × S} (h : Blind l rel answer) :
    Blind (l.toEach κ) (fun s s' => ∀ k, rel (s k) (s' k)) (answerEach answer) := by
  rintro ⟨k, q⟩ ⟨k', q'⟩ s s' ⟨hk, hq⟩ hs
  obtain rfl : k = k' := hk
  obtain ⟨hreply, hstate⟩ := h q q' (s k) (s' k) hq (hs k)
  exact ⟨hreply, rel_update hs hstate k⟩

theorem like_serveEach {serve : (q : Q) → S → Script Q' R' (R q × S)}
    (hserve : ∀ q q' s s', l.question q q' → rel s s' →
      Like l' (fun a b => l.reply q q' a.1 b.1 ∧ rel a.2 b.2) (serve q s) (serve q' s'))
    (q q' : κ × Q) (s s' : κ → S) (hq : (l.toEach κ).question q q') (hs : ∀ k, rel (s k) (s' k)) :
    Like (l'.toEach κ)
      (fun a b => (l.toEach κ).reply q q' a.1 b.1 ∧ ∀ k, rel (a.2 k) (b.2 k))
      (serveEach serve q s) (serveEach serve q' s') := by
  obtain ⟨k, q⟩ := q
  obtain ⟨k', q'⟩ := q'
  obtain ⟨hk, hq⟩ := hq
  obtain rfl : k = k' := hk
  refine ((hserve q q' (s k) (s' k) hq (hs k)).sentTo k).bind fun a b hab => ?_
  exact .done ⟨hab.1, rel_update hs hab.2 k⟩

end Script

end VolumeTunnel
