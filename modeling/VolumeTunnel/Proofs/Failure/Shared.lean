import VolumeTunnel.Proofs.Failure.Gathered
import Mathlib.Data.Finset.Card
import Mathlib.Logic.Relation
import Mathlib.Order.Interval.Finset.Nat

/-!
# Failures gathered in lists that change

A failure that gathers others keeps a list of its own, and others may hold it while the list grows.
Here lists and aggregates have numbers (`Failure.Memory`); what an aggregate is at some time, as a
failure, is `Failure.Memory.failure`.

* `Failure.Memory.failure_aggregate` : as long as no aggregate is within itself
  (`Failure.Memory.Acyclic`), it is its headline with its errors as they are now;
* `Failure.Memory.failure_construct`, `Failure.Memory.failure_append` : making an aggregate is
  `Failure.gather`, and adding to its errors is `Failure.append`;
* `Failure.Memory.errors_run`, `Failure.Memory.headline_run` : the errors and the headline of an
  aggregate after any changes that leave its list to it;
* `Failure.report_of_gathered` : what a report of several failures consists of and says.

What an aggregate is depends only on those that it reaches (`Failure.Memory.view_congr`), and with
no cycle there are no more of them in a row than there are (`Failure.Memory.Acyclic.depth_le`).
-/

namespace VolumeTunnel

namespace Failure

/-- An error as it is held : one that stays as it is, or an aggregate by its number. -/
inductive Held where
  | fixed (e : Failure)
  | aggregate (number : Nat)

/-- An aggregate : its headline, and the number of the list of its errors. -/
structure Aggregate where
  headline : Text
  errors : Nat

/-- Lists and aggregates, numbered as they were made. Every aggregate has a list of its own. -/
structure Memory where
  lists : List (List Held)
  aggregates : List Aggregate
  listed : ∀ x ∈ aggregates, x.errors < lists.length
  unshared : (aggregates.map (·.errors)).Nodup

namespace Memory

variable {m m' : Memory} {a b l : Nat} {h e : Held} {x : Aggregate}

/-- What is in a list. -/
def contents (m : Memory) (l : Nat) : List Held :=
  m.lists[l]?.getD []

def headline (m : Memory) (a : Nat) : Text :=
  (m.aggregates[a]?.map (·.headline)).getD []

def errors (m : Memory) (a : Nat) : List Held :=
  (m.aggregates[a]?.map fun x => m.contents x.errors).getD []

/-- What is held, down to a depth. -/
def view (m : Memory) : Nat → Held → Failure
  | _, .fixed e => e
  | 0, .aggregate a => several (m.headline a) []
  | depth + 1, .aggregate a => several (m.headline a) ((m.errors a).map (view m depth))

/-- What is held, as a failure. -/
def failure (m : Memory) (h : Held) : Failure :=
  m.view m.aggregates.length h

def text (m : Memory) (h : Held) : Text :=
  (m.failure h).text

/-! ## Changes -/

/-- Nothing yet. -/
def empty : Memory :=
  ⟨[], [], nofun, List.nodup_nil⟩

/-- A new list. -/
def list (m : Memory) (contents : List Held) : Memory where
  lists := m.lists ++ [contents]
  aggregates := m.aggregates
  listed := fun x hx => by
    rw [List.length_append]
    exact Nat.lt_add_right _ (m.listed x hx)
  unshared := m.unshared

/-- Other contents for a list. -/
def write (m : Memory) (l : Nat) (contents : List Held) : Memory where
  lists := m.lists.set l contents
  aggregates := m.aggregates
  listed := fun x hx => by
    rw [List.length_set]
    exact m.listed x hx
  unshared := m.unshared

/-- A new aggregate with a list of its own. -/
def enter (m : Memory) (headline : Text) (contents : List Held) : Memory where
  lists := m.lists ++ [contents]
  aggregates := m.aggregates ++ [⟨headline, m.lists.length⟩]
  listed := by
    simp only [List.forall_mem_append, List.forall_mem_singleton, List.length_append,
      List.length_singleton]
    exact ⟨fun x hx => Nat.lt_succ_of_lt (m.listed x hx), Nat.lt_succ_self _⟩
  unshared := by
    rw [List.map_append, List.nodup_append]
    refine ⟨m.unshared, List.nodup_singleton _, fun o ho p hp => ?_⟩
    obtain ⟨x, hx, rfl⟩ := List.mem_map.1 ho
    rw [List.map_singleton, List.mem_singleton] at hp
    rw [hp]
    exact Nat.ne_of_lt (m.listed x hx)

/-- A new aggregate of what is in a list. The contents are copied; the headline is the text that it
has then. -/
def construct (m : Memory) (l : Nat) : Memory :=
  m.enter ((m.enter [] (m.contents l)).text (.aggregate m.aggregates.length)) (m.contents l)

/-- One more error at the end of those of an aggregate. -/
def append (m : Memory) (a : Nat) (e : Held) : Memory :=
  match m.aggregates[a]? with
  | some x => m.write x.errors (m.contents x.errors ++ [e])
  | none => m

/-! ## What is read back -/

theorem errors_of_getElem? (hx : m.aggregates[a]? = some x) : m.errors a = m.contents x.errors := by
  rw [errors, hx, Option.map_some, Option.getD_some]

theorem headline_of_getElem? (hx : m.aggregates[a]? = some x) : m.headline a = x.headline := by
  rw [headline, hx, Option.map_some, Option.getD_some]

/-- A number that no aggregate has yet. -/
theorem errors_of_le (ha : m.aggregates.length ≤ a) : m.errors a = [] := by
  rw [errors, List.getElem?_eq_none ha, Option.map_none, Option.getD_none]

theorem contents_write_self (hl : l < m.lists.length) (c : List Held) :
    (m.write l c).contents l = c := by
  rw [contents, write, List.getElem?_set_self hl, Option.getD_some]

theorem contents_write_of_ne {k : Nat} (hne : l ≠ k) (c : List Held) :
    (m.write l c).contents k = m.contents k := by
  rw [contents, write, List.getElem?_set_ne hne, contents]

/-- Another list changes nothing for an aggregate. -/
theorem errors_write_of_ne (c : List Held) (hl : ∀ x, m.aggregates[a]? = some x → x.errors ≠ l) :
    (m.write l c).errors a = m.errors a := by
  cases hx : m.aggregates[a]? with
  | none =>
    have ha := List.getElem?_eq_none_iff.1 hx
    rw [errors_of_le ha, errors_of_le (m := m.write l c) ha]
  | some x =>
    rw [errors_of_getElem? hx, errors_of_getElem? (m := m.write l c) hx,
      contents_write_of_ne (hl x hx).symm]

/-- A new list leaves the others as they are. -/
theorem getD_append_of_mem (hx : x ∈ m.aggregates) (c : List Held) :
    ((m.lists ++ [c])[x.errors]?).getD [] = m.contents x.errors := by
  rw [List.getElem?_append_left (m.listed x hx), contents]

theorem errors_list (c : List Held) (a : Nat) : (m.list c).errors a = m.errors a := by
  cases hx : m.aggregates[a]? with
  | none =>
    have ha := List.getElem?_eq_none_iff.1 hx
    rw [errors_of_le ha, errors_of_le (m := m.list c) ha]
  | some x =>
    rw [errors_of_getElem? hx, errors_of_getElem? (m := m.list c) hx]
    exact getD_append_of_mem (List.mem_of_getElem? hx) c

theorem length_enter (m : Memory) (t : Text) (c : List Held) :
    (m.enter t c).aggregates.length = m.aggregates.length + 1 := by
  rw [enter, List.length_append, List.length_singleton]

theorem getElem?_enter_self (m : Memory) (t : Text) (c : List Held) :
    (m.enter t c).aggregates[m.aggregates.length]? = some ⟨t, m.lists.length⟩ :=
  List.getElem?_concat_length

theorem getElem?_enter (hx : m.aggregates[a]? = some x) (t : Text) (c : List Held) :
    (m.enter t c).aggregates[a]? = some x :=
  (List.getElem?_append_left (List.getElem?_eq_some_iff.1 hx).1).trans hx

theorem errors_enter_self (t : Text) (c : List Held) :
    (m.enter t c).errors m.aggregates.length = c := by
  rw [errors_of_getElem? (m.getElem?_enter_self t c), contents, enter,
    List.getElem?_concat_length, Option.getD_some]

theorem errors_enter_of_ne (ha : a ≠ m.aggregates.length) (t : Text) (c : List Held) :
    (m.enter t c).errors a = m.errors a := by
  cases hx : m.aggregates[a]? with
  | none =>
    have hle := List.getElem?_eq_none_iff.1 hx
    rw [errors_of_le hle, errors_of_le]
    rw [length_enter]
    omega
  | some x =>
    rw [errors_of_getElem? hx, errors_of_getElem? (getElem?_enter hx t c)]
    exact getD_append_of_mem (List.mem_of_getElem? hx) c

theorem headline_enter_of_ne (ha : a ≠ m.aggregates.length) (t : Text) (c : List Held) :
    (m.enter t c).headline a = m.headline a := by
  cases hx : m.aggregates[a]? with
  | none =>
    have hle := List.getElem?_eq_none_iff.1 hx
    have hnone : (m.enter t c).aggregates[a]? = none := by
      rw [List.getElem?_eq_none_iff, length_enter]
      omega
    rw [headline, hnone, headline, hx]
  | some x => rw [headline_of_getElem? hx, headline_of_getElem? (getElem?_enter hx t c)]

theorem headline_enter_self (t : Text) (c : List Held) :
    (m.enter t c).headline m.aggregates.length = t :=
  headline_of_getElem? (m.getElem?_enter_self t c)

/-- Two aggregates do not share a list. -/
theorem eq_of_errors_eq {y : Aggregate} (hx : m.aggregates[a]? = some x)
    (hy : m.aggregates[b]? = some y) (hxy : x.errors = y.errors) : a = b := by
  have hlt : a < (m.aggregates.map (·.errors)).length := by
    rw [List.length_map]
    exact (List.getElem?_eq_some_iff.1 hx).1
  refine (List.getElem?_inj hlt m.unshared).1 ?_
  rw [List.getElem?_map, List.getElem?_map, hx, hy, Option.map_some, Option.map_some, hxy]

theorem errors_append_self (hx : m.aggregates[a]? = some x) (e : Held) :
    (m.append a e).errors a = m.errors a ++ [e] := by
  have happend : m.append a e = m.write x.errors (m.contents x.errors ++ [e]) := by
    simp only [append, hx]
  rw [happend, errors_of_getElem? hx, errors_of_getElem? (m := m.write _ _) hx,
    contents_write_self (m.listed x (List.mem_of_getElem? hx))]

theorem errors_append_of_ne (hne : b ≠ a) (e : Held) : (m.append a e).errors b = m.errors b := by
  rw [append]
  split
  · next x hx =>
    exact errors_write_of_ne _ fun y hy hxy => hne (eq_of_errors_eq hy hx hxy)
  · rfl

/-- The aggregates themselves are not touched. -/
theorem aggregates_append (m : Memory) (a : Nat) (e : Held) :
    (m.append a e).aggregates = m.aggregates := by
  rw [append]
  split <;> rfl

theorem headline_congr (haggregates : m'.aggregates = m.aggregates) : m'.headline = m.headline := by
  funext a
  rw [headline, haggregates, headline]

/-! ## What is within an aggregate -/

/-- An aggregate holds another one. -/
def Holds (m : Memory) (a b : Nat) : Prop :=
  .aggregate b ∈ m.errors a

/-- No aggregate is within itself. -/
def Acyclic (m : Memory) : Prop :=
  ∀ a, ¬ Relation.TransGen m.Holds a a

/-- What is held has an aggregate within it or is that aggregate. -/
def Reaches (m : Memory) : Held → Nat → Prop
  | .fixed _, _ => False
  | .aggregate a, b => Relation.ReflTransGen m.Holds a b

theorem Reaches.of_mem (he : e ∈ m.errors a) (h : m.Reaches e b) : m.Reaches (.aggregate a) b := by
  cases e with
  | fixed => exact h.elim
  | aggregate c => exact .head he h

/-- In an acyclic memory no error of an aggregate has the aggregate within it. -/
theorem Acyclic.not_reaches (hm : m.Acyclic) (he : e ∈ m.errors a) : ¬ m.Reaches e a := by
  cases e with
  | fixed => exact id
  | aggregate c => exact fun h => hm a (.head' he h)

/-- With fewer holdings there is no new cycle. -/
theorem Acyclic.mono (hm : m'.Acyclic) (h : ∀ a, m.errors a ⊆ m'.errors a) : m.Acyclic :=
  fun a hcycle => hm a (Relation.TransGen.mono (fun b _ hholds => h b hholds) a a hcycle)

theorem acyclic_of_lt (h : ∀ a b, m.Holds a b → b < a) : m.Acyclic := by
  have hlt : ∀ a b, Relation.TransGen m.Holds a b → b < a := fun a b hab => by
    induction hab with
    | single hab => exact h a _ hab
    | tail _ hbc ih => exact Nat.lt_trans (h _ _ hbc) ih
  exact fun a haa => Nat.lt_irrefl a (hlt a a haa)

/-- What is held is the same for memories that agree on all that it reaches. -/
theorem view_congr (n : Nat) (hsame : ∀ b, m.Reaches h b →
    m'.headline b = m.headline b ∧ m'.errors b = m.errors b) : m'.view n h = m.view n h := by
  induction n generalizing h with
  | zero =>
    cases h with
    | fixed => rfl
    | aggregate a => rw [view, view, (hsame a .refl).1]
  | succ n ih =>
    cases h with
    | fixed => rfl
    | aggregate a =>
      rw [view, view, (hsame a .refl).1, (hsame a .refl).2]
      refine congrArg _ (List.map_congr_left fun e he => ih fun b hb => hsame b (hb.of_mem he))

/-- What an aggregate holds is the same for memories that differ only in this aggregate. -/
theorem Acyclic.view_eq_of_mem (hm : m'.Acyclic) (he : e ∈ m'.errors a)
    (hsame : ∀ b, b ≠ a → m.headline b = m'.headline b ∧ m.errors b = m'.errors b) (n : Nat) :
    m'.view n e = m.view n e :=
  (view_congr n fun b hb => hsame b fun hba => hm.not_reaches he (hba ▸ hb)).symm

/-- The text of what is held does not depend on the headlines. -/
theorem text_view_congr (herrors : ∀ a, m'.errors a = m.errors a) (n : Nat) (h : Held) :
    (m'.view n h).text = (m.view n h).text := by
  induction n generalizing h with
  | zero => cases h <;> rfl
  | succ n ih =>
    cases h with
    | fixed => rfl
    | aggregate a =>
      rw [view, view, text_several, text_several, herrors, List.map_map, List.map_map]
      exact congrArg _ (List.map_congr_left fun e _ => ih e)

/-! ## Depth -/

open Classical in
/-- The aggregates within an aggregate. -/
noncomputable def below (m : Memory) (a : Nat) : Finset Nat :=
  {b ∈ Finset.range m.aggregates.length | Relation.TransGen m.Holds a b}

theorem mem_below : b ∈ m.below a ↔ b < m.aggregates.length ∧ Relation.TransGen m.Holds a b := by
  simp only [below, Finset.mem_filter, Finset.mem_range]

/-- How many aggregates there may be one within the other. -/
noncomputable def depth (m : Memory) : Held → Nat
  | .fixed _ => 0
  | .aggregate a => if a < m.aggregates.length then (m.below a).card + 1 else 0

theorem Acyclic.depth_lt (hm : m.Acyclic) (he : e ∈ m.errors a) :
    m.depth e < m.depth (.aggregate a) := by
  have ha : a < m.aggregates.length := by
    by_contra hle
    rw [errors_of_le (Nat.le_of_not_lt hle)] at he
    exact List.not_mem_nil he
  rw [depth, if_pos ha]
  cases e with
  | fixed => exact Nat.succ_pos _
  | aggregate b =>
    rw [depth]
    split
    · next hb =>
      refine Nat.succ_lt_succ (Finset.card_lt_card (Finset.ssubset_iff.2 ⟨b, fun h => ?_, ?_⟩))
      · exact hm b (mem_below.1 h).2
      · intro c hc
        rcases Finset.mem_insert.1 hc with rfl | hc
        · exact mem_below.2 ⟨hb, .single he⟩
        · exact mem_below.2 ⟨(mem_below.1 hc).1, .head he (mem_below.1 hc).2⟩
    · exact Nat.succ_pos _

theorem Acyclic.depth_le (hm : m.Acyclic) (h : Held) : m.depth h ≤ m.aggregates.length := by
  cases h with
  | fixed => exact Nat.zero_le _
  | aggregate a =>
    rw [depth]
    split
    · next ha =>
      rw [Nat.succ_le_iff, ← Finset.card_range m.aggregates.length]
      refine Finset.card_lt_card (Finset.ssubset_iff.2 ⟨a, fun h => hm a (mem_below.1 h).2, ?_⟩)
      intro b hb
      rcases Finset.mem_insert.1 hb with rfl | hb
      · exact Finset.mem_range.2 ha
      · exact Finset.mem_range.2 (mem_below.1 hb).1
    · exact Nat.zero_le _

/-- Beyond its depth, what is held looks the same. -/
theorem Acyclic.view_succ (hm : m.Acyclic) {n : Nat} (hn : m.depth h ≤ n) :
    m.view (n + 1) h = m.view n h := by
  induction n generalizing h with
  | zero =>
    cases h with
    | fixed => rfl
    | aggregate a =>
      have ha : m.errors a = [] := by
        refine List.eq_nil_iff_forall_not_mem.2 fun e he => ?_
        exact absurd (hm.depth_lt he) (by omega)
      rw [view, view, ha, List.map_nil]
  | succ n ih =>
    cases h with
    | fixed => rfl
    | aggregate a =>
      rw [view, view]
      refine congrArg _ (List.map_congr_left fun e he => ih ?_)
      have := hm.depth_lt he
      omega

/-- An aggregate is its headline with its errors as they are now. -/
theorem failure_aggregate (hm : m.Acyclic) (a : Nat) :
    m.failure (.aggregate a) = several (m.headline a) ((m.errors a).map m.failure) :=
  (hm.view_succ (hm.depth_le _)).symm

/-- The text of an aggregate follows its errors. -/
theorem text_aggregate (hm : m.Acyclic) (a : Nat) :
    m.text (.aggregate a) = combine ((m.errors a).map m.text) := by
  rw [text, failure_aggregate hm, text_several, List.map_map]
  rfl

/-! ## Making and adding -/

theorem length_construct (m : Memory) (l : Nat) :
    (m.construct l).aggregates.length = m.aggregates.length + 1 :=
  m.length_enter _ _

theorem getElem?_construct (m : Memory) (l : Nat) :
    (m.construct l).aggregates[m.aggregates.length]? =
      some ⟨(m.enter [] (m.contents l)).text (.aggregate m.aggregates.length), m.lists.length⟩ :=
  m.getElem?_enter_self _ _

/-- The headline of an aggregate is the text that it is made with. -/
theorem headline_construct (m : Memory) (l : Nat) :
    (m.construct l).headline m.aggregates.length =
      (m.construct l).text (.aggregate m.aggregates.length) := by
  have herrors (t : Text) (a : Nat) :
      (m.enter t (m.contents l)).errors a = (m.enter [] (m.contents l)).errors a := by
    by_cases ha : a = m.aggregates.length
    · rw [ha, errors_enter_self, errors_enter_self]
    · rw [errors_enter_of_ne ha, errors_enter_of_ne ha]
  rw [construct, headline_enter_self, text, text, failure, failure, length_enter, length_enter]
  exact (text_view_congr (herrors _) _ _).symm

theorem errors_construct_self (m : Memory) (l : Nat) :
    (m.construct l).errors m.aggregates.length = m.contents l :=
  errors_enter_self _ _

theorem acyclic_of_construct (hm : (m.construct l).Acyclic) : m.Acyclic := by
  refine hm.mono fun a => ?_
  by_cases ha : a = m.aggregates.length
  · rw [errors_of_le (Nat.le_of_eq ha.symm)]
    exact List.nil_subset _
  · rw [construct, errors_enter_of_ne ha]
    exact List.Subset.refl _

/-- Making an aggregate gathers what is in the list. -/
theorem failure_construct (hm : (m.construct l).Acyclic) :
    (m.construct l).failure (.aggregate m.aggregates.length) =
      gather ((m.contents l).map m.failure) := by
  have hacyclic := acyclic_of_construct hm
  have hsame : ∀ e ∈ m.contents l, (m.construct l).failure e = m.failure e := fun e he => by
    rw [← errors_construct_self m l] at he
    rw [failure, length_construct, failure, ← hacyclic.view_succ (hacyclic.depth_le e)]
    exact hm.view_eq_of_mem he
      (fun b hb => ⟨(headline_enter_of_ne hb _ _).symm, (errors_enter_of_ne hb _ _).symm⟩) _
  have hfailure := failure_aggregate hm m.aggregates.length
  rw [headline_construct, text_aggregate hm, errors_construct_self] at hfailure
  rw [hfailure, gather, texts_eq_map, List.map_map, ← List.map_congr_left hsame]
  refine congrArg (several · _) (congrArg combine (List.map_congr_left fun e he => ?_))
  rw [text, hsame e he, Function.comp_apply]

/-- Adding to the errors of an aggregate adds to the failure that it is. -/
theorem failure_append (hx : m.aggregates[a]? = some x) (hm : (m.append a e).Acyclic) :
    (m.append a e).failure (.aggregate a) = (m.failure (.aggregate a)).append (m.failure e) := by
  have herrors := errors_append_self hx e
  have hheadline := headline_congr (m.aggregates_append a e)
  have hacyclic : m.Acyclic := hm.mono fun b => by
    by_cases hb : b = a
    · rw [hb, herrors]
      exact List.subset_append_left _ _
    · rw [errors_append_of_ne hb]
      exact List.Subset.refl _
  have hsame : ∀ f ∈ m.errors a ++ [e], (m.append a e).failure f = m.failure f := fun f hf => by
    rw [← herrors] at hf
    rw [failure, aggregates_append, failure]
    exact hm.view_eq_of_mem hf
      (fun b hb => ⟨by rw [hheadline], (errors_append_of_ne hb e).symm⟩) _
  rw [failure_aggregate hm, failure_aggregate hacyclic, herrors, hheadline,
    List.map_congr_left hsame, List.map_append]
  rfl

/-- Another list changes nothing that is held. -/
theorem failure_write (hl : ∀ x ∈ m.aggregates, x.errors ≠ l) (c : List Held) (h : Held) :
    (m.write l c).failure h = m.failure h :=
  view_congr _ fun _ _ => ⟨rfl, errors_write_of_ne c fun x hx => hl x (List.mem_of_getElem? hx)⟩

/-! ## Many changes -/

/-- A change. -/
inductive Change where
  | list (contents : List Held)
  | write (l : Nat) (contents : List Held)
  | construct (l : Nat)
  | append (a : Nat) (e : Held)

/-- A change does not write to a list. -/
def Change.Spares (l : Nat) : Change → Prop
  | .write k _ => k ≠ l
  | _ => True

/-- What a change adds to the errors of an aggregate. -/
def Change.added (a : Nat) : Change → List Held
  | .append b e => if b = a then [e] else []
  | _ => []

/-- A memory after a change. -/
def step (m : Memory) : Change → Memory
  | .list contents => m.list contents
  | .write l contents => m.write l contents
  | .construct l => m.construct l
  | .append a e => m.append a e

/-- A memory after some changes. -/
def run (m : Memory) (changes : List Change) : Memory :=
  changes.foldl step m

/-- An aggregate stays where it is, with its headline and its list. -/
theorem getElem?_step (hx : m.aggregates[a]? = some x) (change : Change) :
    (m.step change).aggregates[a]? = some x := by
  cases change with
  | list => exact hx
  | write => exact hx
  | construct => exact getElem?_enter hx _ _
  | append b e => rwa [step, aggregates_append]

/-- A change that leaves the list of an aggregate to it adds what it says. -/
theorem errors_step (hx : m.aggregates[a]? = some x) {change : Change}
    (hspares : change.Spares x.errors) :
    (m.step change).errors a = m.errors a ++ change.added a := by
  cases change with
  | list contents => exact (errors_list contents a).trans (List.append_nil _).symm
  | write l contents =>
    refine (errors_write_of_ne contents fun y hy hl => hspares ?_).trans (List.append_nil _).symm
    rw [← hl, Option.some.inj (hy.symm.trans hx)]
  | construct l =>
    have ha := Nat.ne_of_lt (List.getElem?_eq_some_iff.1 hx).1
    exact (errors_enter_of_ne ha _ _).trans (List.append_nil _).symm
  | append b e =>
    rw [step, Change.added]
    split
    · next hb => rw [hb, errors_append_self hx]
    · next hb => rw [errors_append_of_ne (Ne.symm hb), List.append_nil]

theorem getElem?_run (hx : m.aggregates[a]? = some x) (changes : List Change) :
    (m.run changes).aggregates[a]? = some x := by
  induction changes generalizing m with
  | nil => exact hx
  | cons change changes ih => exact ih (getElem?_step hx change)

/-- After any changes that leave its list to it, the errors of an aggregate are those that it had
and those added to it, in order. -/
theorem errors_run (hx : m.aggregates[a]? = some x) {changes : List Change}
    (hspares : ∀ change ∈ changes, change.Spares x.errors) :
    (m.run changes).errors a = m.errors a ++ changes.flatMap (Change.added a) := by
  induction changes generalizing m with
  | nil => exact (List.append_nil _).symm
  | cons change changes ih =>
    rw [List.forall_mem_cons] at hspares
    rw [run, List.foldl_cons, ← run, ih (getElem?_step hx change) hspares.2,
      errors_step hx hspares.1, List.append_assoc, List.flatMap_cons]

theorem headline_run (hx : m.aggregates[a]? = some x) (changes : List Change) :
    (m.run changes).headline a = m.headline a := by
  rw [headline_of_getElem? (getElem?_run hx changes), headline_of_getElem? hx]

end Memory

/-! ## The report -/

/-- What a report of several failures consists of and says. Nothing is reported exactly if no entry
is a failure, and otherwise the entries that are. The text of a report is the one that the rule
gives, wherever failures are gathered alone, and has the texts of its leaves from left to right.
As its errors grow, the text follows them and the headline stays, and other lists do not matter. -/
theorem report_of_gathered :
    (∀ entries, (gather? entries = none ↔ ∀ e ∈ entries, e = none) ∧
      ((∃ e ∈ entries, e ≠ none) →
        ∃ headline, gather? entries = some (several headline (entries.filterMap id)))) ∧
    (∀ (f : Failure) t, Reads f t ↔ t = f.text) ∧
    (∀ place headlines e, (plug place (wrapped headlines e)).text = (plug place e).text) ∧
    (∀ f : Failure, Text.InOrder (f.leaves.map text) f.text) ∧
    ∀ (m : Memory) (l : Nat) (changes : List Memory.Change),
      (∀ change ∈ changes, change.Spares m.lists.length) →
      ∀ a made now, a = m.aggregates.length → made = m.construct l → now = made.run changes →
        (made.Acyclic → made.failure (.aggregate a) = gather ((m.contents l).map m.failure)) ∧
        now.errors a = m.contents l ++ changes.flatMap (Memory.Change.added a) ∧
        now.headline a = made.text (.aggregate a) ∧
        (now.Acyclic → now.failure (.aggregate a) =
            several (now.headline a) ((now.errors a).map now.failure) ∧
          Reads (now.failure (.aggregate a)) (now.text (.aggregate a))) ∧
        (∀ e, (now.append a e).Acyclic → (now.append a e).failure (.aggregate a) =
          (now.failure (.aggregate a)).append (now.failure e)) ∧
        ∀ k, (∀ x ∈ now.aggregates, x.errors ≠ k) →
          ∀ c h, (now.write k c).failure h = now.failure h := by
  refine ⟨fun entries => ⟨gather?_eq_none_iff, gather?_of_exists⟩, fun f t => reads_iff,
    text_plug_wrapped, leaves_inOrder, ?_⟩
  rintro m l changes hspares a made now rfl rfl rfl
  have hx := m.getElem?_construct l
  refine ⟨Memory.failure_construct, ?_, ?_, fun hm => ⟨Memory.failure_aggregate hm _, reads_text _⟩,
    fun e => Memory.failure_append (Memory.getElem?_run hx changes),
    fun k hk c => Memory.failure_write hk c⟩
  · rw [Memory.errors_run hx hspares, Memory.errors_construct_self]
  · rw [Memory.headline_run hx, Memory.headline_construct]

/-- A failure gathered alone, and what it is gathered in gathered alone once more. -/
def nested : Memory :=
  (((Memory.empty.list [.fixed (general "a")]).construct 0).list [.aggregate 0])

/-- The inner gathering grows, and the list that the outer one was made from is emptied. -/
def later : List Memory.Change :=
  [.append 0 (.fixed (general "b")), .write 2 []]

/-- Each of the two is made after what it holds. -/
theorem acyclic_nested : ((nested.construct 2).run later).Acyclic := by
  refine Memory.acyclic_of_lt fun a b hholds => ?_
  rw [Memory.Holds] at hholds
  match a with
  | 0 =>
    rw [show Memory.errors _ 0 = [.fixed (general "a"), .fixed (general "b")] from rfl] at hholds
    simp at hholds
  | 1 =>
    rw [show Memory.errors _ 1 = [.aggregate 0] from rfl, List.mem_singleton] at hholds
    cases hholds
    exact Nat.zero_lt_one
  | a + 2 =>
    rw [Memory.errors_of_le (Nat.le_add_left 2 a)] at hholds
    exact absurd hholds List.not_mem_nil

/-- The failure added to the inner gathering shows in the outer one, and the emptied list does
not. -/
theorem report_of_gathered_nested :
    (∃ headline, gather? [none, some (general "a")] = some (several headline [general "a"])) ∧
    (∀ change ∈ later, change.Spares nested.lists.length) ∧
    ((nested.construct 2).run later).Acyclic ∧
    ((nested.construct 2).run later).errors 1 = [.aggregate 0] ∧
    Reads ((nested.construct 2).run later |>.failure (.aggregate 1)) "[a, b]" ∧
    ((nested.construct 2).run later).headline 1 = "a" := by
  have hspares : ∀ change ∈ later, change.Spares nested.lists.length := by
    simp only [later, List.forall_mem_cons, Memory.Change.Spares]
    exact ⟨trivial, by decide, nofun⟩
  obtain ⟨hentries, -, -, -, hmemory⟩ := report_of_gathered
  obtain ⟨-, herrors, hheadline, hnow, -⟩ := hmemory nested 2 later hspares 1 _ _ rfl rfl rfl
  exact ⟨(hentries _).2 ⟨some (general "a"), by simp, nofun⟩, hspares, acyclic_nested, herrors,
    (hnow acyclic_nested).2, hheadline⟩

end Failure

end VolumeTunnel
