import VolumeTunnel.Proofs.Cluster.Keyed
import VolumeTunnel.Proofs.Script.Run

/-!
# What a script depends on

A request to create or update an object reads one place of a keyed store and writes no other
(`Request.Writes`). A script of such requests depends on the places that it writes only : on two
stores that agree there, it has the same result and leaves stores that agree there
(`UnreliableStore.AgreeOn.run`). Every other place stays as it was (`Script.Only.find?_run`).

Requests may be made to fail, by what they do and at which place (`Request.target`). If the failures
depend on nothing else, they stay the same however many requests there were
(`UnreliableStore.Steady.failure_run`).
-/

namespace VolumeTunnel

/-- What a request is about : what it does, and at which place, if its object has one. A list is
about all places of a kind and a namespace. -/
def Request.target : Request → Verb × Option Place
  | get kind key => (.read, some ⟨kind, key⟩)
  | create r => (.create, r.placed.toOption.map Prod.fst)
  | update r => (.replace, r.placed.toOption.map Prod.fst)
  | list kind space _ => (.list, some ⟨kind, ⟨space, .none⟩⟩)

/-- A request to create or update an object at one of the places. -/
def Request.Writes (F : Place → Prop) (q : Request) : Prop :=
  ∃ o p, o.place? = some p ∧ F p ∧ (q = .create (.object o) ∨ q = .update (.object o))

variable {F : Place → Prop} {q : Request}

/-! ## Single requests -/

namespace Store

variable {s s' : Store} {p p' : Place} {o : Object}

theorem find?_put_congr (hp : p.Textual) (h : s.find? p' = s'.find? p') :
    (s.put p o).find? p' = (s'.put p o).find? p' := by
  by_cases hpp : p' = p
  · subst hpp
    rw [find?_put_self s o hp, find?_put_self s' o hp]
  · rw [find?_put_of_ne s o hp hpp, find?_put_of_ne s' o hp hpp, h]

/-- The answer to a request depends on the place that it writes. -/
theorem answer_congr (hq : q.Writes F) (h : ∀ p, F p → s.find? p = s'.find? p) :
    (answer q s).1 = (answer q s').1 ∧
      ∀ p, F p → (answer q s).2.find? p = (answer q s').2.find? p := by
  obtain ⟨o, p, ho, hp, hq⟩ := hq
  have hput := fun p' hp' => @find?_put_congr s s' p p' o (Object.place?_textual ho) (h p' hp')
  have hplace := h p hp
  rcases hq with rfl | rfl
  · simp only [answer]
    cases hfind : s'.find? p with
    | none =>
      rw [create_of_free ho hfind, create_of_free ho (hplace.trans hfind)]
      exact ⟨rfl, hput⟩
    | some x =>
      rw [create_of_taken ho hfind, create_of_taken ho (hplace.trans hfind)]
      exact ⟨rfl, h⟩
  · simp only [answer]
    cases hfind : s'.find? p with
    | none =>
      rw [update_of_free ho hfind, update_of_free ho (hplace.trans hfind)]
      exact ⟨rfl, h⟩
    | some x =>
      rw [update_of_taken ho hfind, update_of_taken ho (hplace.trans hfind)]
      exact ⟨rfl, hput⟩

/-- A request leaves every place that it does not write. -/
theorem find?_answer_of_not (hq : q.Writes F) (hp : ¬F p) : (answer q s).2.find? p = s.find? p := by
  obtain ⟨o, p', ho, hp', hq⟩ := hq
  have hne : p ≠ p' := fun h => hp (h ▸ hp')
  rcases hq with rfl | rfl
  · rw [answer, create_state ho, find?_keep_of_ne s o (Object.place?_textual ho) hne]
  · rw [answer, find?_update_of_ne ho hne]

end Store

namespace UnreliableStore

/-- The failures of requests depend on what they are about only. -/
def Steady (w : UnreliableStore) : Prop :=
  ∀ n n' q q', q.target = q'.target → w.failure n q = w.failure n' q'

/-- The same requests fail, and the same objects are at the places. -/
structure AgreeOn (F : Place → Prop) (w w' : UnreliableStore) : Prop where
  failure : w.failure = w'.failure
  find? : ∀ p, F p → w.store.find? p = w'.store.find? p

variable {w w' : UnreliableStore} {α : Type} {s : ClusterScript α}

theorem AgreeOn.answer (h : AgreeOn F w w') (hq : q.Writes F) :
    (answer q w).1 = (answer q w').1 ∧ AgreeOn F (answer q w).2 (answer q w').2 := by
  have hfailure :
      (UnreliableStore.answer q w).2.failure = (UnreliableStore.answer q w').2.failure := by
    rw [answer_failure, answer_failure, h.failure]
  cases hfail : w'.failure 0 q with
  | some e =>
    have hfail' : w.failure 0 q = some e := by rw [h.failure, hfail]
    refine ⟨by rw [answer_of_some hfail, answer_of_some hfail'], hfailure, ?_⟩
    rw [answer_of_some hfail, answer_of_some hfail']
    exact h.find?
  | none =>
    have hfail' : w.failure 0 q = none := by rw [h.failure, hfail]
    obtain ⟨hreply, hfind⟩ := Store.answer_congr hq h.find?
    refine ⟨by rw [answer_of_none hfail, answer_of_none hfail', hreply], hfailure, ?_⟩
    rw [answer_of_none hfail, answer_of_none hfail']
    exact hfind

/-! ## Scripts -/

/-- A script has the same result on stores that agree on the places that it writes, and they agree
after it. -/
theorem AgreeOn.run (h : AgreeOn F w w') (hs : s.Only (Request.Writes F)) :
    (s.run UnreliableStore.answer w).result = (s.run UnreliableStore.answer w').result ∧
      AgreeOn F (s.run UnreliableStore.answer w).state (s.run UnreliableStore.answer w').state := by
  induction s generalizing w w' with
  | done a => exact ⟨rfl, h⟩
  | tell r next ih => exact ih h hs
  | ask q next ih =>
    obtain ⟨hreply, hagree⟩ := h.answer hs.1
    have hrest := ih (UnreliableStore.answer q w').1 hagree (hs.2 _)
    rw [← hreply] at hrest
    simpa only [Script.run, Script.Outcome.consAsked, hreply] using hrest

theorem Steady.failure_answer (h : w.Steady) (q : Request) :
    (UnreliableStore.answer q w).2.failure = w.failure := by
  rw [answer_failure]
  funext n q'
  exact h (n + 1) n q' q' rfl

/-- Failures stay the same over a script. -/
theorem Steady.failure_run (h : w.Steady) (s : ClusterScript α) :
    (s.run UnreliableStore.answer w).state.failure = w.failure := by
  induction s generalizing w with
  | done a => rfl
  | tell r next ih => exact ih h
  | ask q next ih =>
    have hfailure := h.failure_answer q
    have hsteady : (UnreliableStore.answer q w).2.Steady := by
      rw [Steady, hfailure]
      exact h
    exact (ih _ hsteady).trans hfailure

/-- A script that leaves the store as it was changes nothing. -/
theorem Steady.state_run (h : w.Steady)
    (hs : (s.run UnreliableStore.answer w).state.store = w.store) :
    (s.run UnreliableStore.answer w).state = w := by
  have hfailure := h.failure_run s
  cases hstate : (s.run UnreliableStore.answer w).state with
  | mk store failure =>
    rw [hstate] at hs hfailure
    dsimp only at hs hfailure
    rw [hs, hfailure]

end UnreliableStore

/-- A script leaves every place that it does not write. -/
theorem Script.Only.find?_run {α : Type} {s : ClusterScript α} (hs : s.Only (Request.Writes F))
    {p : Place} (hp : ¬F p) (w : UnreliableStore) :
    (s.run UnreliableStore.answer w).state.store.find? p = w.store.find? p := by
  have hstep : ∀ q (st : UnreliableStore), q.Writes F → st.store.find? p = w.store.find? p →
      (UnreliableStore.answer q st).2.store.find? p = w.store.find? p := by
    intro q st hq h
    rcases UnreliableStore.answer_cases q st with ⟨e, ha⟩ | ha
    · rw [ha]
      exact h
    · rw [ha]
      exact (Store.find?_answer_of_not hq hp).trans h
  exact hs.invariant hstep rfl

end VolumeTunnel
