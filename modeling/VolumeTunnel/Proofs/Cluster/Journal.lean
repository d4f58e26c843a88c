import VolumeTunnel.Proofs.Cluster.Keyed

/-!
# Journals of requests

A keyed store that writes down who asked what, and whether it took effect. Requests take effect one
at a time, in the order in which they are written down.

What is at a place can be read off the journal if only some requests are sent. Where objects are
only created, it is what the first request to arrive created (`Journal.Begun`); where they are also
replaced, it is what the last request to take effect put there (`Journal.Current`).
-/

namespace VolumeTunnel

/-- A request that was answered : who sent it, and whether it took effect. -/
structure Entry (ι : Type) where
  caller : ι
  request : Request
  served : Bool

/-- A keyed store with the requests that it has answered, the oldest first. -/
structure Journal (ι : Type) where
  store : Store
  entries : List (Entry ι)

/-- Whether an answer is not a failure. -/
def Request.succeeded : (q : Request) → q.Reply → Bool
  | .get _ _, r => r.isOk
  | .create _, r => r.isOk
  | .update _, r => r.isOk
  | .list _ _ _, r => r.isOk

variable {ι : Type}

namespace Entry

/-- The request would store an object at a place. -/
def Aims (e : Entry ι) (p : Place) (o : Object) : Prop :=
  (e.request = .create (.object o) ∨ e.request = .update (.object o)) ∧ o.place? = some p

/-- The request stored an object at a place. -/
def Writes (e : Entry ι) (p : Place) (o : Object) : Prop :=
  e.served = true ∧ e.Aims p o

/-- A request aims at one place. -/
theorem Aims.place_eq {e : Entry ι} {p p' : Place} {o o' : Object} (h : e.Aims p o)
    (h' : e.Aims p' o') : p = p' := by
  obtain ⟨hreq, ho⟩ := h
  obtain ⟨hreq', ho'⟩ := h'
  have heq : o = o' := by
    rcases hreq with hreq | hreq <;> rcases hreq' with hreq' | hreq' <;>
      simpa using hreq.symm.trans hreq'
  subst heq
  exact Option.some.inj (ho.symm.trans ho')

end Entry

/-! ## First and last entries -/

/-- The first of some entries that aims at a place, and its object. -/
def FirstAt (p : Place) (es : List (Entry ι)) (e : Entry ι) (o : Object) : Prop :=
  ∃ before after, es = before ++ e :: after ∧ e.Aims p o ∧ ∀ e' ∈ before, ∀ o', ¬e'.Aims p o'

/-- The last of some entries that took effect at a place, and its object. -/
def LastAt (p : Place) (es : List (Entry ι)) (e : Entry ι) (o : Object) : Prop :=
  ∃ before after, es = before ++ e :: after ∧ e.Writes p o ∧ ∀ e' ∈ after, ∀ o', ¬e'.Writes p o'

variable {p : Place} {es : List (Entry ι)} {e e' : Entry ι} {o : Object}

theorem FirstAt.mem (h : FirstAt p es e o) : e ∈ es := by
  obtain ⟨before, after, rfl, -, -⟩ := h
  exact List.mem_append_right _ List.mem_cons_self

theorem LastAt.mem (h : LastAt p es e o) : e ∈ es := by
  obtain ⟨before, after, rfl, -, -⟩ := h
  exact List.mem_append_right _ List.mem_cons_self

theorem FirstAt.append (h : FirstAt p es e o) (e' : Entry ι) : FirstAt p (es ++ [e']) e o := by
  obtain ⟨before, after, rfl, he, hbefore⟩ := h
  exact ⟨before, after ++ [e'], by simp, he, hbefore⟩

theorem firstAt_append_self (he : e.Aims p o) (h : ∀ e' ∈ es, ∀ o', ¬e'.Aims p o') :
    FirstAt p (es ++ [e]) e o :=
  ⟨es, [], rfl, he, h⟩

theorem LastAt.append (h : LastAt p es e o) (he' : ∀ o', ¬e'.Writes p o') :
    LastAt p (es ++ [e']) e o := by
  obtain ⟨before, after, rfl, he, hafter⟩ := h
  refine ⟨before, after ++ [e'], by simp, he, fun e'' he'' => ?_⟩
  rcases List.mem_append.1 he'' with he'' | he''
  · exact hafter e'' he''
  · rw [List.mem_singleton.1 he'']
    exact he'

theorem lastAt_append_self (he : e.Writes p o) : LastAt p (es ++ [e]) e o :=
  ⟨es, [], rfl, he, fun _ he' => absurd he' List.not_mem_nil⟩

namespace Journal

/-! ## Answers -/

/-- The answer to a request, which is written down. -/
def answer (i : ι) (q : Request) (j : Journal ι) : q.Reply × Journal ι :=
  ((Store.answer q j.store).1, ⟨(Store.answer q j.store).2,
    j.entries ++ [⟨i, q, q.succeeded (Store.answer q j.store).1⟩]⟩)

variable {j : Journal ι} {i : ι}

theorem create_of_free (ho : o.place? = some p) (h : j.store.find? p = none) :
    answer i (.create (.object o)) j =
      (.ok o, ⟨j.store.put p o, j.entries ++ [⟨i, .create (.object o), true⟩]⟩) := by
  rw [answer, Store.answer, Store.create_of_free ho h]
  rfl

theorem create_of_taken {x : Object} (ho : o.place? = some p) (h : j.store.find? p = some x) :
    answer i (.create (.object o)) j =
      (.error p.taken, ⟨j.store, j.entries ++ [⟨i, .create (.object o), false⟩]⟩) := by
  rw [answer, Store.answer, Store.create_of_taken ho h]
  rfl

theorem update_of_taken {x : Object} (ho : o.place? = some p) (h : j.store.find? p = some x) :
    answer i (.update (.object o)) j =
      (.ok o, ⟨j.store.put p o, j.entries ++ [⟨i, .update (.object o), true⟩]⟩) := by
  rw [answer, Store.answer, Store.update_of_taken ho h]
  rfl

theorem update_of_free (ho : o.place? = some p) (h : j.store.find? p = none) :
    answer i (.update (.object o)) j =
      (.error p.missing, ⟨j.store, j.entries ++ [⟨i, .update (.object o), false⟩]⟩) := by
  rw [answer, Store.answer, Store.update_of_free ho h]
  rfl

/-- A request that stores an object either puts it at its place, which is written down as a success,
or changes nothing, which is written down as a failure. -/
theorem answer_cases {q : Request} (ho : o.place? = some p)
    (hq : q = .create (.object o) ∨ q = .update (.object o)) (i : ι) (j : Journal ι) :
    (answer i q j).2 = ⟨j.store.put p o, j.entries ++ [⟨i, q, true⟩]⟩ ∨
      (answer i q j).2 = ⟨j.store, j.entries ++ [⟨i, q, false⟩]⟩ := by
  cases h : j.store.find? p with
  | none =>
    rcases hq with rfl | rfl
    · exact Or.inl (by rw [create_of_free ho h])
    · exact Or.inr (by rw [update_of_free ho h])
  | some x =>
    rcases hq with rfl | rfl
    · exact Or.inr (by rw [create_of_taken ho h])
    · exact Or.inl (by rw [update_of_taken ho h])

/-! ## What is at a place -/

/-- There is at a place what the last request to take effect there put there, or what there was at
the start. -/
def Current (s₀ : Store) (p : Place) (j : Journal ι) : Prop :=
  (∃ e o, LastAt p j.entries e o ∧ j.store.find? p = some o) ∨
    ((∀ e ∈ j.entries, ∀ o, ¬e.Writes p o) ∧ j.store.find? p = s₀.find? p)

/-- There is at a place what there was at the start, otherwise what the first request to arrive
created, otherwise nothing. -/
def Begun (s₀ : Store) (p : Place) (j : Journal ι) : Prop :=
  (∃ x, s₀.find? p = some x ∧ j.store.find? p = some x) ∨
    s₀.find? p = none ∧ ((∃ e o, FirstAt p j.entries e o ∧ j.store.find? p = some o) ∨
      ((∀ e ∈ j.entries, ∀ o, ¬e.Aims p o) ∧ j.store.find? p = none))

variable {s₀ : Store} {p' : Place} {q : Request}

/-- Requests that store objects keep what is at a place current. -/
theorem Current.answer (h : j.Current s₀ p) (ho : o.place? = some p')
    (hq : q = .create (.object o) ∨ q = .update (.object o)) : (answer i q j).2.Current s₀ p := by
  have ht := Object.place?_textual ho
  have haims : ∀ served, (⟨i, q, served⟩ : Entry ι).Aims p' o := fun _ => ⟨hq, ho⟩
  rcases answer_cases ho hq i j with hj | hj
  · rw [hj]
    by_cases hp : p = p'
    · subst hp
      exact Or.inl ⟨_, o, lastAt_append_self ⟨rfl, haims _⟩, Store.find?_put_self _ _ ht⟩
    · have hnot : ∀ o', ¬(⟨i, q, true⟩ : Entry ι).Writes p o' := fun o' hw =>
        hp (hw.2.place_eq (haims _))
      rcases h with ⟨e, o', hlast, hfind⟩ | ⟨hnone, hfind⟩
      · exact Or.inl ⟨e, o', hlast.append hnot, by rw [Store.find?_put_of_ne _ _ ht hp, hfind]⟩
      · refine Or.inr ⟨fun e he => ?_, by rw [Store.find?_put_of_ne _ _ ht hp, hfind]⟩
        rcases List.mem_append.1 he with he | he
        · exact hnone e he
        · rw [List.mem_singleton.1 he]
          exact hnot
  · rw [hj]
    have hnot : ∀ o', ¬(⟨i, q, false⟩ : Entry ι).Writes p o' := fun o' hw =>
      Bool.false_ne_true hw.1
    rcases h with ⟨e, o', hlast, hfind⟩ | ⟨hnone, hfind⟩
    · exact Or.inl ⟨e, o', hlast.append hnot, hfind⟩
    · refine Or.inr ⟨fun e he => ?_, hfind⟩
      rcases List.mem_append.1 he with he | he
      · exact hnone e he
      · rw [List.mem_singleton.1 he]
        exact hnot

/-- A request that stores an object elsewhere changes nothing at a place. -/
theorem find?_answer_of_ne (ho : o.place? = some p')
    (hq : q = .create (.object o) ∨ q = .update (.object o)) (hp : p ≠ p') :
    (Journal.answer i q j).2.store.find? p = j.store.find? p := by
  rcases answer_cases ho hq i j with hj | hj
  · rw [hj, Store.find?_put_of_ne _ _ (Object.place?_textual ho) hp]
  · rw [hj]

theorem entries_answer (i : ι) (q : Request) (j : Journal ι) :
    (Journal.answer i q j).2.entries =
      j.entries ++ [⟨i, q, q.succeeded (Store.answer q j.store).1⟩] := rfl

/-- Where objects are only created, the first one stays. -/
theorem Begun.answer (h : j.Begun s₀ p) (ho : o.place? = some p')
    (hq : q = .create (.object o) ∨ q = .update (.object o) ∧ p ≠ p') :
    (answer i q j).2.Begun s₀ p := by
  by_cases hp : p = p'
  · subst hp
    obtain rfl : q = .create (.object o) := by
      rcases hq with hq | ⟨-, hne⟩
      · exact hq
      · exact absurd rfl hne
    cases hfind : j.store.find? p with
    | none =>
      rw [create_of_free ho hfind]
      rcases h with ⟨x, -, hx⟩ | ⟨hfree, ⟨e, o', -, hx⟩ | ⟨hnone, -⟩⟩
      · exact absurd (hfind.symm.trans hx) (by simp)
      · exact absurd (hfind.symm.trans hx) (by simp)
      · exact Or.inr ⟨hfree, Or.inl ⟨_, o, firstAt_append_self ⟨Or.inl rfl, ho⟩ hnone,
          Store.find?_put_self _ _ (Object.place?_textual ho)⟩⟩
    | some x =>
      rw [create_of_taken ho hfind]
      rcases h with h | ⟨hfree, ⟨e, o', hfirst, hx⟩ | ⟨-, hx⟩⟩
      · exact Or.inl h
      · exact Or.inr ⟨hfree, Or.inl ⟨e, o', hfirst.append _, hx⟩⟩
      · exact absurd (hfind.symm.trans hx) (by simp)
  · have hq' : q = .create (.object o) ∨ q = .update (.object o) := hq.imp_right And.left
    have hsame := find?_answer_of_ne (i := i) (j := j) ho hq' hp
    rcases h with ⟨x, hx₀, hx⟩ | ⟨hfree, ⟨e, o', hfirst, hx⟩ | ⟨hnone, hx⟩⟩
    · exact Or.inl ⟨x, hx₀, hsame.trans hx⟩
    · exact Or.inr ⟨hfree, Or.inl ⟨e, o', hfirst.append _, hsame.trans hx⟩⟩
    · refine Or.inr ⟨hfree, Or.inr ⟨fun e he o' haims => ?_, hsame.trans hx⟩⟩
      rw [entries_answer] at he
      rcases List.mem_append.1 he with he | he
      · exact hnone e he o' haims
      · rw [List.mem_singleton.1 he] at haims
        exact hp (haims.place_eq ⟨hq', ho⟩)

/-! ## What requests never undo -/

/-- Nothing that was written down is struck out, and no place that was taken is free again. -/
structure Grows (j j' : Journal ι) : Prop where
  entries : ∀ e ∈ j.entries, e ∈ j'.entries
  taken : ∀ p x, j.store.find? p = some x → ∃ x', j'.store.find? p = some x'

theorem Grows.refl (j : Journal ι) : j.Grows j :=
  ⟨fun _ he => he, fun _ x hx => ⟨x, hx⟩⟩

theorem Grows.trans {j₁ j₂ j₃ : Journal ι} (h : j₁.Grows j₂) (h' : j₂.Grows j₃) : j₁.Grows j₃ := by
  refine ⟨fun e he => h'.entries e (h.entries e he), fun p x hx => ?_⟩
  obtain ⟨x', hx'⟩ := h.taken p x hx
  exact h'.taken p x' hx'

theorem grows_answer (ho : o.place? = some p)
    (hq : q = .create (.object o) ∨ q = .update (.object o)) (i : ι) (j : Journal ι) :
    j.Grows (answer i q j).2 := by
  refine ⟨fun e he => List.mem_append_left _ he, fun p' x hx => ?_⟩
  rcases answer_cases ho hq i j with hj | hj
  · rw [hj]
    by_cases hp : p' = p
    · subst hp
      exact ⟨o, Store.find?_put_self _ _ (Object.place?_textual ho)⟩
    · exact ⟨x, by rw [Store.find?_put_of_ne _ _ (Object.place?_textual ho) hp, hx]⟩
  · rw [hj]
    exact ⟨x, hx⟩

theorem distinct_answer (ho : o.place? = some p)
    (hq : q = .create (.object o) ∨ q = .update (.object o)) (i : ι) {j : Journal ι}
    (h : j.store.Distinct) : (answer i q j).2.store.Distinct := by
  rcases answer_cases ho hq i j with hj | hj
  · rw [hj]
    exact h.put o (Object.place?_textual ho)
  · rw [hj]
    exact h

end Journal

end VolumeTunnel
