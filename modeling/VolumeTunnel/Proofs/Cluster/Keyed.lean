import VolumeTunnel.Proofs.Cluster.Store

/-!
# Clusters as keyed stores

A cluster keeps objects by kind, namespace and name. An object is created at a free place only, and
read or replaced only where there is one; each request takes effect at once or not at all.

`Store.answer` answers requests so. `UnreliableStore.answer` does as well, except that any request
may be made to fail, with any failure; then the store stays as it was. Objects with a place
(`Object.place?`) are created and updated there : `Store.create_of_free`, `Store.create_of_taken`,
`Store.update_of_taken`, `Store.update_of_free`.
-/

namespace VolumeTunnel

namespace Place

/-- The failure to create an object where there is one already. -/
def taken (p : Place) : Failure :=
  .request (.taken (Connection.objectText p.kind p.key ++ " already exists"))

/-- The failure to read or replace an object where there is none. -/
def missing (p : Place) : Failure :=
  .request (.missing (Connection.objectText p.kind p.key ++ " not found"))

@[simp] theorem isAlreadyExists_taken (p : Place) : p.taken.isAlreadyExists = true := rfl

end Place

/-- A resource as it is stored, and where. -/
def Resource.placed (r : Resource) : Except Failure (Place × Object) := do
  let kind ← r.kindOf
  match r with
  | .plain _ => .error (.fault .noSuchPart)
  | .object o => do
    let metadata ← o.metadata?
    pure (⟨.text kind, metadata.objectName⟩, o)

theorem Resource.placed_object {o : Object} {p : Place} (h : o.place? = some p) :
    (Resource.object o).placed = .ok (p, o) := by
  obtain ⟨k, m, space, name, hkind, hm, hspace, hname, rfl⟩ := Object.place?_eq_some h
  obtain ⟨space', name', labels⟩ := m
  obtain rfl : space' = some space := hspace
  obtain rfl : name' = some name := hname
  simp only [Resource.placed, Resource.kindOf, hkind, Object.metadata?, hm]
  rfl

theorem Object.exists_metadata {o : Object} {p : Place} (ho : o.place? = some p) :
    ∃ m, (Resource.object o).metadata? = .ok m := by
  obtain ⟨-, m, -, -, -, hm, -, -, -⟩ := Object.place?_eq_some ho
  exact ⟨m, by rw [Resource.metadata?, Object.metadata?, hm]⟩

namespace Store

/-! ## Answers that never fail of themselves -/

/-- Reads the object at a place. -/
def read (s : Store) (p : Place) : Except Failure Object :=
  match s.find? p with
  | some o => .ok o
  | none => .error p.missing

/-- Stores an object at a free place. -/
def create (s : Store) (r : Resource) : Except Failure Object × Store :=
  match r.placed with
  | .error e => (.error e, s)
  | .ok (p, o) =>
    match s.find? p with
    | some _ => (.error p.taken, s)
    | none => (.ok o, s.put p o)

/-- Replaces the object that is at the place of another. -/
def update (s : Store) (r : Resource) : Except Failure Object × Store :=
  match r.placed with
  | .error e => (.error e, s)
  | .ok (p, o) =>
    match s.find? p with
    | some _ => (.ok o, s.put p o)
    | none => (.error p.missing, s)

/-- The objects of a kind in a namespace: those that a selector accepts, or all. -/
def list (s : Store) (kind space selector : Value) : Except Failure (List Object) :=
  if selector.truthy then
    match selector with
    | .text t => .ok (s.select kind space (selectorTerms t))
    | _ => .error (.fault .noSuchPart)
  else .ok (s.select kind space [])

/-- The answer to a request, and the store after it. -/
def answer : (q : Request) → Store → q.Reply × Store
  | .get kind key, s => (s.read ⟨kind, key⟩, s)
  | .create r, s => s.create r
  | .update r, s => s.update r
  | .list kind space selector, s => (s.list kind space selector, s)

variable {s : Store} {o : Object} {p : Place}

theorem create_of_free (ho : o.place? = some p) (h : s.find? p = none) :
    s.create (.object o) = (.ok o, s.put p o) := by
  simp [create, Resource.placed_object ho, h]

theorem create_of_taken {x : Object} (ho : o.place? = some p) (h : s.find? p = some x) :
    s.create (.object o) = (.error p.taken, s) := by
  simp [create, Resource.placed_object ho, h]

theorem update_of_taken {x : Object} (ho : o.place? = some p) (h : s.find? p = some x) :
    s.update (.object o) = (.ok o, s.put p o) := by
  simp [update, Resource.placed_object ho, h]

theorem update_of_free (ho : o.place? = some p) (h : s.find? p = none) :
    s.update (.object o) = (.error p.missing, s) := by
  simp [update, Resource.placed_object ho, h]

/-- Creating puts an object at a free place and does nothing elsewhere. -/
theorem create_state (ho : o.place? = some p) : (s.create (.object o)).2 = s.keep o p := by
  cases h : s.find? p with
  | some x => rw [create_of_taken ho h, keep_of_some s o h]
  | none => rw [create_of_free ho h, keep_of_none s o h]

/-- An attempt to put an object at a place : it went well, or it failed and changed nothing. -/
def Attempted {α : Type} (s : Store) (o : Object) (p : Place) (r : Except Failure α) (s' : Store) :
    Prop :=
  ((∃ a, r = .ok a) ∧ s' = s.put p o) ∨ ((∃ e, r = .error e) ∧ s' = s)

theorem attempted_create (ho : o.place? = some p) (s : Store) :
    s.Attempted o p (s.create (.object o)).1 (s.create (.object o)).2 := by
  cases h : s.find? p with
  | none =>
    rw [create_of_free ho h]
    exact Or.inl ⟨⟨o, rfl⟩, rfl⟩
  | some x =>
    rw [create_of_taken ho h]
    exact Or.inr ⟨⟨_, rfl⟩, rfl⟩

theorem attempted_update (ho : o.place? = some p) (s : Store) :
    s.Attempted o p (s.update (.object o)).1 (s.update (.object o)).2 := by
  cases h : s.find? p with
  | some x =>
    rw [update_of_taken ho h]
    exact Or.inl ⟨⟨o, rfl⟩, rfl⟩
  | none =>
    rw [update_of_free ho h]
    exact Or.inr ⟨⟨_, rfl⟩, rfl⟩

/-- Updating changes no place but that of the object. -/
theorem find?_update_of_ne {q : Place} (ho : o.place? = some p) (hq : q ≠ p) :
    (s.update (.object o)).2.find? q = s.find? q := by
  cases h : s.find? p with
  | some x => rw [update_of_taken ho h, find?_put_of_ne s o (Object.place?_textual ho) hq]
  | none => rw [update_of_free ho h]

end Store

/-! ## Answers that may fail -/

/-- A keyed store whose requests may be made to fail: the request after `n` others fails if there
is a failure for it. -/
structure UnreliableStore where
  store : Store
  failure : Nat → Request → Option Failure

namespace UnreliableStore

/-- The store after a request, which the failures of later ones no longer count. -/
def next (w : UnreliableStore) (s : Store) : UnreliableStore :=
  ⟨s, fun n => w.failure (n + 1)⟩

/-- The answer to a request, and what is left: a request made to fail leaves the store as it was. -/
def answer (q : Request) (w : UnreliableStore) : q.Reply × UnreliableStore :=
  match w.failure 0 q with
  | some e => (q.refuse e, w.next w.store)
  | none => ((Store.answer q w.store).1, w.next (Store.answer q w.store).2)

variable {q : Request} {w : UnreliableStore}

theorem answer_of_some {e : Failure} (h : w.failure 0 q = some e) :
    answer q w = (q.refuse e, w.next w.store) := by
  simp [answer, h]

theorem answer_of_none (h : w.failure 0 q = none) :
    answer q w = ((Store.answer q w.store).1, w.next (Store.answer q w.store).2) := by
  simp [answer, h]

/-- A request is made to fail, or it does what it does if nothing fails. -/
theorem answer_cases (q : Request) (w : UnreliableStore) :
    (∃ e, answer q w = (q.refuse e, w.next w.store)) ∨
      answer q w = ((Store.answer q w.store).1, w.next (Store.answer q w.store).2) := by
  cases h : w.failure 0 q with
  | some e => exact Or.inl ⟨e, answer_of_some h⟩
  | none => exact Or.inr (answer_of_none h)

theorem answer_failure (q : Request) (w : UnreliableStore) :
    (answer q w).2.failure = fun n => w.failure (n + 1) := by
  rcases answer_cases q w with ⟨e, h⟩ | h <;> rw [h, next]

/-- Whether or not it is made to fail, creating an object is an attempt to put it at its place. -/
theorem attempted_create {o : Object} {p : Place} (ho : o.place? = some p) (w : UnreliableStore) :
    w.store.Attempted o p (answer (.create (.object o)) w).1
      (answer (.create (.object o)) w).2.store := by
  rcases answer_cases (.create (.object o)) w with ⟨e, h⟩ | h
  · rw [h]
    exact Or.inr ⟨⟨e, rfl⟩, rfl⟩
  · rw [h]
    exact Store.attempted_create ho w.store

theorem attempted_update {o : Object} {p : Place} (ho : o.place? = some p) (w : UnreliableStore) :
    w.store.Attempted o p (answer (.update (.object o)) w).1
      (answer (.update (.object o)) w).2.store := by
  rcases answer_cases (.update (.object o)) w with ⟨e, h⟩ | h
  · rw [h]
    exact Or.inr ⟨⟨e, rfl⟩, rfl⟩
  · rw [h]
    exact Store.attempted_update ho w.store

/-- No request is made to fail. -/
def Reliable (w : UnreliableStore) : Prop :=
  ∀ n q, w.failure n q = none

/-- No request is made to fail as if its object were there already. -/
def Honest (w : UnreliableStore) : Prop :=
  ∀ n q e, w.failure n q = some e → e.isAlreadyExists = false

theorem Reliable.honest (h : w.Reliable) : w.Honest := by
  intro n q e he
  rw [h n q] at he
  exact nomatch he

theorem Reliable.next (h : w.Reliable) (s : Store) : (w.next s).Reliable :=
  fun n q => h (n + 1) q

theorem Reliable.answer (h : w.Reliable) (q : Request) : (answer q w).2.Reliable := by
  intro n q'
  rw [answer_failure]
  exact h (n + 1) q'

theorem Honest.answer (h : w.Honest) (q : Request) : (answer q w).2.Honest := by
  intro n q' e he
  rw [answer_failure] at he
  exact h (n + 1) q' e he

end UnreliableStore

end VolumeTunnel
