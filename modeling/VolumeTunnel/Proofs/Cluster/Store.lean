import VolumeTunnel.Cluster.Server

/-!
# Stores as maps

A store is a list of entries, but requests only see which object is at which place. At a place
named by texts, `Store.put` is a map update : `Store.find?_put_self` and `Store.find?_put_of_ne`.
Such places are those of the objects that requests can be about (`Object.place?`,
`Object.place?_textual`).

`Store.keep` puts an object at a free place only. Putting makes no second entry for a place
(`Store.Distinct.put`).
-/

namespace VolumeTunnel

/-! ## Places named by texts -/

theorem Value.same_text_iff (v : Value) (t : Text) : v.same (.text t) = true ↔ v = .text t := by
  cases v <;> simp [Value.same, Value.sameAsInt, Value.toInt?]

theorem Value.text_same_iff (t : Text) (v : Value) :
    (Value.text t).same v = true ↔ v = .text t := by
  cases v with
  | text s =>
    rw [Value.same_text, beq_iff_eq, Value.text.injEq]
    exact eq_comm
  | _ => simp [Value.same]

/-- The place of a kind, a namespace and a name. -/
def Place.of (kind space name : Text) : Place :=
  ⟨.text kind, ⟨.text space, .text name⟩⟩

/-- A place whose kind, namespace and name are texts. -/
def Place.Textual (p : Place) : Prop :=
  ∃ kind space name, p = Place.of kind space name

namespace Place

variable {p q : Place}

theorem textual_of (kind space name : Text) : (Place.of kind space name).Textual :=
  ⟨kind, space, name, rfl⟩

theorem of_inj {kind space name kind' space' name' : Text} :
    Place.of kind space name = Place.of kind' space' name' ↔
      kind = kind' ∧ space = space' ∧ name = name' := by
  simp [Place.of]

theorem Textual.same_iff (hp : p.Textual) : q.same p = true ↔ q = p := by
  obtain ⟨kind, space, name, rfl⟩ := hp
  obtain ⟨k, s, n⟩ := q
  simp [Place.same, ObjectName.same, Place.of, Value.same_text_iff]

theorem Textual.same_self (hp : p.Textual) : p.same p = true :=
  hp.same_iff.2 rfl

theorem Textual.same_eq_false (hp : p.Textual) (h : q ≠ p) : q.same p = false :=
  Bool.eq_false_iff.2 fun hs => h (hp.same_iff.1 hs)

/-- Equality with a textual place does not depend on the side it stands on. -/
theorem Textual.same_comm (hp : p.Textual) : p.same q = q.same p := by
  obtain ⟨kind, space, name, rfl⟩ := hp
  obtain ⟨k, s, n⟩ := q
  rw [Bool.eq_iff_iff]
  simp [Place.same, ObjectName.same, Place.of, Value.same_text_iff, Value.text_same_iff]

end Place

/-- The place of an object that requests can be about : of a known kind, with a namespace and a
name. -/
def Object.place? (o : Object) : Option Place := do
  let kind ← o.kindOf.toOption
  let known ← Kind.ofName? kind
  let metadata ← o.metadata
  let space ← metadata.space
  let name ← metadata.name
  pure (Place.of known.name space name)

theorem Kind.name_of_ofName? {t : Text} {k : Kind} (h : Kind.ofName? t = some k) : k.name = t := by
  simpa using List.find?_some h

/-- What an object with a place is made of. -/
theorem Object.place?_eq_some {o : Object} {p : Place} (h : o.place? = some p) :
    ∃ k m space name, o.kindOf = .ok (Kind.name k) ∧ o.metadata = some m ∧ m.space = some space ∧
      m.name = some name ∧ p = Place.of k.name space name := by
  simp only [Object.place?, Option.bind_eq_bind, Option.bind_eq_some_iff] at h
  obtain ⟨kind, hkind, k, hk, m, hm, space, hspace, name, hname, hp⟩ := h
  obtain rfl := Kind.name_of_ofName? hk
  refine ⟨k, m, space, name, ?_, hm, hspace, hname, (Option.some.inj hp).symm⟩
  cases ho : o.kindOf with
  | error e => simp [ho, Except.toOption] at hkind
  | ok t => simpa [ho, Except.toOption] using hkind

theorem Object.place?_textual {o : Object} {p : Place} (h : o.place? = some p) : p.Textual := by
  obtain ⟨k, m, space, name, -, -, -, -, rfl⟩ := Object.place?_eq_some h
  exact Place.textual_of _ _ _

namespace Store

/-! ## Looking up what was put -/

/-- The first object of a list of entries at a place. -/
def findEntry (es : List (Place × Object)) (p : Place) : Option Object :=
  (es.find? fun e => e.1.same p).map (·.2)

theorem findEntry_cons (q : Place) (x : Object) (es : List (Place × Object)) (p : Place) :
    findEntry ((q, x) :: es) p = if q.same p then some x else findEntry es p := by
  simp only [findEntry, List.find?_cons]
  cases q.same p <;> rfl

theorem findEntry_putEntry_self {p : Place} (hp : p.Textual) (o : Object)
    (es : List (Place × Object)) : findEntry (putEntry p o es) p = some o := by
  induction es with
  | nil => simp [putEntry, findEntry_cons, hp.same_self]
  | cons e es ih =>
    obtain ⟨q, x⟩ := e
    cases hq : q.same p <;> simp [putEntry, findEntry_cons, hq, ih]

theorem findEntry_putEntry_of_ne {p q : Place} (hp : p.Textual) (h : q ≠ p) (o : Object)
    (es : List (Place × Object)) : findEntry (putEntry p o es) q = findEntry es q := by
  have hpq : p.same q = false := by rw [hp.same_comm, hp.same_eq_false h]
  induction es with
  | nil => simp [putEntry, findEntry, hpq]
  | cons e es ih =>
    obtain ⟨r, x⟩ := e
    cases hr : r.same p with
    | false => simp [putEntry, findEntry_cons, hr, ih]
    | true =>
      obtain rfl := hp.same_iff.1 hr
      simp [putEntry, findEntry_cons, hr, hpq]

variable {p q : Place} (s : Store) (o : Object)

/-- What was put at a place is found there. -/
theorem find?_put_self (hp : p.Textual) : (s.put p o).find? p = some o :=
  findEntry_putEntry_self hp o s.entries

/-- Putting an object leaves every other place as it was. -/
theorem find?_put_of_ne (hp : p.Textual) (h : q ≠ p) : (s.put p o).find? q = s.find? q :=
  findEntry_putEntry_of_ne hp h o s.entries

theorem putEntry_of_findEntry {p : Place} {o : Object} {es : List (Place × Object)}
    (h : findEntry es p = some o) : putEntry p o es = es := by
  induction es with
  | nil => exact nomatch h
  | cons e es ih =>
    obtain ⟨q, x⟩ := e
    rw [findEntry_cons] at h
    cases hq : q.same p with
    | true =>
      rw [if_pos hq] at h
      rw [putEntry, if_pos hq, Option.some.inj h]
    | false =>
      rw [if_neg (Bool.eq_false_iff.1 hq)] at h
      rw [putEntry, if_neg (Bool.eq_false_iff.1 hq), ih h]

/-- Putting the object that is there changes nothing, not even the order of places. -/
theorem put_of_find? (h : s.find? p = some o) : s.put p o = s :=
  congrArg Store.mk (putEntry_of_findEntry h)

/-- Puts an object at a place unless there is one already. -/
def keep (p : Place) : Store :=
  match s.find? p with
  | some _ => s
  | none => s.put p o

theorem keep_of_some {x : Object} (h : s.find? p = some x) : s.keep o p = s := by
  simp [keep, h]

theorem keep_of_none (h : s.find? p = none) : s.keep o p = s.put p o := by
  simp [keep, h]

theorem find?_keep_self (hp : p.Textual) : (s.keep o p).find? p = some ((s.find? p).getD o) := by
  cases h : s.find? p with
  | some x => rw [keep_of_some s o h, h, Option.getD_some]
  | none => rw [keep_of_none s o h, find?_put_self s o hp, Option.getD_none]

theorem find?_keep_of_ne (hp : p.Textual) (h : q ≠ p) : (s.keep o p).find? q = s.find? q := by
  cases hf : s.find? p with
  | some x => rw [keep_of_some s o hf]
  | none => rw [keep_of_none s o hf, find?_put_of_ne s o hp h]

/-- An object that is there stays, whatever is kept at whichever place. -/
theorem find?_keep_of_some {x : Object} (hp : p.Textual) (h : s.find? q = some x) :
    (s.keep o p).find? q = some x := by
  by_cases hq : q = p
  · subst hq
    rw [keep_of_some s o h, h]
  · rw [find?_keep_of_ne s o hp hq, h]

/-! ## One entry for each place -/

/-- No place has two entries. -/
def Distinct : Prop :=
  s.entries.Pairwise fun a b => a.1.same b.1 = false

theorem mem_putEntry {p : Place} (hp : p.Textual) {o : Object} {es : List (Place × Object)}
    {e : Place × Object} (he : e ∈ putEntry p o es) : e.1 = p ∨ e ∈ es := by
  induction es with
  | nil => exact Or.inl (by rw [List.mem_singleton.1 he])
  | cons a es ih =>
    obtain ⟨q, x⟩ := a
    cases hq : q.same p with
    | true =>
      rw [putEntry, if_pos hq] at he
      rcases List.mem_cons.1 he with rfl | he
      · exact Or.inl (hp.same_iff.1 hq)
      · exact Or.inr (List.mem_cons_of_mem _ he)
    | false =>
      rw [putEntry, if_neg (by simp [hq])] at he
      rcases List.mem_cons.1 he with rfl | he
      · exact Or.inr List.mem_cons_self
      · exact (ih he).imp_right (List.mem_cons_of_mem _)

theorem pairwise_putEntry {p : Place} (hp : p.Textual) (o : Object) {es : List (Place × Object)}
    (h : es.Pairwise fun a b => a.1.same b.1 = false) :
    (putEntry p o es).Pairwise fun a b => a.1.same b.1 = false := by
  induction es with
  | nil => exact List.pairwise_singleton _ _
  | cons a es ih =>
    obtain ⟨q, x⟩ := a
    obtain ⟨hhead, htail⟩ := List.pairwise_cons.1 h
    cases hq : q.same p with
    | true =>
      rw [putEntry, if_pos hq]
      exact List.pairwise_cons.2 ⟨hhead, htail⟩
    | false =>
      rw [putEntry, if_neg (by simp [hq])]
      refine List.pairwise_cons.2 ⟨fun e he => ?_, ih htail⟩
      rcases mem_putEntry hp he with he | he
      · rw [he]
        exact hq
      · exact hhead e he

variable {s}

theorem Distinct.put (h : s.Distinct) (hp : p.Textual) : (s.put p o).Distinct :=
  pairwise_putEntry hp o h

end Store

end VolumeTunnel
