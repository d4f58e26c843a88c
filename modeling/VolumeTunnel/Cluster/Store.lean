import VolumeTunnel.Cluster.Request

/-!
# Stores

The objects of a cluster, each at the place that its kind, namespace and name make. The order in
which places were taken is kept.

* `Store.find?` : the object at a place;
* `Store.put` : puts an object at a place, taking the place or replacing what is there;
* `Store.select` : the objects of a kind in a namespace whose labels a selector accepts.
-/

namespace VolumeTunnel

/-- Where an object is stored. -/
structure Place where
  kind : Value
  key : ObjectName

/-- Equality of places. -/
def Place.same (a b : Place) : Bool :=
  a.kind.same b.kind && a.key.same b.key

/-- Refuses a place whose parts cannot be keys. -/
def Place.check (p : Place) : Except Failure Unit :=
  match Value.unhashable? (.tuple [p.kind, p.key.space, p.key.name]) with
  | some typeName => .error (.fault (.unhashable typeName))
  | none => .ok ()

/-- A term of a selector: a label and the value it must have. -/
abbrev SelectorTerm := Text × Text

/-- The terms of a selector, separated by commas; each is cut at its first equals sign. -/
def selectorTerms (selector : Text) : List SelectorTerm :=
  ((selector.splitOn (.char ',')).filter fun t => !t.isEmpty).map (Text.cutAt (.char '='))

/-- Whether labels bind every term. -/
def bindsAll (labels : Labels) (terms : List SelectorTerm) : Bool :=
  terms.all fun (key, v) => labels.lookup key == some v

/-- The objects of a cluster. -/
structure Store where
  entries : List (Place × Object)

namespace Store

/-- No objects. -/
def empty : Store := ⟨[]⟩

/-- The object at a place. -/
def find? (s : Store) (p : Place) : Option Object :=
  (s.entries.find? fun e => e.1.same p).map (·.2)

/-- Puts an object at a place in a list of entries. -/
def putEntry (p : Place) (o : Object) : List (Place × Object) → List (Place × Object)
  | [] => [(p, o)]
  | (q, x) :: es => if q.same p then (q, o) :: es else (q, x) :: putEntry p o es

/-- Puts an object at a place. -/
def put (s : Store) (p : Place) (o : Object) : Store :=
  ⟨putEntry p o s.entries⟩

/-- Leaves a place empty. -/
def remove (s : Store) (p : Place) : Store :=
  ⟨s.entries.filter fun e => !e.1.same p⟩

/-- The objects of a kind in a namespace that bind every term. -/
def select (s : Store) (kind space : Value) (terms : List SelectorTerm) : List Object :=
  (s.entries.filter fun e =>
    e.1.kind.same kind && e.1.key.space.same space && bindsAll e.2.labels terms).map (·.2)

end Store

end VolumeTunnel
