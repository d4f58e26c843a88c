import VolumeTunnel.Value.Basic

/-!
# Documents

What the nodes of a document name: values, and collections that refer to one another by number. A
collection may be met again inside itself, so it has no value of finite size. Seen from a place, it
has one: the collections that have been gone through on the way are elided where they come again.

* `Document.value` : the value of an item, seen from the item itself;
* `Document.opened` : a mapping whose entries are each seen from themselves.
-/

namespace VolumeTunnel.Yaml

/-- What stands in a place of a document: a value, or the collection with a number. -/
inductive Item where
  | leaf (v : Value)
  | collection (n : Nat)

/-- A collection of a document. -/
inductive Collection where
  | list (items : List Item)
  /-- A list of pairs. -/
  | pairs (entries : List (Item × Item))
  | dict (entries : List (Value × Item))
  | set (members : List Value)

/-- A document: its root, and its collections by number. -/
structure Document where
  root : Item
  collections : Array Collection

namespace Collection

/-- Whether the collection is written in braces. -/
def isBraced : Collection → Bool
  | list _ => false
  | pairs _ => false
  | dict _ => true
  | set _ => true

/-- The value of a collection, given those of its items. -/
def value (item : Item → Value) : Collection → Value
  | list items => .list (items.map item)
  | pairs entries => .list (entries.map fun e => .tuple [item e.1, item e.2])
  | dict entries => .dict (entries.map fun e => (e.1, item e.2))
  | set members => .set members

end Collection

namespace Document

/-- The document without a value. -/
def empty : Document :=
  ⟨.leaf .none, #[]⟩

/-- The value of an item that stands inside some collections, the innermost first. The fuel bounds
the number of further ones on a way. -/
def valueInside (d : Document) : Nat → List Nat → Item → Value
  | _, _, .leaf v => v
  | 0, _, .collection _ => .none
  | fuel + 1, outer, .collection n =>
    match d.collections[n]? with
    | none => .none
    | some c =>
      if outer.contains n then .elided c.isBraced
      else c.value (d.valueInside fuel (n :: outer))

/-- The value of an item. -/
def value (d : Document) (i : Item) : Value :=
  d.valueInside (d.collections.size + 1) [] i

@[simp] theorem value_leaf (d : Document) (v : Value) : d.value (.leaf v) = v := by
  simp [value, valueInside]

/-- The entries of an item that is a mapping. -/
def entries? (d : Document) : Item → Option (List (Value × Item))
  | .leaf _ => none
  | .collection n =>
    match d.collections[n]? with
    | some (.dict entries) => some entries
    | _ => none

/-- The value of an item, in which the entries of a mapping are each seen from themselves. -/
def opened (d : Document) (i : Item) : Value :=
  match d.entries? i with
  | some es => .dict (es.map fun e => (e.1, d.value e.2))
  | none => d.value i

end Document

end VolumeTunnel.Yaml
