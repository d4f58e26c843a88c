import VolumeTunnel.Failure.Basic

/-!
# Pairs of volume claims

A transfer migrates the data of source claims to destination claims, each source with its own
destination. The pairs are kept in order and may repeat.

* `ClaimPair.ofNames` : one group of pairs from the names in two namespaces;
* `ClaimPair.bySource?`, `ClaimPair.inSource` : looking up by the name of the source claim, and
  choosing by its namespace;
* `ClaimPair.at?` : a negative index counts from the end.
-/

namespace VolumeTunnel

/-- A source claim and the destination claim its data goes to. -/
structure ClaimPair where
  source : ObjectName
  destination : ObjectName

namespace ClaimPair

/-- The two values that a value consists of, if it is a collection of two. -/
def halves? : Value → Except Failure (Value × Value)
  | .list [a, b] | .tuple [a, b] | .set [a, b] => .ok (a, b)
  | .text [a, b] => .ok (.text [a], .text [b])
  | .dict [(a, _), (b, _)] => .ok (a, b)
  | .bytes [a, b] => .ok (.int a.toNat, .int b.toNat)
  | .list _ | .tuple _ | .set _ | .text _ | .dict _ | .bytes _ => .error (.fault .wrongValue)
  | _ => .error (.fault .wrongType)

/-- The pairs of the given names, each name of a source and of its destination. -/
def ofNames (sourceSpace destinationSpace : Value) (names : List Value) :
    Except Failure (List ClaimPair) :=
  names.mapM fun both => do
    let (source, destination) ← halves? both
    pure ⟨⟨sourceSpace, source⟩, ⟨destinationSpace, destination⟩⟩

/-- The source claims, in order. -/
def sources (pairs : List ClaimPair) : List ObjectName :=
  pairs.map (·.source)

/-- The destination claims, in order. -/
def destinations (pairs : List ClaimPair) : List ObjectName :=
  pairs.map (·.destination)

/-- The first pair whose source claim has the given name. -/
def bySource? (name : Value) (pairs : List ClaimPair) : Option ClaimPair :=
  pairs.find? fun p => p.source.name.same name

/-- The pairs whose source claim is in the given namespace. -/
def inSource (space : Value) (pairs : List ClaimPair) : List ClaimPair :=
  pairs.filter fun p => p.source.space.same space

/-- The pair at an index; a negative index counts from the end. -/
def at? (index : Int) (pairs : List ClaimPair) : Option ClaimPair :=
  let i := if index < 0 then index + pairs.length else index
  if i < 0 then none else pairs[i.toNat]?

end ClaimPair

end VolumeTunnel
