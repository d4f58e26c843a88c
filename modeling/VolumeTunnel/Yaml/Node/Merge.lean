import VolumeTunnel.Yaml.Node.Basic

/-!
# Merging

A merge key puts the entries of other mappings in front of those of the mapping it stands in. What
it names is a mapping, or a sequence of mappings, of which the last one comes first. Those mappings
are merged themselves before. A mapping may name itself: what it holds by then is merged.

`Graph.merge` takes the merge keys out of a mapping, and makes texts of its keys for values. The
change stays, wherever the nodes stand.
-/

namespace VolumeTunnel.Yaml.Graph

/-- Takes the first merge key out of a mapping, and gives what it names; `none` if there is no merge
key. -/
def takeMerge? (g : Graph) (n : Nat) : Option (Nat × Graph) :=
  let own := g.entries n
  match own.dropWhile fun e => !g.hasKey .merge e with
  | [] => none
  | (_, named) :: after =>
    some (named, g.setEntries n ((own.takeWhile fun e => !g.hasKey .merge e) ++ after))

/-- Makes a text of a node that is the key for values. -/
def nameKey (g : Graph) (n : Nat) : Graph :=
  if (g.node n).tag = .value then g.put n { g.node n with tag := .str } else g

/-- Puts the merged entries in front of those of a mapping without merge keys. -/
def putInFront (g : Graph) (n : Nat) (merged : List (Nat × Nat)) : Graph :=
  let g := (g.entries n).foldl (fun g e => g.nameKey e.1) g
  g.setEntries n (merged ++ g.entries n)

/-- Merges into a mapping what its merge keys name, after the entries merged so far. The fuel bounds
the number of merge keys, twice. -/
def mergeWith : Nat → Nat → List (Nat × Nat) → Graph → Except Flaw Graph
  | 0, _, _, _ => .error .malformed
  | fuel + 1, n, merged, g =>
    match g.takeMerge? n with
    | none => .ok (g.putInFront n merged)
    | some (named, g) => do
      let inFront (s : Graph × List (Nat × Nat)) (m : Nat) :
          Except Flaw (Graph × List (Nat × Nat)) := do
        if s.1.isMapping m then
          let g ← mergeWith fuel m [] s.1
          pure (g, g.entries m ++ s.2)
        else .error .malformed
      let (g, es) ← match (g.node named).contents with
        | .sequence items => items.foldlM inFront (g, [])
        | _ => inFront (g, []) named
      mergeWith fuel n (merged ++ es) g

/-- The number of merge keys of all mappings. -/
def mergeCount (g : Graph) : Nat :=
  g.nodes.foldl (fun count x =>
    match x.contents with
    | .mapping es => count + es.countP (g.hasKey .merge)
    | _ => count) 0

/-- Merges into a mapping what its merge keys name. -/
def merge (g : Graph) (n : Nat) : Except Flaw Graph :=
  g.mergeWith (2 * g.mergeCount + 2) n []

end VolumeTunnel.Yaml.Graph
