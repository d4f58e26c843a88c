import VolumeTunnel.Yaml.Tag

/-!
# Nodes

A document is a graph of tagged nodes: scalars, sequences and mappings. Nodes have numbers, in the
order in which they begin, and a collection holds the numbers of its parts. So one node can stand in
several places, and a collection inside itself.

* `Graph.node_add`, `Graph.node_put` : adding a node, or putting one in the place of another, leaves
  the others as they are;
* `Graph.text` : the text of a node where a scalar is needed.
-/

namespace VolumeTunnel.Yaml

/-- What a node holds. -/
inductive Contents where
  | scalar (text : Text)
  | sequence (items : List Nat)
  | mapping (entries : List (Nat × Nat))

/-- A node of a document. -/
structure Node where
  tag : Tag
  contents : Contents

namespace Node

/-- The empty plain scalar. -/
def empty : Node :=
  ⟨.ofPlain [], .scalar []⟩

/-- A scalar. -/
def scalar (tag : Tag) (text : Text) : Node :=
  ⟨tag, .scalar text⟩

end Node

/-- The nodes of a document, by number. -/
structure Graph where
  nodes : Array Node

namespace Graph

/-- No nodes yet. -/
def empty : Graph :=
  ⟨#[]⟩

/-- The number of nodes. -/
def size (g : Graph) : Nat :=
  g.nodes.size

/-- The node with a number. -/
def node (g : Graph) (n : Nat) : Node :=
  g.nodes[n]?.getD .empty

/-- Adds a node, whose number is the size so far. -/
def add (g : Graph) (x : Node) : Graph :=
  ⟨g.nodes.push x⟩

/-- Puts a node in the place of that with a number. -/
def put (g : Graph) (n : Nat) (x : Node) : Graph :=
  ⟨g.nodes.setIfInBounds n x⟩

theorem node_add (g : Graph) (x : Node) (n : Nat) :
    (g.add x).node n = if n = g.size then x else g.node n := by
  by_cases h : n = g.size
  · simp [node, add, size, h]
  · simp only [node, add, Array.getElem?_push, if_neg h]
    simp [show n ≠ g.nodes.size from h]

theorem node_put (g : Graph) (n m : Nat) (x : Node) (h : n < g.size) :
    (g.put n x).node m = if m = n then x else g.node m := by
  by_cases hm : m = n
  · subst hm
    simp [node, put, show m < g.nodes.size from h]
  · simp [node, put, hm, Ne.symm hm]

theorem size_put (g : Graph) (n : Nat) (x : Node) : (g.put n x).size = g.size := by
  simp [size, put]

/-- Whether a node is a mapping. -/
def isMapping (g : Graph) (n : Nat) : Bool :=
  match (g.node n).contents with
  | .mapping _ => true
  | _ => false

/-- The entries of a mapping; other nodes have none. -/
def entries (g : Graph) (n : Nat) : List (Nat × Nat) :=
  match (g.node n).contents with
  | .mapping es => es
  | _ => []

/-- Gives a mapping other entries. -/
def setEntries (g : Graph) (n : Nat) (es : List (Nat × Nat)) : Graph :=
  g.put n { g.node n with contents := .mapping es }

/-- Whether the key of an entry has a tag. -/
def hasKey (g : Graph) (tag : Tag) (e : Nat × Nat) : Bool :=
  (g.node e.1).tag = tag

/-- The text of a node, found by going from mappings to what they give for the key for values. The
fuel bounds the way; it runs out only where the way comes back to a mapping. -/
def textWith (g : Graph) : Nat → Nat → Except Flaw Text
  | 0, _ => .error (.fault .tooDeep)
  | fuel + 1, n =>
    match (g.node n).contents with
    | .scalar text => .ok text
    | .sequence _ => .error .malformed
    | .mapping es =>
      match es.find? (g.hasKey .value) with
      | some (_, v) => g.textWith fuel v
      | none => .error .malformed

/-- The text of a node where a scalar is needed. -/
def text (g : Graph) (n : Nat) : Except Flaw Text :=
  g.textWith (g.size + 1) n

end Graph

end VolumeTunnel.Yaml
