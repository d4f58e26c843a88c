import VolumeTunnel.Yaml.Document.Basic
import VolumeTunnel.Yaml.Node.Merge
import VolumeTunnel.Yaml.Scalar

/-!
# Building documents

From the nodes of a document to what they name. A node names one thing, wherever it stands. Scalars
are read where they are met, but a collection is filled only after those met before it; so of
several flaws the one that counts is of the collection met first, and in a collection the first one.

`Document.ofGraph` gives the document of a graph, or the flaw that counts.
-/

namespace VolumeTunnel.Yaml

namespace Graph

/-- The value of a node that is to be a scalar. -/
def scalarValue (g : Graph) (n : Nat) : Except Flaw Value := do
  let tag := (g.node n).tag
  if tag = .unknown || tag = .merge || tag = .value then .error .malformed
  else
    let t ← g.text n
    if tag = .timestamp && g.isMapping n then .error (.fault .wrongType)
    else Scalar.value tag t

/-- Whether the text of a node is written as what is not a number. -/
def isWrittenNan (g : Graph) (n : Nat) : Bool :=
  match g.text n with
  | .ok t => Number.isNan t
  | .error _ => false

end Graph

/-- A key of a mapping, with the number of its node. -/
structure Key where
  node : Nat
  value : Value

namespace Key

/-- Whether two keys are one. What is not a number equals nothing, but it is one key where it is the
same node, and wherever it is written as such. -/
def same (g : Graph) (a b : Key) : Bool :=
  a.value.same b.value
    || (a.value.isNan && b.value.isNan
      && (a.node = b.node || (g.isWrittenNan a.node && g.isWrittenNan b.node)))

/-- Sets what stands under a key: in its place if it is there, last otherwise. -/
def put {α : Type} (g : Graph) : List (Key × α) → Key → α → List (Key × α)
  | [], key, x => [(key, x)]
  | (k, y) :: es, key, x => if k.same g key then (k, x) :: es else (k, y) :: put g es key x

/-- The entries of which the last one for a key counts. -/
def collect {α : Type} (g : Graph) (es : List (Key × α)) : List (Value × α) :=
  (es.foldl (fun es e => put g es e.1 e.2) []).map fun e => (e.1.value, e.2)

end Key

/-- A document of which a part is built. -/
structure Draft where
  graph : Graph
  /-- What the nodes that have been met name, by number. -/
  items : Array (Option Item)
  /-- The nodes of the collections that have been met, in this order. -/
  met : Array Nat
  /-- The collections that are filled: the first ones of those met. -/
  filled : Array Collection

/-- The building of a part of a document. -/
abbrev Building (α : Type) := StateT Draft (Except Flaw) α

namespace Building

/-- No document can be built. -/
def fail {α : Type} : Building α :=
  throw .malformed

/-- Meets a node for the first time. -/
def meet (n : Nat) : Building Item := do
  let d ← get
  match (d.graph.node n).tag with
  | .seq | .map | .set | .pairs =>
    set { d with met := d.met.push n }
    pure (.collection d.met.size)
  | _ => return .leaf (← d.graph.scalarValue n)

/-- What a node names. -/
def item (n : Nat) : Building Item := do
  match (← get).items[n]? with
  | some (some i) => pure i
  | _ =>
    let i ← meet n
    modify fun d => { d with items := d.items.setIfInBounds n (some i) }
    pure i

/-- What a node names as a key. A collection is none. -/
def key (n : Nat) : Building Key := do
  match ← item n with
  | .leaf v => pure ⟨n, v⟩
  | .collection _ => fail

/-- The items of a sequence. -/
def items (n : Nat) : Building (List Item) := do
  match ((← get).graph.node n).contents with
  | .sequence ns => ns.mapM item
  | _ => fail

/-- The pair of a mapping with one entry. -/
def pair (n : Nat) : Building (Item × Item) := do
  match ((← get).graph.node n).contents with
  | .mapping [(k, v)] => return (← item k, ← item v)
  | _ => fail

/-- The pairs of a sequence of mappings with one entry each. -/
def pairs (n : Nat) : Building (List (Item × Item)) := do
  match ((← get).graph.node n).contents with
  | .sequence ns => ns.mapM pair
  | _ => fail

/-- The entries of a mapping, after those merged into it. -/
def entries (n : Nat) : Building (List (Value × Item)) := do
  let d ← get
  if d.graph.isMapping n then
    let g ← d.graph.merge n
    set { d with graph := g }
    let es ← (g.entries n).mapM fun e => return (← key e.1, ← item e.2)
    pure (Key.collect g es)
  else fail

/-- The collection of a node. -/
def collection (n : Nat) : Building Collection := do
  match ((← get).graph.node n).tag with
  | .seq => return .list (← items n)
  | .pairs => return .pairs (← pairs n)
  | .set => return .set ((← entries n).map (·.1))
  | _ => return .dict (← entries n)

/-- Fills the collections that have been met, and those met on the way. The fuel bounds their
number. -/
def fill : Nat → Building Unit
  | 0 => pure ()
  | fuel + 1 => do
    let d ← get
    match d.met[d.filled.size]? with
    | none => pure ()
    | some n =>
      let c ← collection n
      modify fun d => { d with filled := d.filled.push c }
      fill fuel

end Building

namespace Document

/-- The document whose root is a node of a graph. -/
def ofGraph (g : Graph) (root : Nat) : Except Flaw Document := do
  let build : Building Item := do
    let i ← Building.item root
    Building.fill g.size
    pure i
  let (i, d) ← build ⟨g, Array.replicate g.size none, #[], #[]⟩
  pure ⟨i, d.filled⟩

end Document

end VolumeTunnel.Yaml
