import VolumeTunnel.Yaml.Node.Basic
import VolumeTunnel.Yaml.Token.Lexer

/-!
# The nodes of a document

Tokens become nodes by recursive descent. A missing key, value or item is an empty node. An alias
stands for the node with its anchor, which must have begun before. Tokens are looked at one at a
time, so a bad one matters only where it is met.

`Graph.ofTokens` gives the nodes of the only document of a stream and the number of its root, `none`
if it is empty.
-/

namespace VolumeTunnel.Yaml

/-- Tokens yet to be read, and what has been read so far. -/
structure Stream where
  tokens : List Token
  graph : Graph
  /-- The nodes with an anchor, by number. -/
  anchors : List (Text × Nat)
  /-- What the handles of tags stand for. -/
  handles : List (Text × Text)
  /-- The number of collections that the next node is inside of. -/
  depth : Nat

/-- The reading of a part of a stream. -/
abbrev Reading (α : Type) := StateT Stream (Except Flaw) α

/-- Where a node stands. -/
inductive Position where
  /-- Inside brackets. -/
  | flow
  /-- Outside of brackets. -/
  | block
  /-- As key or value of a block mapping, where the items of a sequence need no indentation. -/
  | entry
deriving DecidableEq, Repr

namespace Reading

/-- No node can be read. -/
def fail {α : Type} : Reading α :=
  throw .malformed

/-- The next token. A bad one ends the reading. -/
def peek : Reading Token := do
  match (← get).tokens with
  | [] => pure .streamEnd
  | .bad flaw :: _ => throw flaw
  | token :: _ => pure token

/-- Goes past the next token. -/
def advance : Reading Unit :=
  modify fun s => { s with tokens := s.tokens.drop 1 }

/-- Goes past the next token if it is a certain one, and tells whether it is. -/
def accept (token : Token) : Reading Bool := do
  if (← peek) = token then
    advance
    pure true
  else pure false

/-- The node with an anchor. -/
def lookUp (name : Text) : Reading Nat := do
  match (← get).anchors.find? (·.1 = name) with
  | some (_, n) => pure n
  | none => fail

/-- Adds a node. -/
def add (x : Node) : Reading Nat := do
  let s ← get
  set { s with graph := s.graph.add x }
  pure s.graph.size

/-- Adds a node with an anchor, which must not have been given before. -/
def addAnchored (anchor : Option Text) (x : Node) : Reading Nat := do
  match anchor with
  | none => add x
  | some name =>
    if (← get).anchors.any (·.1 = name) then fail
    else
      let n ← add x
      modify fun s => { s with anchors := (name, n) :: s.anchors }
      pure n

/-- The most collections that a node can be inside of. -/
def maxDepth : Nat := 485

/-- Reads what is inside one more collection. -/
def inside {α : Type} (contents : Reading α) : Reading α := do
  if maxDepth ≤ (← get).depth then throw (.fault .tooDeep)
  else
    modify fun s => { s with depth := s.depth + 1 }
    let x ← contents
    modify fun s => { s with depth := s.depth - 1 }
    pure x

/-- The handles that need no directive. -/
def defaultHandles : List (Text × Text) :=
  [("!", "!"), ("!!", Tag.namespaceName)]

/-- The full name of a tag. -/
def tagName (handle : Option Text) (rest : Text) : Reading Text := do
  match handle with
  | none => pure rest
  | some handle =>
    match ((← get).handles ++ defaultHandles).find? (·.1 = handle) with
    | some (_, beginning) => pure (beginning ++ rest)
    | none => fail

/-- Reads an anchor, if there is one. -/
def readAnchor : Reading (Option Text) := do
  match ← peek with
  | .anchor name =>
    advance
    pure (some name)
  | _ => pure none

/-- Reads a tag, if there is one: its handle and the rest of its name. -/
def readTag : Reading (Option (Option Text × Text)) := do
  match ← peek with
  | .tag handle rest =>
    advance
    pure (some (handle, rest))
  | _ => pure none

/-- Reads anchor and tag of a node, in either order. -/
def readProperties : Reading (Option Text × Option Text) := do
  let (anchor, tag) ← match ← readAnchor with
    | some name => do pure (some name, ← readTag)
    | none => do
      match ← readTag with
      | some tag => do pure (← readAnchor, some tag)
      | none => pure (none, none)
  match tag with
  | none => pure (anchor, none)
  | some (handle, rest) => do pure (anchor, some (← tagName handle rest))

/-- The tag that a collection has, if `kind` is that of its kind. -/
def collectionTag (tag : Option Text) (kind : Tag) : Tag :=
  match tag with
  | none => kind
  | some name => if name = "!" then kind else .ofName name

/-- The tag that a scalar has. -/
def scalarTag (tag : Option Text) (text : Text) (plain : Bool) : Tag :=
  match tag with
  | none => if plain then .ofPlain text else .str
  | some name => if name = "!" then .ofPlain text else .ofName name

/-- Reads a collection, which its own parts can refer to. -/
def collection (anchor : Option Text) (tag : Tag) (contents : Reading Contents) : Reading Nat := do
  let n ← addAnchored anchor .empty
  let contents ← inside contents
  modify fun s => { s with graph := s.graph.put n ⟨tag, contents⟩ }
  pure n

/-- Reads a node, unless one of the given tokens is next: then it is empty. -/
def orEmpty (stops : List Token) (node : Reading Nat) : Reading Nat := do
  if stops.contains (← peek) then add .empty else node

/-- Reads a value, if its indicator is next, and otherwise an empty one. -/
def valueOrEmpty (stops : List Token) (node : Reading Nat) : Reading Nat := do
  if ← accept .value then orEmpty stops node else add .empty

/-- Reads the comma before an item in brackets; the first has none. Tells whether it was there. -/
def separator (isFirst : Bool) : Reading Bool :=
  if isFirst then pure true else accept .flowEntry

mutual

/-- Reads a node. The fuel bounds the number of nodes and items on the way. -/
def node : Nat → Position → Reading Nat
  | 0, _ => fail
  | fuel + 1, position => do
    match ← peek with
    | .alias name =>
      advance
      lookUp name
    | _ =>
      let (anchor, tag) ← readProperties
      let sequence (items : Reading (List Nat)) :=
        collection anchor (collectionTag tag .seq) do return .sequence (← items)
      let mapping (entries : Reading (List (Nat × Nat))) :=
        collection anchor (collectionTag tag .map) do return .mapping (← entries)
      let token ← peek
      match token, position with
      | .scalar text plain, _ =>
        advance
        addAnchored anchor (.scalar (scalarTag tag text plain) text)
      | .flowSequenceStart, _ => sequence do advance; flowItems fuel true
      | .flowMappingStart, _ => mapping do advance; flowEntries fuel true
      | .blockEntry, .entry => sequence (bareItems fuel)
      | .blockSequenceStart, .block => sequence do advance; blockItems fuel
      | .blockSequenceStart, .entry => sequence do advance; blockItems fuel
      | .blockMappingStart, .block => mapping do advance; blockEntries fuel
      | .blockMappingStart, .entry => mapping do advance; blockEntries fuel
      | _, _ =>
        if anchor.isSome || tag.isSome then
          addAnchored anchor (.scalar (scalarTag tag [] true) [])
        else fail

/-- Reads the items of a block sequence and its end. -/
def blockItems : Nat → Reading (List Nat)
  | 0 => fail
  | fuel + 1 => do
    if ← accept .blockEntry then
      let n ← orEmpty [.blockEntry, .blockEnd] (node fuel .block)
      pure (n :: (← blockItems fuel))
    else if ← accept .blockEnd then pure []
    else fail

/-- Reads the items of a sequence without indentation. -/
def bareItems : Nat → Reading (List Nat)
  | 0 => fail
  | fuel + 1 => do
    if ← accept .blockEntry then
      let n ← orEmpty [.blockEntry, .key, .value, .blockEnd] (node fuel .block)
      pure (n :: (← bareItems fuel))
    else pure []

/-- Reads the entries of a block mapping and its end. -/
def blockEntries : Nat → Reading (List (Nat × Nat))
  | 0 => fail
  | fuel + 1 => do
    if ← accept .key then
      let k ← orEmpty [.key, .value, .blockEnd] (node fuel .entry)
      let v ← valueOrEmpty [.key, .value, .blockEnd] (node fuel .entry)
      pure ((k, v) :: (← blockEntries fuel))
    else if ← accept .blockEnd then pure []
    else fail

/-- Reads the items of a sequence in brackets and the closing one. A pair of key and value among
them is a mapping. -/
def flowItems : Nat → Bool → Reading (List Nat)
  | 0, _ => fail
  | fuel + 1, isFirst => do
    if ← accept .flowSequenceEnd then pure []
    else if !(← separator isFirst) then fail
    else if ← accept .flowSequenceEnd then pure []
    else
      let n ← if ← accept .key then
          collection none .map do
            let k ← orEmpty [.value, .flowEntry, .flowSequenceEnd] (node fuel .flow)
            let v ← valueOrEmpty [.flowEntry, .flowSequenceEnd] (node fuel .flow)
            pure (.mapping [(k, v)])
        else node fuel .flow
      pure (n :: (← flowItems fuel false))

/-- Reads the entries of a mapping in brackets and the closing one. -/
def flowEntries : Nat → Bool → Reading (List (Nat × Nat))
  | 0, _ => fail
  | fuel + 1, isFirst => do
    if ← accept .flowMappingEnd then pure []
    else if !(← separator isFirst) then fail
    else if ← accept .flowMappingEnd then pure []
    else
      let e ← if ← accept .key then do
          let k ← orEmpty [.value, .flowEntry, .flowMappingEnd] (node fuel .flow)
          let v ← valueOrEmpty [.flowEntry, .flowMappingEnd] (node fuel .flow)
          pure (k, v)
        else do pure (← node fuel .flow, ← add .empty)
      pure (e :: (← flowEntries fuel false))

end

/-- Reads directives: the handles they declare, and the tokens after them. The version is declared
once and a handle once. -/
def directives (hasVersion : Bool) (handles : List (Text × Text)) :
    List Token → Except Flaw (List (Text × Text) × List Token)
  | .directive (.version major) :: ts =>
    if hasVersion || major ≠ 1 then .error .malformed else directives true handles ts
  | .directive (.shorthand handle beginning) :: ts =>
    if handles.any (·.1 = handle) then .error .malformed
    else directives hasVersion ((handle, beginning) :: handles) ts
  | .directive .unknown :: ts => directives hasVersion handles ts
  | ts => .ok (handles, ts)

/-- Reads directives and the mark that begins a document after them. -/
def documentHead : Reading Unit := do
  let s ← get
  let (handles, tokens) ← directives false [] s.tokens
  set { s with handles, tokens }
  if ← accept .documentStart then pure () else fail

/-- Whether a token ends a document. -/
def endsDocument : Token → Bool
  | .directive _ | .documentStart | .documentEnd | .streamEnd => true
  | _ => false

/-- Reads a document: its root after a mark, which directives may precede, or without one. -/
def document (fuel : Nat) : Reading Nat := do
  match ← peek with
  | .directive _ | .documentStart =>
    documentHead
    if endsDocument (← peek) then add .empty else node fuel .block
  | _ => node fuel .block

/-- Reads the end of a stream, before which there may be marks. -/
def streamEnd : Reading Unit := do
  modify fun s => { s with tokens := s.tokens.dropWhile (· = .documentEnd) }
  if ← accept .streamEnd then pure ()
  else
    documentHead
    fail

/-- Reads the only document of a stream, if it has one. -/
def stream (fuel : Nat) : Reading (Option Nat) := do
  if ← accept .streamEnd then pure none
  else
    let n ← document fuel
    streamEnd
    pure (some n)

end Reading

/-- The nodes and the root of the only document of a stream, `none` if the stream is empty. -/
def Graph.ofTokens (ts : List Token) : Except Flaw (Option (Graph × Nat)) := do
  let (root, s) ← Reading.stream (2 * ts.length + 2) ⟨ts, .empty, [], [], 0⟩
  pure (root.map fun n => (s.graph, n))

end VolumeTunnel.Yaml
