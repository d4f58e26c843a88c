import VolumeTunnel.Proofs.Yaml.Tokens
import VolumeTunnel.Yaml.Node.Parser

/-!
# The nodes of a written mapping

The tokens of an outline are read into a graph. Nodes are added one after the other, so those that
have been read stay as they are (`Graph.Extends`). For a mapping a place is kept, which is filled
after its entries; no node of a text or a truth value stands there (`Graph.Reserves`,
`Graph.HasEntry.put`).

* `Reading.blockEntries_entries` : the nodes of entries, by induction on them;
* `Outline.ofTokens_tokens` : the nodes of an outline.
-/

namespace VolumeTunnel.Yaml

/-- Where a step succeeds, the next one goes on after it. -/
theorem bind_of_ok {σ α β : Type} {x : StateT σ (Except Flaw) α} {f : α → StateT σ (Except Flaw) β}
    {s s' : σ} {a : α} (h : x s = .ok (a, s')) : (x >>= f) s = f a s' := by
  simp only [bind, StateT.bind, h, Except.bind]

theorem get_of_ok {σ : Type} (s : σ) : (get : StateT σ (Except Flaw) σ) s = .ok (s, s) :=
  rfl

/-- The node of a text between double quotes or of a truth value. -/
def Datum.node : Datum → Node
  | text s => .scalar .str s
  | flag b => .scalar .bool (flagWord b)

theorem length_flatMap_entryTokens (es : List (Text × Datum)) :
    (es.flatMap entryTokens).length = 4 * es.length := by
  induction es with
  | nil => rfl
  | cons e es ih =>
    rw [List.flatMap_cons, List.length_append, ih, List.length_cons, entryTokens]
    simp only [List.length_cons, List.length_nil]
    omega

theorem Datum.node_ne_empty (v : Datum) : v.node ≠ .empty := by
  have hempty : Node.empty.tag = .null := by decide
  intro h
  have htag : v.node.tag = .null := (congrArg Node.tag h).trans hempty
  cases v <;> exact nomatch htag

theorem Datum.token_ne_bad (v : Datum) (flaw : Flaw) : v.token ≠ .bad flaw := by
  cases v <;> exact fun h => nomatch h

theorem Datum.token_notMem (v : Datum) : v.token ∉ [Token.key, .value, .blockEnd] := by
  cases v <;> simp [token]

namespace Graph

variable {g g' g'' : Graph} {n : Nat} {x : Node}

/-- The second graph has the nodes of the first one, and maybe more. -/
structure Extends (g g' : Graph) : Prop where
  size : g.size ≤ g'.size
  node : ∀ n < g.size, g'.node n = g.node n

theorem Extends.refl (g : Graph) : g.Extends g :=
  ⟨Nat.le_refl _, fun _ _ => rfl⟩

theorem Extends.trans (h : g.Extends g') (h' : g'.Extends g'') : g.Extends g'' :=
  ⟨Nat.le_trans h.size h'.size, fun n hn =>
    (h'.node n (Nat.lt_of_lt_of_le hn h.size)).trans (h.node n hn)⟩

@[simp] theorem size_add (g : Graph) (x : Node) : (g.add x).size = g.size + 1 :=
  Array.size_push x

theorem extends_add (g : Graph) (x : Node) : g.Extends (g.add x) := by
  refine ⟨by simp, fun n hn => ?_⟩
  rw [node_add, if_neg (Nat.ne_of_lt hn)]

theorem Extends.put {m : Nat} (h : g.Extends g') (hm : g.size ≤ m) (hm' : m < g'.size) (x : Node) :
    g.Extends (g'.put m x) := by
  refine ⟨by rw [size_put]; exact h.size, fun n hn => ?_⟩
  rw [node_put _ _ _ _ hm', if_neg (Nat.ne_of_lt (Nat.lt_of_lt_of_le hn hm)), h.node n hn]

/-- A node of the graph, by its number. -/
structure HasNode (g : Graph) (n : Nat) (x : Node) : Prop where
  lt_size : n < g.size
  node_eq : g.node n = x

theorem HasNode.extends (h : g.HasNode n x) (hg : g.Extends g') : g'.HasNode n x :=
  ⟨Nat.lt_of_lt_of_le h.lt_size hg.size, (hg.node n h.lt_size).trans h.node_eq⟩

theorem hasNode_add (g : Graph) (x : Node) : (g.add x).HasNode g.size x :=
  ⟨by simp, by rw [node_add, if_pos rfl]⟩

theorem hasNode_put (hn : n < g.size) (x : Node) : (g.put n x).HasNode n x :=
  ⟨by rw [size_put]; exact hn, by rw [node_put _ _ _ _ hn, if_pos rfl]⟩

/-- A node stays if another one is replaced. -/
theorem HasNode.put {m : Nat} {y : Node} (h : g.HasNode n x) (hm : g.HasNode m y) (hne : x ≠ y)
    (z : Node) : (g.put m z).HasNode n x := by
  have hnumbers : n ≠ m := by
    rintro rfl
    exact hne (h.node_eq.symm.trans hm.node_eq)
  exact ⟨by rw [size_put]; exact h.lt_size,
    by rw [node_put _ _ _ _ hm.lt_size, if_neg hnumbers, h.node_eq]⟩

/-- The node with a number is that of a text or a truth value. -/
abbrev HasDatum (g : Graph) (n : Nat) (v : Datum) : Prop :=
  g.HasNode n v.node

/-- A place is kept for the node with a number. -/
abbrev Reserves (g : Graph) (n : Nat) : Prop :=
  g.HasNode n .empty

/-- The nodes of an entry. -/
structure HasEntry (g : Graph) (e : Nat × Nat) (entry : Text × Datum) : Prop where
  key : g.HasDatum e.1 (.text entry.1)
  value : g.HasDatum e.2 entry.2

theorem HasEntry.extends {e : Nat × Nat} {entry : Text × Datum} (h : g.HasEntry e entry)
    (hg : g.Extends g') : g'.HasEntry e entry :=
  ⟨h.key.extends hg, h.value.extends hg⟩

theorem HasEntry.put {m : Nat} {e : Nat × Nat} {entry : Text × Datum} (h : g.HasEntry e entry)
    (hm : g.Reserves m) (x : Node) : (g.put m x).HasEntry e entry :=
  ⟨h.key.put hm (Datum.node_ne_empty _) x, h.value.put hm (Datum.node_ne_empty _) x⟩

/-- The nodes of a mapping. -/
structure HasMapping (g : Graph) (n : Nat) (ns : List (Nat × Nat)) (es : List (Text × Datum)) :
    Prop where
  node : g.HasNode n ⟨.map, .mapping ns⟩
  entries : List.Forall₂ g.HasEntry ns es

theorem HasMapping.extends {ns : List (Nat × Nat)} {es : List (Text × Datum)}
    (h : g.HasMapping n ns es) (hg : g.Extends g') : g'.HasMapping n ns es :=
  ⟨h.node.extends hg, h.entries.imp fun _ _ he => he.extends hg⟩

theorem HasMapping.put {m : Nat} {ns : List (Nat × Nat)} {es : List (Text × Datum)}
    (h : g.HasMapping n ns es) (hm : g.Reserves m) (x : Node) : (g.put m x).HasMapping n ns es :=
  ⟨h.node.put hm (fun heq => nomatch heq) x, h.entries.imp fun _ _ he => he.put hm x⟩

/-- The numbers of the nodes of an outline. -/
structure Places where
  root : Nat
  before : List (Nat × Nat)
  key : Nat
  mapping : Nat
  inner : List (Nat × Nat)
  after : List (Nat × Nat)

/-- The nodes of an outline. -/
structure HasOutline (g : Graph) (p : Places) (o : Outline) : Prop where
  different : p.mapping ≠ p.root
  root : g.HasNode p.root ⟨.map, .mapping (p.before ++ (p.key, p.mapping) :: p.after)⟩
  before : List.Forall₂ g.HasEntry p.before o.before
  key : g.HasDatum p.key (.text o.key)
  mapping : g.HasMapping p.mapping p.inner o.inner
  after : List.Forall₂ g.HasEntry p.after o.after

end Graph

namespace Reading

variable {α : Type} {token : Token} {ts : List Token} {g : Graph} {anchors : List (Text × Nat)}
  {handles : List (Text × Text)} {depth fuel : Nat} {s s' : Stream} {ts' : List Token} {g' : Graph}

theorem peek_cons (h : ∀ flaw, token ≠ .bad flaw) :
    peek ⟨token :: ts, g, anchors, handles, depth⟩ =
      .ok (token, ⟨token :: ts, g, anchors, handles, depth⟩) := by
  cases token with
  | bad flaw => exact absurd rfl (h flaw)
  | _ => rfl

theorem accept_self (h : ∀ flaw, token ≠ .bad flaw) :
    accept token ⟨token :: ts, g, anchors, handles, depth⟩ =
      .ok (true, ⟨ts, g, anchors, handles, depth⟩) := by
  rw [accept, bind_of_ok (peek_cons h), if_pos rfl]
  rfl

theorem accept_ne {other : Token} (h : ∀ flaw, token ≠ .bad flaw) (hne : token ≠ other) :
    accept other ⟨token :: ts, g, anchors, handles, depth⟩ =
      .ok (false, ⟨token :: ts, g, anchors, handles, depth⟩) := by
  rw [accept, bind_of_ok (peek_cons h), if_neg hne]
  rfl

theorem orEmpty_of_notMem {stops : List Token} {x : Reading Nat} (h : ∀ flaw, token ≠ .bad flaw)
    (hstops : token ∉ stops) :
    orEmpty stops x ⟨token :: ts, g, anchors, handles, depth⟩ =
      x ⟨token :: ts, g, anchors, handles, depth⟩ := by
  have hcontains : ¬stops.contains token = true := fun hmem => hstops (List.contains_iff_mem.1 hmem)
  rw [orEmpty, bind_of_ok (peek_cons h), if_neg hcontains]

theorem node_datum (v : Datum) (position : Position) :
    node (fuel + 1) position ⟨v.token :: ts, g, anchors, handles, depth⟩ =
      .ok (g.size, ⟨ts, g.add v.node, anchors, handles, depth⟩) := by
  cases v with
  | text s => cases position <;> rfl
  | flag b => cases position <;> cases b <;> rfl

theorem node_key {key : Text} (hkey : Tag.ofPlain key = .str) (position : Position) :
    node (fuel + 1) position ⟨.scalar key true :: ts, g, anchors, handles, depth⟩ =
      .ok (g.size, ⟨ts, g.add (Datum.text key).node, anchors, handles, depth⟩) := by
  have hnode : node (fuel + 1) position ⟨.scalar key true :: ts, g, anchors, handles, depth⟩ =
      .ok (g.size, ⟨ts, g.add (.scalar (.ofPlain key) key), anchors, handles, depth⟩) := by
    cases position <;> rfl
  rw [hnode, hkey]
  rfl

theorem inside_of_ok {x : Reading α} {a : α} (hdepth : depth < maxDepth)
    (h : x ⟨ts, g, anchors, handles, depth + 1⟩ = .ok (a, ⟨ts', g', anchors, handles, depth + 1⟩)) :
    inside x ⟨ts, g, anchors, handles, depth⟩ = .ok (a, ⟨ts', g', anchors, handles, depth⟩) := by
  rw [inside, bind_of_ok (get_of_ok _), if_neg (Nat.not_le.2 hdepth), bind_of_ok (a := ()) rfl, bind_of_ok h]
  rfl

theorem node_mapping {position : Position} {es : List (Nat × Nat)} (hposition : position ≠ .flow)
    (hdepth : depth < maxDepth)
    (h : blockEntries fuel ⟨ts, g.add .empty, anchors, handles, depth + 1⟩ =
      .ok (es, ⟨ts', g', anchors, handles, depth + 1⟩)) :
    node (fuel + 1) position ⟨.blockMappingStart :: ts, g, anchors, handles, depth⟩ =
      .ok (g.size, ⟨ts', g'.put g.size ⟨.map, .mapping es⟩, anchors, handles, depth⟩) := by
  have hcollection : node (fuel + 1) position ⟨.blockMappingStart :: ts, g, anchors, handles, depth⟩ =
      collection none .map (do return .mapping (← do advance; blockEntries fuel))
        ⟨.blockMappingStart :: ts, g, anchors, handles, depth⟩ := by
    cases position with
    | flow => exact absurd rfl hposition
    | block => rfl
    | entry => rfl
  have hadd : addAnchored none .empty ⟨.blockMappingStart :: ts, g, anchors, handles, depth⟩ =
      .ok (g.size, ⟨.blockMappingStart :: ts, g.add .empty, anchors, handles, depth⟩) := rfl
  have hadvance : advance ⟨.blockMappingStart :: ts, g.add .empty, anchors, handles, depth + 1⟩ =
      .ok ((), ⟨ts, g.add .empty, anchors, handles, depth + 1⟩) := rfl
  have hcontents : (do return .mapping (← do advance; blockEntries fuel) : Reading Contents)
      ⟨.blockMappingStart :: ts, g.add .empty, anchors, handles, depth + 1⟩ =
      .ok (.mapping es, ⟨ts', g', anchors, handles, depth + 1⟩) := by
    rw [bind_of_ok hadvance, bind_of_ok h]
    rfl
  rw [hcollection, collection, bind_of_ok hadd, bind_of_ok (inside_of_ok hdepth hcontents)]
  rfl

/-! ## Entries -/

theorem blockEntries_end :
    blockEntries (fuel + 1) ⟨.blockEnd :: ts, g, anchors, handles, depth⟩ =
      .ok ([], ⟨ts, g, anchors, handles, depth⟩) :=
  rfl

theorem blockEntries_cons {key : Text} {v : Nat} {es : List (Nat × Nat)}
    (hkey : Tag.ofPlain key = .str) (htoken : ∀ flaw, token ≠ .bad flaw)
    (hstops : token ∉ [Token.key, .value, .blockEnd])
    (hv : node (fuel + 1) .entry
      ⟨token :: ts, g.add (Datum.text key).node, anchors, handles, depth⟩ = .ok (v, s))
    (hes : blockEntries (fuel + 1) s = .ok (es, s')) :
    blockEntries (fuel + 2)
        ⟨.key :: .scalar key true :: .value :: token :: ts, g, anchors, handles, depth⟩ =
      .ok ((g.size, v) :: es, s') := by
  have haccept : accept .key ⟨.key :: .scalar key true :: .value :: token :: ts, g, anchors, handles,
      depth⟩ = .ok (true, ⟨.scalar key true :: .value :: token :: ts, g, anchors, handles, depth⟩) :=
    accept_self fun _ h => nomatch h
  have haccept' : accept .value ⟨.value :: token :: ts, g.add (Datum.text key).node, anchors, handles,
      depth⟩ = .ok (true, ⟨token :: ts, g.add (Datum.text key).node, anchors, handles, depth⟩) :=
    accept_self fun _ h => nomatch h
  have hfirst : orEmpty [.key, .value, .blockEnd] (node (fuel + 1) .entry)
      ⟨.scalar key true :: .value :: token :: ts, g, anchors, handles, depth⟩ =
      .ok (g.size, ⟨.value :: token :: ts, g.add (Datum.text key).node, anchors, handles,
        depth⟩) := by
    refine (orEmpty_of_notMem ?_ (by simp)).trans (node_key hkey .entry)
    exact fun _ h => nomatch h
  have hsecond : valueOrEmpty [.key, .value, .blockEnd] (node (fuel + 1) .entry)
      ⟨.value :: token :: ts, g.add (Datum.text key).node, anchors, handles, depth⟩ = .ok (v, s) := by
    rw [valueOrEmpty, bind_of_ok haccept', if_pos rfl, orEmpty_of_notMem htoken hstops, hv]
  rw [blockEntries, bind_of_ok haccept, if_pos rfl, bind_of_ok hfirst, bind_of_ok hsecond,
    bind_of_ok hes]
  rfl

theorem blockEntries_entries {es : List (Text × Datum)} (hwords : ∀ e ∈ es, IsWord e.1) (g : Graph) :
    ∃ ns g', g.Extends g' ∧ List.Forall₂ g'.HasEntry ns es ∧
      ∀ fuel ts depth anchors handles rest s,
        blockEntries (fuel + 1) ⟨ts, g', anchors, handles, depth⟩ = .ok (rest, s) →
        blockEntries (fuel + 1 + es.length)
          ⟨es.flatMap entryTokens ++ ts, g, anchors, handles, depth⟩ = .ok (ns ++ rest, s) := by
  induction es generalizing g with
  | nil => exact ⟨[], g, .refl g, .nil, fun _ _ _ _ _ _ _ h => h⟩
  | cons e es ih =>
    obtain ⟨key, v⟩ := e
    obtain ⟨hkey, hwords⟩ := List.forall_mem_cons.1 hwords
    obtain ⟨ns, g', hextends, hentries, hread⟩ :=
      ih hwords ((g.add (Datum.text key).node).add v.node)
    have hkeyAt := (Graph.hasNode_add g (Datum.text key).node).extends (Graph.extends_add _ v.node)
    have hvalueAt := Graph.hasNode_add (g.add (Datum.text key).node) v.node
    refine ⟨(g.size, (g.add (Datum.text key).node).size) :: ns, g',
      ((Graph.extends_add g _).trans (Graph.extends_add _ _)).trans hextends,
      .cons ⟨hkeyAt.extends hextends, hvalueAt.extends hextends⟩ hentries, ?_⟩
    intro fuel ts depth anchors handles rest s h
    have hrest := hread fuel ts depth anchors handles rest s h
    rw [Nat.add_right_comm] at hrest
    have hfuel : fuel + 1 + ((key, v) :: es).length = fuel + es.length + 2 := by
      rw [List.length_cons]
      omega
    rw [hfuel]
    exact blockEntries_cons hkey.tag v.token_ne_bad v.token_notMem (node_datum v .entry) hrest

theorem blockEntries_mapping {key : Text} {es : List (Text × Datum)} (hkey : IsWord key)
    (hwords : ∀ e ∈ es, IsWord e.1) (g : Graph) :
    ∃ n ns g', g.Extends g' ∧ g'.HasDatum g.size (.text key) ∧ g'.HasMapping n ns es ∧
      ∀ fuel ts depth anchors handles rest s, es.length < fuel → depth < maxDepth →
        blockEntries (fuel + 1) ⟨ts, g', anchors, handles, depth⟩ = .ok (rest, s) →
        blockEntries (fuel + 2) ⟨mappingTokens key es ++ ts, g, anchors, handles, depth⟩ =
          .ok ((g.size, n) :: rest, s) := by
  have hkeyAt := Graph.hasNode_add g (Datum.text key).node
  have hreserves := Graph.hasNode_add (g.add (Datum.text key).node) .empty
  obtain ⟨ns, g', hextends, hentries, hread⟩ :=
    blockEntries_entries hwords ((g.add (Datum.text key).node).add .empty)
  have hreserves' := hreserves.extends hextends
  refine ⟨(g.add (Datum.text key).node).size, ns,
    g'.put (g.add (Datum.text key).node).size ⟨.map, .mapping ns⟩, ?_, ?_, ⟨?_, ?_⟩, ?_⟩
  · refine Graph.Extends.put ?_ (by simp) hreserves'.lt_size _
    exact ((Graph.extends_add g _).trans (Graph.extends_add _ _)).trans hextends
  · refine Graph.HasNode.put ?_ hreserves' (Datum.node_ne_empty _) _
    exact (hkeyAt.extends (Graph.extends_add _ _)).extends hextends
  · exact Graph.hasNode_put hreserves'.lt_size _
  · exact hentries.imp fun _ _ h => h.put hreserves' _
  · intro fuel ts depth anchors handles rest s hfuel hdepth hrest
    obtain ⟨fuel, rfl⟩ := Nat.exists_eq_add_of_le' (Nat.succ_le_of_lt hfuel)
    have hend := hread fuel (.blockEnd :: ts) (depth + 1) anchors handles [] _ blockEntries_end
    rw [List.append_nil, Nat.add_right_comm] at hend
    rw [mappingTokens, List.cons_append, List.cons_append, List.cons_append, List.cons_append,
      List.append_assoc]
    refine blockEntries_cons hkey.tag (by simp) (by simp) ?_ hrest
    exact node_mapping (by simp) hdepth hend

/-! ## Documents -/

theorem stream_of_node {n : Nat}
    (h : node fuel .block ⟨.blockMappingStart :: ts, .empty, [], [], 0⟩ =
      .ok (n, ⟨[.streamEnd], g, [], [], 0⟩)) :
    stream fuel ⟨.blockMappingStart :: ts, .empty, [], [], 0⟩ =
      .ok (some n, ⟨[], g, [], [], 0⟩) := by
  have hpeek : peek ⟨.blockMappingStart :: ts, .empty, [], [], 0⟩ =
      .ok (.blockMappingStart, ⟨.blockMappingStart :: ts, .empty, [], [], 0⟩) :=
    peek_cons fun _ h => nomatch h
  have haccept : accept .streamEnd ⟨.blockMappingStart :: ts, .empty, [], [], 0⟩ =
      .ok (false, ⟨.blockMappingStart :: ts, .empty, [], [], 0⟩) :=
    accept_ne (fun _ h => nomatch h) fun h => nomatch h
  have hdocument : document fuel ⟨.blockMappingStart :: ts, .empty, [], [], 0⟩ =
      .ok (n, ⟨[.streamEnd], g, [], [], 0⟩) := by
    rw [document, bind_of_ok hpeek]
    exact h
  rw [stream, bind_of_ok haccept, if_neg Bool.false_ne_true, bind_of_ok hdocument]
  rfl

end Reading

/-- The tokens of an outline have its nodes. -/
theorem Outline.ofTokens_tokens {o : Outline} (ho : o.IsPlain) :
    ∃ g p, Graph.ofTokens o.tokens = .ok (some (g, p.root)) ∧ g.HasOutline p o := by
  obtain ⟨⟨hwordsBefore, hwordsInner⟩, hwordsAfter⟩ := ho.words
  obtain ⟨before, g₁, hextends₁, hbefore, hread₁⟩ :=
    Reading.blockEntries_entries hwordsBefore (Graph.empty.add .empty)
  obtain ⟨n, inner, g₂, hextends₂, hkey, hmapping, hread₂⟩ :=
    Reading.blockEntries_mapping ho.key hwordsInner g₁
  obtain ⟨after, g₃, hextends₃, hafter, hread₃⟩ := Reading.blockEntries_entries hwordsAfter g₂
  -- the place of the mapping around all of it is kept first and filled last
  have hroot : g₃.Reserves 0 :=
    (((Graph.hasNode_add Graph.empty .empty).extends hextends₁).extends hextends₂).extends hextends₃
  refine ⟨g₃.put 0 ⟨.map, .mapping (before ++ (g₁.size, n) :: after)⟩,
    ⟨0, before, g₁.size, n, inner, after⟩, ?_, ?_⟩
  · obtain ⟨fuel, hfuel⟩ : ∃ fuel, 2 * o.tokens.length + 2 =
        fuel + o.inner.length + 1 + o.after.length + 2 + o.before.length + 1 := by
      refine ⟨2 * o.tokens.length - (o.inner.length + o.after.length + o.before.length + 2), ?_⟩
      simp only [Outline.tokens, mappingTokens, List.length_cons, List.length_append,
        length_flatMap_entryTokens, List.length_nil]
      omega
    have hlast := hread₃ (fuel + o.inner.length + 1) [.blockEnd, .streamEnd] 1 [] [] [] _
      Reading.blockEntries_end
    rw [List.append_nil, Nat.add_right_comm] at hlast
    have hmiddle := hread₂ (fuel + o.inner.length + 1 + o.after.length) _ 1 [] [] _ _ (by omega)
      (by decide) hlast
    have hall := hread₁ _ _ _ _ _ _ _ hmiddle
    have hstream := Reading.stream_of_node (Reading.node_mapping (by simp) (by decide) hall)
    rw [Graph.ofTokens, hfuel, Outline.tokens, hstream]
    rfl
  · exact {
      different := by
        rintro (rfl : n = 0)
        cases (hmapping.extends hextends₃).node.node_eq.symm.trans hroot.node_eq
      root := Graph.hasNode_put hroot.lt_size _
      before := hbefore.imp fun _ _ h => ((h.extends hextends₂).extends hextends₃).put hroot _
      key := (hkey.extends hextends₃).put hroot (Datum.node_ne_empty _) _
      mapping := (hmapping.extends hextends₃).put hroot _
      after := hafter.imp fun _ _ h => h.put hroot _ }

end VolumeTunnel.Yaml
