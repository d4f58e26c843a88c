import VolumeTunnel.Proofs.Yaml.Nodes
import VolumeTunnel.Yaml.Load
import Mathlib.Data.List.TakeWhile

/-!
# The document of a written mapping

The nodes of an outline are built into a document of two collections. A draft keeps what nodes have
been met : a scalar that has been met names its value, so it may be met again, and a mapping is met
once (`Draft.At`, `Building.item_datum`, `Building.item_mapping`). Keys that are different texts are
all kept (`Key.collect_eq`), and there is nothing to merge (`Graph.merge_eq`).

* `Outline.ofGraph_eq` : the document of the nodes of an outline;
* `Outline.load_of_writes` : what is written is loaded as the document of the outline.
-/

namespace VolumeTunnel.Yaml

/-- Entries whose keys are texts. -/
def keyed {α : Type} (es : List (Text × α)) : List (Value × α) :=
  es.map fun e => (.text e.1, e.2)

/-- The entries of a mapping as they stand in a document. -/
def leaves (es : List (Text × Datum)) : List (Text × Item) :=
  es.map fun e => (e.1, .leaf e.2.value)

theorem map_fst_leaves (es : List (Text × Datum)) : (leaves es).map Prod.fst = es.map Prod.fst :=
  List.map_map

namespace Graph

variable {g : Graph} {n : Nat} {x : Node} {v : Datum}

/-! ## Scalars -/

theorem text_of_scalar {tag : Tag} {t : Text} (h : g.node n = .scalar tag t) :
    g.text n = .ok t := by
  rw [text, textWith, h]
  rfl

theorem HasDatum.scalarValue (h : g.HasDatum n v) : g.scalarValue n = .ok v.value := by
  cases v with
  | text s =>
    have hnode : g.node n = .scalar .str s := h.node_eq
    rw [Graph.scalarValue, text_of_scalar hnode, hnode]
    rfl
  | flag b =>
    have hnode : g.node n = .scalar .bool (flagWord b) := h.node_eq
    rw [Graph.scalarValue, text_of_scalar hnode, hnode]
    cases b <;> rfl

theorem HasDatum.tag_ne (h : g.HasDatum n v) {tag : Tag} (htext : tag ≠ .str)
    (hflag : tag ≠ .bool) : (g.node n).tag ≠ tag := by
  rw [h.node_eq]
  cases v with
  | text s => exact htext.symm
  | flag b => exact hflag.symm

/-! ## Merging -/

theorem put_node (g : Graph) (n : Nat) : g.put n (g.node n) = g := by
  refine congrArg Graph.mk (Array.ext_getElem? fun i => ?_)
  rw [Array.getElem?_setIfInBounds]
  split
  next h =>
    subst h
    split
    next hn => simp [node, hn]
    next hn => rw [Array.getElem?_eq_none (Nat.not_lt.1 hn)]
  next => rfl

/-- Without merge keys and keys for values there is nothing to merge. -/
theorem merge_eq {ns : List (Nat × Nat)} (hnode : g.node n = ⟨.map, .mapping ns⟩)
    (hkeys : ∀ e ∈ ns, ∃ key, g.HasDatum e.1 (.text key)) : g.merge n = .ok g := by
  have hentries : g.entries n = ns := by
    rw [entries, hnode]
  have htake : g.takeMerge? n = none := by
    have hdrop : (ns.dropWhile fun e => !g.hasKey .merge e) = [] := by
      rw [List.dropWhile_eq_nil_iff]
      intro e he
      obtain ⟨key, hkey⟩ := hkeys e he
      rw [hasKey, decide_eq_false (hkey.tag_ne (by decide) (by decide))]
      rfl
    rw [takeMerge?, hentries, hdrop]
  have hname : ns.foldl (fun g e => g.nameKey e.1) g = g := by
    refine List.foldlRecOn ns _ (motive := fun g' => g' = g) rfl fun g' hg' e he => ?_
    obtain ⟨key, hkey⟩ := hkeys e he
    rw [hg', nameKey, if_neg (hkey.tag_ne (by decide) (by decide))]
  have hput : g.putInFront n [] = g := by
    rw [putInFront, hentries, hname, hentries, List.nil_append, setEntries, hnode]
    dsimp only
    rw [← hnode, put_node]
  rw [merge, mergeWith, htake]
  dsimp only
  rw [hput]

end Graph

/-! ## Keys -/

namespace Key

variable {α : Type} {g : Graph}

theorem put_of_forall {es : List (Key × α)} {key : Key} (h : ∀ e ∈ es, e.1.same g key = false)
    (x : α) : put g es key x = es ++ [(key, x)] := by
  induction es with
  | nil => rfl
  | cons e es ih =>
    obtain ⟨hfirst, hrest⟩ := List.forall_mem_cons.1 h
    rw [put, if_neg (Bool.eq_false_iff.1 hfirst), ih hrest]
    rfl

theorem foldl_put_of_pairwise {es : List (Key × α)} (before : List (Key × α))
    (h : (before ++ es).Pairwise fun e e' => e.1.same g e'.1 = false) :
    es.foldl (fun es e => put g es e.1 e.2) before = before ++ es := by
  induction es generalizing before with
  | nil => rw [List.foldl_nil, List.append_nil]
  | cons e es ih =>
    have hfirst : ∀ e' ∈ before, e'.1.same g e.1 = false := fun e' he' =>
      (List.pairwise_append.1 h).2.2 e' he' e List.mem_cons_self
    rw [List.append_cons] at h
    rw [List.foldl_cons, put_of_forall hfirst, ih _ h, List.append_assoc]
    rfl

/-- Keys that are different texts are all kept. -/
theorem collect_eq {ks : List (Key × α)} {es : List (Text × α)}
    (hks : ks.map (fun e => (e.1.value, e.2)) = keyed es) (hes : (es.map Prod.fst).Nodup) :
    collect g ks = keyed es := by
  have hdifferent : (keyed es).Pairwise fun e e' => e.1.same e'.1 = false ∧ e.1.isNan = false := by
    rw [keyed, List.pairwise_map]
    exact (List.pairwise_map.1 hes).imp fun hne =>
      ⟨(Value.same_text _ _).trans (beq_eq_false_iff_ne.2 hne), rfl⟩
  rw [← hks, List.pairwise_map] at hdifferent
  have hsame : ks.Pairwise fun e e' => e.1.same g e'.1 = false :=
    hdifferent.imp fun ⟨hvalue, hnan⟩ => by rw [same, hvalue, hnan]; rfl
  rw [collect, foldl_put_of_pairwise [] hsame, List.nil_append, hks]

end Key

/-! ## Drafts -/

/-- A draft of a document of a graph in which texts, truth values and mappings stand. A scalar that
has been met names its value, and a mapping that names something has been met. -/
structure Draft.At (d : Draft) (g : Graph) (met : Array Nat) (filled : Array Collection) :
    Prop where
  graph_eq : d.graph = g
  met_eq : d.met = met
  filled_eq : d.filled = filled
  datum : ∀ n v i, g.HasDatum n v → d.items[n]? = some (some i) → i = .leaf v.value
  mapping : ∀ n i, (g.node n).tag = .map → d.items[n]? = some (some i) → n ∈ met

/-- At first nothing has been met. -/
theorem Draft.at_start (g : Graph) :
    (⟨g, Array.replicate g.size none, #[], #[]⟩ : Draft).At g #[] #[] := by
  have hnone {n : Nat} {i : Item} :
      (Array.replicate g.size (none : Option Item))[n]? ≠ some (some i) := by
    rw [Array.getElem?_replicate]
    split <;> exact fun h => nomatch h
  exact ⟨rfl, rfl, rfl, fun _ _ _ _ h => absurd h hnone, fun _ _ _ h => absurd h hnone⟩

namespace Building

variable {d d' : Draft} {g : Graph} {met : Array Nat} {filled : Array Collection} {n : Nat}
  {v : Datum}

theorem meet_datum (hd : d.At g met filled) (h : g.HasDatum n v) :
    meet n d = .ok (.leaf v.value, d) := by
  have hscalar : d.graph.scalarValue n = .ok v.value := hd.graph_eq ▸ h.scalarValue
  have htag : (d.graph.node n).tag = v.node.tag := by rw [hd.graph_eq, h.node_eq]
  rw [meet, bind_of_ok (get_of_ok d), htag]
  cases v <;>
  · dsimp only [Datum.node, Node.scalar]
    rw [hscalar]
    rfl

theorem meet_mapping (hd : d.At g met filled) (htag : (g.node n).tag = .map) :
    meet n d = .ok (.collection met.size, { d with met := met.push n }) := by
  rw [meet, bind_of_ok (get_of_ok d), hd.graph_eq, htag, hd.met_eq]
  rfl

theorem getElem?_setIfInBounds_some {items : Array (Option Item)} {m : Nat} {i j : Item}
    (h : (items.setIfInBounds n (some i))[m]? = some (some j)) :
    m = n ∧ j = i ∨ items[m]? = some (some j) := by
  rw [Array.getElem?_setIfInBounds] at h
  split at h
  next hm =>
    split at h
    · exact Or.inl ⟨hm.symm, (Option.some.inj (Option.some.inj h)).symm⟩
    · exact nomatch h
  next => exact Or.inr h

theorem item_of_met {i : Item} (h : d.items[n]? = some (some i)) : item n d = .ok (i, d) := by
  rw [item, bind_of_ok (get_of_ok d), h]
  rfl

theorem item_of_meet {i : Item} (h : ¬∃ i, d.items[n]? = some (some i))
    (hmeet : meet n d = .ok (i, d')) :
    item n d = .ok (i, { d' with items := d'.items.setIfInBounds n (some i) }) := by
  rw [item, bind_of_ok (get_of_ok d)]
  cases hitem : d.items[n]? with
  | none =>
    dsimp only
    rw [bind_of_ok hmeet]
    rfl
  | some met =>
    cases met with
    | none =>
      dsimp only
      rw [bind_of_ok hmeet]
      rfl
    | some i => exact absurd ⟨i, hitem⟩ h

/-- What a text or a truth value names. -/
theorem item_datum (hd : d.At g met filled) (h : g.HasDatum n v) :
    ∃ d', item n d = .ok (.leaf v.value, d') ∧ d'.At g met filled := by
  by_cases hmet : ∃ i, d.items[n]? = some (some i)
  · obtain ⟨i, hi⟩ := hmet
    exact ⟨d, hd.datum n v i h hi ▸ item_of_met hi, hd⟩
  · refine ⟨_, item_of_meet hmet (meet_datum hd h), hd.graph_eq, hd.met_eq, hd.filled_eq,
      fun m w i hm hi => ?_, fun m i hm hi => ?_⟩
    · rcases getElem?_setIfInBounds_some hi with ⟨rfl, rfl⟩ | hi
      · have hvalues := h.scalarValue.symm.trans hm.scalarValue
        rw [Except.ok.inj hvalues]
      · exact hd.datum m w i hm hi
    · rcases getElem?_setIfInBounds_some hi with ⟨rfl, -⟩ | hi
      · exact absurd hm (h.tag_ne (by decide) (by decide))
      · exact hd.mapping m i hm hi

/-- What a mapping names that is met for the first time. -/
theorem item_mapping (hd : d.At g met filled) (htag : (g.node n).tag = .map) (hn : n ∉ met) :
    ∃ d', item n d = .ok (.collection met.size, d') ∧ d'.At g (met.push n) filled := by
  have hmet : ¬∃ i, d.items[n]? = some (some i) := fun ⟨i, hi⟩ => hn (hd.mapping n i htag hi)
  refine ⟨_, item_of_meet hmet (meet_mapping hd htag), hd.graph_eq, rfl, hd.filled_eq,
    fun m w i hm hi => ?_, fun m i hm hi => ?_⟩
  · rcases getElem?_setIfInBounds_some hi with ⟨rfl, -⟩ | hi
    · exact absurd htag (hm.tag_ne (by decide) (by decide))
    · exact hd.datum m w i hm hi
  · rcases getElem?_setIfInBounds_some hi with ⟨rfl, -⟩ | hi
    · exact Array.mem_push_self
    · exact Array.mem_push_of_mem n (hd.mapping m i hm hi)

theorem key_datum {t : Text} (hd : d.At g met filled) (h : g.HasDatum n (.text t)) :
    ∃ d', key n d = .ok (⟨n, .text t⟩, d') ∧ d'.At g met filled := by
  obtain ⟨d', hitem, hd'⟩ := item_datum hd h
  rw [key, bind_of_ok hitem]
  exact ⟨d', rfl, hd'⟩

/-! ## Entries -/

/-- The key and the item of an entry. -/
def entry (e : Nat × Nat) : Building (Key × Item) := do
  return (← key e.1, ← item e.2)

theorem mapM_entry {ns : List (Nat × Nat)} {es : List (Text × Datum)} (hd : d.At g met filled)
    (h : List.Forall₂ g.HasEntry ns es) :
    ∃ ks d', ns.mapM entry d = .ok (ks, d') ∧ d'.At g met filled ∧
      ks.map (fun e => (e.1.value, e.2)) = keyed (leaves es) := by
  induction h generalizing d with
  | nil => exact ⟨[], d, rfl, hd, rfl⟩
  | @cons n e ns es he _ ih =>
    obtain ⟨d₁, hkey, hd₁⟩ := key_datum hd he.key
    obtain ⟨d₂, hitem, hd₂⟩ := item_datum hd₁ he.value
    obtain ⟨ks, d₃, hrest, hd₃, hks⟩ := ih hd₂
    refine ⟨(⟨n.1, .text e.1⟩, .leaf e.2.value) :: ks, d₃, ?_, hd₃, congrArg (_ :: ·) hks⟩
    have hentry : entry n d = .ok ((⟨n.1, .text e.1⟩, .leaf e.2.value), d₂) := by
      rw [entry, bind_of_ok hkey, bind_of_ok hitem]
      rfl
    rw [List.mapM_cons, bind_of_ok hentry, bind_of_ok hrest]
    rfl

theorem exists_key_of_mem {ns : List (Nat × Nat)} {es : List (Text × Datum)}
    (h : List.Forall₂ g.HasEntry ns es) : ∀ e ∈ ns, ∃ key, g.HasDatum e.1 (.text key) := by
  induction h with
  | nil => exact fun e he => nomatch he
  | cons he _ ih => exact List.forall_mem_cons.2 ⟨⟨_, he.key⟩, ih⟩

/-- The collection of a mapping, given what its entries are. -/
theorem collection_mapping {ns : List (Nat × Nat)} {ks : List (Key × Item)}
    {es : List (Text × Item)} (hd : d.At g met filled) (hnode : g.node n = ⟨.map, .mapping ns⟩)
    (hkeys : ∀ e ∈ ns, ∃ key, g.HasDatum e.1 (.text key)) (hread : ns.mapM entry d = .ok (ks, d'))
    (hks : ks.map (fun e => (e.1.value, e.2)) = keyed es) (hes : (es.map Prod.fst).Nodup) :
    collection n d = .ok (.dict (keyed es), d') := by
  obtain ⟨g', items, met', filled'⟩ := d
  obtain rfl : g' = g := hd.graph_eq
  have hmapping : g'.isMapping n = true := by rw [Graph.isMapping, hnode]
  have hmerge : (liftM (g'.merge n) : Building Graph) ⟨g', items, met', filled'⟩ =
      .ok (g', ⟨g', items, met', filled'⟩) := by
    rw [Graph.merge_eq hnode hkeys]
    rfl
  have hlist : g'.entries n = ns := by rw [Graph.entries, hnode]
  have hread' : (ns.mapM fun e => (do return (← key e.1, ← item e.2) : Building (Key × Item)))
      ⟨g', items, met', filled'⟩ = .ok (ks, d') := hread
  have hentries : entries n ⟨g', items, met', filled'⟩ = .ok (Key.collect g' ks, d') := by
    rw [entries, bind_of_ok (a := ⟨g', items, met', filled'⟩) rfl]
    dsimp only
    rw [if_pos hmapping, bind_of_ok hmerge, bind_of_ok (a := ()) rfl, hlist, bind_of_ok hread']
    rfl
  rw [collection, bind_of_ok (a := ⟨g', items, met', filled'⟩) rfl]
  dsimp only
  rw [hnode]
  dsimp only
  rw [bind_of_ok hentries, Key.collect_eq hks hes]
  rfl

/-! ## Filling -/

theorem fill_step {met' : Array Nat} {c : Collection} (hd : d.At g met filled)
    (hn : met[filled.size]? = some n) (hc : collection n d = .ok (c, d'))
    (hd' : d'.At g met' filled) (fuel : Nat) :
    ∃ d'', fill (fuel + 1) d = fill fuel d'' ∧ d''.At g met' (filled.push c) := by
  refine ⟨{ d' with filled := d'.filled.push c }, ?_, hd'.graph_eq, hd'.met_eq,
    congrArg (·.push c) hd'.filled_eq, hd'.datum, hd'.mapping⟩
  rw [fill, bind_of_ok (get_of_ok d), hd.met_eq, hd.filled_eq, hn]
  dsimp only
  rw [bind_of_ok hc]
  rfl

theorem fill_end (hd : d.At g met filled) (hn : met[filled.size]? = none) (fuel : Nat) :
    fill fuel d = .ok ((), d) := by
  cases fuel with
  | zero => rfl
  | succ fuel =>
    rw [fill, bind_of_ok (get_of_ok d), hd.met_eq, hd.filled_eq, hn]
    rfl

end Building

/-! ## Outlines -/

namespace Outline

variable {o : Outline} {g : Graph} {p : Graph.Places}

/-- The entries of the mapping around all, in which that inside is the collection number one. -/
def items (o : Outline) : List (Text × Item) :=
  leaves o.before ++ (o.key, .collection 1) :: leaves o.after

/-- The document of an outline. -/
def document (o : Outline) : Document :=
  ⟨.collection 0, #[.dict (keyed o.items), .dict (keyed (leaves o.inner))]⟩

theorem collection_root (ho : o.IsPlain) (h : g.HasOutline p o) {d : Draft}
    {filled : Array Collection} (hd : d.At g #[p.root] filled) :
    ∃ d', Building.collection p.root d = .ok (.dict (keyed o.items), d') ∧
      d'.At g #[p.root, p.mapping] filled := by
  obtain ⟨ks, d₁, hbefore, hd₁, hks⟩ := Building.mapM_entry hd h.before
  obtain ⟨d₂, hkey, hd₂⟩ := Building.key_datum hd₁ h.key
  have hnew : p.mapping ∉ #[p.root] := by simpa using h.different
  obtain ⟨d₃, hmapping, hd₃⟩ := Building.item_mapping hd₂ (congrArg Node.tag h.mapping.node.node_eq)
    hnew
  obtain ⟨ks', d₄, hafter, hd₄, hks'⟩ := Building.mapM_entry hd₃ h.after
  have hentry : Building.entry (p.key, p.mapping) d₁ =
      .ok ((⟨p.key, .text o.key⟩, .collection 1), d₃) := by
    rw [Building.entry, bind_of_ok hkey, bind_of_ok hmapping]
    rfl
  have hlater : ((p.key, p.mapping) :: p.after).mapM Building.entry d₁ =
      .ok ((⟨p.key, .text o.key⟩, .collection 1) :: ks', d₄) := by
    rw [List.mapM_cons, bind_of_ok hentry, bind_of_ok hafter]
    rfl
  have hread : (p.before ++ (p.key, p.mapping) :: p.after).mapM Building.entry d =
      .ok (ks ++ (⟨p.key, .text o.key⟩, .collection 1) :: ks', d₄) := by
    rw [List.mapM_append, bind_of_ok hbefore, bind_of_ok hlater]
    rfl
  refine ⟨d₄, Building.collection_mapping hd h.root.node_eq ?_ hread ?_ ?_, hd₄⟩
  · intro e he
    rcases List.mem_append.1 he with he | he
    · exact Building.exists_key_of_mem h.before e he
    · rcases List.mem_cons.1 he with rfl | he
      · exact ⟨o.key, h.key⟩
      · exact Building.exists_key_of_mem h.after e he
  · rw [items, keyed, List.map_append, List.map_append, List.map_cons, List.map_cons, hks, hks',
      keyed, keyed]
  · rw [items, List.map_append, List.map_cons, map_fst_leaves, map_fst_leaves]
    exact ho.keys

theorem collection_inner (ho : o.IsPlain) (h : g.HasOutline p o) {d : Draft} {met : Array Nat}
    {filled : Array Collection} (hd : d.At g met filled) :
    ∃ d', Building.collection p.mapping d = .ok (.dict (keyed (leaves o.inner)), d') ∧
      d'.At g met filled := by
  obtain ⟨ks, d', hread, hd', hks⟩ := Building.mapM_entry hd h.mapping.entries
  refine ⟨d', Building.collection_mapping hd h.mapping.node.node_eq
    (Building.exists_key_of_mem h.mapping.entries) hread hks ?_, hd'⟩
  rw [map_fst_leaves]
  exact ho.innerKeys

/-- The nodes of an outline name its document. -/
theorem ofGraph_eq (ho : o.IsPlain) (h : g.HasOutline p o) :
    Document.ofGraph g p.root = .ok o.document := by
  obtain ⟨fuel, hsize⟩ : ∃ fuel, g.size = fuel + 2 := by
    have hroot := h.root.lt_size
    have hmapping := h.mapping.node.lt_size
    have hdifferent := h.different
    exact ⟨g.size - 2, by omega⟩
  obtain ⟨d₁, hroot, hd₁⟩ :=
    Building.item_mapping (Draft.at_start g) (congrArg Node.tag h.root.node_eq) (by simp)
  obtain ⟨d₂, hcollection, hd₂⟩ := collection_root ho h hd₁
  obtain ⟨d₃, hfill, hd₃⟩ := Building.fill_step hd₁ rfl hcollection hd₂ (fuel + 1)
  obtain ⟨d₄, hcollection', hd₄⟩ := collection_inner ho h hd₃
  obtain ⟨d₅, hfill', hd₅⟩ := Building.fill_step hd₃ rfl hcollection' hd₄ fuel
  have hend : Building.fill g.size d₁ = .ok ((), d₅) := by
    rw [hsize, hfill, hfill', Building.fill_end hd₅ rfl]
  have hbuild : (do
      let i ← Building.item p.root
      Building.fill g.size
      pure i : Building Item) ⟨g, Array.replicate g.size none, #[], #[]⟩ =
      .ok (.collection 0, d₅) := by
    rw [bind_of_ok hroot, bind_of_ok hend]
    rfl
  rw [Document.ofGraph]
  dsimp only
  rw [hbuild]
  exact congrArg (fun filled => Except.ok (⟨.collection 0, filled⟩ : Document)) hd₅.filled_eq

/-- What is written is loaded as the document of the outline. -/
theorem load_of_writes {t : Text} (ho : o.IsPlain) (ht : o.Writes t) :
    load ⟨t, none⟩ = .ok o.document := by
  obtain ⟨g, p, htokens, h⟩ := ofTokens_tokens ho
  rw [load, ofSource_of_writes ho ht, htokens]
  exact ofGraph_eq ho h

end Outline

end VolumeTunnel.Yaml
