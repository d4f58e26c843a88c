import VolumeTunnel.Proofs.Yaml.Merging
import VolumeTunnel.Proofs.Cluster.Store
import Mathlib.Data.Fintype.Card

/-!
# What the nodes of a document name

A document is built from any nodes in steps. After each of them the draft agrees with the nodes
(`Draft.Of`) : what has been met names one thing, a scalar its value, and the collections met are
numbered as they were met. A step only adds to what is there (`Draft.Grows`), so what a node names
in a draft it names in the document.

* `Building.entries_has` : the entries of a mapping have, under a text, what the last one for this
  text names;
* `Document.has_of_gives` : what a mapping gives for a text is under that text in the document;
* `Document.has_of_scalar` : so is the value of a scalar, on the way from the root.

The fuel for filling collections suffices, since each node is met as a collection once
(`Draft.Of.size_met_le`).
-/

namespace VolumeTunnel.Yaml

/-- Whether a tag is that of a collection. -/
def Tag.isCollection : Tag → Bool
  | seq | map | set | pairs => true
  | _ => false

/-! ## Keys -/

namespace Key

variable {α : Type} {g : Graph} {es before after : List (Key × α)} {key : Key} {x : α} {t : Text}

/-- Whether the key of an entry is a text. -/
def isText (t : Text) (e : Key × α) : Bool :=
  e.1.value.same (.text t)

theorem isText_iff {e : Key × α} : isText t e = true ↔ e.1.value = .text t :=
  Value.same_text_iff _ _

/-- What stands under a text. -/
def Under (t : Text) (es : List (Key × α)) (x : α) : Prop :=
  ∃ k, es.find? (isText t) = some (k, x) ∧ k.value = .text t

/-- A key that is a text is one with another key exactly if that is the same text. -/
theorem same_iff_of_text (hkey : key.value = .text t) (k : Key) :
    k.same g key = true ↔ k.value = .text t := by
  rw [same, hkey, Bool.or_eq_true, Value.same_text_iff]
  simp [Value.isNan]

theorem same_text_key_iff {k : Key} (hk : k.value = .text t) :
    k.same g key = true ↔ key.value = .text t := by
  rw [same, hk, Bool.or_eq_true, Value.text_same_iff]
  simp [Value.isNan]

theorem under_put_self (hkey : key.value = .text t) : Under t (put g es key x) x := by
  induction es with
  | nil => exact ⟨key, List.find?_cons_of_pos (isText_iff.2 hkey), hkey⟩
  | cons e es ih =>
    obtain ⟨k, y⟩ := e
    by_cases hsame : k.same g key = true
    · have hk := (same_iff_of_text hkey k).1 hsame
      rw [put, if_pos hsame]
      exact ⟨k, List.find?_cons_of_pos (isText_iff.2 hk), hk⟩
    · have hk : ¬isText t (k, y) = true := fun h =>
        hsame ((same_iff_of_text hkey k).2 (isText_iff.1 h))
      rw [put, if_neg hsame, Under, List.find?_cons_of_neg hk]
      exact ih

/-- What is set under another key changes nothing under a text. -/
theorem find?_put_of_ne (hkey : key.value ≠ .text t) :
    (put g es key x).find? (isText t) = es.find? (isText t) := by
  have hother : ¬isText t (key, x) = true := fun h => hkey (isText_iff.1 h)
  induction es with
  | nil => exact List.find?_cons_of_neg hother
  | cons e es ih =>
    obtain ⟨k, y⟩ := e
    rw [put]
    split
    next hsame =>
      have hk : k.value ≠ .text t := fun hk => hkey ((same_text_key_iff hk).1 hsame)
      rw [List.find?_cons_of_neg fun h => hk (isText_iff.1 h),
        List.find?_cons_of_neg fun h => hk (isText_iff.1 h)]
    next => rw [List.find?_cons, List.find?_cons, ih]

/-- Under a text stands what the last entry for it has. -/
theorem find?_collect (hkey : key.value = .text t) (hafter : ∀ e ∈ after, e.1.value ≠ .text t) :
    (collect g (before ++ (key, x) :: after)).find? (fun e => e.1.same (.text t)) =
      some (.text t, x) := by
  have hunder :
      Under t ((before ++ (key, x) :: after).foldl (fun es e => put g es e.1 e.2) []) x := by
    rw [List.foldl_append, List.foldl_cons]
    refine List.foldlRecOn after _ (motive := fun es => Under t es x) (under_put_self hkey) ?_
    rintro es ⟨k, hfind, hk⟩ e he
    exact ⟨k, (find?_put_of_ne (hafter e he)).trans hfind, hk⟩
  obtain ⟨k, hfind, hk⟩ := hunder
  rw [collect, List.find?_map]
  exact (congrArg _ hfind).trans (by rw [Option.map_some, hk])

end Key

/-! ## Scalars -/

theorem Timestamp.ne_text_of_value? {s : Timestamp} {v : Value} (h : s.value? = some v) (t : Text) :
    v ≠ .text t := by
  rintro rfl
  obtain ⟨date, -, hdate⟩ := Option.bind_eq_some_iff.1 h
  split at hdate
  · exact nomatch Option.some.inj hdate
  · obtain ⟨moment, -, hmoment⟩ := Option.bind_eq_some_iff.1 hdate
    exact nomatch Option.some.inj hmoment

/-- The value of a scalar is a text only if it is the text of the scalar. -/
theorem Scalar.eq_of_value_eq_text {tag : Tag} {s t : Text} (h : value tag s = .ok (.text t)) :
    s = t := by
  have hmap {α : Type} {x : Except Flaw α} {f : α → Value} (hf : ∀ a, f a ≠ .text t)
      (hx : x.map f = .ok (.text t)) : False := by
    cases x with
    | error => exact nomatch hx
    | ok a => exact hf a (Except.ok.inj hx)
  cases tag with
  | str => exact Value.text.inj (Except.ok.inj h)
  | bool => exact (hmap (f := .bool) (fun _ => Value.noConfusion) h).elim
  | int => exact (hmap (f := .int) (fun _ => Value.noConfusion) h).elim
  | float => exact (hmap (f := .float) (fun _ => Value.noConfusion) h).elim
  | binary =>
    rw [value, bytes] at h
    split at h
    · split at h <;> exact nomatch h
    · exact nomatch h
  | timestamp =>
    rw [value, timestamp] at h
    split at h
    next stamp hstamp =>
      cases hvalue : stamp.value? with
      | none =>
        rw [hvalue] at h
        exact nomatch h
      | some v =>
        rw [hvalue] at h
        exact absurd (Except.ok.inj h) (Timestamp.ne_text_of_value? hvalue t)
    next => exact nomatch h
  | _ => exact nomatch h

namespace Graph

variable {g g' : Graph} {n : Nat} {x : Value} {t : Text}

/-- A number that no node has stands for an empty scalar. -/
theorem scalarValue_of_le (h : g.size ≤ n) : g.scalarValue n = .ok .none := by
  rw [scalarValue, text, textWith, node_of_le h]
  rfl

/-- Where no mapping stands, the text is that of the scalar. -/
theorem text_of_not_isMapping (hn : g.isMapping n = false) :
    g.text n = match (g.node n).contents with
      | .scalar t => .ok t
      | _ => .error .malformed := by
  rw [text, textWith]
  rw [isMapping] at hn
  split at hn
  next => cases hn
  next hcontents =>
    cases h : (g.node n).contents with
    | scalar | sequence => rfl
    | mapping es => exact absurd h (hcontents es)

/-- A scalar that is no key for values has a value under its tag. -/
def HasValue (g : Graph) (n : Nat) (x : Value) : Prop :=
  (g.node n).tag ≠ .value ∧
    ∃ t, (g.node n).contents = .scalar t ∧ Scalar.value (g.node n).tag t = .ok x

theorem hasValue_of_scalarValue (hn : g.isMapping n = false) (h : g.scalarValue n = .ok x) :
    g.HasValue n x := by
  rw [scalarValue] at h
  split at h
  next => cases h
  next htag =>
    obtain ⟨t, ht, hvalue⟩ := Flaw.bind_eq_ok h
    rw [hn, Bool.and_false, if_neg Bool.false_ne_true] at hvalue
    rw [text_of_not_isMapping hn] at ht
    refine ⟨fun hv => htag (by simp [hv]), ?_⟩
    cases hcontents : (g.node n).contents with
    | scalar s =>
      rw [hcontents] at ht
      exact ⟨s, rfl, Except.ok.inj ht ▸ hvalue⟩
    | _ =>
      rw [hcontents] at ht
      cases ht

theorem HasValue.congr (hkinds : g.SameKinds g') (h : g.HasValue n x) : g'.HasValue n x := by
  obtain ⟨htag, t, hcontents, hvalue⟩ := h
  have hn : g.isMapping n = false := by rw [isMapping, hcontents]
  have hnode := hkinds.node_eq hn htag
  exact ⟨by rwa [hnode], t, by rwa [hnode], by rwa [hnode]⟩

theorem HasValue.eq_of_scalar {tag : Tag} (h : g.HasValue n x) (hn : g.node n = .scalar tag t) :
    Scalar.value tag t = .ok x := by
  obtain ⟨-, s, hcontents, hvalue⟩ := h
  rw [hn] at hcontents hvalue
  rwa [Contents.scalar.inj hcontents]

theorem HasValue.contents_eq (h : g.HasValue n (.text t)) : (g.node n).contents = .scalar t := by
  obtain ⟨-, s, hcontents, hvalue⟩ := h
  rw [hcontents, Scalar.eq_of_value_eq_text hvalue]

end Graph

/-! ## Drafts -/

/-- A draft agrees with the nodes of a graph, some of which may have been merged into others. A node
that names a value is no collection, and if it is no mapping either the value is its own. The
collections met are those that nodes name. -/
structure Draft.Of (g : Graph) (d : Draft) : Prop where
  kept : g.Kept d.graph
  size : d.items.size = g.size
  leaf : ∀ (n : Nat) x, d.items[n]? = some (some (.leaf x)) →
    (d.graph.node n).tag.isCollection = false ∧
      (d.graph.isMapping n = false → d.graph.HasValue n x)
  collection : ∀ n k : Nat, d.items[n]? = some (some (.collection k)) ↔ d.met[k]? = some n
  tag : ∀ (k : Nat) n, d.met[k]? = some n → (d.graph.node n).tag.isCollection = true

/-- A draft has what another one has, and perhaps more nodes that have been met. -/
structure Draft.Grows (d d' : Draft) : Prop where
  items : ∀ (n : Nat) i, d.items[n]? = some (some i) → d'.items[n]? = some (some i)
  met : ∀ (k : Nat) n, d.met[k]? = some n → d'.met[k]? = some n
  filled : d'.filled = d.filled
  kept : d.graph.Kept d'.graph

/-- What a node names in a draft. A number that no node has names nothing. -/
def Draft.Names (d : Draft) (n : Nat) (i : Item) : Prop :=
  d.items[n]? = some (some i) ∨ d.items.size ≤ n ∧ i = .leaf .none

namespace Draft

variable {g : Graph} {d d' d'' : Draft} {n : Nat} {i : Item}

theorem Grows.refl (d : Draft) : d.Grows d :=
  ⟨fun _ _ => id, fun _ _ => id, rfl, .refl d.graph⟩

theorem Grows.trans (h : d.Grows d') (h' : d'.Grows d'') : d.Grows d'' :=
  ⟨fun n i hi => h'.items n i (h.items n i hi), fun k n hn => h'.met k n (h.met k n hn),
    h'.filled.trans h.filled, h.kept.trans h'.kept⟩

theorem Names.grows (hd : d.Of g) (hd' : d'.Of g) (h : d.Grows d') (hi : d.Names n i) :
    d'.Names n i := by
  refine hi.imp (h.items n i) fun ⟨hsize, hi⟩ => ⟨?_, hi⟩
  rwa [hd'.size, ← hd.size]

/-- At first nothing has been met. -/
theorem of_start (g : Graph) : (⟨g, Array.replicate g.size none, #[], #[]⟩ : Draft).Of g := by
  have hnone {n : Nat} {i : Item} :
      (Array.replicate g.size (none : Option Item))[n]? ≠ some (some i) := by
    rw [Array.getElem?_replicate]
    split <;> exact fun h => nomatch h
  refine ⟨.refl g, Array.size_replicate, fun n x h => absurd h hnone, fun n k => ?_,
    fun k n h => ?_⟩
  · exact iff_of_false hnone fun h => nomatch h
  · exact nomatch h

/-- After merging a draft agrees with the nodes still. -/
theorem Of.merge (hd : d.Of g) {g' : Graph} (hg' : d.graph.Kept g') :
    Draft.Of g { d with graph := g' } := by
  have htag (n : Nat) : (g'.node n).tag.isCollection = (d.graph.node n).tag.isCollection := by
    rcases hg'.tag n with h | ⟨hvalue, hstr⟩
    · rw [h]
    · rw [hvalue, hstr]
      rfl
  refine ⟨hd.kept.trans hg', hd.size, fun n x hx => ?_, hd.collection, fun k n hn => ?_⟩
  · obtain ⟨hcollection, hvalue⟩ := hd.leaf n x hx
    exact ⟨(htag n).trans hcollection,
      fun hn => (hvalue ((hg'.mapping n).symm.trans hn)).congr hg'.toSameKinds⟩
  · exact (htag n).trans (hd.tag k n hn)

/-- A mapping that gives something is still one after merging. -/
theorem Of.tag_of_gives {t : Text} {v : Nat} (hd : d.Of g) (h : g.Gives n t v) :
    (d.graph.node n).tag = .map := by
  have hvalue : (g.node n).tag ≠ .value := by
    rw [h.tag]
    exact Tag.noConfusion
  rw [hd.kept.tag_eq hvalue, h.tag]

end Draft

/-! ## Steps -/

namespace Building

variable {α β : Type} {g : Graph} {d d' d₁ : Draft} {n : Nat} {i : Item}

/-- What a step of two went through. -/
theorem bind_eq_ok {x : Building α} {f : α → Building β} {b : β}
    (h : (x >>= f) d = .ok (b, d')) : ∃ a d₁, x d = .ok (a, d₁) ∧ f a d₁ = .ok (b, d') := by
  obtain ⟨⟨a, d₁⟩, hx, hf⟩ := Flaw.bind_eq_ok h
  exact ⟨a, d₁, hx, hf⟩

/-- A step leaves a draft in agreement with the nodes, and only adds to it. -/
def Sound (g : Graph) (x : Building α) : Prop :=
  ∀ d a d', d.Of g → x d = .ok (a, d') → d'.Of g ∧ d.Grows d'

theorem sound_pure (a : α) : Sound g (pure a) := by
  intro d b d' hd h
  cases h
  exact ⟨hd, .refl d⟩

theorem sound_get : Sound g get := by
  intro d b d' hd h
  cases h
  exact ⟨hd, .refl d⟩

theorem sound_fail : Sound g (fail : Building α) :=
  fun _ _ _ _ h => nomatch h

theorem Sound.bind {x : Building α} {f : α → Building β} (hx : Sound g x)
    (hf : ∀ a, Sound g (f a)) : Sound g (x >>= f) := by
  intro d b d' hd h
  obtain ⟨a, d₁, hxd, hfa⟩ := bind_eq_ok h
  obtain ⟨hd₁, hgrows⟩ := hx d a d₁ hd hxd
  obtain ⟨hd', hgrows'⟩ := hf a d₁ b d' hd₁ hfa
  exact ⟨hd', hgrows.trans hgrows'⟩

theorem Sound.mapM {f : α → Building β} (hf : ∀ a, Sound g (f a)) (xs : List α) :
    Sound g (xs.mapM f) := by
  induction xs with
  | nil => exact sound_pure []
  | cons x xs ih =>
    rw [List.mapM_cons]
    exact (hf x).bind fun y => ih.bind fun ys => sound_pure (y :: ys)

/-! ## Items -/

/-- Meeting a node for the first time. -/
theorem meet_cases (h : meet n d = .ok (i, d')) :
    (d.graph.node n).tag.isCollection = true ∧ i = .collection d.met.size ∧
        d' = { d with met := d.met.push n } ∨
      (d.graph.node n).tag.isCollection = false ∧ ∃ x, i = .leaf x ∧
        d.graph.scalarValue n = .ok x ∧ d' = d := by
  have hleaf
      (hvalue : (do return .leaf (← d.graph.scalarValue n) : Building Item) d = .ok (i, d')) :
      ∃ x, i = .leaf x ∧ d.graph.scalarValue n = .ok x ∧ d' = d := by
    cases hx : d.graph.scalarValue n with
    | error => rw [hx] at hvalue; exact nomatch hvalue
    | ok x =>
      rw [hx] at hvalue
      cases hvalue
      exact ⟨x, rfl, rfl, rfl⟩
  rw [meet, bind_of_ok (get_of_ok d)] at h
  cases htag : (d.graph.node n).tag with
  | seq | map | set | pairs =>
    rw [htag] at h
    cases h
    exact Or.inl ⟨rfl, rfl, rfl⟩
  | _ =>
    rw [htag] at h
    exact Or.inr ⟨rfl, hleaf h⟩

/-- What a node that has not been met names is what it is met as. -/
theorem item_cases (h : item n d = .ok (i, d')) :
    d.items[n]? = some (some i) ∧ d' = d ∨
      (¬∃ i, d.items[n]? = some (some i)) ∧ ∃ d₁, meet n d = .ok (i, d₁) ∧
        d' = { d₁ with items := d₁.items.setIfInBounds n (some i) } := by
  have hfirst (hmeet : (do
      let i ← meet n
      modify fun d => { d with items := d.items.setIfInBounds n (some i) }
      pure i : Building Item) d = .ok (i, d')) : ∃ d₁, meet n d = .ok (i, d₁) ∧
        d' = { d₁ with items := d₁.items.setIfInBounds n (some i) } := by
    obtain ⟨j, d₁, hj, hrest⟩ := bind_eq_ok hmeet
    cases hrest
    exact ⟨d₁, hj, rfl⟩
  rw [item, bind_of_ok (get_of_ok d)] at h
  cases hitem : d.items[n]? with
  | none =>
    rw [hitem] at h
    refine Or.inr ⟨?_, hfirst h⟩
    rintro ⟨_, hi⟩
    cases hi
  | some met =>
    rw [hitem] at h
    cases met with
    | none =>
      refine Or.inr ⟨?_, hfirst h⟩
      rintro ⟨_, hi⟩
      cases hi
    | some j =>
      cases h
      exact Or.inl ⟨rfl, rfl⟩

theorem getElem?_push_of_some {xs : Array α} {k : Nat} {x : α} (h : xs[k]? = some x) (y : α) :
    (xs.push y)[k]? = some x := by
  rw [Array.getElem?_push, if_neg (Nat.ne_of_lt (Array.getElem?_eq_some_iff.1 h).1), h]

/-- After a node has been met as a collection, it is the last one of those met. -/
theorem of_met (hd : d.Of g) (hmet : ¬∃ i, d.items[n]? = some (some i))
    (htag : (d.graph.node n).tag.isCollection = true) :
    Draft.Of g { d with
      met := d.met.push n
      items := d.items.setIfInBounds n (some (.collection d.met.size)) } := by
  have hn : n < d.items.size := by
    rw [hd.size, ← hd.kept.size]
    refine Graph.lt_size_of_ne fun hempty => ?_
    rw [hempty] at htag
    exact nomatch htag
  have hself : (d.items.setIfInBounds n (some (.collection d.met.size)))[n]? =
      some (some (.collection d.met.size)) := Array.getElem?_setIfInBounds_self_of_lt hn
  refine ⟨hd.kept, Array.size_setIfInBounds.trans hd.size, fun m x hx => ?_,
    fun m k => ⟨fun hk => ?_, fun hk => ?_⟩, fun k m hm => ?_⟩
  · rcases getElem?_setIfInBounds_some hx with ⟨-, hi⟩ | hx
    · exact nomatch hi
    · exact hd.leaf m x hx
  · rcases getElem?_setIfInBounds_some hk with ⟨hm, hi⟩ | hk
    · rw [Item.collection.inj hi, Array.getElem?_push_size, hm]
    · exact getElem?_push_of_some ((hd.collection m k).1 hk) n
  · rw [Array.getElem?_push] at hk
    split at hk
    next hlast =>
      rw [← Option.some.inj hk, hlast]
      exact hself
    next =>
      have hm := (hd.collection m k).2 hk
      have hne : n ≠ m := fun hnm => hmet ⟨_, hnm ▸ hm⟩
      exact (Array.getElem?_setIfInBounds_ne hne).trans hm
  · rw [Array.getElem?_push] at hm
    split at hm
    next => exact Option.some.inj hm ▸ htag
    next => exact hd.tag k m hm

/-- After a node has been met as a value, it is its own value if it is no mapping. -/
theorem of_leaf (hd : d.Of g) (hmet : ¬∃ i, d.items[n]? = some (some i)) {x : Value}
    (htag : (d.graph.node n).tag.isCollection = false) (hx : d.graph.scalarValue n = .ok x) :
    Draft.Of g { d with items := d.items.setIfInBounds n (some (.leaf x)) } := by
  refine ⟨hd.kept, Array.size_setIfInBounds.trans hd.size, fun m y hy => ?_,
    fun m k => ⟨fun hk => ?_, fun hk => ?_⟩, hd.tag⟩
  · rcases getElem?_setIfInBounds_some hy with ⟨rfl, hi⟩ | hy
    · rw [Item.leaf.inj hi]
      exact ⟨htag, fun hm => Graph.hasValue_of_scalarValue hm hx⟩
    · exact hd.leaf m y hy
  · rcases getElem?_setIfInBounds_some hk with ⟨-, hi⟩ | hk
    · exact nomatch hi
    · exact (hd.collection m k).1 hk
  · have hm := (hd.collection m k).2 hk
    have hne : n ≠ m := fun hnm => hmet ⟨_, hnm ▸ hm⟩
    exact (Array.getElem?_setIfInBounds_ne hne).trans hm

/-- What a node names is found for it from then on. -/
theorem item_names (hd : d.Of g) (h : item n d = .ok (i, d')) :
    d'.Of g ∧ d.Grows d' ∧ d'.Names n i := by
  have hitems (hmet : ¬∃ i, d.items[n]? = some (some i)) (m : Nat) (j : Item)
      (hj : d.items[m]? = some (some j)) :
      (d.items.setIfInBounds n (some i))[m]? = some (some j) := by
    have hne : n ≠ m := fun hnm => hmet ⟨_, hnm ▸ hj⟩
    exact (Array.getElem?_setIfInBounds_ne hne).trans hj
  have hnames (hn : n < d.items.size) : (d.items.setIfInBounds n (some i))[n]? = some (some i) :=
    Array.getElem?_setIfInBounds_self_of_lt hn
  rcases item_cases h with ⟨hi, rfl⟩ | ⟨hmet, d₁, hmeet, rfl⟩
  · exact ⟨hd, .refl d', Or.inl hi⟩
  · rcases meet_cases hmeet with ⟨htag, rfl, rfl⟩ | ⟨htag, x, rfl, hx, rfl⟩
    · have hof := of_met hd hmet htag
      refine ⟨hof, ⟨hitems hmet, fun k m hm => getElem?_push_of_some hm n, rfl, .refl _⟩, Or.inl ?_⟩
      exact (hof.collection _ _).2 Array.getElem?_push_size
    · have hof := of_leaf hd hmet htag hx
      refine ⟨hof, ⟨hitems hmet, fun _ _ => id, rfl, .refl _⟩, ?_⟩
      by_cases hn : n < d₁.items.size
      · exact Or.inl (hnames hn)
      · have hn := Nat.le_of_not_lt hn
        refine Or.inr ⟨Array.size_setIfInBounds.trans_le hn, ?_⟩
        rw [hd.size, ← hd.kept.size] at hn
        rw [← Except.ok.inj ((Graph.scalarValue_of_le hn).symm.trans hx)]

theorem sound_item (n : Nat) : Sound g (item n) := fun _ _ _ hd h =>
  ⟨(item_names hd h).1, (item_names hd h).2.1⟩

/-- A key is a value that its node names. -/
theorem key_names {k : Key} (hd : d.Of g) (h : key n d = .ok (k, d')) :
    d'.Of g ∧ d.Grows d' ∧ d'.Names n (.leaf k.value) := by
  obtain ⟨i, d₁, hitem, hkey⟩ := bind_eq_ok h
  cases i with
  | collection => exact nomatch hkey
  | leaf x =>
    cases hkey
    exact item_names hd hitem

theorem entry_names {e : Nat × Nat} {k : Key × Item} (hd : d.Of g) (h : entry e d = .ok (k, d')) :
    d'.Of g ∧ d.Grows d' ∧ d'.Names e.1 (.leaf k.1.value) ∧ d'.Names e.2 k.2 := by
  obtain ⟨key, d₁, hkey, h⟩ := bind_eq_ok h
  obtain ⟨item, d₂, hitem, h⟩ := bind_eq_ok h
  cases h
  obtain ⟨hd₁, hgrows, hfirst⟩ := key_names hd hkey
  obtain ⟨hd₂, hgrows', hsecond⟩ := item_names hd₁ hitem
  exact ⟨hd₂, hgrows.trans hgrows', hfirst.grows hd₁ hd₂ hgrows', hsecond⟩

/-- The entries of a list of them are named in turn. -/
theorem mapM_entry_names {ns : List (Nat × Nat)} {ks : List (Key × Item)} (hd : d.Of g)
    (h : ns.mapM entry d = .ok (ks, d')) : d'.Of g ∧ d.Grows d' ∧
      List.Forall₂ (fun e k => d'.Names e.1 (.leaf k.1.value) ∧ d'.Names e.2 k.2) ns ks := by
  induction ns generalizing d ks with
  | nil =>
    cases h
    exact ⟨hd, .refl _, .nil⟩
  | cons e ns ih =>
    rw [List.mapM_cons] at h
    obtain ⟨k, d₁, hentry, h⟩ := bind_eq_ok h
    obtain ⟨ks, d₂, hrest, h⟩ := bind_eq_ok h
    cases h
    obtain ⟨hd₁, hgrows, hfirst, hsecond⟩ := entry_names hd hentry
    obtain ⟨hd₂, hgrows', hall⟩ := ih hd₁ hrest
    exact ⟨hd₂, hgrows.trans hgrows',
      .cons ⟨hfirst.grows hd₁ hd₂ hgrows', hsecond.grows hd₁ hd₂ hgrows'⟩ hall⟩

end Building

/-! ## Entries -/

namespace Draft

variable {g : Graph} {d d' : Draft} {n : Nat} {i : Item} {x : Value} {t : Text}

/-- A value that a node names is its own if it is no mapping. -/
theorem Names.hasValue (hd : d.Of g) (h : d.Names n (.leaf x)) (hn : d.graph.isMapping n = false) :
    d.graph.HasValue n x := by
  rcases h with h | ⟨hsize, hi⟩
  · exact (hd.leaf n x h).2 hn
  · rw [hd.size, ← hd.kept.size] at hsize
    exact Graph.hasValue_of_scalarValue hn (Item.leaf.inj hi ▸ Graph.scalarValue_of_le hsize)

/-- A scalar names the value of its text under its tag. -/
theorem Names.eq_of_scalar {tag : Tag} (hd : d.Of g) (h : d.Names n (.leaf x))
    (hn : d.graph.node n = .scalar tag t) : Scalar.value tag t = .ok x :=
  (h.hasValue hd (Graph.isMapping_of_scalar hn)).eq_of_scalar hn

/-- A scalar with another text names no such text, and neither does a sequence. -/
theorem Names.ne_text {e : Nat × Nat} (hd : d.Of g) (h : d.Names e.1 (.leaf x))
    (he : d.graph.HasOtherKey t e) : x ≠ .text t := by
  rintro rfl
  exact he.2 (h.hasValue hd he.1).contents_eq

end Draft

/-- A collection has something under a text. -/
def Collection.Has (c : Collection) (t : Text) (i : Item) : Prop :=
  ∃ es, c = .dict es ∧ es.find? (fun e => e.1.same (.text t)) = some (.text t, i)

namespace Building

variable {g : Graph} {d d' : Draft} {n : Nat} {c : Collection} {t : Text} {v : Nat}

theorem forall_of_forall₂ {α β : Type} {R : α → β → Prop} {P : β → Prop} {xs : List α} {ys : List β}
    (h : List.Forall₂ R xs ys) (hP : ∀ x ∈ xs, ∀ y, R x y → P y) : ∀ y ∈ ys, P y := by
  induction h with
  | nil => exact fun y hy => absurd hy List.not_mem_nil
  | cons hxy _ ih =>
    rw [List.forall_mem_cons] at hP
    exact List.forall_mem_cons.2 ⟨hP.1 _ hxy, ih hP.2⟩

/-- Under a text stands what the last entry for it names. -/
theorem has_collect {g' : Graph} {ns : List (Nat × Nat)} {ks : List (Key × Item)} (hd : d.Of g)
    (hlast : d.graph.Last ns t v)
    (hnames : List.Forall₂ (fun e k => d.Names e.1 (.leaf k.1.value) ∧ d.Names e.2 k.2) ns ks) :
    ∃ i, (Collection.dict (Key.collect g' ks)).Has t i ∧ d.Names v i := by
  obtain ⟨before, k, after, rfl, hk, hafter⟩ := hlast
  have hrest := List.forall₂_drop before.length hnames
  rw [List.drop_left, List.forall₂_cons_left_iff] at hrest
  obtain ⟨⟨key, i⟩, ks', ⟨hkey, hi⟩, hks', heq⟩ := hrest
  have hsplit := List.take_append_drop before.length ks
  rw [heq] at hsplit
  rw [← hsplit]
  have htext := Except.ok.inj (hkey.eq_of_scalar hd hk)
  refine ⟨i, ⟨_, rfl, Key.find?_collect htext.symm ?_⟩, hi⟩
  exact forall_of_forall₂ hks' fun e he k hnames => hnames.1.ne_text hd (hafter e he)

/-- The entries of a mapping have what it gives itself. -/
theorem entries_has {es : List (Value × Item)} (hd : d.Of g) (h : entries n d = .ok (es, d')) :
    d'.Of g ∧ d.Grows d' ∧ ∀ t v, g.Last (g.entries n) t v →
      ∃ i, (Collection.dict es).Has t i ∧ d'.Names v i := by
  rw [entries, bind_of_ok (get_of_ok d)] at h
  by_cases hn : d.graph.isMapping n = true
  · rw [if_pos hn] at h
    cases hmerge : d.graph.merge n with
    | error =>
      rw [hmerge] at h
      cases h
    | ok g' =>
      rw [hmerge] at h
      have hkept := Graph.kept_merge hn hmerge
      have hd₁ := hd.merge hkept
      have hgrows₁ : d.Grows { d with graph := g' } := ⟨fun _ _ => id, fun _ _ => id, rfl, hkept⟩
      have hread : ((g'.entries n).mapM entry >>= fun ks => pure (Key.collect g' ks) :
          Building (List (Value × Item))) { d with graph := g' } = .ok (es, d') := h
      obtain ⟨ks, d₂, hread, hpure⟩ := bind_eq_ok hread
      cases hpure
      obtain ⟨hd₂, hgrows, hnames⟩ := mapM_entry_names hd₁ hread
      refine ⟨hd₂, hgrows₁.trans hgrows, fun t v hlast => ?_⟩
      exact has_collect hd₂ (hgrows.kept.toSameKinds.last (hd₁.kept.gives n t v hlast)) hnames
  · rw [if_neg hn] at h
    cases h

theorem sound_entries (n : Nat) : Sound g (entries n) := fun _ _ _ hd h =>
  ⟨(entries_has hd h).1, (entries_has hd h).2.1⟩

theorem sound_items (n : Nat) : Sound g (items n) :=
  sound_get.bind fun d => by
    split
    · exact .mapM sound_item _
    · exact sound_fail

theorem sound_pairs (n : Nat) : Sound g (pairs n) := by
  have hpair (n : Nat) : Sound g (pair n) := sound_get.bind fun d => by
    split
    · exact (sound_item _).bind fun k => (sound_item _).bind fun v => sound_pure (k, v)
    · exact sound_fail
  exact sound_get.bind fun d => by
    split
    · exact .mapM hpair _
    · exact sound_fail

theorem sound_collection (n : Nat) : Sound g (collection n) :=
  sound_get.bind fun d => by
    split
    · exact (sound_items n).bind fun is => sound_pure (Collection.list is)
    · exact (sound_pairs n).bind fun es => sound_pure (Collection.pairs es)
    · exact (sound_entries n).bind fun es => sound_pure (Collection.set (es.map (·.1)))
    · exact (sound_entries n).bind fun es => sound_pure (Collection.dict es)

/-- The collection of a mapping has what the mapping gives. -/
theorem collection_has (hd : d.Of g) (h : collection n d = .ok (c, d')) :
    d'.Of g ∧ d.Grows d' ∧ ∀ t v, g.Gives n t v → ∃ i, c.Has t i ∧ d'.Names v i := by
  obtain ⟨hd', hgrows⟩ := sound_collection n d c d' hd h
  refine ⟨hd', hgrows, fun t v hgives => ?_⟩
  rw [collection, bind_of_ok (get_of_ok d), hd.tag_of_gives hgives] at h
  obtain ⟨es, d₁, hentries, hpure⟩ := bind_eq_ok h
  cases hpure
  exact (entries_has hd hentries).2.2 t v hgives.last

/-! ## Filling -/

end Building

namespace Draft

variable {g : Graph} {d d' : Draft}

/-- The collections that are filled are the first ones of those met, and they have what their
mappings give. -/
structure Filled (g : Graph) (d : Draft) : Prop where
  met : ∀ (k : Nat) c, d.filled[k]? = some c → ∃ n, d.met[k]? = some n
  has : ∀ (k : Nat) n c, d.met[k]? = some n → d.filled[k]? = some c →
    ∀ t v, g.Gives n t v → ∃ i, c.Has t i ∧ d.Names v i

theorem filled_start (g : Graph) :
    Draft.Filled g ⟨g, Array.replicate g.size none, #[], #[]⟩ :=
  ⟨fun _ _ h => (nomatch h), fun _ _ _ _ h => nomatch h⟩

/-- What is filled stays so while nodes are met. -/
theorem Filled.grows (hd : d.Of g) (hd' : d'.Of g) (h : d.Filled g) (hgrows : d.Grows d') :
    d'.Filled g := by
  refine ⟨fun k c hc => ?_, fun k n c hn hc t v hgives => ?_⟩
  · obtain ⟨n, hn⟩ := h.met k c (hgrows.filled ▸ hc)
    exact ⟨n, hgrows.met k n hn⟩
  · rw [hgrows.filled] at hc
    obtain ⟨m, hm⟩ := h.met k c hc
    obtain rfl := Option.some.inj (hn.symm.trans (hgrows.met k m hm))
    obtain ⟨i, hhas, hi⟩ := h.has k n c hm hc t v hgives
    exact ⟨i, hhas, hi.grows hd hd' hgrows⟩

/-- A node is met as a collection once. -/
theorem Of.size_met_le (hd : d.Of g) : d.met.size ≤ g.size := by
  have hitem (k : Fin d.met.size) : d.items[d.met[k]]? = some (some (.collection k)) :=
    (hd.collection _ _).2 (Array.getElem?_eq_getElem k.isLt)
  have hlt (k : Fin d.met.size) : d.met[k] < g.size :=
    hd.size ▸ (Array.getElem?_eq_some_iff.1 (hitem k)).1
  have hinjective :
      Function.Injective fun k : Fin d.met.size => (⟨d.met[k], hlt k⟩ : Fin g.size) := by
    intro k l hkl
    have hk := hitem k
    rw [show d.met[k] = d.met[l] from congrArg Fin.val hkl, hitem l] at hk
    exact Fin.ext (Item.collection.inj (Option.some.inj (Option.some.inj hk))).symm
  simpa using Fintype.card_le_of_injective _ hinjective

end Draft

namespace Building

variable {g : Graph} {d d' : Draft} {n : Nat} {c : Collection}

/-- One more collection is filled. -/
theorem filled_push (hd : d.Of g) (hfilled : d.Filled g) (hn : d.met[d.filled.size]? = some n)
    (hc : collection n d = .ok (c, d')) :
    Draft.Of g { d' with filled := d'.filled.push c } ∧
      Draft.Filled g { d' with filled := d'.filled.push c } := by
  obtain ⟨hd', hgrows, hhas⟩ := collection_has hd hc
  have hfilled' := hfilled.grows hd hd' hgrows
  have hn' : d'.met[d'.filled.size]? = some n := by
    rw [hgrows.filled]
    exact hgrows.met _ n hn
  refine ⟨⟨hd'.kept, hd'.size, hd'.leaf, hd'.collection, hd'.tag⟩, fun k c' hk => ?_,
    fun k m c' hm hk t v hgives => ?_⟩
  · rw [Array.getElem?_push] at hk
    split at hk
    next hlast => exact ⟨n, hlast ▸ hn'⟩
    next => exact hfilled'.met k c' hk
  · rw [Array.getElem?_push] at hk
    split at hk
    next hlast =>
      obtain rfl := Option.some.inj hk
      obtain rfl := Option.some.inj (hn'.symm.trans (hlast ▸ hm))
      exact hhas t v hgives
    next => exact hfilled'.has k m c' hm hk t v hgives

/-- Either all collections met are filled in the end, or as many more as the fuel admits. -/
theorem fill_filled {fuel : Nat} (hd : d.Of g) (hfilled : d.Filled g)
    (h : fill fuel d = .ok ((), d')) : d'.Of g ∧ d'.Filled g ∧
      (∀ n i, d.Names n i → d'.Names n i) ∧
      (d'.met.size ≤ d'.filled.size ∨ d.filled.size + fuel ≤ d'.filled.size) := by
  induction fuel generalizing d with
  | zero =>
    cases h
    exact ⟨hd, hfilled, fun _ _ => id, Or.inr (Nat.le_refl _)⟩
  | succ fuel ih =>
    rw [fill, bind_of_ok (get_of_ok d)] at h
    cases hn : d.met[d.filled.size]? with
    | none =>
      rw [hn] at h
      cases h
      exact ⟨hd, hfilled, fun _ _ => id, Or.inl (Array.getElem?_eq_none_iff.1 hn)⟩
    | some n =>
      rw [hn] at h
      obtain ⟨c, d₁, hc, h⟩ := bind_eq_ok h
      obtain ⟨_, d₂, hpush, h⟩ := bind_eq_ok h
      cases hpush
      obtain ⟨hd₁, hgrows, -⟩ := collection_has hd hc
      obtain ⟨hd₂, hfilled₂⟩ := filled_push hd hfilled hn hc
      obtain ⟨hd', hfilled', hnames, hsize⟩ := ih hd₂ hfilled₂ h
      have hkept (n : Nat) (i : Item) (hi : d.Names n i) : d₁.Names n i := hi.grows hd hd₁ hgrows
      refine ⟨hd', hfilled', fun n i hi => hnames n i (hkept n i hi), hsize.imp_right ?_⟩
      intro hle
      rw [Array.size_push, hgrows.filled] at hle
      omega

end Building

/-! ## Documents -/

namespace Document

variable {g : Graph} {root m n v : Nat} {d : Document} {s t : Text}

/-- What the document has under a text, in the collection that an item is. -/
def Has (d : Document) (i : Item) (t : Text) (j : Item) : Prop :=
  ∃ k c, i = .collection k ∧ d.collections[k]? = some c ∧ c.Has t j

/-- The document is a draft in which all collections met are filled. -/
theorem exists_draft (h : ofGraph g root = .ok d) : ∃ draft : Draft,
    draft.Of g ∧ draft.Filled g ∧ draft.met.size ≤ draft.filled.size ∧
      draft.filled = d.collections ∧ draft.Names root d.root := by
  obtain ⟨⟨i, draft⟩, hbuild, hpure⟩ := Flaw.bind_eq_ok h
  cases hpure
  obtain ⟨i', d₁, hroot, hbuild⟩ := Building.bind_eq_ok hbuild
  obtain ⟨_, d₂, hfill, hbuild⟩ := Building.bind_eq_ok hbuild
  cases hbuild
  obtain ⟨hd₁, hgrows, hnames⟩ := Building.item_names (Draft.of_start g) hroot
  have hfilled := (Draft.filled_start g).grows (Draft.of_start g) hd₁ hgrows
  obtain ⟨hd, hfilled, hall, hsize⟩ := Building.fill_filled hd₁ hfilled hfill
  refine ⟨draft, hd, hfilled, ?_, rfl, hall _ _ hnames⟩
  have := hd.size_met_le
  omega

/-- What a mapping gives is under its text in the collection that the mapping is. -/
theorem has_of_gives {draft : Draft} {i : Item} (hd : draft.Of g) (hfilled : draft.Filled g)
    (hsize : draft.met.size ≤ draft.filled.size) (hcollections : draft.filled = d.collections)
    (hn : draft.Names n i) (hgives : g.Gives n t v) :
    ∃ j, d.Has i t j ∧ draft.Names v j := by
  have htag := hd.tag_of_gives hgives
  have hitem : draft.items[n]? = some (some i) := by
    refine hn.resolve_right fun hout => ?_
    have hle := hout.1
    rw [hd.size, ← hd.kept.size] at hle
    rw [Graph.node_of_le hle] at htag
    exact nomatch htag
  cases i with
  | leaf x =>
    have hleaf := (hd.leaf n x hitem).1
    rw [htag] at hleaf
    exact nomatch hleaf
  | collection k =>
    have hmet := (hd.collection n k).1 hitem
    have hlt : k < draft.filled.size :=
      Nat.lt_of_lt_of_le (Array.getElem?_eq_some_iff.1 hmet).1 hsize
    have hc := Array.getElem?_eq_getElem hlt
    obtain ⟨j, hhas, hj⟩ := hfilled.has k n _ hmet hc t v hgives
    exact ⟨j, ⟨k, _, rfl, hcollections ▸ hc, hhas⟩, hj⟩

/-- What two mappings, one in the other, give on the way from the root to a scalar is there in the
document, with the value of the text of the scalar under its tag. -/
theorem has_of_scalar {tag : Tag} {u : Text} (h : ofGraph g root = .ok d) (hroot : g.Gives root s m)
    (hm : g.Gives m t v) (hv : g.node v = .scalar tag u) (htag : tag.isCollection = false)
    (hvalue : tag ≠ .value) : ∃ i x, d.Has d.root s i ∧ d.Has i t (.leaf x) ∧
      Scalar.value tag u = .ok x := by
  obtain ⟨draft, hd, hfilled, hsize, hcollections, hnames⟩ := exists_draft h
  obtain ⟨i, hi, hnames⟩ := has_of_gives hd hfilled hsize hcollections hnames hroot
  obtain ⟨j, hj, hnames⟩ := has_of_gives hd hfilled hsize hcollections hnames hm
  have hnode : draft.graph.node v = .scalar tag u :=
    (hd.kept.node_eq (Graph.isMapping_of_scalar hv) (by rwa [hv])).trans hv
  cases j with
  | leaf x => exact ⟨i, x, hi, hj, hnames.eq_of_scalar hd hnode⟩
  | collection k =>
    have hitem := hnames.resolve_right fun ⟨_, hi⟩ => nomatch hi
    have hcollection := hd.tag k v ((hd.collection v k).1 hitem)
    rw [hnode] at hcollection
    exact absurd (htag.symm.trans hcollection) Bool.false_ne_true

end Document

end VolumeTunnel.Yaml
