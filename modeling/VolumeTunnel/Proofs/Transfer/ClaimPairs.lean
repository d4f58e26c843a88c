import VolumeTunnel.ClaimPair
import VolumeTunnel.Proofs.Cluster.Store
import Mathlib.Data.List.Nodup

/-!
# Which pairs of claims are found

The pairs of a transfer come in groups, each for the claims of one namespace (`ClaimGroup`), and may
be narrowed by the namespace of the source claim any number of times (`ClaimPair.narrowed`). Names
are texts here, and a text equals nothing but itself (`ClaimPair.Named`).

* `ClaimPair.narrowed_eq_filter` : narrowing keeps the pairs whose namespace is each of those asked
  for, in order;
* `ClaimPair.bySource?_eq_some_iff` : looking up by name gives the first pair with that name;
* `ClaimPair.lookup_of_groups` : what is found in such a list, by an index, by a name, and by a
  namespace and a name.

A name alone may belong to claims of several namespaces. Within the namespace of a pair it finds
this pair, as long as no source claim is there twice (`ClaimPair.bySource?_inSource`).
-/

namespace VolumeTunnel

/-- Equality with a text can be told. -/
instance Value.decidableEqText (v : Value) (t : Text) : Decidable (v = .text t) :=
  decidable_of_iff _ (v.same_text_iff t)

/-- The names of claims in a namespace, each with the name of its destination in another one. -/
structure ClaimGroup where
  source : Text
  destination : Text
  names : List (Text × Text)

namespace ClaimGroup

/-- The pairs of a group, as they are made from its names. -/
def made (g : ClaimGroup) : Except Failure (List ClaimPair) :=
  ClaimPair.ofNames (.text g.source) (.text g.destination)
    (g.names.map fun n => .tuple [.text n.1, .text n.2])

/-- The pairs of a group. -/
def pairs (g : ClaimGroup) : List ClaimPair :=
  g.names.map fun n => ⟨⟨.text g.source, .text n.1⟩, ⟨.text g.destination, .text n.2⟩⟩

/-- Names that are texts always make pairs. -/
theorem made_eq (g : ClaimGroup) : g.made = .ok g.pairs := by
  obtain ⟨source, destination, names⟩ := g
  rw [made, pairs, ClaimPair.ofNames, List.mapM_map]
  induction names with
  | nil => rfl
  | cons n names ih =>
    rw [List.mapM_cons, ih]
    rfl

theorem mapM_made (groups : List ClaimGroup) : groups.mapM made = .ok (groups.map pairs) := by
  induction groups with
  | nil => rfl
  | cons g groups ih =>
    rw [List.mapM_cons, g.made_eq, ih]
    rfl

end ClaimGroup

namespace ClaimPair

variable {pairs : List ClaimPair} {p : ClaimPair}

/-- The source claim is named by texts. -/
def Named (p : ClaimPair) : Prop :=
  ∃ space name, p.source = ⟨.text space, .text name⟩

theorem named_of_mem_flatMap {groups : List ClaimGroup} (h : p ∈ groups.flatMap ClaimGroup.pairs) :
    p.Named := by
  obtain ⟨g, -, hp⟩ := List.mem_flatMap.1 h
  obtain ⟨n, -, rfl⟩ := List.mem_map.1 hp
  exact ⟨g.source, n.1, rfl⟩

theorem Named.space_same_iff (h : p.Named) {v : Value} :
    p.source.space.same v = true ↔ p.source.space = v := by
  obtain ⟨space, name, hsource⟩ := h
  rw [hsource, Value.text_same_iff]
  exact eq_comm

theorem Named.name_same_iff (h : p.Named) {v : Value} :
    p.source.name.same v = true ↔ p.source.name = v := by
  obtain ⟨space, name, hsource⟩ := h
  rw [hsource, Value.text_same_iff]
  exact eq_comm

/-! ## Namespaces -/

/-- The pairs whose source claim is in each of some namespaces, chosen by one after the other. -/
def narrowed (spaces : List Text) (pairs : List ClaimPair) : List ClaimPair :=
  spaces.foldl (fun pairs space => inSource (.text space) pairs) pairs

/-- Narrowing keeps the pairs whose namespace is each of those asked for, in order. -/
theorem narrowed_eq_filter (spaces : List Text) (pairs : List ClaimPair) :
    narrowed spaces pairs =
      pairs.filter fun p => ∀ space ∈ spaces, p.source.space = .text space := by
  induction spaces generalizing pairs with
  | nil => simp [narrowed]
  | cons space spaces ih =>
    rw [narrowed, List.foldl_cons, ← narrowed, ih, inSource, List.filter_filter]
    refine List.filter_congr fun p _ => ?_
    rw [Bool.eq_iff_iff]
    simp [Value.same_text_iff, and_comm]

theorem named_of_mem_narrowed {groups : List ClaimGroup} {spaces : List Text}
    (h : p ∈ narrowed spaces (groups.flatMap ClaimGroup.pairs)) : p.Named := by
  rw [narrowed_eq_filter] at h
  exact named_of_mem_flatMap (List.mem_of_mem_filter h)

theorem mem_inSource (hpairs : ∀ p ∈ pairs, p.Named) {space : Value} :
    p ∈ inSource space pairs ↔ p ∈ pairs ∧ p.source.space = space := by
  rw [inSource, List.mem_filter]
  exact and_congr_right fun hp => (hpairs p hp).space_same_iff

/-! ## Names -/

/-- Looking up by name gives the first pair with that name. -/
theorem bySource?_eq_some_iff (hpairs : ∀ p ∈ pairs, p.Named) {name : Value} :
    bySource? name pairs = some p ↔ ∃ before after, pairs = before ++ p :: after ∧
      p.source.name = name ∧ ∀ q ∈ before, q.source.name ≠ name := by
  rw [bySource?, List.find?_eq_some_iff_append]
  constructor
  · rintro ⟨hp, before, after, rfl, hbefore⟩
    rw [List.forall_mem_append, List.forall_mem_cons] at hpairs
    obtain ⟨hnamed, hnamedP, -⟩ := hpairs
    refine ⟨before, after, rfl, hnamedP.name_same_iff.1 hp, fun q hq hname => ?_⟩
    simpa [(hnamed q hq).name_same_iff.2 hname] using hbefore q hq
  · rintro ⟨before, after, rfl, hp, hbefore⟩
    rw [List.forall_mem_append, List.forall_mem_cons] at hpairs
    obtain ⟨hnamed, hnamedP, -⟩ := hpairs
    refine ⟨hnamedP.name_same_iff.2 hp, before, after, rfl, fun q hq => ?_⟩
    rw [Bool.not_eq_true', ← Bool.not_eq_true, (hnamed q hq).name_same_iff]
    exact hbefore q hq

theorem bySource?_eq_none_iff (hpairs : ∀ p ∈ pairs, p.Named) {name : Value} :
    bySource? name pairs = none ↔ ∀ p ∈ pairs, p.source.name ≠ name := by
  rw [bySource?, List.find?_eq_none]
  exact forall₂_congr fun p hp => not_congr (hpairs p hp).name_same_iff

/-! ## A namespace and a name -/

/-- Within its namespace the name of a pair finds this pair, if no source claim is there twice. -/
theorem bySource?_inSource (hpairs : ∀ p ∈ pairs, p.Named) (hsources : (sources pairs).Nodup)
    (hp : p ∈ pairs) : bySource? p.source.name (inSource p.source.space pairs) = some p := by
  have hnamed : ∀ q ∈ inSource p.source.space pairs, q.Named := fun q hq =>
    hpairs q (List.mem_of_mem_filter hq)
  cases hfound : bySource? p.source.name (inSource p.source.space pairs) with
  | none =>
    have hmem := (mem_inSource hpairs).2 ⟨hp, rfl⟩
    exact absurd rfl ((bySource?_eq_none_iff hnamed).1 hfound p hmem)
  | some q =>
    obtain ⟨before, after, hsplit, hname, -⟩ := (bySource?_eq_some_iff hnamed).1 hfound
    have hmem : q ∈ inSource p.source.space pairs := by
      rw [hsplit]
      exact List.mem_append_right _ List.mem_cons_self
    obtain ⟨hq, hspace⟩ := (mem_inSource hpairs).1 hmem
    have hsource : q.source = p.source := by
      obtain ⟨⟨space, name⟩, destination⟩ := q
      obtain ⟨⟨space', name'⟩, destination'⟩ := p
      exact congrArg₂ ObjectName.mk hspace hname
    rw [List.inj_on_of_nodup_map hsources hq hp hsource]

/-- A namespace and a name that no source claim has find nothing. -/
theorem bySource?_inSource_of_forall_ne (hpairs : ∀ p ∈ pairs, p.Named) {space name : Value}
    (h : ∀ p ∈ pairs, p.source ≠ ⟨space, name⟩) :
    bySource? name (inSource space pairs) = none := by
  have hnamed : ∀ q ∈ inSource space pairs, q.Named := fun q hq =>
    hpairs q (List.mem_of_mem_filter hq)
  refine (bySource?_eq_none_iff hnamed).2 fun p hp hname => ?_
  obtain ⟨hmem, hspace⟩ := (mem_inSource hpairs).1 hp
  obtain ⟨⟨space', name'⟩, destination⟩ := p
  exact h _ hmem (congrArg₂ ObjectName.mk hspace hname)

/-! ## Indices -/

theorem at?_of_nonneg {i : Int} (h : 0 ≤ i) (pairs : List ClaimPair) :
    at? i pairs = pairs[i.toNat]? := by
  simp only [at?, if_neg (Int.not_lt.2 h)]

/-- A negative index counts from the end. -/
theorem at?_of_neg {i : Int} (h : i < 0) (pairs : List ClaimPair) :
    at? i pairs = if i + pairs.length < 0 then none else pairs[(i + pairs.length).toNat]? := by
  simp only [at?, if_pos h]

theorem at?_sub_length {i : Nat} (h : i < pairs.length) :
    at? ((i : Int) - pairs.length) pairs = pairs[i]? := by
  have hindex : (i : Int) - pairs.length + pairs.length = i := by omega
  rw [at?_of_neg (by omega), hindex, if_neg (by omega), Int.toNat_natCast]

theorem at?_eq_none {i : Int} (h : i < -pairs.length ∨ pairs.length ≤ i) : at? i pairs = none := by
  rcases h with h | h
  · rw [at?_of_neg (by omega), if_pos (by omega)]
  · rw [at?_of_nonneg (by omega), List.getElem?_eq_none (by omega)]

/-! ## Groups -/

/-- What is found in the pairs of some groups, narrowed by namespaces : the pairs whose source claim
is in each of these, in order; the source and the destination claim of each in its place; a pair by
its index, also counted from the end, and nothing by any other; the first pair with a name, and
nothing exactly if there is none. If no source claim is there twice, a pair is found by the
namespace and the name of its source; and by those of none, nothing is. -/
theorem lookup_of_groups (groups : List ClaimGroup) (spaces : List Text) :
    ∃ made, groups.mapM ClaimGroup.made = .ok made ∧
      made.flatten = groups.flatMap ClaimGroup.pairs ∧
      narrowed spaces made.flatten = (groups.flatMap ClaimGroup.pairs).filter
        (fun p => ∀ space ∈ spaces, p.source.space = .text space) ∧
      ∀ pairs, pairs = narrowed spaces made.flatten →
        ((sources pairs).length = pairs.length ∧ (destinations pairs).length = pairs.length ∧
          ∀ i : Nat, (sources pairs)[i]? = pairs[i]?.map (·.source) ∧
            (destinations pairs)[i]? = pairs[i]?.map (·.destination)) ∧
        ((∀ (i : Nat) (h : i < pairs.length), at? i pairs = some pairs[i] ∧
            at? ((i : Int) - pairs.length) pairs = some pairs[i]) ∧
          ∀ i : Int, i < -pairs.length ∨ pairs.length ≤ i → at? i pairs = none) ∧
        (∀ name, (∀ p, bySource? name pairs = some p ↔ ∃ before after,
            pairs = before ++ p :: after ∧ p.source.name = name ∧
              ∀ q ∈ before, q.source.name ≠ name) ∧
          (bySource? name pairs = none ↔ ∀ p ∈ pairs, p.source.name ≠ name)) ∧
        ((sources pairs).Nodup → ∀ p ∈ pairs,
          bySource? p.source.name (inSource p.source.space pairs) = some p) ∧
        ∀ space name, (∀ p ∈ pairs, p.source ≠ ⟨space, name⟩) →
          bySource? name (inSource space pairs) = none := by
  refine ⟨_, ClaimGroup.mapM_made groups, rfl, narrowed_eq_filter spaces _, ?_⟩
  rintro pairs rfl
  have hpairs : ∀ p ∈ narrowed spaces (groups.flatMap ClaimGroup.pairs), p.Named := fun _ =>
    named_of_mem_narrowed
  refine ⟨⟨List.length_map _, List.length_map _, fun i => ⟨List.getElem?_map, List.getElem?_map⟩⟩,
    ⟨fun i h => ⟨?_, ?_⟩, fun i => at?_eq_none⟩,
    fun name => ⟨fun p => bySource?_eq_some_iff hpairs, bySource?_eq_none_iff hpairs⟩,
    fun hsources p hp => bySource?_inSource hpairs hsources hp,
    fun space name => bySource?_inSource_of_forall_ne hpairs⟩
  · rw [at?_of_nonneg (Int.natCast_nonneg i), Int.toNat_natCast, List.getElem?_eq_getElem h]
  · rw [at?_sub_length h, List.getElem?_eq_getElem h]

/-- A claim whose data goes to another namespace. -/
def moved (space name target : Text) : ClaimPair :=
  ⟨⟨.text space, .text name⟩, ⟨.text "new", .text target⟩⟩

/-- Claims of two namespaces, with a name that is there in both. -/
def sharedName : List ClaimGroup :=
  [⟨"one", "new", [("a", "x"), ("b", "y")]⟩, ⟨"two", "new", [("a", "z")]⟩]

/-- The pairs of these groups. -/
def sharedNamePairs : List ClaimPair :=
  [moved "one" "a" "x", moved "one" "b" "y", moved "two" "a" "z"]

/-- The name alone finds the claim of the first namespace, and with the second one that of the
second. A name that is only in the first finds nothing in the second. -/
theorem lookup_of_groups_sharedName :
    sharedNamePairs = narrowed [] (sharedName.flatMap ClaimGroup.pairs) ∧
      (sources sharedNamePairs).Nodup ∧
      bySource? (.text "a") sharedNamePairs = some (moved "one" "a" "x") ∧
      bySource? (.text "a") (inSource (.text "two") sharedNamePairs) =
        some (moved "two" "a" "z") ∧
      bySource? (.text "b") (inSource (.text "two") sharedNamePairs) = none ∧
      at? (-1) sharedNamePairs = some (moved "two" "a" "z") ∧ at? (-4) sharedNamePairs = none := by
  obtain ⟨made, -, hflat, -, hfound⟩ := lookup_of_groups sharedName []
  rw [hflat] at hfound
  obtain ⟨-, ⟨hindex, houtside⟩, hname, hpair, hnone⟩ := hfound sharedNamePairs rfl
  have hsources : (sources sharedNamePairs).Nodup := by
    simp [sources, sharedNamePairs, moved, Text.ofString, Text.ofChars]
  have hlast : moved "two" "a" "z" ∈ sharedNamePairs := by simp [sharedNamePairs]
  refine ⟨rfl, hsources, ?_, hpair hsources _ hlast, hnone _ _ ?_, (hindex 2 (by decide)).2,
    houtside (-4) (Or.inl (by decide))⟩
  · exact ((hname _).1 _).2 ⟨[], _, rfl, rfl, fun _ hq => absurd hq List.not_mem_nil⟩
  · simp [sharedNamePairs, moved, Text.ofString, Text.ofChars]

end ClaimPair

end VolumeTunnel
