import VolumeTunnel.Proofs.Yaml.Building

/-!
# What merging leaves as it is

Merging changes the nodes of a document : entries are put in front of those of a mapping, its merge
keys go, and keys for values become texts. What a mapping itself gives for a text it gives after
that too (`Graph.Gives`), and scalars stay what they are.

* `Graph.Kept` : what is left as it is;
* `Graph.kept_mergeWith` : merging keeps this, whatever is merged.
-/

namespace VolumeTunnel.Yaml

/-- What a computation with two steps went through. -/
theorem Flaw.bind_eq_ok {α β : Type} {x : Except Flaw α} {f : α → Except Flaw β} {b : β}
    (h : (x >>= f) = .ok b) : ∃ a, x = .ok a ∧ f a = .ok b := by
  cases x with
  | error e => exact nomatch h
  | ok a => exact ⟨a, rfl, h⟩

/-- What every step keeps is kept by going through a list. -/
theorem foldlM_keeps {α β : Type} {P : β → Prop} {f : β → α → Except Flaw β}
    (hf : ∀ b a b', P b → f b a = .ok b' → P b') {xs : List α} {b b' : β} (hb : P b)
    (h : xs.foldlM f b = .ok b') : P b' := by
  induction xs generalizing b with
  | nil => exact Except.ok.inj h ▸ hb
  | cons x xs ih =>
    rw [List.foldlM_cons] at h
    obtain ⟨c, hc, hrest⟩ := Flaw.bind_eq_ok h
    exact ih (hf b x c hb hc) hrest

namespace Graph

variable {g g' g'' : Graph} {n m v : Nat} {t : Text} {es : List (Nat × Nat)}

/-! ## What a mapping gives -/

/-- The key of an entry is a scalar with another text, or a sequence. -/
def HasOtherKey (g : Graph) (t : Text) (e : Nat × Nat) : Prop :=
  g.isMapping e.1 = false ∧ (g.node e.1).contents ≠ .scalar t

/-- The last of some entries under a text. -/
def Last (g : Graph) (es : List (Nat × Nat)) (t : Text) (v : Nat) : Prop :=
  ∃ before k after, es = before ++ (k, v) :: after ∧ g.node k = .scalar .str t ∧
    ∀ e ∈ after, g.HasOtherKey t e

/-- A mapping itself has a value for a text, and its entries after that have other keys. -/
structure Gives (g : Graph) (n : Nat) (t : Text) (v : Nat) : Prop where
  tag : (g.node n).tag = .map
  mapping : g.isMapping n = true
  last : g.Last (g.entries n) t v

theorem Last.append (front : List (Nat × Nat)) (h : g.Last es t v) :
    g.Last (front ++ es) t v := by
  obtain ⟨before, k, after, rfl, hk⟩ := h
  exact ⟨front ++ before, k, after, (List.append_assoc _ _ _).symm, hk⟩

/-- An entry under another key may go. -/
theorem Last.remove {front back : List (Nat × Nat)} {e : Nat × Nat}
    (h : g.Last (front ++ e :: back) t v) (he : (g.node e.1).tag ≠ .str) :
    g.Last (front ++ back) t v := by
  obtain ⟨before, k, after, hsplit, hk, hafter⟩ := h
  rcases List.append_eq_append_iff.1 hsplit with ⟨c, rfl, hc⟩ | ⟨c, rfl, hc⟩
  · cases c with
    | nil =>
      obtain ⟨rfl, -⟩ := List.cons.inj hc
      exact absurd (congrArg Node.tag hk) he
    | cons e' c =>
      obtain ⟨rfl, rfl⟩ := List.cons.inj hc
      exact ⟨front ++ c, k, after, (List.append_assoc _ _ _).symm, hk, hafter⟩
  · cases c with
    | nil =>
      obtain ⟨rfl, -⟩ := List.cons.inj hc
      exact absurd (congrArg Node.tag hk) he
    | cons e' c =>
      obtain ⟨rfl, rfl⟩ := List.cons.inj hc
      refine ⟨before, k, c ++ back, List.append_assoc _ _ _, hk, fun e' he' => hafter e' ?_⟩
      rcases List.mem_append.1 he' with he' | he'
      · exact List.mem_append_left _ he'
      · exact List.mem_append_right _ (List.mem_cons_of_mem _ he')

/-! ## What is kept -/

/-- The nodes of two graphs are of the same kinds, and so are their scalars and sequences; but a key
for values may be a text in the second one. -/
structure SameKinds (g g' : Graph) : Prop where
  size : g'.size = g.size
  mapping : ∀ n, g'.isMapping n = g.isMapping n
  tag : ∀ n, (g'.node n).tag = (g.node n).tag ∨ (g.node n).tag = .value ∧ (g'.node n).tag = .str
  contents : ∀ n, g.isMapping n = false → (g'.node n).contents = (g.node n).contents

theorem SameKinds.refl (g : Graph) : g.SameKinds g :=
  ⟨rfl, fun _ => rfl, fun _ => Or.inl rfl, fun _ _ => rfl⟩

theorem SameKinds.trans (h : g.SameKinds g') (h' : g'.SameKinds g'') : g.SameKinds g'' where
  size := h'.size.trans h.size
  mapping := fun n => (h'.mapping n).trans (h.mapping n)
  tag := fun n => by
    rcases h'.tag n with h' | ⟨hvalue, h'⟩
    · rw [h']
      exact h.tag n
    · rcases h.tag n with h | ⟨-, h⟩
      · exact Or.inr ⟨h.symm.trans hvalue, h'⟩
      · exact absurd (h.symm.trans hvalue) Tag.noConfusion
  contents := fun n hn => (h'.contents n (by rwa [h.mapping n])).trans (h.contents n hn)

theorem SameKinds.tag_eq (h : g.SameKinds g') (htag : (g.node n).tag ≠ .value) :
    (g'.node n).tag = (g.node n).tag :=
  (h.tag n).resolve_right fun hvalue => htag hvalue.1

/-- Scalars and sequences that are no keys for values are the same. -/
theorem SameKinds.node_eq (h : g.SameKinds g') (hn : g.isMapping n = false)
    (htag : (g.node n).tag ≠ .value) : g'.node n = g.node n := by
  have hnode : ∀ {x y : Node}, x.tag = y.tag → x.contents = y.contents → x = y := by
    rintro ⟨_, _⟩ ⟨_, _⟩ rfl rfl
    rfl
  exact hnode (h.tag_eq htag) (h.contents n hn)

theorem isMapping_of_scalar {tag : Tag} (h : g.node n = .scalar tag t) : g.isMapping n = false := by
  rw [isMapping, h]
  rfl

theorem SameKinds.last (h : g.SameKinds g') (hlast : g.Last es t v) : g'.Last es t v := by
  obtain ⟨before, k, after, rfl, hk, hafter⟩ := hlast
  have hkey : g'.node k = g.node k :=
    h.node_eq (isMapping_of_scalar hk) (by rw [hk]; exact Tag.noConfusion)
  refine ⟨before, k, after, rfl, hkey.trans hk, fun e he => ?_⟩
  obtain ⟨hmapping, hcontents⟩ := hafter e he
  exact ⟨(h.mapping e.1).trans hmapping, by rwa [h.contents e.1 hmapping]⟩

/-- One graph has become another one by merging : what a mapping gives itself it still gives,
after what may have been put in front. -/
structure Kept (g g' : Graph) : Prop extends SameKinds g g' where
  gives : ∀ n t v, g.Last (g.entries n) t v → g'.Last (g'.entries n) t v

theorem Kept.refl (g : Graph) : g.Kept g :=
  ⟨.refl g, fun _ _ _ => id⟩

theorem Kept.trans (h : g.Kept g') (h' : g'.Kept g'') : g.Kept g'' :=
  ⟨h.toSameKinds.trans h'.toSameKinds, fun n t v hgives => h'.gives n t v (h.gives n t v hgives)⟩

/-! ## Steps of merging -/

theorem node_of_le (h : g.size ≤ n) : g.node n = .empty := by
  rw [node, Array.getElem?_eq_none h, Option.getD_none]

theorem lt_size_of_ne (h : g.node n ≠ .empty) : n < g.size :=
  Nat.lt_of_not_le fun hn => h (node_of_le hn)

theorem lt_size_of_isMapping (h : g.isMapping n = true) : n < g.size := by
  refine lt_size_of_ne fun hempty => ?_
  rw [isMapping, hempty] at h
  cases h

theorem node_setEntries (h : g.isMapping n = true) (es : List (Nat × Nat)) (m : Nat) :
    (g.setEntries n es).node m =
      if m = n then ⟨(g.node n).tag, .mapping es⟩ else g.node m :=
  node_put g n m _ (lt_size_of_isMapping h)

theorem entries_setEntries (h : g.isMapping n = true) (es : List (Nat × Nat)) (m : Nat) :
    (g.setEntries n es).entries m = if m = n then es else g.entries m := by
  rw [entries, node_setEntries h]
  by_cases hmn : m = n
  · rw [if_pos hmn, if_pos hmn]
  · rw [if_neg hmn, if_neg hmn, entries]

/-- Other entries for a mapping that still give what it gave. -/
theorem kept_setEntries (h : g.isMapping n = true)
    (hes : ∀ t v, g.Last (g.entries n) t v → g.Last es t v) : g.Kept (g.setEntries n es) := by
  have hkinds : g.SameKinds (g.setEntries n es) := by
    refine ⟨size_put _ _ _, fun m => ?_, fun m => Or.inl ?_, fun m hm => ?_⟩
    · by_cases hmn : m = n
      · rw [isMapping, node_setEntries h, if_pos hmn, hmn, h]
      · rw [isMapping, node_setEntries h, if_neg hmn, isMapping]
    · by_cases hmn : m = n
      · rw [node_setEntries h, if_pos hmn, hmn]
      · rw [node_setEntries h, if_neg hmn]
    · have hmn : m ≠ n := by
        rintro rfl
        exact Bool.false_ne_true (hm.symm.trans h)
      rw [node_setEntries h, if_neg hmn]
  refine ⟨hkinds, fun m t v hlast => hkinds.last ?_⟩
  rw [entries_setEntries h]
  by_cases hmn : m = n
  · rw [if_pos hmn]
    exact hes t v (hmn ▸ hlast)
  · rwa [if_neg hmn]

theorem node_nameKey (g : Graph) (n m : Nat) :
    (g.nameKey n).node m =
      if m = n ∧ (g.node n).tag = .value then ⟨.str, (g.node n).contents⟩ else g.node m := by
  rw [nameKey]
  by_cases htag : (g.node n).tag = .value
  · have hn : n < g.size := by
      refine lt_size_of_ne fun hempty => ?_
      rw [hempty] at htag
      cases htag
    rw [if_pos htag, node_put g n m _ hn]
    simp only [htag, and_true]
  · rw [if_neg htag, if_neg fun h => htag h.2]

theorem kept_nameKey (g : Graph) (n : Nat) : g.Kept (g.nameKey n) := by
  have hcontents (m : Nat) : ((g.nameKey n).node m).contents = (g.node m).contents := by
    rw [node_nameKey]
    by_cases hm : m = n ∧ (g.node n).tag = .value
    · rw [if_pos hm, hm.1]
    · rw [if_neg hm]
  have hkinds : g.SameKinds (g.nameKey n) := by
    refine ⟨?_, fun m => ?_, fun m => ?_, fun m _ => hcontents m⟩
    · rw [nameKey]
      split
      · exact size_put _ _ _
      · rfl
    · rw [isMapping, hcontents, isMapping]
    · rw [node_nameKey]
      by_cases hm : m = n ∧ (g.node n).tag = .value
      · rw [if_pos hm, hm.1]
        exact Or.inr ⟨hm.2, rfl⟩
      · rw [if_neg hm]
        exact Or.inl rfl
  refine ⟨hkinds, fun m t v hlast => hkinds.last ?_⟩
  rwa [entries, hcontents]

theorem kept_putInFront (h : g.isMapping n = true) (merged : List (Nat × Nat)) :
    g.Kept (g.putInFront n merged) := by
  have hnamed : g.Kept ((g.entries n).foldl (fun g e => g.nameKey e.1) g) :=
    List.foldlRecOn (g.entries n) _ (motive := g.Kept) (.refl g)
      fun g' hg' e _ => hg'.trans (kept_nameKey g' e.1)
  refine hnamed.trans (kept_setEntries ((hnamed.mapping n).trans h) fun t v hlast => ?_)
  exact hlast.append merged

theorem isMapping_of_entries (h : g.entries n ≠ []) : g.isMapping n = true := by
  rw [entries] at h
  split at h
  next hcontents => rw [isMapping, hcontents]
  next => exact absurd rfl h

theorem kept_takeMerge? {named : Nat} (h : g.takeMerge? n = some (named, g')) : g.Kept g' := by
  rw [takeMerge?] at h
  split at h
  next => cases h
  next k value after hdrop =>
    obtain ⟨rfl, rfl⟩ := Prod.mk.inj (Option.some.inj h)
    have hsplit := List.takeWhile_append_dropWhile (p := fun e => !g.hasKey .merge e)
      (l := g.entries n)
    rw [hdrop] at hsplit
    have hkey : (g.node k).tag = .merge := by
      have hhead := List.head?_dropWhile_not (fun e => !g.hasKey .merge e) (g.entries n)
      rw [hdrop] at hhead
      simpa [hasKey] using hhead
    refine kept_setEntries (isMapping_of_entries ?_) fun t v hlast => ?_
    · rw [← hsplit]
      exact List.append_ne_nil_of_right_ne_nil _ (List.cons_ne_nil _ _)
    · rw [← hsplit] at hlast
      exact hlast.remove (by rw [hkey]; exact Tag.noConfusion)

/-- Merging keeps what a mapping gives itself. -/
theorem kept_mergeWith {fuel : Nat} {merged : List (Nat × Nat)} (hn : g.isMapping n = true)
    (h : mergeWith fuel n merged g = .ok g') : g.Kept g' := by
  induction fuel generalizing n merged g g' with
  | zero => cases h
  | succ fuel ih =>
    rw [mergeWith] at h
    split at h
    next => exact Except.ok.inj h ▸ kept_putInFront hn merged
    next named g₁ htake =>
      have hg₁ := kept_takeMerge? htake
      have hfront : ∀ (s : Graph × List (Nat × Nat)) m s', g.Kept s.1 →
          (if s.1.isMapping m then do
              let g ← mergeWith fuel m [] s.1
              pure (g, g.entries m ++ s.2)
            else .error .malformed : Except Flaw (Graph × List (Nat × Nat))) = .ok s' →
          g.Kept s'.1 := by
        intro s m s' hs hs'
        split at hs'
        next hm =>
          obtain ⟨g₂, hmerge, hpure⟩ := Flaw.bind_eq_ok hs'
          rw [← Except.ok.inj hpure]
          exact hs.trans (ih hm hmerge)
        next => cases hs'
      have hrest : ∀ g₂ es, g.Kept g₂ → mergeWith fuel n (merged ++ es) g₂ = .ok g' → g.Kept g' :=
        fun g₂ es hg₂ hmerge => hg₂.trans (ih ((hg₂.mapping n).trans hn) hmerge)
      dsimp only at h
      split at h
      · obtain ⟨⟨g₂, es⟩, hnamed, hmerge⟩ := Flaw.bind_eq_ok h
        exact hrest g₂ es (foldlM_keeps (P := fun s => g.Kept s.1) hfront hg₁ hnamed) hmerge
      · obtain ⟨⟨g₂, es⟩, hnamed, hmerge⟩ := Flaw.bind_eq_ok h
        exact hrest g₂ es (hfront (g₁, []) named (g₂, es) hg₁ hnamed) hmerge

theorem kept_merge (hn : g.isMapping n = true) (h : g.merge n = .ok g') : g.Kept g' :=
  kept_mergeWith hn h

end Graph

end VolumeTunnel.Yaml
