import VolumeTunnel.Proofs.Yaml.Building
import VolumeTunnel.Settings
import Mathlib.Data.List.Nodup

/-!
# Settings survive their file

Settings that are texts and a truth value are written in a file : each setting that is not left open
in a line of its own, and the options of the transport in the lines after its key, indented, in
either spelling of their keys (`Settings.WrittenAs`). The entries of both mappings may be in any
order.

Every such file is in ASCII, and the settings are loaded from it (`Settings.load_of_writtenAs`).
Since no key is there twice, what stands under a key does not depend on the order
(`Yaml.valueD_keyed_of_mem`, `Yaml.valueD_keyed_of_notMem`), so the options are those that were
written (`Options.ofMapping_eq`), and so are the other settings (`Settings.Outlined.valueD`).
-/

namespace VolumeTunnel

namespace Yaml

/-! ## Entries -/

/-- What is written for a value; there is nothing for other values than texts and truth values. -/
def datum? : Value → Option Datum
  | .text s => some (.text s)
  | .bool b => some (.flag b)
  | _ => none

theorem value_of_datum? {v : Value} {d : Datum} (h : datum? v = some d) : d.value = v := by
  cases v <;> cases h <;> rfl

/-- The entries that are written : those of texts and truth values. -/
def written (es : List (Text × Value)) : List (Text × Datum) :=
  es.filterMap fun e => (datum? e.2).map fun d => (e.1, d)

theorem mem_written {es : List (Text × Value)} {key : Text} {d : Datum} :
    (key, d) ∈ written es ↔ ∃ v, (key, v) ∈ es ∧ datum? v = some d := by
  simp only [written, List.mem_filterMap, Option.map_eq_some_iff, Prod.mk.injEq]
  constructor
  · rintro ⟨⟨_, v⟩, hmem, _, hd, rfl, rfl⟩
    exact ⟨v, hmem, hd⟩
  · rintro ⟨v, hmem, hd⟩
    exact ⟨(key, v), hmem, d, hd, rfl, rfl⟩

theorem map_fst_written_sublist (es : List (Text × Value)) :
    ((written es).map Prod.fst).Sublist (es.map Prod.fst) := by
  induction es with
  | nil => exact .slnil
  | cons e es ih =>
    obtain ⟨key, v⟩ := e
    cases hd : datum? v with
    | none =>
      rw [written, List.filterMap_cons_none (by rw [hd]; rfl)]
      exact ih.cons key
    | some d =>
      rw [written, List.filterMap_cons_some (by rw [hd]; rfl)]
      exact ih.cons_cons key

/-- The entries of a mapping, with their values. -/
def values (es : List (Text × Datum)) : List (Text × Value) :=
  es.map fun e => (e.1, e.2.value)

theorem map_fst_values (es : List (Text × Datum)) : (values es).map Prod.fst = es.map Prod.fst :=
  List.map_map

/-! ## Lookups -/

theorem value?_keyed_cons (k : Text) (v : Value) (es : List (Text × Value)) (key : Text) :
    Dict.value? (keyed ((k, v) :: es)) (.text key) =
      if k = key then some v else Dict.value? (keyed es) (.text key) := by
  refine (Dict.value?_cons (.text k) v (keyed es) (.text key)).trans ?_
  rw [Value.same_text]
  exact if_congr beq_iff_eq rfl rfl

theorem valueD_keyed_of_notMem {es : List (Text × Value)} {key : Text} (h : key ∉ es.map Prod.fst) :
    Dict.valueD (keyed es) (.text key) = .none := by
  have hnone : Dict.value? (keyed es) (.text key) = none := by
    induction es with
    | nil => rfl
    | cons e es ih =>
      rw [List.map_cons, List.mem_cons, not_or] at h
      rw [value?_keyed_cons, if_neg (Ne.symm h.1), ih h.2]
  rw [Dict.valueD, hnone, Option.getD_none]

theorem valueD_keyed_of_mem {es : List (Text × Value)} {key : Text} {v : Value}
    (hes : (es.map Prod.fst).Nodup) (h : (key, v) ∈ es) :
    Dict.valueD (keyed es) (.text key) = v := by
  have hsome : Dict.value? (keyed es) (.text key) = some v := by
    induction es with
    | nil => exact nomatch h
    | cons e es ih =>
      obtain ⟨hfirst, hes⟩ := List.nodup_cons.1 hes
      rcases List.mem_cons.1 h with rfl | h
      · rw [value?_keyed_cons, if_pos rfl]
      · have hne : e.1 ≠ key := fun heq => hfirst (heq ▸ List.mem_map_of_mem h)
        rw [value?_keyed_cons, if_neg hne, ih hes h]
  rw [Dict.valueD, hsome, Option.getD_some]

end Yaml

open Yaml

/-! ## Options -/

namespace Options

variable {o : Options} {f : Field}

/-- One of the two spellings of a field. -/
def Field.spelling (camel : Field → Bool) (f : Field) : Text :=
  if camel f then f.camelName else f.name

theorem Field.ofSpelling?_spelling (camel : Field → Bool) (f : Field) :
    ofSpelling? (.text (f.spelling camel)) = some f := by
  rw [spelling]
  cases camel f <;> cases f <;> decide

/-- A spelling is a word. -/
theorem Field.isWord_spelling (camel : Field → Bool) (f : Field) : IsWord (f.spelling camel) := by
  rw [spelling]
  cases camel f <;> cases f <;> decide

/-- The options by their keys, each in one of its spellings. -/
def rows (camel : Field → Bool) (o : Options) : List (Text × Value) :=
  Field.all.map fun f => (f.spelling camel, o.get f)

/-- The options are texts and a truth value. -/
structure IsTextual (o : Options) : Prop where
  text : ∀ f, f ≠ .noVerify → ∃ t, o.get f = .text t
  flag : ∃ b, o.noVerify = .bool b

theorem IsTextual.readEntry (h : o.IsTextual) (camel : Field → Bool) (f : Field) :
    readEntry (.text (f.spelling camel)) (o.get f) = .ok (f, o.get f) := by
  rw [Options.readEntry.eq_def, Field.ofSpelling?_spelling]
  by_cases hf : f = .noVerify
  · obtain ⟨b, hb⟩ := h.flag
    rw [hf, show o.get .noVerify = .bool b from hb]
  · obtain ⟨t, ht⟩ := h.text f hf
    rw [ht]
    cases f <;> first | rfl | exact absurd rfl hf

theorem chosen_eq {given : List (Field × Value)} (hgiven : ∀ e ∈ given, e.2 = o.get e.1)
    (hf : ∃ e ∈ given, e.1 = f) : chosen given f = o.get f := by
  rw [chosen]
  cases hfind : given.reverse.find? fun e => e.1 = f with
  | none =>
    obtain ⟨e, he, hef⟩ := hf
    exact absurd (decide_eq_true hef) (List.find?_eq_none.1 hfind e (List.mem_reverse.2 he))
  | some e =>
    have hef : e.1 = f := by simpa using List.find?_some hfind
    have he := List.mem_reverse.1 (List.mem_of_find?_eq_some hfind)
    exact hef ▸ hgiven e he

theorem levelText_eq (level : Fin 5) : levelText level = [.char (Text.digitChar level.val)] := by
  rw [levelText, Text.ofNat, Text.numeral, dif_pos (Or.inl (by omega))]
  rfl

theorem level?_levelValue (o : Options) : level? o.levelValue = some o.level := by
  have hdigit : ∀ level : Fin 5,
      level? (.text [.char (Text.digitChar level.val)]) = some (some level) := by
    decide
  cases hlevel : o.level with
  | none =>
    rw [levelValue, hlevel]
    rfl
  | some level => rw [levelValue, hlevel, Option.elim_some, levelText_eq, hdigit]

theorem ofFields_eq {given : List (Field × Value)} (h : ∀ f, chosen given f = o.get f) :
    ofFields given = .ok o := by
  rw [ofFields, h, h, h, h, h, show o.get .level = o.levelValue from rfl, level?_levelValue]
  rfl

theorem nodup_map_fst_rows (camel : Field → Bool) (o : Options) :
    ((o.rows camel).map Prod.fst).Nodup := by
  have hinjective : Function.Injective (Field.spelling camel) := fun f g h => by
    have hf := Field.ofSpelling?_spelling camel f
    rw [h, Field.ofSpelling?_spelling] at hf
    exact (Option.some.inj hf).symm
  rw [rows, List.map_map]
  exact List.Nodup.map hinjective (by decide : Field.all.Nodup)

/-- Each field of the options has an entry. -/
theorem IsTextual.mem_written (h : o.IsTextual) (camel : Field → Bool) (f : Field) :
    ∃ d, (f.spelling camel, d) ∈ written (o.rows camel) := by
  have hmem : (f.spelling camel, o.get f) ∈ o.rows camel :=
    List.mem_map_of_mem (f := fun f => (f.spelling camel, o.get f)) (by cases f <;> decide)
  by_cases hf : f = .noVerify
  · obtain ⟨b, hb⟩ := h.flag
    exact ⟨.flag b, Yaml.mem_written.2 ⟨_, hmem, by rw [hf]; exact congrArg datum? hb⟩⟩
  · obtain ⟨t, ht⟩ := h.text f hf
    exact ⟨.text t, Yaml.mem_written.2 ⟨_, hmem, congrArg datum? ht⟩⟩

/-- Each entry of the options gives what they have for a field. -/
theorem exists_field_of_mem_written {camel : Field → Bool} {e : Text × Datum}
    (he : e ∈ written (o.rows camel)) : ∃ f, e.1 = f.spelling camel ∧ e.2.value = o.get f := by
  obtain ⟨key, d⟩ := e
  obtain ⟨v, hv, hd⟩ := Yaml.mem_written.1 he
  obtain ⟨f, -, heq⟩ := List.mem_map.1 hv
  cases heq
  exact ⟨f, rfl, value_of_datum? hd⟩

/-- What an entry of the options is read as. -/
def fieldOf (e : Text × Datum) : Field × Value :=
  ((Field.ofSpelling? (.text e.1)).getD .level, e.2.value)

theorem mapM_readEntry {camel : Field → Bool} {es : List (Text × Datum)} (ho : o.IsTextual)
    (hes : ∀ e ∈ es, ∃ f, e.1 = f.spelling camel ∧ e.2.value = o.get f) :
    (keyed (values es)).mapM (fun (key, v) => readEntry key v) = .ok (es.map fieldOf) := by
  induction es with
  | nil => rfl
  | cons e es ih =>
    obtain ⟨⟨f, hkey, hvalue⟩, hrest⟩ := List.forall_mem_cons.1 hes
    have hfirst : readEntry (.text e.1) e.2.value = .ok (fieldOf e) := by
      rw [fieldOf, hkey, hvalue, ho.readEntry, Field.ofSpelling?_spelling, Option.getD_some]
    rw [show keyed (values (e :: es)) = (.text e.1, e.2.value) :: keyed (values es) from rfl,
      List.mapM_cons, ih hrest]
    dsimp only
    rw [hfirst]
    rfl

/-- The options are read back from their entries, in any order. -/
theorem ofMapping_eq {camel : Field → Bool} {es : List (Text × Datum)} (ho : o.IsTextual)
    (hes : es.Perm (written (o.rows camel))) : ofMapping (keyed (values es)) = .ok o := by
  have hentry : ∀ e ∈ es, ∃ f, e.1 = f.spelling camel ∧ e.2.value = o.get f := fun e he =>
    exists_field_of_mem_written (hes.mem_iff.1 he)
  rw [ofMapping, mapM_readEntry ho hentry]
  refine ofFields_eq fun f => chosen_eq ?_ ?_
  · intro x hx
    obtain ⟨e, he, rfl⟩ := List.mem_map.1 hx
    obtain ⟨f', hkey, hvalue⟩ := hentry e he
    rw [fieldOf, hkey, Field.ofSpelling?_spelling]
    exact hvalue
  · obtain ⟨d, hd⟩ := ho.mem_written camel f
    refine ⟨_, List.mem_map_of_mem (hes.mem_iff.2 hd), ?_⟩
    rw [fieldOf, Field.ofSpelling?_spelling, Option.getD_some]

end Options

/-! ## Documents -/

/-- The entries of an outline. -/
def Yaml.Outline.rows (o : Outline) : List (Text × Value) :=
  values o.before ++ (o.key, .dict (keyed (values o.inner))) :: values o.after

theorem Yaml.Outline.map_fst_rows (o : Outline) :
    o.rows.map Prod.fst = o.before.map Prod.fst ++ o.key :: o.after.map Prod.fst := by
  rw [rows, List.map_append, List.map_cons, map_fst_values, map_fst_values]

theorem Yaml.Outline.mem_rows {o : Outline} {e : Text × Value} :
    e ∈ o.rows ↔ e = (o.key, .dict (keyed (values o.inner))) ∨ e ∈ values (o.before ++ o.after) := by
  simp only [rows, values, List.mem_append, List.mem_cons, List.map_append]
  tauto

namespace Settings

/-- What stands under a key of a document, as settings are read from it. -/
def seen (d : Document) (key : Value) (i : Item) : Value :=
  if key.same "transport" then d.opened i else d.value i

theorem seen_leaf (d : Document) (key v : Value) : seen d key (.leaf v) = v := by
  rw [seen]
  split <;> exact Document.value_leaf d v

theorem map_seen_leaves (d : Document) (es : List (Text × Datum)) :
    (keyed (leaves es)).map (fun e => (e.1, seen d e.1 e.2)) = keyed (values es) := by
  simp only [keyed, leaves, values, List.map_map, Function.comp_def, seen_leaf]

theorem seen_inner (o : Outline) (key : Value) :
    seen o.document key (.collection 1) = .dict (keyed (values o.inner)) := by
  have hopened : o.document.opened (.collection 1) =
      .dict ((keyed (leaves o.inner)).map fun e => (e.1, o.document.value e.2)) := rfl
  have hvalue : o.document.value (.collection 1) =
      .dict ((keyed (leaves o.inner)).map fun e => (e.1, o.document.valueInside 2 [1] e.2)) := rfl
  rw [seen, hopened, hvalue]
  simp [keyed, leaves, values, Function.comp_def, Document.valueInside]

/-- The value of the document of an outline. -/
theorem valueOf_document (o : Outline) : valueOf o.document = .dict (keyed o.rows) := by
  have hentries : (keyed o.items).map (fun e => (e.1, seen o.document e.1 e.2)) = keyed o.rows := by
    have hitems : keyed o.items =
        keyed (leaves o.before) ++ (.text o.key, .collection 1) :: keyed (leaves o.after) :=
      List.map_append
    have hrows : keyed o.rows = keyed (values o.before) ++
        (.text o.key, .dict (keyed (values o.inner))) :: keyed (values o.after) := List.map_append
    rw [hitems, hrows, List.map_append, List.map_cons, map_seen_leaves, map_seen_leaves, seen_inner]
  exact congrArg Value.dict hentries

/-! ## Files -/

/-- The settings by their keys, but for those of the transport. -/
def rows (s : Settings) : List (Text × Value) :=
  [("image", s.image), ("kubeconfig", s.kubeconfig), ("context", s.context),
    ("log_level", .text s.logLevel)]

/-- The settings are texts and a truth value. The image, the file of the clusters and the context
may be left open; the level of logging is chosen. -/
structure IsTextual (s : Settings) : Prop where
  transport : s.transport.IsTextual
  optional : ∀ v ∈ [s.image, s.kubeconfig, s.context], v = .none ∨ ∃ t, v = .text t
  logLevel : s.logLevel ≠ []

/-- An outline of the settings : an entry for each that is not left open, and a mapping of the
options of the transport, the entries of both in any order. -/
structure Outlined (s : Settings) (o : Outline) : Prop where
  rows : (o.before ++ o.after).Perm (written s.rows)
  key : o.key = "transport"
  inner : ∃ camel, o.inner.Perm (written (s.transport.rows camel))

variable {s : Settings} {o : Outline}

/-- The keys of the settings, in the order of the known ones. -/
theorem cons_map_fst_rows (s : Settings) :
    Text.ofString "transport" :: s.rows.map Prod.fst = knownKeys :=
  rfl

theorem nodup_knownKeys : knownKeys.Nodup := by
  decide

theorem isWord_of_mem_knownKeys : ∀ key ∈ knownKeys, IsWord key := by
  decide

theorem Outlined.map_fst_perm (h : s.Outlined o) :
    (o.rows.map Prod.fst).Perm (Text.ofString "transport" :: (written s.rows).map Prod.fst) := by
  rw [o.map_fst_rows, h.key]
  refine List.perm_middle.trans (.cons _ ?_)
  rw [← List.map_append]
  exact h.rows.map _

theorem map_fst_written_sublist_knownKeys (s : Settings) :
    (Text.ofString "transport" :: (written s.rows).map Prod.fst).Sublist knownKeys :=
  s.cons_map_fst_rows ▸ (map_fst_written_sublist s.rows).cons_cons _

theorem Outlined.keys (h : s.Outlined o) : (o.rows.map Prod.fst).Nodup :=
  h.map_fst_perm.nodup_iff.2 (nodup_knownKeys.sublist s.map_fst_written_sublist_knownKeys)

theorem Outlined.mem_knownKeys (h : s.Outlined o) {key : Text} (hkey : key ∈ o.rows.map Prod.fst) :
    key ∈ knownKeys :=
  s.map_fst_written_sublist_knownKeys.subset (h.map_fst_perm.mem_iff.1 hkey)

theorem Outlined.isPlain (hs : s.IsTextual) (h : s.Outlined o) : o.IsPlain := by
  obtain ⟨camel, hinner⟩ := h.inner
  have hkeys : ∀ key ∈ o.rows.map Prod.fst, IsWord key := fun key hkey =>
    isWord_of_mem_knownKeys key (h.mem_knownKeys hkey)
  rw [o.map_fst_rows, List.forall_mem_append, List.forall_mem_cons] at hkeys
  obtain ⟨hbefore, hkey, hafter⟩ := hkeys
  have hoptions : ∀ e ∈ o.inner, IsWord e.1 := by
    intro e he
    obtain ⟨f, hf, -⟩ := Options.exists_field_of_mem_written (hinner.mem_iff.1 he)
    rw [hf]
    exact f.isWord_spelling camel
  exact {
    key := hkey
    entries := List.forall_mem_append.2 ⟨List.forall_mem_append.2
      ⟨List.forall_mem_map.1 hbefore, hoptions⟩, List.forall_mem_map.1 hafter⟩
    inner := by
      obtain ⟨d, hd⟩ := hs.transport.mem_written camel .level
      exact List.ne_nil_of_mem (hinner.mem_iff.2 hd)
    keys := o.map_fst_rows ▸ h.keys
    innerKeys := (hinner.map Prod.fst).nodup_iff.2
      ((Options.nodup_map_fst_rows camel s.transport).sublist (map_fst_written_sublist _)) }

theorem IsTextual.of_mem_rows (hs : s.IsTextual) {key : Text} {v : Value} (hv : (key, v) ∈ s.rows) :
    v = .none ∨ ∃ t, v = .text t := by
  obtain ⟨himage, hkubeconfig, hcontext⟩ : _ ∧ _ ∧ _ := by simpa using hs.optional
  simp only [rows, List.mem_cons, Prod.mk.injEq, List.not_mem_nil, or_false] at hv
  rcases hv with ⟨-, rfl⟩ | ⟨-, rfl⟩ | ⟨-, rfl⟩ | ⟨-, rfl⟩
  · exact himage
  · exact hkubeconfig
  · exact hcontext
  · exact Or.inr ⟨_, rfl⟩

/-- Every setting is found under its key; one that is left open has none. -/
theorem Outlined.valueD (hs : s.IsTextual) (h : s.Outlined o) {key : Text} {v : Value}
    (hv : (key, v) ∈ s.rows) : Dict.valueD (keyed o.rows) (.text key) = v := by
  have hknown := s.cons_map_fst_rows ▸ nodup_knownKeys
  obtain ⟨hkey, hnodup⟩ := List.nodup_cons.1 hknown
  rcases hs.of_mem_rows hv with rfl | ⟨t, rfl⟩
  · refine valueD_keyed_of_notMem fun hmem => ?_
    rcases List.mem_cons.1 (h.map_fst_perm.mem_iff.1 hmem) with rfl | hmem
    · exact hkey (List.mem_map_of_mem hv)
    · obtain ⟨⟨key, d⟩, hd, rfl⟩ := List.mem_map.1 hmem
      obtain ⟨w, hw, hdatum⟩ := mem_written.1 hd
      have heq := List.inj_on_of_nodup_map hnodup hw hv rfl
      cases heq
      exact nomatch hdatum
  · refine valueD_keyed_of_mem h.keys (Outline.mem_rows.2 (Or.inr ?_))
    have hwritten : (key, Datum.text t) ∈ written s.rows := mem_written.2 ⟨_, hv, rfl⟩
    exact List.mem_map_of_mem (f := fun e => (e.1, e.2.value)) (h.rows.mem_iff.2 hwritten)

theorem Outlined.checkKeys (h : s.Outlined o) (path : Text) :
    checkKeys path (keyed o.rows) = .ok () := by
  have hknown : ((keyed o.rows).map (·.1)).filter (fun key => !isKnown key) = [] := by
    refine List.filter_eq_nil_iff.2 fun key hkey => ?_
    obtain ⟨_, hmem, rfl⟩ := List.mem_map.1 hkey
    obtain ⟨e, he, rfl⟩ := List.mem_map.1 hmem
    have hsame : (Value.text e.1).same (.text e.1) = true :=
      (Value.same_text _ _).trans (beq_self_eq_true _)
    have hany : isKnown (.text e.1) = true :=
      List.any_eq_true.2 ⟨e.1, h.mem_knownKeys (List.mem_map_of_mem he), hsame⟩
    rw [hany]
    decide
  rw [Settings.checkKeys, hknown]

theorem Outlined.ofMapping (hs : s.IsTextual) (h : s.Outlined o) (path : Text) :
    ofMapping path (keyed o.rows) = .ok s := by
  obtain ⟨camel, hinner⟩ := h.inner
  have hmapping : Dict.valueD (keyed o.rows) (.text "transport") = .dict (keyed (values o.inner)) :=
    h.key ▸ valueD_keyed_of_mem h.keys (Outline.mem_rows.2 (Or.inl rfl))
  have htruthy : (Value.dict (keyed (values o.inner))).truthy = true := by
    have hne := (h.isPlain hs).inner
    obtain ⟨e, es, hes⟩ := List.exists_cons_of_ne_nil hne
    rw [hes]
    rfl
  have htransport :
      transportOf path (Dict.valueD (keyed o.rows) (.text "transport")) = .ok s.transport := by
    rw [transportOf, hmapping, Value.orElse, if_pos htruthy]
    exact Options.ofMapping_eq hs.transport hinner
  have hlevel : logLevelOf (Dict.valueD (keyed o.rows) (.text "log_level")) = .ok s.logLevel := by
    have hvalue : Dict.valueD (keyed o.rows) (.text "log_level") = .text s.logLevel :=
      h.valueD hs (by simp [Settings.rows])
    obtain ⟨c, t, ht⟩ := List.exists_cons_of_ne_nil hs.logLevel
    rw [hvalue, ht]
    rfl
  have himage : Dict.valueD (keyed o.rows) (.text "image") = s.image :=
    h.valueD hs (by simp [Settings.rows])
  have hkubeconfig : Dict.valueD (keyed o.rows) (.text "kubeconfig") = s.kubeconfig :=
    h.valueD hs (by simp [Settings.rows])
  have hcontext : Dict.valueD (keyed o.rows) (.text "context") = s.context :=
    h.valueD hs (by simp [Settings.rows])
  rw [Settings.ofMapping, h.checkKeys, htransport, hlevel, himage, hkubeconfig, hcontext]
  rfl

/-- How the settings are written : an outline of them, line by line. -/
def WrittenAs (s : Settings) (t : Text) : Prop :=
  ∃ o, s.Outlined o ∧ o.Writes t

/-- Settings survive their files. -/
theorem load_of_writtenAs {s : Settings} (hs : s.IsTextual) (path : Text) :
    (∃ t, s.WrittenAs t) ∧ ∀ t, s.WrittenAs t →
      (∀ c ∈ t, c.isLineAscii) ∧ load path (.contents t.asciiBytes) = .ok s := by
  refine ⟨?_, ?_⟩
  · let o : Outline := ⟨written s.rows, "transport", written (s.transport.rows fun _ => false), []⟩
    obtain ⟨t, ht⟩ := o.exists_writes
    exact ⟨t, o, ⟨by rw [List.append_nil], rfl, _, .refl _⟩, ht⟩
  · rintro t ⟨o, ho, ht⟩
    have hplain := ho.isPlain hs
    have hascii := ht.isLineAscii hplain
    refine ⟨hascii, ?_⟩
    rw [load, Source.ofBytes_asciiBytes hascii, ofSource, Outline.load_of_writes hplain ht]
    dsimp only
    rw [valueOf_document, ofDocument]
    exact ho.ofMapping hs path

/-! ## A file -/

/-- Settings that leave the file of the clusters open, with a quote, a backslash, a line feed and a
character that is not ASCII in them. -/
def sample : Settings where
  transport := ⟨some Options.defaultLevel, "h:1", "", "a\"b\\", .bool true⟩
  image := ""
  kubeconfig := .none
  context := "caf\u00e9\n"
  logLevel := "no"

/-- A file for them, by its lines. -/
def sampleFile : Text :=
  Text.join "\n" ["context: \"caf\\xe9\\u000A\"",
    "transport:",
    "  noVerifyCA: true",
    "  proxy_password: \"a\\\"b\\\\\"",
    "  caVerifyLevel: \"2\"",
    "  proxyURL: \"h:1\"",
    "  proxy_username: \"\"",
    "log_level: \"no\"",
    "image: \"\"", ""]

theorem isTextual_sample : sample.IsTextual where
  transport := ⟨fun f hf => by cases f <;> first | exact ⟨_, rfl⟩ | exact absurd rfl hf, true, rfl⟩
  optional := by
    simp only [List.forall_mem_cons, List.not_mem_nil, false_imp_iff, implies_true, and_true]
    exact ⟨Or.inr ⟨_, rfl⟩, Or.inl rfl, Or.inr ⟨_, rfl⟩⟩
  logLevel := by decide

/-- The outline of that file. -/
def sampleOutline : Outline where
  before := [("context", .text "caf\u00e9\n")]
  key := "transport"
  inner := [("noVerifyCA", .flag true), ("proxy_password", .text "a\"b\\"),
    ("caVerifyLevel", .text "2"), ("proxyURL", .text "h:1"), ("proxy_username", .text "")]
  after := [("log_level", .text "no"), ("image", .text "")]

theorem outlined_sampleOutline : sample.Outlined sampleOutline := by
  refine ⟨by decide, rfl, fun f => f = .level ∨ f = .proxyUrl ∨ f = .noVerify, ?_⟩
  have hrows : written (sample.transport.rows fun f => f = .level ∨ f = .proxyUrl ∨ f = .noVerify) =
      ([("caVerifyLevel", .text (Options.levelText 2)), ("proxyURL", .text "h:1"),
        ("proxy_username", .text ""), ("proxy_password", .text "a\"b\\"),
        ("noVerifyCA", .flag true)] : List (Text × Datum)) := rfl
  rw [hrows, Options.levelText_eq]
  decide

set_option maxRecDepth 1000 in
theorem writes_sampleOutline : sampleOutline.Writes sampleFile := by
  have hcharacter : Quoted.Denotes "e9" 0xe9 := ⟨[14, 9], .cons rfl (.cons rfl .nil), rfl⟩
  have hlineFeed : Quoted.Denotes "000A" 0xA :=
    ⟨[0, 0, 0, 10], .cons rfl (.cons rfl (.cons rfl (.cons rfl .nil))), rfl⟩
  have hlast : Quoted.Writes [.char '\n']
      (Quoted.backslash :: .char 'u' :: (Text.ofString "000A" ++ [])) :=
    .numbered (by decide) rfl hlineFeed .nil
  have hlasts : Quoted.Writes [.char '\u00e9', .char '\n']
      (Quoted.backslash :: .char 'x' :: (Text.ofString "e9" ++
        Quoted.backslash :: .char 'u' :: (Text.ofString "000A" ++ []))) :=
    .numbered (by decide) rfl hcharacter hlast
  have hcontext : Quoted.Writes "caf\u00e9\n" "caf\\xe9\\u000A" :=
    .same (by decide) (by decide) (by decide) (.same (by decide) (by decide) (by decide)
      (.same (by decide) (by decide) (by decide) hlasts))
  have hpassword : Quoted.Writes "a\"b\\" "a\\\"b\\\\" :=
    .same (by decide) (by decide) (by decide) (.marked (by decide)
      (.same (by decide) (by decide) (by decide) (.marked (by decide) .nil)))
  refine ⟨2, _, _, _, by decide, .cons (.text hcontext) .nil, .cons (.flag true)
    (.cons (.text hpassword) (.cons (.text (Quoted.writes_self (by decide)))
    (.cons (.text (Quoted.writes_self (by decide))) (.cons (.text .nil) .nil)))),
    .cons (.text (Quoted.writes_self (by decide))) (.cons (.text .nil) .nil), ?_⟩
  rfl

/-- The settings are loaded from that file. -/
theorem load_sampleFile :
    sample.IsTextual ∧ sample.WrittenAs sampleFile ∧
      load "settings.yaml" (.contents sampleFile.asciiBytes) = .ok sample := by
  have hwritten : sample.WrittenAs sampleFile :=
    ⟨sampleOutline, outlined_sampleOutline, writes_sampleOutline⟩
  refine ⟨isTextual_sample, hwritten, ?_⟩
  exact ((load_of_writtenAs isTextual_sample "settings.yaml").2 sampleFile hwritten).2

end Settings

end VolumeTunnel
