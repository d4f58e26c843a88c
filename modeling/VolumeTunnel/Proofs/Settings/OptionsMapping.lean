import VolumeTunnel.Proofs.Settings.File
import VolumeTunnel.Proofs.Tunnel.Password
import VolumeTunnel.Proofs.Tunnel.Verification

/-!
# The options of a mapping

A mapping gives options if each of its entries is read (`Options.Readable`), overridden or not, and
what it gives to the level is one of those allowed (`Options.exists_ofMapping_iff`). A field gets
what the last entry that spells it gives, and its default if there is none (`Options.given`).

* `Options.Fails` : how a mapping fails, by its first entry that is not read, or by the level;
* `Options.mapping_read` : which mappings give options, what options, and how the others fail.

So entries for different fields may change places, and options that are texts and a truth value are
read back from the mapping that lists them.
-/

namespace VolumeTunnel.Options

/-! ## Entries -/

/-- A key spells a field in either way. -/
def Field.Spells (f : Field) (key : Value) : Prop :=
  key = .text f.name ∨ key = .text f.camelName

theorem Field.ofSpelling?_eq_some_iff {key : Value} {f : Field} :
    ofSpelling? key = some f ↔ f.Spells key := by
  constructor
  · intro h
    cases key with
    | text t =>
      have hspelled := List.find?_some h
      rcases of_decide_eq_true hspelled with hname | hcamel
      · exact Or.inl (congrArg Value.text hname.symm)
      · exact Or.inr (congrArg Value.text hcamel.symm)
    | _ => exact nomatch h
  · rintro (rfl | rfl) <;> cases f <;> decide

/-- What a value gives to a field : a flag is taken as it is, and anything else by its text, nothing
being the empty text. -/
def converted (f : Field) (v : Value) : Value :=
  match f, v with
  | .noVerify, v => v
  | _, .none => .text []
  | _, v => .text v.shown

/-- An entry that is read : its key spells a field, and a value for the flag is a truth value. -/
def Readable (entry : Value × Value) : Prop :=
  ∃ f, Field.ofSpelling? entry.1 = some f ∧ (f = .noVerify → ∃ b, entry.2 = .bool b)

/-- What an entry that is read gives to its field. -/
def entryOf (entry : Value × Value) : Field × Value :=
  let f := (Field.ofSpelling? entry.1).getD .level
  (f, converted f entry.2)

/-- How an entry fails whose value has a text : its key spells no field, and may not even have a
written form, or its value for the flag is no truth value. -/
inductive EntryFails (key v : Value) : Failure → Prop
  | unknown (h : Field.ofSpelling? key = none) (hkey : key.isWritable = true) :
    EntryFails key v (.configuration (.unknownOption key))
  | unwritable (h : Field.ofSpelling? key = none) (hkey : key.isWritable = false) :
    EntryFails key v (.fault .wrongValue)
  | flag (h : Field.ofSpelling? key = some .noVerify) (hv : ∀ b, v ≠ .bool b) :
    EntryFails key v (.configuration (.flagNotBoolean key))

variable {entry : Value × Value} {mapping mapping' : Dict} {f : Field} {o : Options}

theorem converted_of_ne {v : Value} (hf : f ≠ .noVerify) (hv : v ≠ .none) :
    converted f v = .text v.shown := by
  cases f with
  | noVerify => exact absurd rfl hf
  | _ =>
    cases v with
    | none => exact absurd rfl hv
    | _ => rfl

/-- Where a text is taken, a value that has one gives it. -/
theorem readEntry_text {key v : Value} (h : Field.ofSpelling? key = some f) (hf : f ≠ .noVerify)
    (hv : v.isWritable = true) : readEntry key v = .ok (f, converted f v) := by
  rw [readEntry.eq_def, h]
  cases f with
  | noVerify => exact absurd rfl hf
  | _ =>
    dsimp only
    split
    next => rfl
    next hnone => rw [if_pos hv, converted_of_ne hf hnone]

theorem readEntry_of_readable (h : Readable entry) (hv : entry.2.isWritable = true) :
    readEntry entry.1 entry.2 = .ok (entryOf entry) := by
  obtain ⟨f, hf, hflag⟩ := h
  rw [entryOf, hf, Option.getD_some]
  by_cases hno : f = .noVerify
  · subst hno
    obtain ⟨b, hb⟩ := hflag rfl
    rw [readEntry.eq_def, hf, hb]
    rfl
  · exact readEntry_text hf hno hv

/-- An entry that is not read fails. -/
theorem readEntry_of_not_readable (h : ¬Readable entry) :
    ∃ e, readEntry entry.1 entry.2 = .error e ∧ EntryFails entry.1 entry.2 e := by
  cases hf : Field.ofSpelling? entry.1 with
  | none =>
    rw [readEntry.eq_def, hf]
    cases hkey : entry.1.isWritable with
    | false =>
      exact ⟨_, congrArg Except.error (Failure.naming_of_not_isWritable hkey _),
        .unwritable hf hkey⟩
    | true =>
      exact ⟨_, congrArg Except.error (Failure.naming_of_isWritable hkey _), .unknown hf hkey⟩
  | some f =>
    have hflag : f = .noVerify ∧ ∀ b, entry.2 ≠ .bool b := by
      refine ⟨by_contra fun hno => h ⟨f, hf, fun hyes => absurd hyes hno⟩, fun b hb => ?_⟩
      exact h ⟨f, hf, fun _ => ⟨b, hb⟩⟩
    obtain ⟨rfl, hv⟩ := hflag
    refine ⟨.configuration (.flagNotBoolean entry.1), ?_, .flag hf hv⟩
    rw [readEntry.eq_def, hf]
    dsimp only
    split
    next b hb => exact absurd hb (hv b)
    next => rfl

/-! ## All entries -/

/-- If all entries are read, they give what each of them gives. -/
theorem mapM_of_readable (h : ∀ entry ∈ mapping, Readable entry)
    (hv : ∀ entry ∈ mapping, entry.2.isWritable = true) :
    (mapping.mapM fun (key, v) => readEntry key v) = .ok (mapping.map entryOf) := by
  induction mapping with
  | nil => rfl
  | cons entry mapping ih =>
    obtain ⟨hentry, hrest⟩ := List.forall_mem_cons.1 h
    obtain ⟨hventry, hvrest⟩ := List.forall_mem_cons.1 hv
    rw [List.mapM_cons, ih hrest hvrest]
    dsimp only
    rw [readEntry_of_readable hentry hventry]
    rfl

/-- Otherwise they fail as the first one does that is not read. -/
theorem mapM_of_not_readable {before after : Dict} (h : ∀ entry ∈ before, Readable entry)
    (hv : ∀ entry ∈ before, entry.2.isWritable = true) {e : Failure}
    (hentry : readEntry entry.1 entry.2 = .error e) :
    ((before ++ entry :: after).mapM fun (key, v) => readEntry key v) = .error e := by
  rw [List.mapM_append, mapM_of_readable h hv, List.mapM_cons]
  dsimp only
  rw [hentry]
  rfl

/-- Either all entries are read, or there is a first one that is not. -/
theorem readable_or_exists_first (mapping : Dict) :
    (∀ entry ∈ mapping, Readable entry) ∨ ∃ before entry after,
      mapping = before ++ entry :: after ∧ (∀ e ∈ before, Readable e) ∧ ¬Readable entry := by
  induction mapping with
  | nil => exact Or.inl fun _ h => absurd h List.not_mem_nil
  | cons entry mapping ih =>
    by_cases hentry : Readable entry
    · rcases ih with hall | ⟨before, e, after, rfl, hbefore, he⟩
      · exact Or.inl (List.forall_mem_cons.2 ⟨hentry, hall⟩)
      · exact Or.inr ⟨entry :: before, e, after, rfl, List.forall_mem_cons.2 ⟨hentry, hbefore⟩, he⟩
    · exact Or.inr ⟨[], entry, mapping, rfl, fun _ h => absurd h List.not_mem_nil, hentry⟩

/-! ## What a field gets -/

/-- What a mapping gives to a field : what the last entry that spells it gives, and the default if
there is none. -/
def given (mapping : Dict) (f : Field) : Value :=
  ((mapping.filter fun entry => Field.ofSpelling? entry.1 = some f).getLast?.map fun entry =>
    converted f entry.2).getD (default.get f)

/-- The last entry that is read for a field is the last one that spells it. -/
theorem chosen_map_entryOf (h : ∀ entry ∈ mapping, Readable entry) (f : Field) :
    chosen (mapping.map entryOf) f = given mapping f := by
  have hspelled : ∀ entry ∈ mapping, ((entryOf entry).1 = f ↔
      Field.ofSpelling? entry.1 = some f) := by
    intro entry hentry
    obtain ⟨g, hg, -⟩ := h entry hentry
    rw [entryOf, hg, Option.getD_some, Option.some_inj]
  have hfilter : (mapping.map entryOf).filter (fun e => e.1 = f) =
      (mapping.filter fun entry => Field.ofSpelling? entry.1 = some f).map entryOf := by
    rw [List.filter_map]
    exact congrArg _ (List.filter_congr fun entry hentry =>
      decide_eq_decide.2 (hspelled entry hentry))
  -- the first one from the end is the last of those that spell the field
  rw [chosen, given, ← List.head?_filter, List.filter_reverse, List.head?_reverse, hfilter,
    List.getLast?_map, Option.map_map]
  cases hlast : (mapping.filter fun entry => Field.ofSpelling? entry.1 = some f).getLast? with
  | none => rfl
  | some entry =>
    have hentry := of_decide_eq_true (List.mem_filter.1 (List.mem_of_getLast? hlast)).2
    simp only [Option.map_some, Option.getD_some, Function.comp_apply, entryOf, hentry]

/-- A field gets what all entries that spell it give, if there are any. -/
theorem given_eq_of_forall {v : Value}
    (h : ∀ entry ∈ mapping, Field.ofSpelling? entry.1 = some f → converted f entry.2 = v)
    (hf : ∃ entry ∈ mapping, Field.ofSpelling? entry.1 = some f) : given mapping f = v := by
  rw [given]
  cases hlast : (mapping.filter fun entry => Field.ofSpelling? entry.1 = some f).getLast? with
  | none =>
    obtain ⟨entry, hentry, hspelled⟩ := hf
    have hnil := List.filter_eq_nil_iff.1 (List.getLast?_eq_none_iff.1 hlast)
    exact absurd (decide_eq_true hspelled) (hnil entry hentry)
  | some entry =>
    obtain ⟨hentry, hspelled⟩ := List.mem_filter.1 (List.mem_of_getLast? hlast)
    exact h entry hentry (of_decide_eq_true hspelled)

/-- The level that a mapping gives is a text, whether it is allowed or not. -/
theorem isWritable_given_level (mapping : Dict) : (given mapping .level).isWritable = true := by
  rw [given]
  cases (mapping.filter fun entry => Field.ofSpelling? entry.1 = some .level).getLast? with
  | none => rfl
  | some entry =>
    rw [Option.map_some, Option.getD_some]
    cases entry.2 <;> rfl

/-- Options are made from fields exactly if they have what is chosen for each. -/
theorem ofFields_eq_ok_iff {fields : List (Field × Value)} :
    ofFields fields = .ok o ↔ ∀ f, o.get f = chosen fields f := by
  refine ⟨fun h f => ?_, fun h => ofFields_eq fun f => (h f).symm⟩
  have hlevel := Config.chosen_level h
  rw [ofFields] at h
  split at h
  · cases h
  · cases f with
    | level => exact hlevel.symm
    | _ =>
      rw [← Except.ok.inj h]
      rfl

/-- Which values the level may have. -/
theorem exists_level?_iff {v : Value} :
    (∃ level, level? v = some level) ↔ ∃ t ∈ [] :: verifyLevels, v = .text t := by
  constructor
  · rintro ⟨level, h⟩
    obtain ⟨t, ht, hshown, -⟩ := Config.level_shown { default with level := level }
    exact ⟨t, ht, (Config.eq_of_level? h).trans hshown⟩
  · rintro ⟨t, ht, rfl⟩
    have hallowed : ∀ t ∈ [] :: verifyLevels, (level? (.text t)).isSome = true := by decide
    exact Option.isSome_iff_exists.1 (hallowed t ht)

/-! ## Mappings -/

/-- How a mapping fails : by its first entry that is not read, or by the level that it gives. -/
inductive Fails (mapping : Dict) : Failure → Prop
  | entry {before after : Dict} {key v : Value} {e : Failure}
    (h : mapping = before ++ (key, v) :: after) (hbefore : ∀ entry ∈ before, Readable entry)
    (hentry : EntryFails key v e) : Fails mapping e
  | level (h : ∀ entry ∈ mapping, Readable entry)
    (hlevel : ∀ t ∈ [] :: verifyLevels, given mapping .level ≠ .text t) :
    Fails mapping (.configuration (.verifyLevel (given mapping .level)))

section Writable

variable (hv : ∀ entry ∈ mapping, entry.2.isWritable = true)
include hv

theorem ofMapping_of_readable (h : ∀ entry ∈ mapping, Readable entry) :
    ofMapping mapping = ofFields (mapping.map entryOf) := by
  rw [ofMapping, mapM_of_readable h hv]
  rfl

theorem ofMapping_of_not_readable {before after : Dict} {key v : Value}
    (h : mapping = before ++ (key, v) :: after) (hbefore : ∀ entry ∈ before, Readable entry)
    {e : Failure} (hentry : readEntry key v = .error e) : ofMapping mapping = .error e := by
  subst h
  have hvbefore : ∀ entry ∈ before, entry.2.isWritable = true := fun entry hentry =>
    hv entry (List.mem_append_left _ hentry)
  rw [ofMapping, mapM_of_not_readable hbefore hvbefore hentry]
  rfl

/-- A mapping gives options exactly if its entries are read and the options have what it gives. -/
theorem ofMapping_eq_ok_iff : ofMapping mapping = .ok o ↔
    (∀ entry ∈ mapping, Readable entry) ∧ ∀ f, o.get f = given mapping f := by
  rcases readable_or_exists_first mapping with hall | ⟨before, entry, after, h, hbefore, hentry⟩
  · rw [ofMapping_of_readable hv hall, ofFields_eq_ok_iff, and_iff_right hall]
    exact forall_congr' fun f => by rw [chosen_map_entryOf hall]
  · obtain ⟨e, he, -⟩ := readEntry_of_not_readable hentry
    rw [ofMapping_of_not_readable hv h hbefore he]
    refine iff_of_false (by simp) fun hread => hentry (hread.1 entry ?_)
    rw [h]
    exact List.mem_append_right _ List.mem_cons_self

theorem exists_ofMapping_iff : (∃ o, ofMapping mapping = .ok o) ↔
    (∀ entry ∈ mapping, Readable entry) ∧
      ∃ t ∈ [] :: verifyLevels, given mapping .level = .text t := by
  rw [← exists_level?_iff]
  constructor
  · rintro ⟨o, h⟩
    obtain ⟨hall, hget⟩ := (ofMapping_eq_ok_iff hv).1 h
    exact ⟨hall, o.level, by rw [← hget .level]; exact level?_levelValue o⟩
  · rintro ⟨hall, level, hlevel⟩
    rw [ofMapping_of_readable hv hall, ofFields, chosen_map_entryOf hall, hlevel]
    exact ⟨_, rfl⟩

/-- How a mapping fails is told by its first entry that is not read, or by its level. -/
theorem ofMapping_eq_error_iff {e : Failure} : ofMapping mapping = .error e ↔ Fails mapping e := by
  constructor
  · intro h
    rcases readable_or_exists_first mapping with
      hall | ⟨before, entry, after, hsplit, hbefore, hentry⟩
    · have hlevel : ∀ t ∈ [] :: verifyLevels, given mapping .level ≠ .text t := by
        intro t ht hgiven
        obtain ⟨o, ho⟩ := (exists_ofMapping_iff hv).2 ⟨hall, t, ht, hgiven⟩
        cases ho.symm.trans h
      rw [ofMapping_of_readable hv hall, ofFields, chosen_map_entryOf hall] at h
      split at h
      · rw [← Except.error.inj h, Failure.naming_of_isWritable (isWritable_given_level mapping)]
        exact .level hall hlevel
      · cases h
    · obtain ⟨e', he, hfails⟩ := readEntry_of_not_readable hentry
      obtain rfl := Except.error.inj (h.symm.trans (ofMapping_of_not_readable hv hsplit hbefore he))
      exact .entry hsplit hbefore hfails
  · rintro (⟨hsplit, hbefore, hfails⟩ | ⟨hall, hlevel⟩)
    · refine ofMapping_of_not_readable hv hsplit hbefore ?_
      cases hfails with
      | unknown h hkey =>
        rw [readEntry.eq_def, h]
        exact congrArg Except.error (Failure.naming_of_isWritable hkey _)
      | unwritable h hkey =>
        rw [readEntry.eq_def, h]
        exact congrArg Except.error (Failure.naming_of_not_isWritable hkey _)
      | flag h hflag =>
        rw [readEntry.eq_def, h]
        dsimp only
        split
        next b => exact absurd rfl (hflag b)
        next => rfl
    · have hnone : level? (given mapping .level) = none := by
        refine Option.eq_none_iff_forall_ne_some.2 fun level h => ?_
        obtain ⟨t, ht, hgiven⟩ := exists_level?_iff.1 ⟨level, h⟩
        exact hlevel t ht hgiven
      rw [ofMapping_of_readable hv hall, ofFields, chosen_map_entryOf hall, hnone]
      exact congrArg Except.error (Failure.naming_of_isWritable (isWritable_given_level mapping) _)

/-- Entries for different fields may change places. -/
theorem ofMapping_perm (h : mapping.Perm mapping')
    (hf : ∀ f, mapping.filter (fun entry => Field.ofSpelling? entry.1 = some f) =
      mapping'.filter fun entry => Field.ofSpelling? entry.1 = some f) :
    ofMapping mapping = .ok o ↔ ofMapping mapping' = .ok o := by
  have hv' : ∀ entry ∈ mapping', entry.2.isWritable = true := fun entry hentry =>
    hv entry (h.mem_iff.2 hentry)
  have hgiven : ∀ f, given mapping f = given mapping' f := fun f => by rw [given, given, hf f]
  rw [ofMapping_eq_ok_iff hv, ofMapping_eq_ok_iff hv']
  refine and_congr ⟨fun hall entry hentry => hall entry (h.mem_iff.2 hentry),
    fun hall entry hentry => hall entry (h.mem_iff.1 hentry)⟩ (forall_congr' fun f => ?_)
  rw [hgiven f]

/-- Every failure is one of configuration, unless the first entry that is not read has a key without
a written form. -/
theorem ofMapping_error_cases {e : Failure} (h : ofMapping mapping = .error e) :
    (∃ p, e = .configuration p) ∨ e = .fault .wrongValue ∧ ∃ before key v after,
      mapping = before ++ (key, v) :: after ∧ (∀ entry ∈ before, Readable entry) ∧
        (∀ f : Field, ¬f.Spells key) ∧ key.isWritable = false := by
  rcases (ofMapping_eq_error_iff hv).1 h with ⟨hsplit, hbefore, hfails⟩ | ⟨hall, hlevel⟩
  · cases hfails with
    | unknown h hkey => exact Or.inl ⟨_, rfl⟩
    | unwritable hnone hkey =>
      refine Or.inr ⟨rfl, _, _, _, _, hsplit, hbefore, fun f hf => ?_, hkey⟩
      cases hnone.symm.trans (Field.ofSpelling?_eq_some_iff.2 hf)
    | flag h hflag => exact Or.inl ⟨_, rfl⟩
  · exact Or.inl ⟨_, rfl⟩

end Writable

/-! ## Options as a mapping -/

theorem IsTextual.converted_get (ho : o.IsTextual) (f : Field) : converted f (o.get f) = o.get f := by
  by_cases hf : f = .noVerify
  · rw [hf]
    rfl
  · obtain ⟨t, ht⟩ := ho.text f hf
    have hnone : Value.text t ≠ .none := by simp
    rw [ht, converted_of_ne hf hnone, Value.shown_text]

theorem IsTextual.isWritable_get (ho : o.IsTextual) (f : Field) : (o.get f).isWritable = true := by
  by_cases hf : f = .noVerify
  · obtain ⟨b, hb⟩ := ho.flag
    rw [hf, show o.get .noVerify = .bool b from hb]
    rfl
  · obtain ⟨t, ht⟩ := ho.text f hf
    rw [ht]
    rfl

/-- Options are read back from the mapping that lists their fields, in any order and in any
spelling. -/
theorem IsTextual.ofMapping_listed (ho : o.IsTextual) (camel : Field → Bool) {fields : List Field}
    (hfields : fields.Perm Field.all) :
    ofMapping (fields.map fun f => (.text (f.spelling camel), o.get f)) = .ok o := by
  have hall : ∀ f, f ∈ fields := fun f => hfields.mem_iff.2 (by cases f <;> decide)
  refine (ofMapping_eq_ok_iff ?_).2 ⟨?_, fun f => (given_eq_of_forall ?_ ?_).symm⟩
  · refine List.forall_mem_map.2 fun f _ => ho.isWritable_get f
  · refine List.forall_mem_map.2 fun f _ => ⟨f, f.ofSpelling?_spelling camel, ?_⟩
    rintro rfl
    exact ho.flag
  · refine List.forall_mem_map.2 fun g _ hg => ?_
    obtain rfl := Option.some.inj ((g.ofSpelling?_spelling camel).symm.trans hg)
    exact ho.converted_get g
  · exact ⟨_, List.mem_map_of_mem (hall f), f.ofSpelling?_spelling camel⟩

/-! ## What mappings give -/

/-- Which mappings give options, if each of their values has a text : those whose keys are spellings
of fields, whose values for the flag are truth values, even where they are overridden, and that give
an allowed level. The others fail by their first entry that is not read, or by the level; such a
failure is one of configuration, unless the key of that entry has no written form. Each field of the
options has what the last entry that spells it gives, and its default if there is none. So entries
for different fields may change places, and options that are texts and a truth value are read back
from the mapping that lists them. -/
theorem mapping_read (hv : ∀ entry ∈ mapping, entry.2.isWritable = true) :
    (∀ key f, Field.ofSpelling? key = some f ↔ key = .text f.name ∨ key = .text f.camelName) ∧
    ((∃ o, ofMapping mapping = .ok o) ↔
      (∀ entry ∈ mapping, ∃ f, Field.ofSpelling? entry.1 = some f ∧
        (f = .noVerify → ∃ b, entry.2 = .bool b)) ∧
      ∃ t ∈ [] :: verifyLevels, given mapping .level = .text t) ∧
    (∀ e, ofMapping mapping = .error e ↔ Fails mapping e) ∧
    (∀ e, ofMapping mapping = .error e → (∃ p, e = .configuration p) ∨
      e = .fault .wrongValue ∧ ∃ before key v after,
        mapping = before ++ (key, v) :: after ∧ (∀ entry ∈ before, Readable entry) ∧
          (∀ f : Field, ¬f.Spells key) ∧ key.isWritable = false) ∧
    (∀ o, ofMapping mapping = .ok o → ∀ f, o.get f = given mapping f) ∧
    (∀ mapping', mapping.Perm mapping' →
      (∀ f, mapping.filter (fun entry => Field.ofSpelling? entry.1 = some f) =
        mapping'.filter fun entry => Field.ofSpelling? entry.1 = some f) →
      ∀ o, ofMapping mapping = .ok o ↔ ofMapping mapping' = .ok o) ∧
    ∀ o : Options, o.IsTextual → ∀ (camel : Field → Bool) (fields : List Field),
      fields.Perm Field.all →
      ofMapping (fields.map fun f => (.text (f.spelling camel), o.get f)) = .ok o :=
  ⟨fun _ _ => Field.ofSpelling?_eq_some_iff, exists_ofMapping_iff hv,
    fun _ => ofMapping_eq_error_iff hv, fun _ => ofMapping_error_cases hv,
    fun _ h => ((ofMapping_eq_ok_iff hv).1 h).2, fun _ h hf _ => ofMapping_perm hv h hf,
    fun _ ho camel _ hfields => ho.ofMapping_listed camel hfields⟩

/-- A level that is not allowed is overridden. -/
theorem mapping_read_overridden :
    let mapping : Dict := [("caVerifyLevel", "9"), ("noVerifyCA", .bool true),
      ("ca_verify_level", "3"), ("proxy_url", .none)]
    (∀ entry ∈ mapping, entry.2.isWritable = true) ∧
    ∃ o, ofMapping mapping = .ok o ∧ o.get .level = "3" ∧ o.get .noVerify = .bool true ∧
      o.get .proxyUrl = "" ∧ o.get .proxyUsername = "" := by
  intro mapping
  have hv : ∀ entry ∈ mapping, entry.2.isWritable = true := by
    simp only [mapping, List.forall_mem_cons]
    exact ⟨rfl, rfl, rfl, rfl, fun _ h => absurd h List.not_mem_nil⟩
  obtain ⟨-, hok, -, -, hget, -⟩ := mapping_read hv
  have hreadable : ∀ entry ∈ mapping, ∃ f, Field.ofSpelling? entry.1 = some f ∧
      (f = .noVerify → ∃ b, entry.2 = .bool b) := by
    simp only [mapping, List.forall_mem_cons]
    exact ⟨⟨.level, rfl, (nomatch ·)⟩, ⟨.noVerify, rfl, fun _ => ⟨true, rfl⟩⟩,
      ⟨.level, rfl, (nomatch ·)⟩, ⟨.proxyUrl, rfl, (nomatch ·)⟩,
      fun _ h => absurd h List.not_mem_nil⟩
  obtain ⟨o, ho⟩ := hok.2 ⟨hreadable, "3", by decide, rfl⟩
  exact ⟨hv, o, ho, hget o ho .level, hget o ho .noVerify, hget o ho .proxyUrl,
    hget o ho .proxyUsername⟩

/-- A key that is a number too long to be written is refused, and not for the configuration. -/
theorem longKey_refused :
    ofMapping [(.longNumber, "x")] = .error (.fault .wrongValue) ∧
    ¬∀ mapping : Dict, (∀ entry ∈ mapping, entry.2.isWritable = true) →
      (∃ o, ofMapping mapping = .ok o) ∨ ∃ p, ofMapping mapping = .error (.configuration p) := by
  have hv : ∀ entry ∈ ([(.longNumber, "x")] : Dict), entry.2.isWritable = true := by
    simp only [List.forall_mem_cons]
    exact ⟨rfl, fun _ h => absurd h List.not_mem_nil⟩
  have hnone : ∀ entry ∈ ([] : Dict), Readable entry := fun _ h => absurd h List.not_mem_nil
  have hrefused : ofMapping [(.longNumber, "x")] = .error (.fault .wrongValue) :=
    (ofMapping_eq_error_iff hv).2
      (.entry (List.nil_append _).symm hnone (.unwritable rfl Value.isWritable_longNumber))
  refine ⟨hrefused, fun h => ?_⟩
  rcases h _ hv with ⟨o, ho⟩ | ⟨p, hp⟩
  · cases ho.symm.trans hrefused
  · cases hp.symm.trans hrefused

end VolumeTunnel.Options
