import VolumeTunnel.Proofs.Cluster.Store
import VolumeTunnel.Proofs.Settings.OptionsMapping

/-!
# Which documents are settings

A document gives settings if it is empty, or a mapping whose keys are all known, whose transport
gives options and whose level of logging has a text (`Settings.Gives`). Where these two are read, a
value that is false counts as none, whatever its type (`Settings.Chooses`).

* `Settings.Refused` : how a document is refused;
* `Settings.load_accepts` : which documents give settings, and what they are;
* `Settings.load_refuses` : how the others are refused, and what is said of unknown keys.

Unknown keys are named if all of them are texts. If one is not, the refusal itself fails
(`Settings.numberedKey_unnamed`).
-/

namespace VolumeTunnel

/-! ## Texts of values -/

theorem DecimalLayout.write_ne_nil (layout : DecimalLayout) (d : Nat) (k : Int) :
    layout.write d k ≠ [] := by
  have hdigits := Text.ofNat_ne_nil d
  rw [write]
  split
  · split
    · simp [hdigits]
    · split <;> simp [hdigits]
  · split
    next h => exact absurd h hdigits
    next => exact List.cons_ne_nil _ _
    next => exact List.cons_ne_nil _ _

theorem Double.text_ne_nil (d : Double) : d.text ≠ [] := by
  cases d with
  | nan => decide
  | infinite negative => cases negative <;> decide
  | finite negative m q =>
    have hbody : (if m = 0 then "0.0"
        else numberLayout.write (shortest m q).1 (shortest m q).2 : Text) ≠ [] := by
      split
      · decide
      · exact numberLayout.write_ne_nil _ _
    cases negative with
    | true => exact List.cons_ne_nil _ _
    | false => exact hbody

namespace Value

theorem quoted_ne_nil (v : Value) : v.quoted ≠ [] := by
  cases v with
  | none => rw [quoted]; decide
  | bool b => cases b <;> rw [quoted] <;> decide
  | int i =>
    obtain ⟨c, t, ht, -⟩ := Text.exists_ofInt_eq_cons i
    simp [quoted, ht]
  | float d => exact d.text_ne_nil
  | tuple xs => rcases xs with _ | ⟨x, _ | ⟨y, xs⟩⟩ <;> simp [quoted]
  | set xs =>
    cases xs with
    | nil => rw [quoted]; decide
    | cons x xs => simp [quoted]
  | date d => simp [quoted, callText]
  | moment m =>
    rw [quoted]
    exact List.append_ne_nil_of_right_ne_nil _ (by decide)
  | elided mapping => cases mapping <;> rw [quoted] <;> decide
  | _ => simp [quoted, Text.quoted, quotedBytes]

/-- A value that is true has a text that is not empty. -/
theorem shown_ne_nil {v : Value} (h : v.truthy = true) : v.shown ≠ [] := by
  cases v with
  | text t =>
    rintro rfl
    exact nomatch h
  | date d => simp [shown, Date.text]
  | moment m => simp [shown, Moment.text, Date.text]
  | _ => exact quoted_ne_nil _

end Value

open Yaml

namespace Settings

variable {path : Text} {document : Dict} {e : Failure}

/-! ## Keys -/

/-- All keys of the document are known. -/
def KeysKnown (document : Dict) : Prop :=
  ∀ entry ∈ document, ∃ t ∈ knownKeys, entry.1 = .text t

/-- The keys of a document that are not known. -/
def unknownKeys (document : Dict) : List Value :=
  (document.map (·.1)).filter fun key => !isKnown key

/-- How the keys of a document are refused : all that are unknown are named in order, if they are
texts. -/
inductive KeysRefused (path : Text) (document : Dict) : Failure → Prop
  | named {keys : List Text} (hne : keys ≠ []) (h : unknownKeys document = keys.map .text) :
    KeysRefused path document (.configuration (.unknownKeys path (keys.mergeSort Text.ble)))
  | unnamed {key : Value} (h : key ∈ unknownKeys document) (ht : ∀ t, key ≠ .text t) :
    KeysRefused path document (.fault .wrongType)

theorem isKnown_iff {key : Value} : isKnown key = true ↔ ∃ t ∈ knownKeys, key = .text t := by
  simp only [isKnown, List.any_eq_true, Value.same_text_iff]

theorem mem_unknownKeys {key : Value} : key ∈ unknownKeys document ↔
    (∃ entry ∈ document, entry.1 = key) ∧ ∀ t ∈ knownKeys, key ≠ .text t := by
  have hunknown : (!isKnown key) = true ↔ ∀ t ∈ knownKeys, key ≠ .text t := by
    rw [Bool.not_eq_true', ← Bool.not_eq_true, isKnown_iff]
    simp only [not_exists, not_and, ne_eq]
  rw [unknownKeys, List.mem_filter, List.mem_map, hunknown]

theorem unknownKeys_eq_nil_iff : unknownKeys document = [] ↔ KeysKnown document := by
  simp only [unknownKeys, List.filter_eq_nil_iff, List.forall_mem_map, Bool.not_eq_true',
    Bool.not_eq_false, isKnown_iff, KeysKnown]

theorem mapM_keyText?_eq_some_iff {keys : List Value} {ts : List Text} :
    keys.mapM keyText? = some ts ↔ keys = ts.map .text := by
  have htext {key : Value} {t : Text} : keyText? key = some t ↔ key = .text t := by
    cases key <;> simp [keyText?]
  induction keys generalizing ts with
  | nil => cases ts <;> simp
  | cons key keys ih =>
    simp only [List.mapM_cons, Option.bind_eq_bind, Option.bind_eq_some_iff, Option.pure_def,
      Option.some.injEq, htext, ih]
    cases ts with
    | nil => simp
    | cons t ts => simp

theorem mapM_keyText?_eq_none_iff {keys : List Value} :
    keys.mapM keyText? = none ↔ ∃ key ∈ keys, ∀ t, key ≠ .text t := by
  induction keys with
  | nil => simp
  | cons key keys ih =>
    have hrest : (key :: keys).mapM keyText? = none ↔
        keyText? key = none ∨ keys.mapM keyText? = none := by
      rw [List.mapM_cons]
      cases keyText? key <;> cases keys.mapM keyText? <;> simp
    rw [hrest, ih]
    cases key <;> simp [keyText?]

/-- Unknown keys are named, which fails if one of them is no text. -/
theorem checkKeys_of_unknown (hne : unknownKeys document ≠ []) : checkKeys path document =
    match (unknownKeys document).mapM keyText? with
    | none => .error (.fault .wrongType)
    | some keys => .error (.configuration (.unknownKeys path (keys.mergeSort Text.ble))) := by
  rw [checkKeys, ← unknownKeys]
  split
  next h => exact absurd h hne
  next => rfl

theorem checkKeys_eq_ok_iff : checkKeys path document = .ok () ↔ KeysKnown document := by
  rw [← unknownKeys_eq_nil_iff]
  constructor
  · intro h
    by_contra hne
    rw [checkKeys_of_unknown hne] at h
    split at h <;> exact nomatch h
  · intro h
    rw [checkKeys, ← unknownKeys, h]

theorem checkKeys_eq_error_iff :
    checkKeys path document = .error e ↔ KeysRefused path document e := by
  constructor
  · intro h
    have hne : unknownKeys document ≠ [] := by
      rintro hnil
      rw [checkKeys_eq_ok_iff.2 (unknownKeys_eq_nil_iff.1 hnil)] at h
      exact nomatch h
    rw [checkKeys_of_unknown hne] at h
    split at h
    next hnone =>
      obtain ⟨key, hkey, ht⟩ := mapM_keyText?_eq_none_iff.1 hnone
      rw [← Except.error.inj h]
      exact .unnamed hkey ht
    next keys hkeys =>
      have hall := mapM_keyText?_eq_some_iff.1 hkeys
      rw [← Except.error.inj h]
      refine .named (fun hnil => hne ?_) hall
      rw [hall, hnil, List.map_nil]
  · rintro (⟨hne, h⟩ | ⟨h, ht⟩)
    · have hunknown : unknownKeys document ≠ [] := by
        rw [h]
        exact hne ∘ List.map_eq_nil_iff.1
      rw [checkKeys_of_unknown hunknown, mapM_keyText?_eq_some_iff.2 h]
    · rw [checkKeys_of_unknown (List.ne_nil_of_mem h), mapM_keyText?_eq_none_iff.2 ⟨_, h, ht⟩]

/-! ## The transport -/

/-- The options that a value chooses : a mapping those that it gives, and anything that is false the
default ones. -/
inductive Chooses : Value → Options → Prop
  | default {v : Value} (h : v.truthy = false) : Chooses v Options.default
  | mapping {mapping : Dict} {o : Options} (h : Options.ofMapping mapping = .ok o) :
    Chooses (.dict mapping) o

/-- How a value is refused that chooses no options. -/
inductive TransportRefused (path : Text) : Value → Failure → Prop
  | notAMapping {v : Value} (htrue : v.truthy = true) (h : ∀ mapping, v ≠ .dict mapping) :
    TransportRefused path v (.configuration (.transportNotAMapping path))
  | options {mapping : Dict} {e : Failure} (h : Options.ofMapping mapping = .error e) :
    TransportRefused path (.dict mapping) e

/-- An empty mapping chooses what no mapping does. -/
theorem ofMapping_nil : Options.ofMapping [] = .ok Options.default :=
  rfl

theorem transportOf_of_false {v : Value} (h : v.truthy = false) :
    transportOf path v = .ok Options.default := by
  rw [transportOf, Value.orElse_of_false h]
  exact ofMapping_nil

theorem transportOf_dict (mapping : Dict) :
    transportOf path (.dict mapping) = Options.ofMapping mapping := by
  cases mapping with
  | nil => exact transportOf_of_false rfl
  | cons entry mapping => rfl

theorem transportOf_of_true {v : Value} (htrue : v.truthy = true)
    (h : ∀ mapping, v ≠ .dict mapping) :
    transportOf path v = .error (.configuration (.transportNotAMapping path)) := by
  rw [transportOf, Value.orElse_of_true htrue]
  split
  next mapping => exact absurd rfl (h mapping)
  next => rfl

/-- A value is false, a mapping, or neither. -/
theorem transportOf_cases (path : Text) (v : Value) :
    (v.truthy = false ∧ transportOf path v = .ok Options.default) ∨
    (∃ mapping, v = .dict mapping ∧ transportOf path v = Options.ofMapping mapping) ∨
    v.truthy = true ∧ (∀ mapping, v ≠ .dict mapping) ∧
      transportOf path v = .error (.configuration (.transportNotAMapping path)) := by
  by_cases hdict : ∃ mapping, v = .dict mapping
  · obtain ⟨mapping, rfl⟩ := hdict
    exact Or.inr (Or.inl ⟨mapping, rfl, transportOf_dict mapping⟩)
  · have h : ∀ mapping, v ≠ .dict mapping := fun mapping hv => hdict ⟨mapping, hv⟩
    cases hv : v.truthy with
    | false => exact Or.inl ⟨rfl, transportOf_of_false hv⟩
    | true => exact Or.inr (Or.inr ⟨rfl, h, transportOf_of_true hv h⟩)

theorem transportOf_eq_ok_iff {v : Value} {o : Options} :
    transportOf path v = .ok o ↔ Chooses v o := by
  constructor
  · intro h
    rcases transportOf_cases path v with ⟨hv, heq⟩ | ⟨mapping, rfl, heq⟩ | ⟨-, -, heq⟩
    · rw [← Except.ok.inj (heq.symm.trans h)]
      exact .default hv
    · exact .mapping (heq.symm.trans h)
    · exact nomatch heq.symm.trans h
  · rintro (hv | h)
    · exact transportOf_of_false hv
    · rw [transportOf_dict, h]

theorem exists_chooses_iff {v : Value} : (∃ o, Chooses v o) ↔
    v.truthy = false ∨ ∃ mapping o, v = .dict mapping ∧ Options.ofMapping mapping = .ok o := by
  constructor
  · rintro ⟨o, hv | h⟩
    · exact Or.inl hv
    · exact Or.inr ⟨_, o, rfl, h⟩
  · rintro (hv | ⟨mapping, o, rfl, h⟩)
    · exact ⟨_, .default hv⟩
    · exact ⟨o, .mapping h⟩

theorem transportOf_eq_error_iff {v : Value} :
    transportOf path v = .error e ↔ TransportRefused path v e := by
  constructor
  · intro h
    rcases transportOf_cases path v with ⟨-, heq⟩ | ⟨mapping, rfl, heq⟩ | ⟨hv, hdict, heq⟩
    · exact nomatch heq.symm.trans h
    · exact .options (heq.symm.trans h)
    · rw [← Except.error.inj (heq.symm.trans h)]
      exact .notAMapping hv hdict
  · rintro (⟨hv, hdict⟩ | h)
    · exact transportOf_of_true hv hdict
    · rw [transportOf_dict, h]

/-! ## The level of logging -/

/-- The level of logging that a value chooses : its text, and for anything that is false the default
one. -/
inductive ChoosesLevel (v : Value) : Text → Prop
  | default (h : v.truthy = false) : ChoosesLevel v defaultLogLevel
  | text (htrue : v.truthy = true) (h : v.isWritable = true) : ChoosesLevel v v.shown

theorem logLevelOf_of_false {v : Value} (h : v.truthy = false) :
    logLevelOf v = .ok defaultLogLevel := by
  rw [logLevelOf, Value.orElse_of_false h]
  rfl

theorem logLevelOf_of_true {v : Value} (h : v.truthy = true) :
    logLevelOf v = if v.isWritable then .ok v.shown else .error (.fault .wrongValue) := by
  rw [logLevelOf, Value.orElse_of_true h]

theorem logLevelOf_eq_ok_iff {v : Value} {t : Text} : logLevelOf v = .ok t ↔ ChoosesLevel v t := by
  constructor
  · intro h
    cases hv : v.truthy with
    | false =>
      rw [← Except.ok.inj ((logLevelOf_of_false hv).symm.trans h)]
      exact .default hv
    | true =>
      rw [logLevelOf_of_true hv] at h
      split at h
      next hwritable =>
        rw [← Except.ok.inj h]
        exact .text hv hwritable
      next => exact nomatch h
  · rintro (hv | ⟨hv, hwritable⟩)
    · exact logLevelOf_of_false hv
    · rw [logLevelOf_of_true hv, if_pos hwritable]

theorem logLevelOf_eq_error_iff {v : Value} : logLevelOf v = .error e ↔
    (v.truthy = true ∧ v.isWritable = false) ∧ e = .fault .wrongValue := by
  cases hv : v.truthy with
  | false => simp [logLevelOf_of_false hv]
  | true =>
    rw [logLevelOf_of_true hv]
    cases v.isWritable <;> simp [eq_comm]

theorem exists_choosesLevel_iff {v : Value} :
    (∃ t, ChoosesLevel v t) ↔ (v.truthy = true → v.isWritable = true) := by
  cases hv : v.truthy with
  | false => exact iff_of_true ⟨_, .default hv⟩ (nomatch ·)
  | true =>
    refine ⟨fun ⟨t, ht⟩ _ => ?_, fun h => ⟨_, .text hv (h rfl)⟩⟩
    cases ht with
    | default h => exact nomatch hv.symm.trans h
    | text _ h => exact h

theorem ChoosesLevel.ne_nil {v : Value} {t : Text} (h : ChoosesLevel v t) : t ≠ [] := by
  cases h with
  | default => decide
  | text htrue => exact Value.shown_ne_nil htrue

/-! ## Mappings -/

/-- The settings that a mapping gives. -/
structure Gives (document : Dict) (s : Settings) : Prop where
  keys : KeysKnown document
  transport : Chooses (Dict.valueD document "transport") s.transport
  image : s.image = Dict.valueD document "image"
  kubeconfig : s.kubeconfig = Dict.valueD document "kubeconfig"
  context : s.context = Dict.valueD document "context"
  logLevel : ChoosesLevel (Dict.valueD document "log_level") s.logLevel

/-- How a document is refused : it is no mapping; or by its keys, then by its transport, and then by
its level of logging, which has no text. -/
inductive Refused (path : Text) : Value → Failure → Prop
  | notAMapping {v : Value} (hnone : v ≠ .none) (h : ∀ document, v ≠ .dict document) :
    Refused path v (.configuration (.notAMapping path v.typeName))
  | keys {document : Dict} {e : Failure} (h : KeysRefused path document e) :
    Refused path (.dict document) e
  | transport {document : Dict} {e : Failure} (hkeys : KeysKnown document)
    (h : TransportRefused path (Dict.valueD document "transport") e) :
    Refused path (.dict document) e
  | logLevel {document : Dict} (hkeys : KeysKnown document)
    (htransport : ∃ o, Chooses (Dict.valueD document "transport") o)
    (htrue : (Dict.valueD document "log_level").truthy = true)
    (h : (Dict.valueD document "log_level").isWritable = false) :
    Refused path (.dict document) (.fault .wrongValue)

theorem exists_gives_iff : (∃ s, Gives document s) ↔
    KeysKnown document ∧ (∃ o, Chooses (Dict.valueD document "transport") o) ∧
      ∃ t, ChoosesLevel (Dict.valueD document "log_level") t := by
  constructor
  · rintro ⟨s, h⟩
    exact ⟨h.keys, ⟨_, h.transport⟩, ⟨_, h.logLevel⟩⟩
  · rintro ⟨hkeys, ⟨o, ho⟩, ⟨t, ht⟩⟩
    exact ⟨⟨o, _, _, _, t⟩, hkeys, ho, rfl, rfl, rfl, ht⟩

theorem ofMapping_eq_ok_iff {s : Settings} :
    ofMapping path document = .ok s ↔ Gives document s := by
  constructor
  · intro h
    obtain ⟨u, hkeys, h⟩ := Failure.bind_eq_ok.1 h
    obtain ⟨transport, htransport, h⟩ := Failure.bind_eq_ok.1 h
    obtain ⟨level, hlevel, h⟩ := Failure.bind_eq_ok.1 h
    rw [← Except.ok.inj h]
    exact ⟨checkKeys_eq_ok_iff.1 hkeys, transportOf_eq_ok_iff.1 htransport, rfl, rfl, rfl,
      logLevelOf_eq_ok_iff.1 hlevel⟩
  · intro h
    rw [ofMapping, checkKeys_eq_ok_iff.2 h.keys, transportOf_eq_ok_iff.2 h.transport,
      logLevelOf_eq_ok_iff.2 h.logLevel, ← h.image, ← h.kubeconfig, ← h.context]
    rfl

theorem ofMapping_eq_error_iff :
    ofMapping path document = .error e ↔ Refused path (.dict document) e := by
  constructor
  · intro h
    rcases Failure.bind_eq_error.1 h with hkeys | ⟨u, hkeys, h⟩
    · exact .keys (checkKeys_eq_error_iff.1 hkeys)
    have hknown := checkKeys_eq_ok_iff.1 hkeys
    rcases Failure.bind_eq_error.1 h with htransport | ⟨o, htransport, h⟩
    · exact .transport hknown (transportOf_eq_error_iff.1 htransport)
    rcases Failure.bind_eq_error.1 h with hlevel | ⟨level, -, h⟩
    · obtain ⟨⟨htrue, hwritable⟩, rfl⟩ := logLevelOf_eq_error_iff.1 hlevel
      exact .logLevel hknown ⟨o, transportOf_eq_ok_iff.1 htransport⟩ htrue hwritable
    · exact nomatch h
  · intro h
    cases h with
    | notAMapping hnone h => exact absurd rfl (h document)
    | keys h => rw [ofMapping, checkKeys_eq_error_iff.2 h]; rfl
    | transport hkeys h =>
      rw [ofMapping, checkKeys_eq_ok_iff.2 hkeys, transportOf_eq_error_iff.2 h]
      rfl
    | logLevel hkeys htransport htrue h =>
      obtain ⟨o, ho⟩ := htransport
      rw [ofMapping, checkKeys_eq_ok_iff.2 hkeys, transportOf_eq_ok_iff.2 ho,
        logLevelOf_eq_error_iff.2 ⟨⟨htrue, h⟩, rfl⟩]
      rfl

/-! ## Documents -/

theorem ofDocument_eq_ok_iff {v : Value} {s : Settings} : ofDocument path v = .ok s ↔
    (v = .none ∧ s = default) ∨ ∃ document, v = .dict document ∧ Gives document s := by
  cases v with
  | none => simp [ofDocument, eq_comm]
  | dict document => simp [ofDocument, ofMapping_eq_ok_iff]
  | _ => simp [ofDocument]

theorem ofDocument_eq_error_iff {v : Value} :
    ofDocument path v = .error e ↔ Refused path v e := by
  by_cases hdict : ∃ document, v = .dict document
  · obtain ⟨document, rfl⟩ := hdict
    exact ofMapping_eq_error_iff
  have h : ∀ document, v ≠ .dict document := fun document hv => hdict ⟨document, hv⟩
  constructor
  · intro hv
    rw [ofDocument.eq_def] at hv
    split at hv
    next => exact nomatch hv
    next document => exact absurd rfl (h document)
    next hnone _ =>
      rw [← Except.error.inj hv]
      exact .notAMapping hnone h
  · rintro (⟨hnone, -⟩ | h' | ⟨-, -⟩ | ⟨-, -⟩)
    · rw [ofDocument.eq_def]
      split
      next => exact absurd rfl hnone
      next document => exact absurd rfl (h document)
      next => rfl
    all_goals exact absurd rfl (h _)

/-- A key that is no text is unknown, and keeps the unknown keys from being named. -/
theorem refused_wrongType_iff :
    Refused path (.dict document) (.fault .wrongType) ↔
      ∃ entry ∈ document, ∀ t, entry.1 ≠ .text t := by
  constructor
  · intro h
    cases h with
    | keys h =>
      cases h with
      | unnamed h ht =>
        obtain ⟨⟨entry, hentry, rfl⟩, -⟩ := mem_unknownKeys.1 h
        exact ⟨entry, hentry, ht⟩
    | transport hkeys h =>
      generalize Dict.valueD document "transport" = v at h
      cases h with
      | options h =>
        -- options are refused for the configuration or for a number, never for a type
        rcases Options.ofMapping_error h with ⟨p, hp⟩ | ⟨hfault, -⟩
        · exact nomatch hp
        · exact nomatch hfault
  · rintro ⟨entry, hentry, ht⟩
    exact .keys (.unnamed (mem_unknownKeys.2 ⟨⟨entry, hentry, rfl⟩, fun t _ => ht t⟩) ht)

/-- A setting holds a number that is too long to be written. -/
def Unwritable (document : Dict) : Prop :=
  (∃ mapping, Dict.valueD document "transport" = .dict mapping ∧
    ∃ entry ∈ mapping, (entry.1.isWritable && entry.2.isWritable) = false) ∨
  (Dict.valueD document "log_level").isWritable = false

/-- A document is refused by a failure of configuration, unless a key of it is no text, or a setting
is too long to be written. -/
theorem Refused.cases {v : Value} (h : Refused path v e) :
    (∃ p, e = .configuration p) ∨ ∃ document, v = .dict document ∧
      (e = .fault .wrongType ∨ e = .fault .wrongValue ∧ Unwritable document) := by
  cases h with
  | notAMapping hnone h => exact Or.inl ⟨_, rfl⟩
  | keys h =>
    cases h with
    | named hne h => exact Or.inl ⟨_, rfl⟩
    | unnamed h ht => exact Or.inr ⟨_, rfl, Or.inl rfl⟩
  | @transport document e hkeys h =>
    generalize hv : Dict.valueD document "transport" = v at h
    cases h with
    | notAMapping htrue h => exact Or.inl ⟨_, rfl⟩
    | options h =>
      rcases Options.ofMapping_error h with hp | ⟨rfl, hlong⟩
      · exact Or.inl hp
      · exact Or.inr ⟨document, rfl, Or.inr ⟨rfl, Or.inl ⟨_, hv, hlong⟩⟩⟩
  | logLevel hkeys htransport htrue h => exact Or.inr ⟨_, rfl, Or.inr ⟨rfl, Or.inr h⟩⟩

/-- If all keys are texts, exactly those are named that are not known. -/
theorem exists_unknownKeys (htexts : ∀ entry ∈ document, ∃ t, entry.1 = .text t)
    (hunknown : ¬KeysKnown document) (path : Text) :
    ∃ keys, ofMapping path document = .error (.configuration (.unknownKeys path keys)) ∧
      ∀ t, t ∈ keys ↔ (∃ entry ∈ document, entry.1 = .text t) ∧ t ∉ knownKeys := by
  cases hchecked : checkKeys path document with
  | ok u => exact absurd (checkKeys_eq_ok_iff.1 hchecked) hunknown
  | error e =>
    have hrefused := checkKeys_eq_error_iff.1 hchecked
    cases hrefused with
    | unnamed h ht =>
      obtain ⟨⟨entry, hentry, rfl⟩, -⟩ := mem_unknownKeys.1 h
      obtain ⟨t, heq⟩ := htexts entry hentry
      exact absurd heq (ht t)
    | @named keys hne h =>
      refine ⟨_, ofMapping_eq_error_iff.2 (.keys (.named hne h)), fun t => ?_⟩
      have hmem : t ∈ keys ↔ .text t ∈ unknownKeys document := by
        rw [h, List.mem_map_of_injective fun _ _ => Value.text.inj]
      rw [List.mem_mergeSort, hmem, mem_unknownKeys]
      refine and_congr_right fun _ => ?_
      simp [List.forall_mem_ne]

theorem exists_ofDocument_iff {v : Value} : (∃ s, ofDocument path v = .ok s) ↔
    v = .none ∨ ∃ document, v = .dict document ∧ ∃ s, Gives document s := by
  simp only [ofDocument_eq_ok_iff]
  constructor
  · rintro ⟨s, ⟨hv, -⟩ | ⟨document, hv, h⟩⟩
    · exact Or.inl hv
    · exact Or.inr ⟨document, hv, s, h⟩
  · rintro (hv | ⟨document, hv, s, h⟩)
    · exact ⟨default, Or.inl ⟨hv, rfl⟩⟩
    · exact ⟨s, Or.inr ⟨document, hv, h⟩⟩

theorem logLevel_ne_nil {v : Value} {s : Settings} (h : ofDocument path v = .ok s) :
    s.logLevel ≠ [] := by
  rcases ofDocument_eq_ok_iff.1 h with ⟨-, rfl⟩ | ⟨document, -, hgives⟩
  · decide
  · exact hgives.logLevel.ne_nil

/-! ## Files -/

variable {bytes : List UInt8} {d : Document}

/-- The settings of a file are those of its document. -/
theorem load_contents (hd : Yaml.load (.ofBytes bytes) = .ok d) (path : Text) :
    load path (.contents bytes) = ofDocument path (valueOf d) := by
  rw [load, ofSource, hd]

/-- The document of a file is that of the outline that is written there. -/
theorem load_of_outline {o : Outline} {t : Text} (ho : o.IsPlain) (ht : o.Writes t) :
    Yaml.load (.ofBytes t.asciiBytes) = .ok o.document := by
  rw [Source.ofBytes_asciiBytes (ht.isLineAscii ho)]
  exact Outline.load_of_writes ho ht

theorem exists_mem_keyed {es : List (Text × Value)} {t : Text} :
    (∃ entry ∈ keyed es, entry.1 = .text t) ↔ t ∈ es.map Prod.fst := by
  simp [keyed]

/-- A mapping with a transport gives the default settings with other options, if nothing else is
chosen. -/
theorem gives_transport {es : List (Text × Value)} {o : Options}
    (hkeys : ∀ key ∈ es.map Prod.fst, key ∈ knownKeys)
    (hothers : ∀ key ∈ (["image", "kubeconfig", "context"] : List Text), key ∉ es.map Prod.fst)
    (htransport : Chooses (Dict.valueD (keyed es) "transport") o)
    (hlevel : (Dict.valueD (keyed es) "log_level").truthy = false) :
    Gives (keyed es) { default with transport := o } where
  keys := List.forall_mem_map.2 fun e he => ⟨e.1, hkeys _ (List.mem_map_of_mem he), rfl⟩
  transport := htransport
  image := (valueD_keyed_of_notMem (hothers _ (by decide))).symm
  kubeconfig := (valueD_keyed_of_notMem (hothers _ (by decide))).symm
  context := (valueD_keyed_of_notMem (hothers _ (by decide))).symm
  logLevel := .default hlevel

/-- Which documents give settings : one without a value, and a mapping whose keys are known, whose
transport is false or a mapping that gives options, and whose level of logging has a text if it is
true. The settings are those that the mapping gives, and the level is never empty. A transport that
is true and no mapping is refused for that. -/
theorem load_accepts (hd : Yaml.load (.ofBytes bytes) = .ok d) (path : Text) :
    ((∃ s, load path (.contents bytes) = .ok s) ↔ valueOf d = .none ∨
      ∃ document, valueOf d = .dict document ∧
        (∀ entry ∈ document, ∃ t ∈ knownKeys, entry.1 = .text t) ∧
        ((Dict.valueD document "transport").truthy = false ∨
          ∃ mapping o, Dict.valueD document "transport" = .dict mapping ∧
            Options.ofMapping mapping = .ok o) ∧
        ((Dict.valueD document "log_level").truthy = true →
          (Dict.valueD document "log_level").isWritable = true)) ∧
    (∀ s, load path (.contents bytes) = .ok s ↔ valueOf d = .none ∧ s = default ∨
      ∃ document, valueOf d = .dict document ∧ Gives document s) ∧
    (∀ s, load path (.contents bytes) = .ok s → s.logLevel ≠ []) ∧
    ∀ document, valueOf d = .dict document →
      (∀ entry ∈ document, ∃ t ∈ knownKeys, entry.1 = .text t) →
      (Dict.valueD document "transport").truthy = true →
      (∀ mapping, Dict.valueD document "transport" ≠ .dict mapping) →
      load path (.contents bytes) = .error (.configuration (.transportNotAMapping path)) := by
  rw [load_contents hd]
  refine ⟨?_, fun s => ofDocument_eq_ok_iff, fun s => logLevel_ne_nil, ?_⟩
  · simp only [exists_ofDocument_iff, exists_gives_iff, exists_chooses_iff, exists_choosesLevel_iff,
      KeysKnown]
  · intro document hv hkeys htrue hmapping
    rw [hv]
    exact ofDocument_eq_error_iff.2 (.transport hkeys (.notAMapping htrue hmapping))

/-- A proxy, with a truth value as the level of logging. -/
def untrueLevel : Outline where
  before := [("log_level", .flag false)]
  key := "transport"
  inner := [("proxyURL", .text "h:1")]
  after := []

/-- A file for them, by its lines. -/
def untrueLevelFile : Text :=
  Text.join "\n" ["log_level: false", "transport:", "  proxyURL: \"h:1\"", ""]

theorem isPlain_untrueLevel : untrueLevel.IsPlain :=
  ⟨by decide, by decide, by decide, by decide, by decide⟩

theorem writes_untrueLevelFile : untrueLevel.Writes untrueLevelFile :=
  ⟨2, _, _, _, by decide, .cons (.flag false) .nil,
    .cons (.text (Quoted.writes_self (by decide))) .nil, .nil, rfl⟩

/-- The level is the default one. -/
theorem load_accepts_untrueLevel :
    ∃ d s, Yaml.load (.ofBytes untrueLevelFile.asciiBytes) = .ok d ∧
      load "transfer.yaml" (.contents untrueLevelFile.asciiBytes) = .ok s ∧
      s.transport.proxyUrl = "h:1" ∧ s.image = .none ∧ s.logLevel = defaultLogLevel := by
  have hd := load_of_outline isPlain_untrueLevel writes_untrueLevelFile
  obtain ⟨-, hload, -, -⟩ := load_accepts hd "transfer.yaml"
  have hkeys : (untrueLevel.rows.map Prod.fst).Nodup := by decide
  have htransport : Dict.valueD (keyed untrueLevel.rows) "transport" =
      .dict [("proxyURL", "h:1")] :=
    valueD_keyed_of_mem hkeys (List.mem_cons_of_mem _ List.mem_cons_self)
  have hlevel : Dict.valueD (keyed untrueLevel.rows) "log_level" = .bool false :=
    valueD_keyed_of_mem hkeys List.mem_cons_self
  have hgives : Gives (keyed untrueLevel.rows)
      { default with transport := { Options.default with proxyUrl := "h:1" } } := by
    refine gives_transport (by decide) (by decide) ?_ ?_
    · rw [htransport]
      exact .mapping rfl
    · rw [hlevel]
      rfl
  exact ⟨_, _, hd, (hload _).2 (Or.inr ⟨_, valueOf_document untrueLevel, hgives⟩), rfl, rfl, rfl⟩

/-- A transport that is an empty list gives the default settings, although it is no mapping. -/
theorem emptyTransport_accepted :
    (∀ path, ofDocument path (.dict [("transport", .list [])]) = .ok default) ∧
    ¬∀ path v s, ofDocument path v = .ok s → v = .none ∨ ∃ document, v = .dict document ∧
      (Dict.valueD document "transport" = .none ∨
        ∃ mapping, Dict.valueD document "transport" = .dict mapping) := by
  have htransport : Dict.valueD (keyed [("transport", .list [])]) "transport" = .list [] :=
    valueD_keyed_of_mem (by decide) List.mem_cons_self
  have hgives : Gives (keyed [("transport", .list [])]) default := by
    refine gives_transport (by decide) (by decide) ?_ ?_
    · rw [htransport]
      exact .default rfl
    · rw [valueD_keyed_of_notMem (by decide)]
      rfl
  have haccepted (path : Text) : ofDocument path (.dict [("transport", .list [])]) = .ok default :=
    ofDocument_eq_ok_iff.2 (Or.inr ⟨_, rfl, hgives⟩)
  refine ⟨haccepted, fun h => ?_⟩
  rcases h [] _ _ (haccepted []) with hv | ⟨document, hv, hvalue⟩
  · exact nomatch hv
  · obtain rfl := Value.dict.inj hv
    rcases hvalue with hvalue | ⟨mapping, hvalue⟩ <;> exact nomatch htransport.symm.trans hvalue

/-- How the other documents are refused. The failure is one of configuration, unless a key is no
text, or a setting holds a number that is too long to be written. If all keys are texts, and some
are not known, it names exactly these. -/
theorem load_refuses (hd : Yaml.load (.ofBytes bytes) = .ok d) (path : Text) :
    (∀ e, load path (.contents bytes) = .error e ↔ Refused path (valueOf d) e) ∧
    (∀ e, load path (.contents bytes) = .error e → (∃ p, e = .configuration p) ∨
      ∃ document, valueOf d = .dict document ∧
        (e = .fault .wrongType ∨ e = .fault .wrongValue ∧ Unwritable document)) ∧
    ∀ document, valueOf d = .dict document →
      (load path (.contents bytes) = .error (.fault .wrongType) ↔
        ∃ entry ∈ document, ∀ t, entry.1 ≠ .text t) ∧
      ((∀ entry ∈ document, ∃ t, entry.1 = .text t) →
        (∃ entry ∈ document, ∀ t ∈ knownKeys, entry.1 ≠ .text t) →
        ∃ keys, load path (.contents bytes) = .error (.configuration (.unknownKeys path keys)) ∧
          ∀ t, t ∈ keys ↔ (∃ entry ∈ document, entry.1 = .text t) ∧ t ∉ knownKeys) := by
  rw [load_contents hd]
  refine ⟨fun e => ofDocument_eq_error_iff, fun e he => (ofDocument_eq_error_iff.1 he).cases, ?_⟩
  rintro document hv
  rw [hv]
  refine ⟨ofDocument_eq_error_iff.trans refused_wrongType_iff, ?_⟩
  rintro htexts ⟨entry, hentry, hunknown⟩
  refine exists_unknownKeys htexts (fun hkeys => ?_) path
  obtain ⟨t, ht, heq⟩ := hkeys entry hentry
  exact hunknown t ht heq

/-- An image under a misspelled key. -/
def misspelled : Outline where
  before := [("imgae", .text "x")]
  key := "transport"
  inner := [("noVerifyCA", .flag true)]
  after := []

/-- A file for it, by its lines. -/
def misspelledFile : Text :=
  Text.join "\n" ["imgae: \"x\"", "transport:", "  noVerifyCA: true", ""]

theorem isPlain_misspelled : misspelled.IsPlain :=
  ⟨by decide, by decide, by decide, by decide, by decide⟩

theorem writes_misspelledFile : misspelled.Writes misspelledFile :=
  ⟨2, _, _, _, by decide, .cons (.text (Quoted.writes_self (by decide))) .nil,
    .cons (.flag true) .nil, .nil, rfl⟩

/-- That key is named, and no other. -/
theorem load_refuses_misspelled :
    ∃ d keys, Yaml.load (.ofBytes misspelledFile.asciiBytes) = .ok d ∧
      load "transfer.yaml" (.contents misspelledFile.asciiBytes) =
        .error (.configuration (.unknownKeys "transfer.yaml" keys)) ∧
      ∀ t, t ∈ keys ↔ t = "imgae" := by
  have hd := load_of_outline isPlain_misspelled writes_misspelledFile
  obtain ⟨-, -, hrefused⟩ := load_refuses hd "transfer.yaml"
  obtain ⟨-, hnamed⟩ := hrefused _ (valueOf_document misspelled)
  have htexts : ∀ entry ∈ keyed misspelled.rows, ∃ t, entry.1 = .text t :=
    List.forall_mem_map.2 fun e _ => ⟨e.1, rfl⟩
  have himage : (Value.text "imgae", Value.text "x") ∈ keyed misspelled.rows := List.mem_cons_self
  have hunknown : ∀ t ∈ knownKeys, Value.text "imgae" ≠ .text t := by
    simp only [ne_eq, Value.text.injEq]
    decide
  obtain ⟨keys, hload, hkeys⟩ := hnamed htexts ⟨_, himage, hunknown⟩
  refine ⟨_, keys, hd, hload, fun t => (hkeys t).trans ?_⟩
  rw [exists_mem_keyed]
  constructor
  · rintro ⟨ht, hunknown⟩
    rcases List.mem_cons.1 ht with rfl | ht
    · rfl
    · cases List.mem_singleton.1 ht
      exact absurd (by decide) hunknown
  · rintro rfl
    exact ⟨List.mem_cons_self, by decide⟩

/-- A key that is a number makes the refusal fail, and not for the configuration. -/
theorem numberedKey_unnamed :
    (∀ path, ofDocument path (.dict [(.int 1, "x")]) = .error (.fault .wrongType)) ∧
    ¬∀ path v, (∃ s, ofDocument path v = .ok s) ∨
      ∃ p, ofDocument path v = .error (.configuration p) := by
  have hrefused (path : Text) :
      ofDocument path (.dict [(.int 1, "x")]) = .error (.fault .wrongType) :=
    ofDocument_eq_error_iff.2 (refused_wrongType_iff.2
      ⟨_, List.mem_cons_self, fun _ => (nomatch ·)⟩)
  refine ⟨hrefused, fun h => ?_⟩
  rcases h [] (.dict [(.int 1, "x")]) with ⟨s, hs⟩ | ⟨p, hp⟩
  · exact nomatch (hrefused []).symm.trans hs
  · exact nomatch (hrefused []).symm.trans hp

end Settings

end VolumeTunnel
