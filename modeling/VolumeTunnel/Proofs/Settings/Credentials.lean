import VolumeTunnel.Proofs.Settings.Acceptance
import VolumeTunnel.Proofs.Tunnel.ConfigSettings
import VolumeTunnel.Proofs.Yaml.Integers
import VolumeTunnel.Proofs.Yaml.Naming

/-!
# Credentials written as integers

A proxy setting may be written in a file as a plain integer. It is then read as if the decimal
numeral of the integer stood there as a text. So the setting is what was written only if that is the
numeral, and a file in which the numeral would be too long is refused.

* `Options.exists_ofMapping_replace`, `Options.ofMapping_unwritable` : what becomes of a mapping of
  options when the value of an entry is replaced;
* `Settings.Gives.replace`, `Settings.Gives.refused` : the same for a document;
* `Settings.rows_of_has` : what options are read from, by what the document has;
* `Settings.load_integer` : the settings of a file with such an integer.

An integer in base eight is not loaded as it was written (`Settings.octal_not_kept`).
-/

namespace VolumeTunnel

/-! ## Options -/

namespace Options

/-- The proxy setting that is written under a key at the client end. -/
inductive Field.SetBy : Field → Text → Prop
  | url : SetBy .proxyUrl "connect"
  | username : SetBy .proxyUsername "protocolUsername"
  | password : SetBy .proxyPassword "protocolPassword"

variable {f : Field} {key v v' : Value} {line : Text} {mapping before after : Dict} {o : Options}

theorem Field.SetBy.ne (h : f.SetBy line) : f ≠ .level ∧ f ≠ .noVerify := by
  cases h <;> decide

/-- Where there is a proxy, its settings that are true are written under their keys. -/
theorem Field.SetBy.values_client {acceptPort hostname port : Value} {c : Config} (h : f.SetBy line)
    (hc : Config.client acceptPort hostname port o = .ok c) (hproxy : o.proxyUrl.truthy = true)
    (hf : (o.get f).truthy = true) : Config.values line c = [(o.get f).shown] := by
  obtain ⟨-, hurl, -, husername, hpassword⟩ :=
    @Config.values_connectLines_proxy hostname port o hproxy
  cases h with
  | url => exact (Config.values_connectKey hc _ (by decide)).trans hurl
  | username =>
    exact (Config.values_connectKey hc _ (by decide)).trans (husername.trans (if_pos hf))
  | password =>
    exact (Config.values_connectKey hc _ (by decide)).trans (hpassword.trans (if_pos hf))

/-! ### Entries that are read -/

theorem isWritable_of_readEntry {x : Field × Value} (h : readEntry key v = .ok x) :
    v.isWritable = true := by
  rw [readEntry.eq_def] at h
  split at h
  next => cases h
  next =>
    split at h
    next => rfl
    next => cases h
  next =>
    split at h
    next => rfl
    next =>
      split at h
      next hv => exact hv
      next => cases h

/-- The values of options have texts. -/
theorem isWritable_of_ofMapping (h : ofMapping mapping = .ok o) :
    ∀ entry ∈ mapping, entry.2.isWritable = true := by
  obtain ⟨fields, hfields, -⟩ := Failure.bind_eq_ok.1 h
  clear h
  induction mapping generalizing fields with
  | nil => exact fun _ h => absurd h List.not_mem_nil
  | cons entry mapping ih =>
    rw [List.mapM_cons] at hfields
    obtain ⟨x, hx, hfields⟩ := Failure.bind_eq_ok.1 hfields
    obtain ⟨rest, hrest, -⟩ := Failure.bind_eq_ok.1 hfields
    exact List.forall_mem_cons.2 ⟨isWritable_of_readEntry hx, ih rest hrest⟩

/-- What is given to other fields does not depend on an entry. -/
theorem given_of_ne {g : Field} (hkey : Field.ofSpelling? key = some f) (hne : f ≠ g) :
    given (before ++ (key, v) :: after) g = given (before ++ after) g := by
  have hskip : ((key, v) :: after).filter (fun entry => Field.ofSpelling? entry.1 = some g) =
      after.filter fun entry => Field.ofSpelling? entry.1 = some g := by
    refine List.filter_cons_of_neg ?_
    rw [hkey, decide_eq_true_iff, Option.some_inj]
    exact hne
  rw [given, given, List.filter_append, List.filter_append, hskip]

/-- A field gets what the last entry that spells it gives. -/
theorem given_of_last (hkey : Field.ofSpelling? key = some f)
    (hafter : ∀ entry ∈ after, ¬f.Spells entry.1) :
    given (before ++ (key, v) :: after) f = converted f v := by
  have hnone : after.filter (fun entry => Field.ofSpelling? entry.1 = some f) = [] :=
    List.filter_eq_nil_iff.2 fun entry hentry hspelled =>
      hafter entry hentry (Field.ofSpelling?_eq_some_iff.1 (of_decide_eq_true hspelled))
  have hlast : ((key, v) :: after).filter (fun entry => Field.ofSpelling? entry.1 = some f) =
      [(key, v)] := by
    refine (List.filter_cons_of_pos ?_).trans (congrArg _ hnone)
    exact decide_eq_true hkey
  rw [given, List.filter_append, hlast, List.getLast?_concat]
  rfl

/-- The value of an entry for a proxy setting may be replaced by any other one that has a text. -/
theorem exists_ofMapping_replace (hkey : Field.ofSpelling? key = some f) (hlevel : f ≠ .level)
    (hflag : f ≠ .noVerify) (h : ofMapping (before ++ (key, v) :: after) = .ok o)
    (hv' : v'.isWritable = true) : ∃ o', ofMapping (before ++ (key, v') :: after) = .ok o' := by
  have hwritable := isWritable_of_ofMapping h
  have hread := (exists_ofMapping_iff hwritable).1 ⟨o, h⟩
  simp only [List.forall_mem_append, List.forall_mem_cons] at hwritable
  obtain ⟨hbefore, -, hafter⟩ := hwritable
  have hwritable' : ∀ entry ∈ before ++ (key, v') :: after, entry.2.isWritable = true :=
    List.forall_mem_append.2 ⟨hbefore, List.forall_mem_cons.2 ⟨hv', hafter⟩⟩
  rw [given_of_ne hkey hlevel] at hread
  rw [exists_ofMapping_iff hwritable', given_of_ne hkey hlevel]
  refine ⟨?_, hread.2⟩
  obtain ⟨hreadBefore, hreadAfter⟩ := List.forall_mem_append.1 hread.1
  exact List.forall_mem_append.2 ⟨hreadBefore,
    List.forall_mem_cons.2 ⟨⟨f, hkey, fun hf => absurd hf hflag⟩,
      (List.forall_mem_cons.1 hreadAfter).2⟩⟩

/-- A value without a text is refused there. -/
theorem ofMapping_unwritable (hkey : Field.ofSpelling? key = some f) (hflag : f ≠ .noVerify)
    (h : ofMapping (before ++ (key, v) :: after) = .ok o) (hv' : v'.isWritable = false) :
    ofMapping (before ++ (key, v') :: after) = .error (.fault .wrongValue) := by
  have hwritable := isWritable_of_ofMapping h
  have hread := ((ofMapping_eq_ok_iff hwritable).1 h).1
  have hentry : readEntry key v' = .error (.fault .wrongValue) := by
    rw [readEntry.eq_def, hkey]
    cases f with
    | noVerify => exact absurd rfl hflag
    | _ =>
      dsimp only
      split
      next => cases hv'
      next => rw [hv']; rfl
  rw [ofMapping, mapM_of_not_readable (List.forall_mem_append.1 hread).1
    (List.forall_mem_append.1 hwritable).1 hentry]
  rfl

end Options

/-! ## Settings -/

namespace Settings

open Yaml

variable {path : Text} {document : Dict} {v w : Value} {s : Settings}

/-! ### Another transport -/

theorem exists_mem_put {entry : Value × Value} (key v : Value) (h : entry ∈ document) :
    ∃ w, (entry.1, w) ∈ Dict.put document key v := by
  induction document with
  | nil => exact absurd h List.not_mem_nil
  | cons e document ih =>
    obtain ⟨k, u⟩ := e
    rw [Dict.put]
    rcases List.mem_cons.1 h with rfl | h
    · split
      · exact ⟨v, List.mem_cons_self⟩
      · exact ⟨u, List.mem_cons_self⟩
    · split
      · exact ⟨entry.2, List.mem_cons_of_mem _ h⟩
      · obtain ⟨w, hw⟩ := ih h
        exact ⟨w, List.mem_cons_of_mem _ hw⟩

theorem valueD_put (document : Dict) (key t : Text) (v : Value) :
    Dict.valueD (Dict.put document (.text key) v) (.text t) =
      if key = t then v else Dict.valueD document (.text t) := by
  rw [Dict.valueD, Dict.value?_put_text]
  split <;> rfl

theorem KeysKnown.of_put {key : Value} (h : KeysKnown (Dict.put document key v)) :
    KeysKnown document := by
  intro entry hentry
  obtain ⟨w, hw⟩ := exists_mem_put key v hentry
  exact h (entry.1, w) hw

/-- A document that gives settings with another transport gives the same ones but for the options of
its own. -/
theorem Gives.of_put {o : Options} (h : Gives (Dict.put document "transport" v) s)
    (ho : Chooses (Dict.valueD document "transport") o) :
    Gives document { s with transport := o } where
  keys := h.keys.of_put
  transport := ho
  image := h.image.trans (valueD_put document "transport" "image" v)
  kubeconfig := h.kubeconfig.trans (valueD_put document "transport" "kubeconfig" v)
  context := h.context.trans (valueD_put document "transport" "context" v)
  logLevel := by
    have hlevel := h.logLevel
    rwa [valueD_put document "transport" "log_level" v] at hlevel

section Entry

variable {before after : Dict} {key v v' : Value} {f : Options.Field}

theorem Gives.ofMapping_put {entry : Value × Value}
    (h : Gives (Dict.put document "transport" (.dict (before ++ entry :: after))) s) :
    Options.ofMapping (before ++ entry :: after) = .ok s.transport := by
  have htransport := h.transport
  rw [valueD_put document "transport" "transport", if_pos rfl] at htransport
  generalize s.transport = o at htransport ⊢
  cases htransport with
  | default hfalse => exact absurd hfalse (by simp [Value.truthy])
  | mapping ho => exact ho

variable (h : Gives (Dict.put document "transport" (.dict (before ++ (key, v) :: after))) s)
  (hkey : Options.Field.ofSpelling? key = some f) (hflag : f ≠ .noVerify)
  (htransport : Dict.valueD document "transport" = .dict (before ++ (key, v') :: after))

include h hkey hflag htransport

/-- If a document gives settings with some value for a proxy setting, it gives settings with any
other one that has a text, which is what the setting gets if no later entry overrides it. -/
theorem Gives.replace (hlevel : f ≠ .level) (hv' : v'.isWritable = true) : ∃ s', Gives document s' ∧
    ((∀ entry ∈ after, ¬f.Spells entry.1) →
      s'.transport.get f = Options.converted f v') := by
  obtain ⟨o, ho⟩ := Options.exists_ofMapping_replace hkey hlevel hflag h.ofMapping_put hv'
  refine ⟨{ s with transport := o }, h.of_put (htransport ▸ .mapping ho), fun hafter => ?_⟩
  have hget := ((Options.ofMapping_eq_ok_iff (Options.isWritable_of_ofMapping ho)).1 ho).2 f
  exact hget.trans (Options.given_of_last hkey hafter)

/-- With a value without a text it is refused. -/
theorem Gives.refused (hv' : v'.isWritable = false) :
    Refused path (.dict document) (.fault .wrongValue) := by
  have hoptions := Options.ofMapping_unwritable hkey hflag h.ofMapping_put hv'
  exact .transport h.keys.of_put (htransport ▸ .options hoptions)

end Entry

/-! ### What settings are read from -/

variable {d : Document} {i j : Item} {t : Text}

theorem entries?_of_has (h : d.Has i t j) : ∃ es, d.entries? i = some es ∧
    es.find? (fun e => e.1.same (.text t)) = some (.text t, j) := by
  obtain ⟨k, c, rfl, hc, es, rfl, hfind⟩ := h
  exact ⟨es, by rw [Document.entries?, hc], hfind⟩

/-- A mapping that has a value is opened with an entry for it, the first one under its text. -/
theorem opened_of_has (h : d.Has i t (.leaf v)) : ∃ before after,
    d.opened i = .dict (before ++ (.text t, v) :: after) ∧ ∀ entry ∈ before, entry.1 ≠ .text t := by
  obtain ⟨es, hes, hfind⟩ := entries?_of_has h
  obtain ⟨-, front, back, rfl, hfront⟩ := List.find?_eq_some_iff_append.1 hfind
  refine ⟨front.map fun e => (e.1, d.value e.2), back.map fun e => (e.1, d.value e.2), ?_,
    List.forall_mem_map.2 fun e he hkey => ?_⟩
  · rw [Document.opened, hes]
    dsimp only
    rw [List.map_append, List.map_cons, Document.value_leaf]
  · have hother := hfront e he
    rw [show e.1 = .text t from hkey, Value.same_text, beq_self_eq_true] at hother
    exact nomatch hother

/-- The settings are read from a mapping, and their options from what it has under its key. -/
theorem valueOf_of_has (h : d.Has d.root "transport" i) : ∃ document, valueOf d = .dict document ∧
    Dict.valueD document "transport" = d.opened i := by
  obtain ⟨es, hes, hfind⟩ := entries?_of_has h
  refine ⟨es.map fun e => (e.1, seen d e.1 e.2), by rw [valueOf, hes]; rfl, ?_⟩
  have hmapped : (es.map fun e => (e.1, seen d e.1 e.2)).find?
      (fun e => e.1.same (.text "transport")) = some (.text "transport", d.opened i) := by
    rw [List.find?_map]
    refine (congrArg _ hfind).trans ?_
    have hopened : seen d (.text "transport") i = d.opened i :=
      if_pos ((Value.same_text _ _).trans (beq_self_eq_true _))
    rw [Option.map_some, hopened]
  rw [Dict.valueD, Dict.value?, hmapped]
  rfl

/-- The options are read from a mapping with an entry for each value that the document has there. -/
theorem rows_of_has (hi : d.Has d.root "transport" i) (h : d.Has i t (.leaf v)) :
    ∃ document before after, valueOf d = .dict document ∧
      Dict.valueD document "transport" = .dict (before ++ (.text t, v) :: after) ∧
      ∀ entry ∈ before, entry.1 ≠ .text t := by
  obtain ⟨document, hdocument, htransport⟩ := valueOf_of_has hi
  obtain ⟨before, after, hopened, hbefore⟩ := opened_of_has h
  exact ⟨document, before, after, hdocument, htransport.trans hopened, hbefore⟩

theorem exists_integer_of_value (h : Scalar.value .int t = .ok v) :
    ∃ n, Number.integer t = .ok n ∧ v = .int n := by
  rw [Scalar.value] at h
  cases hn : Number.integer t with
  | error e =>
    rw [hn] at h
    cases h
  | ok n =>
    rw [hn] at h
    exact ⟨n, rfl, (Except.ok.inj h).symm⟩

/-! ### Files -/

/-- How a proxy setting is loaded that is written as a plain integer, under either of its keys. If
the file would be accepted with some text in this place, it is accepted; the setting is the decimal
numeral of the integer, unless a later entry overrides it, and a client end with a proxy is given
this numeral. But if the numeral would be too long, the file is refused. The numeral is what was
written exactly if that is in canonical form. -/
theorem load_integer {bytes : List UInt8} {g : Graph} {root m n : Nat} {d : Document}
    {f : Options.Field} {line key s : Text}
    (htokens : Graph.ofTokens (Token.ofSource (.ofBytes bytes)) = .ok (some (g, root)))
    (hroot : g.Gives root "transport" m) (hm : g.Gives m key n)
    (hn : g.node n = .scalar (Tag.ofPlain s) s) (hint : Tag.ofPlain s = .int)
    (hf : f.SetBy line) (hkey : f.Spells (.text key)) (hd : Yaml.load (.ofBytes bytes) = .ok d) :
    ∃ i document before after, Number.integer s = .ok i ∧ valueOf d = .dict document ∧
      Dict.valueD document "transport" = .dict (before ++ (.text key, .int i) :: after) ∧
      (∀ entry ∈ before, entry.1 ≠ .text key) ∧ (Text.ofInt i = s ↔ s.IsCanonical) ∧
      ∀ path, (∃ t s', ofDocument path (.dict (Dict.put document "transport"
          (.dict (before ++ (.text key, .text t) :: after)))) = .ok s') →
        (Text.hasDecimalNumeral i.natAbs = true → ∃ s', load path (.contents bytes) = .ok s' ∧
          ((∀ entry ∈ after, ¬f.Spells entry.1) → s'.transport.get f = .text (Text.ofInt i) ∧
            ∀ acceptPort hostname port c,
              Config.client acceptPort hostname port s'.transport = .ok c →
              s'.transport.proxyUrl.truthy = true → Config.values line c = [Text.ofInt i])) ∧
        (Text.hasDecimalNumeral i.natAbs = false →
          load path (.contents bytes) = .error (.fault .wrongValue)) := by
  have hgraph : Document.ofGraph g root = .ok d := by
    rw [Yaml.load, htokens] at hd
    exact hd
  have hspelled := Options.Field.ofSpelling?_eq_some_iff.2 hkey
  obtain ⟨hlevel, hflag⟩ := hf.ne
  rw [hint] at hn
  obtain ⟨item, x, hitem, hx, hvalue⟩ :=
    Document.has_of_scalar hgraph hroot hm hn rfl Tag.noConfusion
  obtain ⟨i, hi, rfl⟩ := exists_integer_of_value hvalue
  obtain ⟨document, before, after, hdocument, htransport, hbefore⟩ := rows_of_has hitem hx
  refine ⟨i, document, before, after, hi, hdocument, htransport, hbefore,
    Number.ofInt_eq_iff hi, ?_⟩
  rintro path ⟨t, s₀, hs₀⟩
  obtain ⟨hnone, -⟩ | ⟨_, hput, hgives⟩ := ofDocument_eq_ok_iff.1 hs₀
  · cases hnone
  obtain rfl := Value.dict.inj hput
  rw [load_contents hd, hdocument]
  refine ⟨fun hwritable => ?_, fun hwritable => ?_⟩
  · obtain ⟨s', hs', hget⟩ := hgives.replace hspelled hflag htransport hlevel hwritable
    refine ⟨s', ofDocument_eq_ok_iff.2 (Or.inr ⟨document, rfl, hs'⟩), fun hafter => ?_⟩
    have hnumeral : s'.transport.get f = .text (Text.ofInt i) :=
      (hget hafter).trans (Options.converted_of_ne hflag Value.noConfusion)
    refine ⟨hnumeral, fun acceptPort hostname port c hc hproxy => ?_⟩
    have htrue : (s'.transport.get f).truthy = true := by
      obtain ⟨c, t, ht, -⟩ := Text.exists_ofInt_eq_cons i
      rw [hnumeral, ht]
      rfl
    rw [hf.values_client hc hproxy htrue, hnumeral]
    rfl
  · exact ofDocument_eq_error_iff.2 (hgives.refused hspelled hflag htransport hwritable)

/-- A file with a password that is an integer in base eight. -/
def octalFile : Text :=
  Text.join "\n" ["transport:", "  proxyPassword: 017", ""]

/-- The nodes of that file. -/
def octalGraph : Graph :=
  ⟨#[⟨.map, .mapping [(1, 2)]⟩, ⟨.str, .scalar "transport"⟩, ⟨.map, .mapping [(3, 4)]⟩,
    ⟨.str, .scalar "proxyPassword"⟩, ⟨.int, .scalar "017"⟩]⟩

/-- The document of that file. -/
def octalDocument : Document :=
  ⟨.collection 0, #[.dict [("transport", .collection 1)],
    .dict [("proxyPassword", .leaf (.int 15))]]⟩

/-- The entries of that file, with some password. -/
def octalRows (v : Value) : List (Text × Value) :=
  [("transport", .dict [("proxyPassword", v)])]

theorem ofTokens_octalFile : Graph.ofTokens (Token.ofSource (.ofBytes octalFile.asciiBytes)) =
    .ok (some (octalGraph, 0)) := by
  have htokens : Token.ofSource ⟨octalFile, none⟩ =
      [.blockMappingStart, .key, .scalar "transport" true, .value, .blockMappingStart, .key,
        .scalar "proxyPassword" true, .value, .scalar "017" true, .blockEnd, .blockEnd,
        .streamEnd] := rfl
  rw [Source.ofBytes_asciiBytes (by decide), htokens]
  rfl

theorem gives_octalGraph :
    octalGraph.Gives 0 "transport" 2 ∧ octalGraph.Gives 2 "proxyPassword" 4 :=
  ⟨⟨rfl, rfl, [], 1, [], rfl, rfl, fun _ h => absurd h List.not_mem_nil⟩,
    ⟨rfl, rfl, [], 3, [], rfl, rfl, fun _ h => absurd h List.not_mem_nil⟩⟩

theorem node_octalGraph :
    octalGraph.node 4 = .scalar (Tag.ofPlain "017") "017" ∧ Tag.ofPlain "017" = .int := by
  have hint : Tag.ofPlain "017" = .int := by rfl
  refine ⟨?_, hint⟩
  rw [hint]
  rfl

theorem load_octalFile : Yaml.load (.ofBytes octalFile.asciiBytes) = .ok octalDocument := by
  rw [Yaml.load, ofTokens_octalFile]
  rfl

theorem valueOf_octalDocument : valueOf octalDocument = .dict (keyed (octalRows (.int 15))) := by
  have hseen : seen octalDocument "transport" (.collection 1) =
      .dict [("proxyPassword", .int 15)] := by
    refine (if_pos ((Value.same_text _ _).trans (beq_self_eq_true _))).trans ?_
    rfl
  exact congrArg (fun v => Value.dict [(.text "transport", v)]) hseen

theorem valueD_octalRows (v : Value) :
    Dict.valueD (keyed (octalRows v)) "transport" = .dict [("proxyPassword", v)] :=
  valueD_keyed_of_mem (List.nodup_singleton _) (List.mem_singleton.2 rfl)

theorem put_octalRows (v w : Value) : Dict.put (keyed (octalRows v)) "transport"
    (.dict [("proxyPassword", w)]) = keyed (octalRows w) :=
  if_pos ((Value.same_text _ _).trans (beq_self_eq_true _))

/-- With an empty password the file would be accepted. -/
theorem exists_gives_octalRows : ∃ s, Gives (keyed (octalRows "")) s := by
  refine ⟨_, gives_transport (o := Options.default) (by decide) (by decide) ?_ ?_⟩
  · rw [valueD_octalRows]
    exact .mapping rfl
  · rw [valueD_keyed_of_notMem (by decide)]
    rfl

theorem ofInt_fifteen : Text.ofInt 15 = "15" := by
  have hcanonical : Text.IsCanonical "15" :=
    Or.inr ⟨.char '1', "5", Or.inl rfl, by decide, by decide⟩
  exact (Number.ofInt_eq_iff (show Number.integer "15" = .ok 15 from rfl)).2 hcanonical

theorem hasDecimalNumeral_fifteen : Text.hasDecimalNumeral (15 : Int).natAbs = true :=
  @Text.hasDecimalNumeral_of_lt 15 2 (by decide) (by decide)

/-- The password of that file is loaded as the numeral of its integer. -/
theorem load_integer_octal :
    Graph.ofTokens (Token.ofSource (.ofBytes octalFile.asciiBytes)) = .ok (some (octalGraph, 0)) ∧
    octalGraph.Gives 0 "transport" 2 ∧ octalGraph.Gives 2 "proxyPassword" 4 ∧
    octalGraph.node 4 = .scalar (Tag.ofPlain "017") "017" ∧ Tag.ofPlain "017" = .int ∧
    Yaml.load (.ofBytes octalFile.asciiBytes) = .ok octalDocument ∧
    ∃ s, load "settings.yaml" (.contents octalFile.asciiBytes) = .ok s ∧
      s.transport.get .proxyPassword = "15" := by
  obtain ⟨hroot, hm⟩ := gives_octalGraph
  obtain ⟨hn, hint⟩ := node_octalGraph
  refine ⟨ofTokens_octalFile, hroot, hm, hn, hint, load_octalFile, ?_⟩
  obtain ⟨i, document, before, after, hi, hdocument, htransport, -, -, hload⟩ :=
    load_integer ofTokens_octalFile hroot hm hn hint (f := .proxyPassword) .password
      (Or.inr rfl) load_octalFile
  obtain rfl : 15 = i := Except.ok.inj hi
  obtain rfl := Value.dict.inj (valueOf_octalDocument.symm.trans hdocument)
  rw [valueD_octalRows] at htransport
  obtain ⟨rfl, rfl⟩ : before = [] ∧ after = [] := by
    have hsingle := (Value.dict.inj htransport).symm
    rw [List.append_eq_singleton_iff] at hsingle
    simpa using hsingle
  obtain ⟨s₀, hs₀⟩ := exists_gives_octalRows
  have haccepted : ∃ t s', ofDocument "settings.yaml" (.dict (Dict.put
      (keyed (octalRows (.int 15))) "transport"
      (.dict ([] ++ (.text "proxyPassword", Value.text t) :: [])))) = .ok s' :=
    ⟨"", s₀, ofDocument_eq_ok_iff.2 (Or.inr ⟨_, congrArg _ (put_octalRows _ _), hs₀⟩)⟩
  obtain ⟨s, hs, hget⟩ := (hload "settings.yaml" haccepted).1 hasDecimalNumeral_fifteen
  refine ⟨s, hs, ?_⟩
  rw [(hget fun _ h => absurd h List.not_mem_nil).1, ofInt_fifteen]

/-- It is not loaded as it was written. -/
theorem octal_not_kept :
    (∃ s, load "settings.yaml" (.contents octalFile.asciiBytes) = .ok s ∧
      s.transport.get .proxyPassword = "15") ∧
    ¬∀ (bytes : List UInt8) (g : Graph) (root m n : Nat) (f : Options.Field) (line key t : Text)
      (path : Text) (s : Settings),
      Graph.ofTokens (Token.ofSource (.ofBytes bytes)) = .ok (some (g, root)) →
      g.Gives root "transport" m → g.Gives m key n → g.node n = .scalar (Tag.ofPlain t) t →
      Tag.ofPlain t = .int → f.SetBy line → f.Spells (.text key) →
      load path (.contents bytes) = .ok s → s.transport.get f = .text t := by
  obtain ⟨hroot, hm⟩ := gives_octalGraph
  obtain ⟨hn, hint⟩ := node_octalGraph
  have hspelled : Options.Field.ofSpelling? "proxyPassword" = some .proxyPassword := by rfl
  obtain ⟨s₀, hs₀⟩ := exists_gives_octalRows
  have hput : Gives (Dict.put (keyed (octalRows (.int 15))) "transport"
      (.dict ([] ++ (.text "proxyPassword", Value.text "") :: []))) s₀ :=
    (put_octalRows _ _).symm ▸ hs₀
  obtain ⟨s, hs, hget⟩ := hput.replace hspelled Options.Field.noConfusion (valueD_octalRows _)
    Options.Field.noConfusion hasDecimalNumeral_fifteen
  have hload : load "settings.yaml" (.contents octalFile.asciiBytes) = .ok s := by
    rw [load_contents load_octalFile, valueOf_octalDocument]
    exact ofDocument_eq_ok_iff.2 (Or.inr ⟨_, rfl, hs⟩)
  have hpassword : s.transport.get .proxyPassword = "15" :=
    (hget fun _ h => absurd h List.not_mem_nil).trans (congrArg Value.text ofInt_fifteen)
  refine ⟨⟨s, hload, hpassword⟩, fun h => ?_⟩
  have hkept := h _ _ _ _ _ _ _ _ _ _ _ ofTokens_octalFile hroot hm hn hint .password (Or.inr rfl)
    hload
  rw [hpassword] at hkept
  exact absurd (Value.text.inj hkept) (by decide)

end Settings

end VolumeTunnel
