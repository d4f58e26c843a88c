import VolumeTunnel.Proofs.Cluster.Store
import VolumeTunnel.Proofs.Text.Numeral
import VolumeTunnel.Session
import Mathlib.Data.List.Nodup

/-!
# Registration comes first

The kinds of the server side are registered in groups, each kind with the model that is its own
(`Registry.IsOwnKind`). So a kind stays as it is when it is registered again, and a group adds the
kinds that are new, up to the first one whose model is missing (`Registry.addAll_append`).

* `Registry.firstMissing` : the first kind of the server side whose model is missing;
* `Transfer.createServer_of_missing` : creating the server side of a transfer is then nothing but
  the failure that names this kind;
* `Session.step_createServer_of_missing` : a step of a session then changes nothing;
* `Transfer.kinds_registered` : what happens if a model is missing and if none is.
-/

namespace VolumeTunnel

namespace Registry

/-! ## Kinds -/

/-- A kind with its model, as it is registered. -/
abbrev Entry := (Value × Value) × Model

/-- The version and the kind that are to be registered. -/
def key (x : Registration) : Value × Value :=
  (x.version, x.kind)

/-- What is registered, if the model is there. -/
def entryOf? (x : Registration) : Option Entry :=
  x.model.map fun model => (key x, model)

/-- The model that a kind has in every group. -/
def ownModel (version kind : Text) : Model :=
  if version = routeVersion then .type "dict" else .type ("V1" ++ kind)

/-- A kind that is registered with its own model. -/
def IsOwnEntry (e : Entry) : Prop :=
  ∃ version kind : Text, e = ((.text version, .text kind), ownModel version kind)

/-- All kinds are registered with their own models. -/
def IsOwn (r : Registry) : Prop :=
  ∀ e ∈ r.entries, IsOwnEntry e

/-- A kind that is to be registered with its own model, if that is there. -/
def IsOwnKind (x : Registration) : Prop :=
  ∃ version kind : Text, key x = (.text version, .text kind) ∧
    ∀ model, x.model = some model → model = ownModel version kind

/-- The entries that are not there yet. -/
def fresh (es new : List Entry) : List Entry :=
  new.filter fun e => !es.any (isFor e.1.1 e.1.2)

variable {r : Registry} {es new : List Entry} {e : Entry} {x : Registration}
  {xs before after : List Registration} {missing : List Text}

theorem isFor_text_iff {version kind : Text} :
    isFor (.text version) (.text kind) e = true ↔ e.1 = (.text version, .text kind) := by
  rw [isFor, Bool.and_eq_true, Value.same_text_iff, Value.same_text_iff, Prod.ext_iff]

theorem IsOwnEntry.isFor_iff (he : IsOwnEntry e) {e' : Entry} :
    isFor e.1.1 e.1.2 e' = true ↔ e'.1 = e.1 := by
  obtain ⟨version, kind, rfl⟩ := he
  exact isFor_text_iff

/-- Two kinds that are registered with their own models are the same if they have the same names. -/
theorem IsOwnEntry.eq (he : IsOwnEntry e) {e' : Entry} (he' : IsOwnEntry e') (h : e'.1 = e.1) :
    e' = e := by
  obtain ⟨version, kind, rfl⟩ := he
  obtain ⟨version', kind', rfl⟩ := he'
  obtain ⟨hversion, hkind⟩ := Prod.ext_iff.1 h
  cases hversion
  cases hkind
  rfl

theorem IsOwnKind.isOwnEntry (hx : IsOwnKind x) (h : entryOf? x = some e) : IsOwnEntry e := by
  obtain ⟨version, kind, hkey, hmodel⟩ := hx
  obtain ⟨model, hm, rfl⟩ := Option.map_eq_some_iff.1 h
  exact ⟨version, kind, by rw [hkey, hmodel model hm]⟩

/-! ## Registering one kind -/

theorem fresh_singleton : fresh es [e] = if es.any (isFor e.1.1 e.1.2) then [] else [e] := by
  cases h : es.any (isFor e.1.1 e.1.2) <;> simp [fresh, h]

/-- A kind with its own model is put last, unless it is there. -/
theorem putEntry_eq (hes : ∀ e ∈ es, IsOwnEntry e) (he : IsOwnEntry e) :
    putEntry e.1.1 e.1.2 e.2 es = es ++ fresh es [e] := by
  induction es with
  | nil => rfl
  | cons e' es ih =>
    obtain ⟨he', hes⟩ := List.forall_mem_cons.1 hes
    rw [putEntry]
    cases h : isFor e.1.1 e.1.2 e' with
    | true =>
      -- what is there has the same model, so that putting it again changes nothing
      obtain rfl := he.eq he' (he.isFor_iff.1 h)
      rw [if_pos rfl, fresh_singleton, List.any_cons, h, Bool.true_or, if_pos rfl, List.append_nil]
    | false =>
      rw [fresh_singleton, List.any_cons, h, Bool.false_or, ← fresh_singleton, ih hes]
      rfl

theorem add_of_missing (hkind : IsOwnKind x) (hx : x.model = none) :
    r.add x = .error (.configuration (.noModel x.version x.kind)) := by
  obtain ⟨version, kind, hkey, -⟩ := hkind
  obtain ⟨hversion, hkind⟩ := Prod.ext_iff.1 hkey
  have hwritable : (Value.tuple [x.version, x.kind]).isWritable = true := by
    rw [show x.version = .text version from hversion, show x.kind = .text kind from hkind]
    rfl
  rw [add, hx]
  exact congrArg Except.error (Failure.naming_of_isWritable hwritable _)

theorem add_of_model (hr : r.IsOwn) (hx : IsOwnKind x) (h : entryOf? x = some e) :
    r.add x = .ok ⟨r.entries ++ fresh r.entries [e]⟩ := by
  have he := hx.isOwnEntry h
  obtain ⟨model, hm, rfl⟩ := Option.map_eq_some_iff.1 h
  have hcheck : checkKey x.version x.kind = .ok () := by
    obtain ⟨version, kind, hkey, -⟩ := hx
    obtain ⟨hversion, hkind⟩ := Prod.ext_iff.1 hkey
    rw [show x.version = .text version from hversion, show x.kind = .text kind from hkind]
    simp [checkKey, Value.unhashable?, Value.firstUnhashable?]
  rw [add, hm, ← putEntry_eq hr he]
  dsimp only
  rw [hcheck]
  rfl

/-- A kind with its own model is registered with that. -/
theorem IsOwn.append_fresh (hr : r.IsOwn) (hnew : ∀ e ∈ new, IsOwnEntry e) :
    IsOwn ⟨r.entries ++ fresh r.entries new⟩ := by
  exact List.forall_mem_append.2 ⟨hr, fun e he => hnew e (List.mem_filter.1 he).1⟩

/-! ## Registering a group -/

/-- What is new stays new after other kinds. -/
theorem fresh_append {added : List Entry}
    (h : ∀ e ∈ new, ∀ e' ∈ added, isFor e.1.1 e.1.2 e' = false) :
    fresh (es ++ added) new = fresh es new := by
  refine List.filter_congr fun e he => ?_
  have hadded : added.any (isFor e.1.1 e.1.2) = false :=
    List.any_eq_false.2 fun e' he' => by rw [h e he e' he']; exact Bool.false_ne_true
  rw [List.any_append, hadded, Bool.or_false]

/-- Kinds whose models are there are registered one after the other, those that are new. -/
theorem addAll_append (hr : r.IsOwn) (hkinds : ∀ x ∈ before, IsOwnKind x)
    (hmodels : ∀ x ∈ before, x.model ≠ none) (hkeys : (before.map key).Nodup) :
    r.addAll (before ++ after) =
      addAll ⟨r.entries ++ fresh r.entries (before.filterMap entryOf?)⟩ after := by
  induction before generalizing r with
  | nil => simp [fresh]
  | cons x before ih =>
    obtain ⟨hx, hkinds⟩ := List.forall_mem_cons.1 hkinds
    obtain ⟨hmodel, hmodels⟩ := List.forall_mem_cons.1 hmodels
    obtain ⟨hnotMem, hkeys⟩ := List.nodup_cons.1 hkeys
    obtain ⟨model, hm⟩ := Option.ne_none_iff_exists'.1 hmodel
    have hentry : entryOf? x = some (key x, model) := by rw [entryOf?, hm, Option.map_some]
    have hown := hx.isOwnEntry hentry
    -- no other kind has the same names, so what is new of the others does not depend on this one
    have hothers : ∀ e ∈ before.filterMap entryOf?, ∀ e' ∈ fresh r.entries [(key x, model)],
        isFor e.1.1 e.1.2 e' = false := by
      intro e he e' he'
      obtain ⟨y, hy, hyentry⟩ := List.mem_filterMap.1 he
      rw [List.mem_singleton.1 (List.mem_filter.1 he').1, ← Bool.not_eq_true,
        ((hkinds y hy).isOwnEntry hyentry).isFor_iff]
      obtain ⟨-, -, rfl⟩ := Option.map_eq_some_iff.1 hyentry
      intro heq
      exact hnotMem (List.mem_map.2 ⟨y, hy, heq.symm⟩)
    have hsplit : fresh r.entries ((key x, model) :: before.filterMap entryOf?) =
        fresh r.entries [(key x, model)] ++ fresh r.entries (before.filterMap entryOf?) :=
      List.filter_append [(key x, model)] _
    rw [List.cons_append, addAll, add_of_model hr hx hentry]
    dsimp only
    rw [ih (hr.append_fresh (List.forall_mem_singleton.2 hown)) hkinds hmodels hkeys,
      fresh_append hothers, List.filterMap_cons_some hentry, hsplit, List.append_assoc]

/-- Kinds are registered up to the first one whose model is missing. -/
theorem addAll_of_missing (hr : r.IsOwn) (hkinds : ∀ x ∈ xs, IsOwnKind x)
    (hkeys : (xs.map key).Nodup) (hxs : xs = before ++ x :: after)
    (hmodels : ∀ y ∈ before, y.model ≠ none) (hx : x.model = none) :
    r.addAll xs = (.error (.configuration (.noModel x.version x.kind)),
      ⟨r.entries ++ fresh r.entries (before.filterMap entryOf?)⟩) := by
  subst hxs
  rw [List.map_append] at hkeys
  obtain ⟨hbefore, hafter⟩ := List.forall_mem_append.1 hkinds
  rw [addAll_append hr hbefore hmodels hkeys.of_append_left, addAll,
    add_of_missing (hafter x List.mem_cons_self) hx]

/-- Kinds whose models are there are all registered. -/
theorem addAll_of_models (hr : r.IsOwn) (hkinds : ∀ x ∈ xs, IsOwnKind x)
    (hkeys : (xs.map key).Nodup) (hmodels : ∀ x ∈ xs, x.model ≠ none) :
    r.addAll xs = (.ok (), ⟨r.entries ++ fresh r.entries (xs.filterMap entryOf?)⟩) := by
  have h := @addAll_append r xs [] hr hkinds hmodels hkeys
  rwa [List.append_nil] at h

theorem isOwn_empty : empty.IsOwn :=
  fun _ he => absurd he List.not_mem_nil

/-- Registering a group leaves all kinds with their own models. -/
theorem IsOwn.addAll (hr : r.IsOwn) (hkinds : ∀ x ∈ xs, IsOwnKind x) : (r.addAll xs).2.IsOwn := by
  induction xs generalizing r with
  | nil => exact hr
  | cons x xs ih =>
    obtain ⟨hx, hkinds⟩ := List.forall_mem_cons.1 hkinds
    rw [Registry.addAll]
    cases hentry : entryOf? x with
    | none =>
      rw [add_of_missing hx (Option.map_eq_none_iff.1 hentry)]
      exact hr
    | some e =>
      have he := hx.isOwnEntry hentry
      rw [add_of_model hr hx hentry]
      exact ih (hr.append_fresh (List.forall_mem_singleton.2 he)) hkinds

/-! ## The groups -/

/-- A group of kinds that are registered together. -/
inductive Group where
  | core
  | apps
  | routes

/-- The kinds of a group, given the models that are missing. -/
def Group.kinds (missing : List Text) : Group → List Registration
  | core => coreKinds missing
  | apps => appKinds missing
  | routes => routeKinds

/-- What is registered after groups were registered in turn, each while the given models were
missing. -/
def registered (calls : List (Group × List Text)) : Registry :=
  calls.foldl (fun r call => (r.addAll (call.1.kinds call.2)).2) empty

theorem isOwnKind_typedKinds {version : Text} (h : version ≠ routeVersion) (kinds : List Text) :
    ∀ x ∈ typedKinds missing version kinds, IsOwnKind x := by
  refine List.forall_mem_map.2 fun kind _ => ⟨version, kind, rfl, fun model hmodel => ?_⟩
  rw [ownModel, if_neg h]
  dsimp only at hmodel
  split at hmodel
  · exact nomatch hmodel
  · exact (Option.some.inj hmodel).symm

theorem isOwnKind_routeKinds : ∀ x ∈ routeKinds, IsOwnKind x := by
  refine List.forall_mem_singleton.2 ⟨routeVersion, "Route", rfl, fun model hmodel => ?_⟩
  rw [ownModel, if_pos rfl]
  exact (Option.some.inj hmodel).symm

theorem isOwnKind_serverKinds : ∀ x ∈ serverKinds missing, IsOwnKind x :=
  List.forall_mem_append.2 ⟨List.forall_mem_append.2
    ⟨isOwnKind_routeKinds, isOwnKind_typedKinds (by decide) _⟩, isOwnKind_typedKinds (by decide) _⟩

/-- A version and a kind as they are registered. -/
def namesOf (x : Text × Text) : Value × Value :=
  (.text x.1, .text x.2)

theorem namesOf_injective : Function.Injective namesOf := by
  rintro ⟨version, kind⟩ ⟨version', kind'⟩ h
  cases h
  rfl

theorem nodup_keys_serverKinds (missing : List Text) : ((serverKinds missing).map key).Nodup := by
  have hkeys : (serverKinds missing).map key = ([(routeVersion, "Route"), ("apps/v1", "Deployment"),
      ("apps/v1", "StatefulSet"), ("v1", "ConfigMap"), ("v1", "Secret"), ("v1", "Pod"),
      ("v1", "Service")] : List (Text × Text)).map namesOf := rfl
  rw [hkeys]
  exact List.Nodup.map namesOf_injective (by decide)

/-- Each group is a part of the kinds of the server side. -/
theorem Group.sublist (g : Group) : (g.kinds missing).Sublist (serverKinds missing) := by
  cases g with
  | core => exact List.sublist_append_right _ _
  | apps => exact (List.sublist_append_right _ _).trans (List.sublist_append_left _ _)
  | routes => exact (List.sublist_append_left _ _).trans (List.sublist_append_left _ _)

theorem Group.isOwnKind (g : Group) : ∀ x ∈ g.kinds missing, IsOwnKind x :=
  fun x hx => isOwnKind_serverKinds x (g.sublist.mem hx)

theorem Group.nodup_keys (g : Group) : ((g.kinds missing).map key).Nodup :=
  (nodup_keys_serverKinds missing).sublist (g.sublist.map key)

theorem isOwn_registered (calls : List (Group × List Text)) : (registered calls).IsOwn := by
  have hall : ∀ r : Registry, r.IsOwn →
      (calls.foldl (fun r call => (r.addAll (call.1.kinds call.2)).2) r).IsOwn := by
    induction calls with
    | nil => exact fun r hr => hr
    | cons call calls ih => exact fun r hr => ih _ (hr.addAll call.1.isOwnKind)
  exact hall empty isOwn_empty

/-! ## The server side -/

/-- The kinds of the server side that have models of their own, in the order in which they are
registered, each with its version. -/
def modelledKinds : List (Text × Text) :=
  [("apps/v1", "Deployment"), ("apps/v1", "StatefulSet"), ("v1", "ConfigMap"), ("v1", "Secret"),
    ("v1", "Pod"), ("v1", "Service")]

/-- The first of these whose model is missing. -/
def firstMissing (missing : List Text) : Option (Text × Text) :=
  modelledKinds.find? fun x => missing.contains ("V1" ++ x.2)

/-- How such a kind is to be registered. -/
def registration (missing : List Text) (x : Text × Text) : Registration :=
  ⟨.text x.1, .text x.2,
    if missing.contains ("V1" ++ x.2) then none else some (.type ("V1" ++ x.2))⟩

theorem serverKinds_eq (missing : List Text) :
    serverKinds missing = routeKinds ++ modelledKinds.map (registration missing) :=
  rfl

theorem registration_of_missing {x : Text × Text} (h : missing.contains ("V1" ++ x.2) = true) :
    (registration missing x).model = none :=
  if_pos h

theorem registration_of_not_missing {x : Text × Text}
    (h : missing.contains ("V1" ++ x.2) = false) : (registration missing x).model ≠ none := by
  rw [registration, h]
  exact Option.some_ne_none _

/-- Kinds before any that is missing have their models. -/
theorem models_of_not_missing {names : List (Text × Text)}
    (h : ∀ x ∈ names, missing.contains ("V1" ++ x.2) = false) :
    ∀ x ∈ routeKinds ++ names.map (registration missing), x.model ≠ none :=
  List.forall_mem_append.2 ⟨List.forall_mem_singleton.2 (Option.some_ne_none _),
    List.forall_mem_map.2 fun x hx => registration_of_not_missing (h x hx)⟩

/-- If a model is missing, the first kind without one is refused. -/
theorem serverSide_of_missing {version kind : Text}
    (h : firstMissing missing = some (version, kind)) :
    serverSide missing = .error (.configuration (.noModel (.text version) (.text kind))) := by
  obtain ⟨hmissing, before, after, hsplit, hbefore⟩ := List.find?_eq_some_iff_append.1 h
  have hkinds : serverKinds missing = (routeKinds ++ before.map (registration missing)) ++
      registration missing (version, kind) :: after.map (registration missing) := by
    rw [serverKinds_eq, hsplit, List.map_append, List.map_cons, List.append_assoc]
  have hmodels := models_of_not_missing fun x hx => by simpa using hbefore x hx
  have hkeys := nodup_keys_serverKinds missing
  rw [serverSide, addAll_of_missing isOwn_empty isOwnKind_serverKinds hkeys hkinds hmodels
    (registration_of_missing hmissing)]
  rfl

/-- If no model is missing, all seven kinds are registered. -/
theorem serverSide_of_models (h : firstMissing missing = none) :
    ∃ r, serverSide missing = .ok r ∧ r.size = 7 := by
  have hmodels : ∀ x ∈ serverKinds missing, x.model ≠ none :=
    models_of_not_missing fun x hx => Bool.eq_false_iff.2 (List.find?_eq_none.1 h x hx)
  have hkeys := nodup_keys_serverKinds missing
  rw [serverSide, addAll_of_models isOwn_empty isOwnKind_serverKinds hkeys hmodels]
  refine ⟨_, rfl, ?_⟩
  have hfresh : fresh [] ((serverKinds missing).filterMap entryOf?) =
      (serverKinds missing).filterMap entryOf? := List.filter_eq_self.2 fun e _ => rfl
  have hlength : ((serverKinds missing).filterMap entryOf?).length =
      (serverKinds missing).length := by
    refine List.filterMap_length_eq_length.2 fun x hx => ?_
    rw [entryOf?, Option.isSome_map]
    exact Option.isSome_iff_ne_none.2 (hmodels x hx)
  rw [size, show empty.entries = [] from rfl, List.nil_append, hfresh, hlength]
  rfl

end Registry

/-! ## Transfers -/

namespace Transfer

open Registry

variable {Q : Type} {R : Q → Type} {Client Kept S : Type}

/-- What is logged before a server side is created. -/
def registeredRecord : Record :=
  .debug "[TRANSFER] Registered 7 server side kinds"

/-- If a model is missing, there is nothing but the failure that names the first such kind. -/
theorem createServer_of_missing {missing : List Text} {version kind : Text}
    (h : firstMissing missing = some (version, kind)) (t : Transfer Q R Client Kept) :
    createServer missing t =
      .done (.error (.configuration (.noModel (.text version) (.text kind))), t.kept) := by
  rw [createServer, serverSide_of_missing h]

/-- If no model is missing, a record comes before what the transfer does on its destination. -/
theorem createServer_of_models {missing : List Text} (h : firstMissing missing = none)
    (t : Transfer Q R Client Kept) :
    createServer missing t = .tell registeredRecord (t.create .server t.destination t.kept) := by
  obtain ⟨r, hr, hsize⟩ := serverSide_of_models h
  rw [createServer, hr]
  dsimp only
  rw [hsize, Text.ofNat_of_lt (by decide)]
  rfl

end Transfer

/-! ## Sessions -/

namespace Session

open Registry

variable {s : Session} {id : Text} {missing : List Text}

theorem named?_rename {α : Type} (xs : List (Text × α)) (id : Text) (x : α) (id' : Text) :
    named? (rename id x xs) id' = if id' = id then .ok x else named? xs id' := by
  by_cases h : id' = id
  · simp [named?, rename, h]
  · have hfind : (xs.filter fun y => y.1 ≠ id).find? (fun y => y.1 = id') =
        xs.find? fun y => y.1 = id' := by
      rw [List.find?_filter]
      refine congrArg (fun p => List.find? p xs) (funext fun y => ?_)
      by_cases hy : y.1 = id' <;> simp [hy, h]
    rw [named?, rename, List.find?_cons_of_neg (by simpa using Ne.symm h), hfind, if_neg h, named?]

/-- What has a name still has it when it is named so again. -/
theorem named?_rename_self {α : Type} {xs : List (Text × α)} {x : α} (h : named? xs id = .ok x)
    (id' : Text) : named? (rename id x xs) id' = named? xs id' := by
  rw [named?_rename]
  split
  next heq => rw [heq, h]
  next => rfl

/-- A session in which everything that has a name is as before. -/
structure Unchanged (s s' : Session) : Prop where
  clusters : ∀ id, named? s'.clusters id = named? s.clusters id
  endpoints : s'.endpoints = s.endpoints
  transports : ∀ id, named? s'.transports id = named? s.transports id

/-- If a model is missing, a step that creates the server side shows nothing and changes nothing. -/
theorem step_createServer_of_missing {version kind : Text}
    (h : firstMissing missing = some (version, kind)) (s : Session) (destination : Text)
    (route : Route) :
    let taken := s.step (.createServer destination missing route)
    taken.1.events = [] ∧ taken.1.told = [] ∧ s.Unchanged taken.2 ∧
      ∀ t e c, s.resolve route = .ok (t, e) → named? s.clusters destination = .ok c →
        taken.1.answer = .error (.configuration (.noModel (.text version) (.text kind))) := by
  have hsame : s.Unchanged s := ⟨fun _ => rfl, rfl, fun _ => rfl⟩
  simp only [step, provisionBy, Transfer.createServer_of_missing h]
  cases hroute : s.resolve route with
  | error e => exact ⟨rfl, rfl, hsame, fun t e c ht => nomatch ht⟩
  | ok x =>
    cases hcluster : named? s.clusters destination with
    | error e => exact ⟨rfl, rfl, hsame, fun t e c _ hc => nomatch hc⟩
    | ok c =>
      obtain ⟨t, e⟩ := x
      have htransport : named? s.transports route.transport = .ok t := by
        obtain ⟨t', ht', hrest⟩ := Failure.bind_eq_ok.1 hroute
        obtain ⟨e', -, heq⟩ := Failure.bind_eq_ok.1 hrest
        cases heq
        exact ht'
      refine ⟨?_, rfl, ⟨named?_rename_self hcluster, rfl, named?_rename_self htransport⟩, ?_⟩
      · cases t <;> rfl
      · exact fun t e c _ _ => rfl

/-- If no model is missing, such a step is one that provisions the server side of the transport,
with a record before. -/
theorem step_createServer_of_models (h : firstMissing missing = none) {destination : Text}
    {route : Route} {t : Transport} {e : Endpoint} {c : Cluster}
    (hroute : s.resolve route = .ok (t, e)) (hcluster : named? s.clusters destination = .ok c) :
    s.step (.createServer destination missing route) =
      let taken := s.step (.provision destination .server route)
      ({ taken.1 with told := Transfer.registeredRecord :: taken.1.told }, taken.2) := by
  simp only [step, provisionBy, Transfer.createServer_of_models h, hroute, hcluster]
  rfl

end Session

/-! ## Nothing before registration -/

namespace Transfer

open Registry

/-- Nothing is asked of a cluster unless the models of all kinds of the server side are there. If
one is missing, creating the server side fails with the first such kind, for every transfer, and
nothing else happens; a session is left as it was. If none is missing, a record is logged, and what
follows is what the transfer does to create its server on its destination cluster. Registering a
group of kinds after others keeps those that are registered, and adds the new ones of those before
the first one whose model is missing, or all new ones. -/
theorem kinds_registered (missing : List Text) :
    (∀ {Q : Type} {R : Q → Type} {Client Kept S : Type} (t : Transfer Q R Client Kept)
        (answer : (q : Q) → S → R q × S) (s : S),
      (∀ version kind, firstMissing missing = some (version, kind) →
        (createServer missing t).run answer s =
          ⟨(.error (.configuration (.noModel (.text version) (.text kind))), t.kept), s, [], []⟩) ∧
      (firstMissing missing = none → (createServer missing t).run answer s =
        ((t.create .server t.destination t.kept).run answer s).consTold registeredRecord)) ∧
    (∀ (s : Session) (destination : Text) (route : Route),
      let taken := s.step (.createServer destination missing route)
      (∀ version kind, firstMissing missing = some (version, kind) →
        taken.1.events = [] ∧ taken.1.told = [] ∧ s.Unchanged taken.2 ∧
          ∀ t e c, s.resolve route = .ok (t, e) → Session.named? s.clusters destination = .ok c →
            taken.1.answer =
              .error (.configuration (.noModel (.text version) (.text kind)))) ∧
      (firstMissing missing = none →
        ∀ t e c, s.resolve route = .ok (t, e) → Session.named? s.clusters destination = .ok c →
          let provisioned := s.step (.provision destination .server route)
          taken.1.answer = provisioned.1.answer ∧ taken.1.events = provisioned.1.events ∧
            taken.1.told = registeredRecord :: provisioned.1.told ∧ taken.2 = provisioned.2)) ∧
    ∀ (calls : List (Group × List Text)) (g : Group),
      (∀ before x after, g.kinds missing = before ++ x :: after →
        (∀ y ∈ before, y.model ≠ none) → x.model = none →
        (registered calls).addAll (g.kinds missing) =
          (.error (.configuration (.noModel x.version x.kind)),
            ⟨(registered calls).entries ++
              fresh (registered calls).entries (before.filterMap entryOf?)⟩)) ∧
      ((∀ x ∈ g.kinds missing, x.model ≠ none) →
        (registered calls).addAll (g.kinds missing) = (.ok (),
          ⟨(registered calls).entries ++
            fresh (registered calls).entries ((g.kinds missing).filterMap entryOf?)⟩)) := by
  refine ⟨fun t answer s => ⟨fun version kind h => ?_, fun h => ?_⟩,
    fun s destination route => ⟨fun version kind h => ?_, fun h t e c hroute hcluster => ?_⟩,
    fun calls g => ⟨fun before x after hsplit hmodels hx => ?_, fun hmodels => ?_⟩⟩
  · rw [createServer_of_missing h, Script.run]
  · rw [createServer_of_models h, Script.run]
  · exact Session.step_createServer_of_missing h s destination route
  · rw [Session.step_createServer_of_models h hroute hcluster]
    exact ⟨rfl, rfl, rfl, rfl⟩
  · exact addAll_of_missing (isOwn_registered calls) g.isOwnKind g.nodup_keys hsplit hmodels hx
  · exact addAll_of_models (isOwn_registered calls) g.isOwnKind g.nodup_keys hmodels

end Transfer

end VolumeTunnel
