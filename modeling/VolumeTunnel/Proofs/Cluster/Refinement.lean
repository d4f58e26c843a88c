import VolumeTunnel.Proofs.Cluster.Keyed
import VolumeTunnel.Proofs.Script.Agreement

/-!
# A connection as a keyed store

What a connection does is to be told from what the programming interface below it does. The
interface is assumed to be a keyed store of its own (`KeyedApi`) : it refuses to create what is
there with status 409 and a document whose reason is `AlreadyExists`, and to read or replace what is
not there with status 404. Setting it up succeeds.

Then a connection answers requests about config maps, secrets and pods as a keyed store does
(`Connection.refines`), by one call for each request (`Request.Issues`), whether it is made already
or still to be made. The server that this development comes with is such an interface
(`Server.keyedApi`).
-/

namespace VolumeTunnel

/-! ## Rejections -/

theorem Value.same_int (i j : Int) : (Value.int i).same (.int j) = (i == j) := by
  simp [Value.same, Value.sameAsInt]

namespace Rejection

/-- The body is a document with the given reason. -/
def Says (r : Rejection) (reason : Text) : Prop :=
  ∃ t j, (r.body = .text t ∨ ∃ bs, r.body = .bytes bs ∧ Utf8.decodeReplacing bs = t) ∧
    Json.read? t = some j ∧ j.member? "reason" = some (.text reason)

/-- The rejection of a request for what is not there. -/
def IsAbsence (r : Rejection) : Prop :=
  r.status = .int 404

/-- The rejection of a request to create what is there. -/
def IsConflict (r : Rejection) : Prop :=
  r.status = .int 409 ∧ r.Says "AlreadyExists"

variable {r : Rejection} {reason : Text}

/-- The reason in the body is found, unless it is empty. -/
theorem statusReason_of_says (h : r.Says reason) (hne : reason ≠ []) :
    r.statusReason = .text reason := by
  obtain ⟨t, j, hbody, hread, hmember⟩ := h
  have hreason : reasonIn t = .text reason := by
    rw [reasonIn, hread]
    dsimp only
    rw [hmember]
    cases reason with
    | nil => exact absurd rfl hne
    | cons c t => rfl
  rw [statusReason]
  rcases hbody with hbody | ⟨bs, hbody, hdecoded⟩
  · rw [hbody]
    exact hreason
  · rw [hbody]
    dsimp only
    rw [hdecoded]
    exact hreason

theorem failureKind_of_absence (h : r.IsAbsence) : r.failureKind = .notFound := by
  rw [failureKind, show r.status = .int 404 from h, if_pos (by rw [Value.same_int]; rfl)]

theorem failureKind_of_conflict (h : r.IsConflict) : r.failureKind = .alreadyExists := by
  have hreason : r.statusReason = .text "AlreadyExists" :=
    statusReason_of_says h.2 (by decide)
  have hfull : r.fullReason = .text "AlreadyExists" := by
    rw [fullReason, hreason]
    rfl
  rw [failureKind, h.1, hfull, if_neg (by rw [Value.same_int]; decide), if_pos]
  exact ⟨by rw [Value.same_int]; rfl, (Value.same_text _ _).trans (beq_self_eq_true _)⟩

end Rejection

/-! ## What is assumed of the programming interface -/

/-- A programming interface that is a keyed store. A state of it shows the store that it stands
for. -/
structure KeyedApi {S : Type} (api : (q : Call) → S → q.Reply × S) (shows : S → Store → Prop) :
    Prop where
  /-- There are settings of the cluster that this runs in, or it is said that there are none. -/
  loadInCluster : ∀ {s st}, shows s st →
    ((api .loadInCluster s).1 = .ok () ∨
      ∃ m, (api .loadInCluster s).1 = .error (.noClusterSettings m)) ∧
    shows (api .loadInCluster s).2 st
  newClient : ∀ {s st} (settings : Option (Value × Value)), shows s st →
    (∃ client, (api (.newClient settings) s).1 = .ok client) ∧
    shows (api (.newClient settings) s).2 st
  apiClient : ∀ {s st}, shows s st →
    (∃ client, (api .apiClient s).1 = .ok client) ∧ shows (api .apiClient s).2 st
  coreApi : ∀ {s st}, shows s st → (api .coreApi s).1 = .ok () ∧ shows (api .coreApi s).2 st
  /-- An object is read at its place. -/
  read : ∀ {s st} (k : Kind) (space name : Text), shows s st →
    (match st.find? (Place.of k.name space name) with
      | some o => (api (.read k ⟨.text space, .text name⟩) s).1 = .ok o
      | none => ∃ r, (api (.read k ⟨.text space, .text name⟩) s).1 = .error (.rejected r) ∧
        r.IsAbsence) ∧
    shows (api (.read k ⟨.text space, .text name⟩) s).2 st
  /-- An object is stored at a free place. -/
  create : ∀ {s st} (k : Kind) {space name : Text} {o : Object}, shows s st →
    o.place? = some (Place.of k.name space name) →
    match st.find? (Place.of k.name space name) with
    | some _ => (∃ r, (api (.create k (.text space) o) s).1 = .error (.rejected r) ∧
        r.IsConflict) ∧ shows (api (.create k (.text space) o) s).2 st
    | none => (api (.create k (.text space) o) s).1 = .ok o ∧
        shows (api (.create k (.text space) o) s).2 (st.put (Place.of k.name space name) o)
  /-- An object is replaced where there is one. -/
  replace : ∀ {s st} (k : Kind) {space name : Text} {o : Object}, shows s st →
    o.place? = some (Place.of k.name space name) →
    match st.find? (Place.of k.name space name) with
    | some _ => (api (.replace k ⟨.text space, .text name⟩ o) s).1 = .ok o ∧
        shows (api (.replace k ⟨.text space, .text name⟩ o) s).2
          (st.put (Place.of k.name space name) o)
    | none => (∃ r, (api (.replace k ⟨.text space, .text name⟩ o) s).1 = .error (.rejected r) ∧
        r.IsAbsence) ∧ shows (api (.replace k ⟨.text space, .text name⟩ o) s).2 st
  /-- All objects of a kind in a namespace are listed. -/
  listAll : ∀ {s st} (k : Kind) (space : Text), shows s st →
    (api (.list k (.text space) none) s).1 = .ok (st.select (.text k.name) (.text space) []) ∧
    shows (api (.list k (.text space) none) s).2 st
  /-- The objects that a selector accepts are listed. -/
  listSelected : ∀ {s st} (k : Kind) (space selector : Text), shows s st →
    (api (.list k (.text space) (some (.text selector))) s).1 =
      .ok (st.select (.text k.name) (.text space) (selectorTerms selector)) ∧
    shows (api (.list k (.text space) (some (.text selector))) s).2 st

/-! ## Requests and the calls for them -/

namespace Request

/-- A request about objects of a known kind : the objects have a place, a selector is a text or left
out. -/
inductive Proper : Request → Prop
  | get (k : Kind) (space name : Text) : Proper (.get (.text k.name) ⟨.text space, .text name⟩)
  | create {o : Object} {p : Place} (ho : o.place? = some p) : Proper (.create (.object o))
  | update {o : Object} {p : Place} (ho : o.place? = some p) : Proper (.update (.object o))
  | list (k : Kind) (space : Text) {selector : Value}
    (h : selector = .none ∨ ∃ t, selector = .text t) :
    Proper (.list (.text k.name) (.text space) selector)

/-- The one call for a request. A selector that is not true is not sent. -/
inductive Issues : Request → Call → Prop
  | get (k : Kind) (key : ObjectName) : Issues (.get (.text k.name) key) (.read k key)
  | create {o : Object} {k : Kind} {space name : Text}
    (ho : o.place? = some (Place.of k.name space name)) :
    Issues (.create (.object o)) (.create k (.text space) o)
  | update {o : Object} {k : Kind} {space name : Text}
    (ho : o.place? = some (Place.of k.name space name)) :
    Issues (.update (.object o)) (.replace k ⟨.text space, .text name⟩ o)
  | list (k : Kind) (space selector : Value) : Issues (.list (.text k.name) space selector)
    (.list k space (if selector.truthy then some selector else none))

/-- Replies that agree : the same result, or both times that the object is not there, or both times
that it is there already. -/
inductive SameReply {α : Type} : Except Failure α → Except Failure α → Prop
  | ok (a : α) : SameReply (.ok a) (.ok a)
  | notFound {e e' : RequestFailure} (h : e.kind = .notFound) (h' : e'.kind = .notFound) :
    SameReply (.error (.request e)) (.error (.request e'))
  | alreadyExists {e e' : RequestFailure} (h : e.kind = .alreadyExists)
    (h' : e'.kind = .alreadyExists) : SameReply (.error (.request e)) (.error (.request e'))

/-- Replies to a request that agree. -/
def Agree : (q : Request) → q.Reply → q.Reply → Prop
  | .get _ _ => SameReply
  | .create _ => SameReply
  | .update _ => SameReply
  | .list _ _ _ => SameReply

end Request

/-- Whether a call is about objects, and not about setting up or closing. -/
def Call.isRequest : Call → Bool
  | .read _ _ => true
  | .create _ _ _ => true
  | .replace _ _ _ => true
  | .list _ _ _ => true
  | _ => false

/-! ## Connecting -/

namespace Connection

variable {S : Type} {api : (q : Call) → S → q.Reply × S} {shows : S → Store → Prop} {c : Connection}
  {s : S} {st : Store}

/-- A connection that is made has the interface to the core objects. -/
def Consistent (c : Connection) : Prop :=
  c.isConnected = true → c.hasCore = true

theorem consistent_new (kubeconfig context : Value) : (new kubeconfig context).Consistent :=
  fun h => nomatch h

theorem run_defaultClient (hapi : KeyedApi api shows) (hs : shows s st) :
    (∃ client, (defaultClient.run api s).result = .ok client) ∧
      shows (defaultClient.run api s).state st ∧
      (defaultClient.run api s).asked.filter Call.isRequest = [] := by
  obtain ⟨⟨client, hclient⟩, hshows⟩ := hapi.newClient none hs
  exact ⟨⟨client, hclient⟩, hshows, rfl⟩

/-- A client is found, without a call about objects. -/
theorem run_findClient (hapi : KeyedApi api shows) (hs : shows s st) :
    (∃ client, (c.findClient.run api s).result = .ok client) ∧
      shows (c.findClient.run api s).state st ∧
      (c.findClient.run api s).asked.filter Call.isRequest = [] := by
  rw [findClient]
  split
  · obtain ⟨⟨client, hclient⟩, hshows⟩ := hapi.newClient (some (c.kubeconfig, c.context)) hs
    exact ⟨⟨client, hclient⟩, hshows, rfl⟩
  · obtain ⟨hload, hshows⟩ := hapi.loadInCluster hs
    simp only [inClusterClient, Script.run, Script.Outcome.consAsked]
    rcases hload with hload | ⟨m, hload⟩
    · obtain ⟨⟨client, hclient⟩, hshows'⟩ := hapi.apiClient hshows
      simp only [hload, Script.run, Script.Outcome.consAsked, hclient]
      exact ⟨⟨client, rfl⟩, hshows', rfl⟩
    · obtain ⟨hclient, hshows', hasked⟩ := run_defaultClient hapi hshows
      simp only [hload, Failure.isNoClusterSettings, if_true]
      exact ⟨hclient, hshows', hasked⟩

/-- Connecting succeeds, without a call about objects. -/
theorem run_ensure (hapi : KeyedApi api shows) (hc : c.Consistent) (hs : shows s st) :
    (∃ c', (c.ensure.run api s).result = (.ok (), c') ∧ c'.hasCore = true ∧ c'.Consistent) ∧
      shows (c.ensure.run api s).state st ∧
      (c.ensure.run api s).asked.filter Call.isRequest = [] := by
  rw [ensure]
  by_cases hconnected : c.isConnected = true
  · rw [if_pos hconnected]
    exact ⟨⟨c, rfl, hc hconnected, hc⟩, hs, rfl⟩
  · rw [if_neg hconnected, Script.run_bind]
    obtain ⟨⟨client, hclient⟩, hshows, hasked⟩ := run_findClient (c := c) hapi hs
    obtain ⟨hcore, hshows'⟩ := hapi.coreApi hshows
    simp only [hclient, Script.run, Script.Outcome.consAsked, hcore, List.filter_append, hasked]
    exact ⟨⟨_, rfl, rfl, fun _ => rfl⟩, hshows', rfl⟩

/-! ## Sending requests -/

theorem ofValue_name (k : Kind) : Kind.ofValue (.text k.name) = .ok k := by
  simp only [Kind.ofValue, Value.unhashable?, Kind.ofName?_name]

/-- Kind, namespace and name of an object are found where its place has them from. -/
theorem target_of_place {o : Object} {k : Kind} {space name : Text}
    (ho : o.place? = some (Place.of k.name space name)) :
    target (.object o) = .ok (.text k.name, k, o, ⟨.text space, .text name⟩) := by
  obtain ⟨k', m, space', name', hkind, hm, hspace, hname, hp⟩ := Object.place?_eq_some ho
  obtain ⟨hk, rfl, rfl⟩ := Place.of_inj.1 hp
  obtain ⟨space'', name'', labels⟩ := m
  obtain rfl : space'' = some space := hspace
  obtain rfl : name'' = some name := hname
  rw [target, Resource.kindOf, hkind, ← hk]
  simp only [bind, Except.bind, ofValue_name, Object.metadata?, hm]
  rfl

/-- The outcome of a request that agrees with a keyed store. -/
structure Agrees (q : Request) (api : (q : Call) → S → q.Reply × S) (shows : S → Store → Prop)
    (s : S) (st : Store) : Prop where
  reply : q.Agree ((send q).run api s).result (Store.answer q st).1
  state : shows ((send q).run api s).state (Store.answer q st).2
  asked : ∃ call, q.Issues call ∧ ((send q).run api s).asked.filter Call.isRequest = [call]

theorem agrees_get (hapi : KeyedApi api shows) (hs : shows s st) (k : Kind) (space name : Text) :
    Agrees (.get (.text k.name) ⟨.text space, .text name⟩) api shows s st := by
  obtain ⟨hread, hshows⟩ := hapi.read k space name hs
  have hanswer : Store.answer (.get (.text k.name) ⟨.text space, .text name⟩) st =
    (st.read (Place.of k.name space name), st) := rfl
  refine ⟨?_, ?_, _, .get k _, ?_⟩
  · rw [hanswer, send, ofValue_name, Store.read]
    cases hfind : st.find? (Place.of k.name space name) with
    | some o =>
      rw [hfind] at hread
      simp only [Script.run, Script.Outcome.consAsked, hread]
      exact .ok o
    | none =>
      rw [hfind] at hread
      obtain ⟨r, hr, habsent⟩ := hread
      simp only [Script.run, Script.Outcome.consAsked, hr]
      exact .notFound (Rejection.failureKind_of_absence habsent) rfl
  · rw [hanswer, send, ofValue_name]
    exact hshows
  · rw [send, ofValue_name]
    rfl

theorem agrees_create (hapi : KeyedApi api shows) (hs : shows s st) {o : Object} {k : Kind}
    {space name : Text} (ho : o.place? = some (Place.of k.name space name)) :
    Agrees (.create (.object o)) api shows s st := by
  have hcreate := hapi.create k hs ho
  cases hfind : st.find? (Place.of k.name space name) with
  | none =>
    rw [hfind] at hcreate
    obtain ⟨hreply, hshows⟩ := hcreate
    refine ⟨?_, ?_, _, .create ho, ?_⟩ <;>
      simp only [send, target_of_place ho, Store.answer, Store.create_of_free ho hfind, Script.run,
        Script.Outcome.consAsked, Script.Outcome.consTold, hreply]
    · exact .ok o
    · exact hshows
    · rfl
  | some x =>
    rw [hfind] at hcreate
    obtain ⟨⟨r, hreply, hconflict⟩, hshows⟩ := hcreate
    refine ⟨?_, ?_, _, .create ho, ?_⟩ <;>
      simp only [send, target_of_place ho, Store.answer, Store.create_of_taken ho hfind, Script.run,
        Script.Outcome.consAsked, hreply]
    · exact .alreadyExists (Rejection.failureKind_of_conflict hconflict) rfl
    · exact hshows
    · rfl

theorem agrees_update (hapi : KeyedApi api shows) (hs : shows s st) {o : Object} {k : Kind}
    {space name : Text} (ho : o.place? = some (Place.of k.name space name)) :
    Agrees (.update (.object o)) api shows s st := by
  have hreplace := hapi.replace k hs ho
  cases hfind : st.find? (Place.of k.name space name) with
  | some x =>
    rw [hfind] at hreplace
    obtain ⟨hreply, hshows⟩ := hreplace
    refine ⟨?_, ?_, _, .update ho, ?_⟩ <;>
      simp only [send, target_of_place ho, Store.answer, Store.update_of_taken ho hfind, Script.run,
        Script.Outcome.consAsked, Script.Outcome.consTold, hreply]
    · exact .ok o
    · exact hshows
    · rfl
  | none =>
    rw [hfind] at hreplace
    obtain ⟨⟨r, hreply, habsent⟩, hshows⟩ := hreplace
    refine ⟨?_, ?_, _, .update ho, ?_⟩ <;>
      simp only [send, target_of_place ho, Store.answer, Store.update_of_free ho hfind, Script.run,
        Script.Outcome.consAsked, hreply]
    · exact .notFound (Rejection.failureKind_of_absence habsent) rfl
    · exact hshows
    · rfl

theorem agrees_list (hapi : KeyedApi api shows) (hs : shows s st) (k : Kind) (space : Text)
    {selector : Value} (hselector : selector = .none ∨ ∃ t, selector = .text t) :
    Agrees (.list (.text k.name) (.text space) selector) api shows s st := by
  obtain ⟨os, hlist, hreply, hshows⟩ : ∃ os,
      st.list (.text k.name) (.text space) selector = .ok os ∧
      (api (.list k (.text space) (if selector.truthy then some selector else none)) s).1 =
        .ok os ∧
      shows (api (.list k (.text space) (if selector.truthy then some selector else none)) s).2
        st := by
    by_cases htrue : selector.truthy = true
    · obtain ⟨t, rfl⟩ : ∃ t, selector = .text t := by
        rcases hselector with rfl | h
        · exact nomatch htrue
        · exact h
      rw [if_pos htrue]
      exact ⟨_, if_pos htrue, hapi.listSelected k space t hs⟩
    · rw [if_neg htrue, Store.list.eq_def, if_neg htrue]
      exact ⟨_, rfl, hapi.listAll k space hs⟩
  refine ⟨?_, ?_, _, .list k _ _, ?_⟩ <;>
    simp only [send, ofValue_name, Store.answer, Script.run, Script.Outcome.consAsked, hreply,
      hlist]
  · exact .ok os
  · exact hshows
  · rfl

theorem agrees_of_proper (hapi : KeyedApi api shows) (hs : shows s st) {q : Request}
    (hq : q.Proper) : Agrees q api shows s st := by
  cases hq with
  | get k space name => exact agrees_get hapi hs k space name
  | create ho =>
    obtain ⟨k, -, space, name, -, -, -, -, rfl⟩ := Object.place?_eq_some ho
    exact agrees_create hapi hs ho
  | update ho =>
    obtain ⟨k, -, space, name, -, -, -, -, rfl⟩ := Object.place?_eq_some ho
    exact agrees_update hapi hs ho
  | list k space h => exact agrees_list hapi hs k space h

/-- A connection answers proper requests as a keyed store does, by one call for each. -/
theorem refines (hapi : KeyedApi api shows) :
    Script.Refines Request.Proper Request.Agree Call.isRequest Request.Issues
      (fun c s st => c.Consistent ∧ shows s st) serve api Store.answer := by
  rintro q c s st hq ⟨hc, hs⟩
  obtain ⟨⟨c', hresult, hcore, hc'⟩, hshows, hasked⟩ := run_ensure hapi hc hs
  obtain ⟨hreply, hstate, call, hissues, hcall⟩ := agrees_of_proper hapi hshows hq
  simp only [serve, Script.run_bind, hresult, hcore, if_true, Script.run]
  refine ⟨hreply, ⟨hc', hstate⟩, call, hissues, ?_⟩
  rw [List.append_nil, List.filter_append, hasked, hcall, List.nil_append]

end Connection

/-! ## The server as a programming interface -/

namespace Server

/-- A server on which nothing is made to fail, with the given objects. -/
structure Serves (s : Server) (st : Store) : Prop where
  inCluster : s.inCluster = none ∨ ∃ m, s.inCluster = some (.noClusterSettings m)
  newClient : s.newClient = none
  core : s.core = none
  failures : s.failures = []
  store : s.store = st

theorem conflict_isConflict :
    ∃ r, conflict = .rejected r ∧ r.IsConflict :=
  ⟨_, rfl, rfl, _, _, Or.inl rfl, rfl, rfl⟩

theorem absent_isAbsence : ∃ r, absent = .rejected r ∧ r.IsAbsence :=
  ⟨_, rfl, rfl⟩

variable {s : Server} {st : Store}

theorem Serves.check (h : s.Serves st) (verb : Verb) (kind : Kind) : s.check verb kind = .ok () := by
  rw [Server.check, h.failures]
  rfl

theorem Serves.readObject (h : s.Serves st) (k : Kind) (space name : Text) :
    s.readObject k ⟨.text space, .text name⟩ =
      match st.find? (Place.of k.name space name) with
      | some o => .ok o
      | none => .error absent := by
  rw [Server.readObject, h.check, h.store]
  rfl

theorem Serves.createObject (h : s.Serves st) {k : Kind} {space name : Text} {o : Object}
    (ho : o.place? = some (Place.of k.name space name)) :
    s.createObject k (.text space) o =
      match st.find? (Place.of k.name space name) with
      | some _ => .error conflict
      | none => .ok (st.put (Place.of k.name space name) o) := by
  obtain ⟨k', m, space', name', hkind, hm, hspace, hname, hp⟩ := Object.place?_eq_some ho
  obtain ⟨-, rfl, rfl⟩ := Place.of_inj.1 hp
  obtain ⟨space'', name'', labels⟩ := m
  obtain rfl : name'' = some name := hname
  rw [Server.createObject, h.check, Object.metadata?, hm, h.store]
  rfl

theorem Serves.replaceObject (h : s.Serves st) (k : Kind) (space name : Text) (o : Object) :
    s.replaceObject k ⟨.text space, .text name⟩ o =
      match st.find? (Place.of k.name space name) with
      | some _ => .ok (st.put (Place.of k.name space name) o)
      | none => .error absent := by
  rw [Server.replaceObject, h.check, h.store]
  rfl

theorem Serves.withStore (h : s.Serves st) (st' : Store) : Serves { s with store := st' } st' :=
  ⟨h.inCluster, h.newClient, h.core, h.failures, rfl⟩

/-- The server is a keyed store as long as nothing is made to fail on it. -/
theorem keyedApi : KeyedApi answer Serves where
  loadInCluster {s st} h := by
    refine ⟨?_, h⟩
    rw [answer]
    rcases h.inCluster with hload | ⟨m, hload⟩
    · rw [hload]
      exact Or.inl rfl
    · rw [hload]
      exact Or.inr ⟨m, rfl⟩
  newClient {s st} settings h := by
    refine ⟨⟨⟨s.closing⟩, ?_⟩, h⟩
    rw [answer, h.newClient]
    rfl
  apiClient {s st} h := ⟨⟨⟨s.closing⟩, rfl⟩, h⟩
  coreApi {s st} h := by
    refine ⟨?_, h⟩
    rw [answer, h.core]
    rfl
  read {s st} k space name h := by
    refine ⟨?_, h⟩
    rw [answer, h.readObject]
    cases st.find? (Place.of k.name space name) with
    | some o => rfl
    | none =>
      obtain ⟨r, hr, habsent⟩ := absent_isAbsence
      exact ⟨r, by rw [hr], habsent⟩
  create {s st} k {space name o} h ho := by
    rw [answer, h.createObject ho]
    cases st.find? (Place.of k.name space name) with
    | none => exact ⟨rfl, h.withStore _⟩
    | some x =>
      obtain ⟨r, hr, hconflict⟩ := conflict_isConflict
      exact ⟨⟨r, by rw [hr], hconflict⟩, h⟩
  replace {s st} k {space name o} h ho := by
    rw [answer, h.replaceObject]
    cases st.find? (Place.of k.name space name) with
    | some x => exact ⟨rfl, h.withStore _⟩
    | none =>
      obtain ⟨r, hr, habsent⟩ := absent_isAbsence
      exact ⟨⟨r, by rw [hr], habsent⟩, h⟩
  listAll {s st} k space h := by
    refine ⟨?_, h⟩
    rw [answer, listObjects, h.check, h.store]
    rfl
  listSelected {s st} k space selector h := by
    refine ⟨?_, h⟩
    rw [answer, listObjects, h.check, h.store]
    rfl

end Server

end VolumeTunnel
