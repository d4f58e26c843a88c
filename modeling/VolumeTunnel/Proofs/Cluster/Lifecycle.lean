import VolumeTunnel.Proofs.Cluster.Refinement
import VolumeTunnel.Proofs.Script.Run

/-!
# The life of a connection

A connection is made, used, closed and made again, over a programming interface of which nothing is
assumed : every call of it may fail, with any failure, and may do something else each time.

`Connection.Finds` and `Connection.Connects` list the ways in which connecting can go, by the calls
that are made and their answers; `Connection.Serves` those of a request, which connects and is then
sent, and `Connection.Closes` those of a close. From them follows what each use of a connection
does : a request (`Connection.Served`) and a close (`Connection.Closed`). `Connection.Turn.Proper`
says so of a use in a sequence of them.

* `Connection.Attached` : there is an interface to the core objects exactly if there is a client;
* `Connection.turns` : the uses of a connection one after another, each from the state that the one
  before it left.
-/

namespace VolumeTunnel

/-- Whether a call is one of those that set up a connection. -/
def Call.isSetup : Call → Bool
  | .loadInCluster => true
  | .newClient _ => true
  | .apiClient => true
  | .coreApi => true
  | _ => false

theorem Call.isSetup_of_isRequest {call : Call} (h : call.isRequest = true) :
    call.isSetup = false := by
  cases call with
  | read _ _ => rfl
  | create _ _ _ => rfl
  | replace _ _ _ => rfl
  | list _ _ _ => rfl
  | _ => exact nomatch h

/-- A call with its answer. -/
abbrev Exchange := Sigma Call.Reply

theorem Failure.isNoClusterSettings_iff {e : Failure} :
    e.isNoClusterSettings = true ↔ ∃ m, e = .noClusterSettings m := by
  cases e <;> simp [isNoClusterSettings]

namespace Connection

variable {S : Type} {api : (q : Call) → S → q.Reply × S}

/-- There is an interface to the core objects exactly if there is a client. -/
def Attached (c : Connection) : Prop :=
  c.isConnected = c.hasCore

@[simp] theorem isConnected_none (kubeconfig context : Value) (core : Bool) :
    (⟨kubeconfig, context, none, core⟩ : Connection).isConnected = false := rfl

@[simp] theorem isConnected_some (kubeconfig context : Value) (client : ApiClient) (core : Bool) :
    (⟨kubeconfig, context, some client, core⟩ : Connection).isConnected = true := rfl

/-- Whether the settings of a connection name a settings file or a context. -/
def isNamed (c : Connection) : Bool :=
  c.kubeconfig.truthy || c.context.truthy

/-- The call that connecting begins with. -/
def firstCall (c : Connection) : Call :=
  if c.isNamed then .newClient (some (c.kubeconfig, c.context)) else .loadInCluster

/-! ## Finding a client -/

/-- The ways in which a client is looked for, by calls and answers, and what comes of them. -/
inductive Finds (c : Connection) : List Exchange → Except Failure ApiClient → Prop
  /-- The settings name a file or a context. -/
  | named (hc : c.isNamed = true) (r : Except Failure ApiClient) :
    Finds c [⟨.newClient (some (c.kubeconfig, c.context)), r⟩] r
  /-- The connection goes to the cluster that this runs in. -/
  | inCluster (hc : c.isNamed = false) (client : ApiClient) :
    Finds c [⟨.loadInCluster, .ok ()⟩, ⟨.apiClient, .ok client⟩] (.ok client)
  /-- There are no settings for that. -/
  | settingsMissing (hc : c.isNamed = false) {e : Failure} (he : e.isNoClusterSettings = true)
    (r : Except Failure ApiClient) :
    Finds c [⟨.loadInCluster, .error e⟩, ⟨.newClient none, r⟩] r
  | settingsFailed (hc : c.isNamed = false) {e : Failure} (he : e.isNoClusterSettings = false) :
    Finds c [⟨.loadInCluster, .error e⟩] (.error e)
  /-- The settings turn out to be missing when the client is made. -/
  | clientMissing (hc : c.isNamed = false) {e : Failure} (he : e.isNoClusterSettings = true)
    (r : Except Failure ApiClient) :
    Finds c [⟨.loadInCluster, .ok ()⟩, ⟨.apiClient, .error e⟩, ⟨.newClient none, r⟩] r
  | clientFailed (hc : c.isNamed = false) {e : Failure} (he : e.isNoClusterSettings = false) :
    Finds c [⟨.loadInCluster, .ok ()⟩, ⟨.apiClient, .error e⟩] (.error e)

theorem finds_findClient (c : Connection) (s : S) :
    c.Finds (c.findClient.exchanges api s) (c.findClient.run api s).result := by
  rw [findClient, ← isNamed]
  cases hc : c.isNamed with
  | true => exact .named hc _
  | false =>
    simp only [Bool.false_eq_true, if_false, inClusterClient, Script.exchanges, Script.run,
      Script.Outcome.consAsked]
    cases (api .loadInCluster s).1 with
    | error e =>
      cases he : e.isNoClusterSettings with
      | true =>
        simp only [he, if_true]
        exact .settingsMissing hc he _
      | false =>
        simp only [he]
        exact .settingsFailed hc he
    | ok u =>
      simp only [Script.exchanges, Script.run, Script.Outcome.consAsked]
      cases (api .apiClient (api .loadInCluster s).2).1 with
      | error e =>
        cases he : e.isNoClusterSettings with
        | true =>
          simp only [he, if_true]
          exact .clientMissing hc he _
        | false =>
          simp only [he]
          exact .clientFailed hc he
      | ok client => exact .inCluster hc client

section Finds

variable {c : Connection} {xs : List Exchange} {r : Except Failure ApiClient}

/-- A client is looked for by set-up calls only. -/
theorem Finds.isSetup (h : c.Finds xs r) : ∀ x ∈ xs, x.1.isSetup = true := by
  cases h <;> simp [Call.isSetup]

/-- The interface to the core objects is not asked for before there is a client. -/
theorem Finds.coreApi_not_mem (h : c.Finds xs r) (r' : Except Failure Unit) :
    ⟨.coreApi, r'⟩ ∉ xs := by
  cases h <;> simp

theorem Finds.head? (h : c.Finds xs r) (ys : List Exchange) :
    (xs ++ ys).head?.map Sigma.fst = some c.firstCall := by
  cases h <;> simp [firstCall, *]

/-- The default settings file is tried exactly if there are no settings of the cluster that this
runs in, which is found out when they are loaded or when the client is made. -/
theorem Finds.default_iff (h : c.Finds xs r) :
    (∃ r', ⟨.newClient none, r'⟩ ∈ xs) ↔
      ∃ m, ⟨.loadInCluster, .error (.noClusterSettings m)⟩ ∈ xs ∨
        ⟨.apiClient, .error (.noClusterSettings m)⟩ ∈ xs := by
  cases h with
  | named hc r => simp
  | inCluster hc client => simp
  | settingsMissing hc he r =>
    obtain ⟨m, rfl⟩ := Failure.isNoClusterSettings_iff.1 he
    simp
  | settingsFailed hc he =>
    simp only [List.mem_cons, List.not_mem_nil, Sigma.mk.injEq, reduceCtorEq, false_and, or_false,
      exists_false, heq_eq_eq, true_and, Except.error.injEq, false_iff, not_exists]
    rintro m rfl
    exact nomatch he
  | clientMissing hc he r =>
    obtain ⟨m, rfl⟩ := Failure.isNoClusterSettings_iff.1 he
    simp
  | clientFailed hc he =>
    simp only [List.mem_cons, List.not_mem_nil, Sigma.mk.injEq, reduceCtorEq, false_and, or_false,
      exists_false, heq_eq_eq, true_and, Except.error.injEq, false_or, false_iff, not_exists]
    rintro m rfl
    exact nomatch he

end Finds

/-! ## Connecting -/

/-- The ways in which connecting can go, by calls and answers : whether it fails, and the connection
after it. -/
inductive Connects (c : Connection) : List Exchange → Except Failure Unit × Connection → Prop
  /-- There is a connection already. -/
  | already (hc : c.isConnected = true) : Connects c [] (.ok (), c)
  | noClient (hc : c.isConnected = false) {xs : List Exchange} {e : Failure}
    (hxs : c.Finds xs (.error e)) : Connects c xs (c.failedBy e)
  /-- There is a client, but no interface to the core objects. -/
  | noCore (hc : c.isConnected = false) {xs : List Exchange} {client : ApiClient}
    (hxs : c.Finds xs (.ok client)) (e : Failure) :
    Connects c (xs ++ [⟨.coreApi, .error e⟩]) (c.failedBy e)
  | made (hc : c.isConnected = false) {xs : List Exchange} {client : ApiClient}
    (hxs : c.Finds xs (.ok client)) : Connects c (xs ++ [⟨.coreApi, .ok ()⟩])
      (.ok (), { c with client := some client, hasCore := true })

theorem connects_ensure (c : Connection) (s : S) :
    c.Connects (c.ensure.exchanges api s) (c.ensure.run api s).result := by
  rw [ensure]
  cases hc : c.isConnected with
  | true => exact .already hc
  | false =>
    have hfinds := @finds_findClient S api c s
    simp only [Bool.false_eq_true, if_false, Script.exchanges_bind, Script.run_bind]
    cases hr : (c.findClient.run api s).result with
    | error e =>
      rw [hr] at hfinds
      simp only [Script.exchanges, Script.run, List.append_nil]
      exact .noClient hc hfinds
    | ok client =>
      rw [hr] at hfinds
      simp only [Script.exchanges, Script.run, Script.Outcome.consAsked]
      cases (api .coreApi (c.findClient.run api s).state).1 with
      | error e => exact .noCore hc hfinds e
      | ok u => exact .made hc hfinds

section Connects

variable {c c' : Connection} {xs : List Exchange} {r : Except Failure Unit}

theorem Connects.isSetup (h : c.Connects xs (r, c')) : ∀ x ∈ xs, x.1.isSetup = true := by
  cases h with
  | already hc => exact fun x hx => absurd hx List.not_mem_nil
  | noClient hc hxs => exact hxs.isSetup
  | noCore hc hxs e => exact List.forall_mem_append.2 ⟨hxs.isSetup, by simp [Call.isSetup]⟩
  | made hc hxs => exact List.forall_mem_append.2 ⟨hxs.isSetup, by simp [Call.isSetup]⟩

/-- Connecting begins with the call that the settings ask for, and makes no call if there is a
connection already. -/
theorem Connects.head? (h : c.Connects xs (r, c')) :
    xs.head?.map Sigma.fst = if c.isConnected then none else some c.firstCall := by
  cases h with
  | already hc => simp [hc]
  | noClient hc hxs => simpa [hc] using hxs.head? []
  | noCore hc hxs e =>
    rw [hc]
    exact hxs.head? _
  | made hc hxs =>
    rw [hc]
    exact hxs.head? _

theorem Connects.default_iff (h : c.Connects xs (r, c')) :
    (∃ r', ⟨.newClient none, r'⟩ ∈ xs) ↔
      ∃ m, ⟨.loadInCluster, .error (.noClusterSettings m)⟩ ∈ xs ∨
        ⟨.apiClient, .error (.noClusterSettings m)⟩ ∈ xs := by
  cases h with
  | already hc => simp
  | noClient hc hxs => exact hxs.default_iff
  | noCore hc hxs e => simpa using hxs.default_iff
  | made hc hxs => simpa using hxs.default_iff

/-- There is a connection if there was one, or else if an interface to the core objects was got. -/
theorem Connects.isConnected_iff (h : c.Connects xs (r, c')) :
    c'.isConnected = true ↔ c.isConnected = true ∨ ⟨.coreApi, .ok ()⟩ ∈ xs := by
  cases h with
  | already hc => simp [hc]
  | noClient hc hxs => simp [hc, hxs.coreApi_not_mem]
  | noCore hc hxs e => simp [hc, hxs.coreApi_not_mem]
  | made hc hxs => simp

theorem Connects.attached (h : c.Connects xs (r, c')) (hc : c.Attached) : c'.Attached := by
  cases h with
  | already hconnected => exact hc
  | noClient hconnected hxs =>
    rw [Attached, hconnected] at hc
    exact hc
  | noCore hconnected hxs e =>
    rw [Attached, hconnected] at hc
    exact hc
  | made hconnected hxs => rfl

/-- Connecting fails with a failure to connect, and without a connection. -/
theorem Connects.refused {e : Failure} (h : c.Connects xs (.error e, c')) :
    c'.isConnected = false ∧ ∃ cause, e = .connection cause := by
  cases h <;> exact ⟨rfl, _, rfl⟩

/-- There is a connection if connecting does not fail. -/
theorem Connects.isConnected (h : c.Connects xs (.ok (), c')) : c'.isConnected = true := by
  cases h with
  | already hc => exact hc
  | made hc hxs => rfl

theorem Connects.settings (h : c.Connects xs (r, c')) :
    c'.kubeconfig = c.kubeconfig ∧ c'.context = c.context := by
  cases h <;> exact ⟨rfl, rfl⟩

theorem Connects.kept (h : c.Connects xs (r, c')) (hc : c.isConnected = true) : c' = c := by
  have hno : ¬c.isConnected = false := by simp [hc]
  cases h with
  | already _ => rfl
  | noClient h _ => exact absurd h hno
  | noCore h _ _ => exact absurd h hno
  | made h _ => exact absurd h hno

end Connects

/-! ## Requests -/

theorem send_only (q : Request) : (send q).Only fun call => call.isRequest = true := by
  cases q with
  | get kind key =>
    rw [send]
    cases Kind.ofValue kind with
    | error e => exact trivial
    | ok known => exact ⟨rfl, fun _ => trivial⟩
  | create r =>
    rw [send]
    cases target r with
    | error e => exact trivial
    | ok x => exact ⟨rfl, fun reply => by cases reply <;> exact trivial⟩
  | update r =>
    rw [send]
    cases target r with
    | error e => exact trivial
    | ok x => exact ⟨rfl, fun reply => by cases reply <;> exact trivial⟩
  | list kind space selector =>
    rw [send]
    cases Kind.ofValue kind with
    | error e => exact trivial
    | ok known => exact ⟨rfl, fun _ => trivial⟩

/-- The ways in which a request can go. If connecting fails, it is answered by that failure.
Otherwise it is sent over the connection, in the state that connecting left. -/
inductive Serves (api : (q : Call) → S → q.Reply × S) (q : Request) (c : Connection) (s : S) :
    List Exchange → q.Reply → Connection → S → Prop
  | refused {xs : List Exchange} {e : Failure} {c' : Connection} {s' : S}
    (hxs : c.Connects xs (.error e, c')) (hs : Script.Answered api s xs s') :
    Serves api q c s xs (q.refuse e) c' s'
  | sent {xs : List Exchange} {c' : Connection} {s' : S} (hxs : c.Connects xs (.ok (), c'))
    (hs : Script.Answered api s xs s') :
    Serves api q c s (xs ++ (send q).exchanges api s') ((send q).run api s').result c'
      ((send q).run api s').state

theorem serves_serve (q : Request) {c : Connection} (hc : c.Attached) (s : S) :
    let o := (serve q c).run api s
    Serves api q c s ((serve q c).exchanges api s) o.result.1 o.result.2 o.state := by
  have hconnects := @connects_ensure S api c s
  have hanswered := @Script.answered_exchanges _ _ _ S api c.ensure s
  simp only [serve, Script.exchanges_bind, Script.run_bind]
  rcases hensure : (c.ensure.run api s).result with ⟨r, c'⟩
  rw [hensure] at hconnects
  cases r with
  | error e =>
    simp only [Script.exchanges, Script.run, List.append_nil]
    exact .refused hconnects hanswered
  | ok u =>
    have hcore : c'.hasCore = true := (hconnects.attached hc).symm.trans hconnects.isConnected
    simp only [hcore, if_true, Script.exchanges_bind, Script.run_bind, Script.exchanges,
      Script.run, List.append_nil]
    exact .sent hconnects hanswered

/-- Calls about objects are not those that set up the connection. -/
theorem mem_append_sent {setup sent : List Exchange} (hsent : ∀ x ∈ sent, x.1.isRequest = true)
    {x : Exchange} (hx : x.1.isSetup = true) : x ∈ setup ++ sent ↔ x ∈ setup := by
  refine ⟨fun h => ?_, List.mem_append_left _⟩
  rcases List.mem_append.1 h with h | h
  · exact h
  · rw [Call.isSetup_of_isRequest (hsent x h)] at hx
    exact nomatch hx

section Serves

variable {q : Request} {c c' : Connection} {s s' : S} {calls : List Exchange} {reply : q.Reply}

/-- What is asked about objects comes last, and what connects before it. -/
theorem Serves.parts (h : Serves api q c s calls reply c' s') : ∃ setup sent r,
    calls = setup ++ sent ∧ c.Connects setup (r, c') ∧ (∀ x ∈ sent, x.1.isRequest = true) := by
  cases h with
  | refused hxs hs =>
    exact ⟨_, [], _, (List.append_nil _).symm, hxs, fun x hx => absurd hx List.not_mem_nil⟩
  | sent hxs hs => exact ⟨_, _, _, rfl, hxs, (send_only q).exchanges _⟩

/-- After connecting, the request is answered as it is over a connection, or refused. -/
theorem Serves.replied (h : Serves api q c s calls reply c' s') : ∃ setup sent,
    calls = setup ++ sent ∧ (∀ x ∈ setup, x.1.isSetup = true) ∧
      ((∃ mid, sent = (send q).exchanges api mid ∧ reply = ((send q).run api mid).result) ∨
        sent = [] ∧ ∃ e, reply = q.refuse (.connection e)) := by
  cases h with
  | refused hxs hs =>
    obtain ⟨-, e, rfl⟩ := hxs.refused
    exact ⟨_, [], (List.append_nil _).symm, hxs.isSetup, Or.inr ⟨rfl, e, rfl⟩⟩
  | sent hxs hs => exact ⟨_, _, rfl, hxs.isSetup, Or.inl ⟨_, rfl, rfl⟩⟩

theorem Serves.attached (h : Serves api q c s calls reply c' s') (hc : c.Attached) :
    c'.Attached := by
  obtain ⟨setup, sent, r, -, hconnects, -⟩ := h.parts
  exact hconnects.attached hc

theorem Serves.settings (h : Serves api q c s calls reply c' s') :
    c'.kubeconfig = c.kubeconfig ∧ c'.context = c.context := by
  obtain ⟨setup, sent, r, -, hconnects, -⟩ := h.parts
  exact hconnects.settings

/-- Without a connection, a request begins with connecting. -/
theorem Serves.head? (h : Serves api q c s calls reply c' s') (hc : c.isConnected = false) :
    calls.head?.map Sigma.fst = some c.firstCall := by
  obtain ⟨setup, sent, r, rfl, hconnects, -⟩ := h.parts
  have hfirst := hconnects.head?
  rw [hc] at hfirst
  cases setup with
  | nil => cases hfirst
  | cons x setup => exact hfirst

/-- Over a connection there are no calls but those about objects, and the connection stays. -/
theorem Serves.kept (h : Serves api q c s calls reply c' s') (hc : c.isConnected = true) :
    (∀ x ∈ calls, x.1.isRequest = true) ∧ c' = c := by
  obtain ⟨setup, sent, r, rfl, hconnects, hsent⟩ := h.parts
  have hfirst := hconnects.head?
  rw [hc] at hfirst
  cases setup with
  | nil => exact ⟨hsent, hconnects.kept hc⟩
  | cons x setup => cases hfirst

/-- If there is no connection after a request, connecting has failed, and nothing was asked about
objects. -/
theorem Serves.failed (h : Serves api q c s calls reply c' s') (hc : c'.isConnected = false) :
    (∀ x ∈ calls, x.1.isRequest = false) ∧ ∃ e, reply = q.refuse (.connection e) := by
  cases h with
  | refused hxs hs =>
    obtain ⟨-, e, rfl⟩ := hxs.refused
    refine ⟨fun x hx => Bool.eq_false_iff.2 fun hrequest => ?_, e, rfl⟩
    exact absurd (hxs.isSetup x hx) (by simp [Call.isSetup_of_isRequest hrequest])
  | sent hxs hs => exact absurd (hxs.isConnected.symm.trans hc) (by decide)

/-- The default settings file is tried exactly if there are no settings of the cluster that this
runs in. -/
theorem Serves.default_iff (h : Serves api q c s calls reply c' s') :
    (∃ r, ⟨.newClient none, r⟩ ∈ calls) ↔
      ∃ m, ⟨.loadInCluster, .error (.noClusterSettings m)⟩ ∈ calls ∨
        ⟨.apiClient, .error (.noClusterSettings m)⟩ ∈ calls := by
  obtain ⟨setup, sent, r, rfl, hconnects, hsent⟩ := h.parts
  have hnew := fun r' => @mem_append_sent setup sent hsent ⟨.newClient none, r'⟩ rfl
  have hload := fun r' => @mem_append_sent setup sent hsent ⟨.loadInCluster, r'⟩ rfl
  have hclient := fun r' => @mem_append_sent setup sent hsent ⟨.apiClient, r'⟩ rfl
  simp only [hnew, hload, hclient]
  exact hconnects.default_iff

theorem Serves.isConnected_iff (h : Serves api q c s calls reply c' s') :
    c'.isConnected = true ↔ c.isConnected = true ∨ ⟨.coreApi, .ok ()⟩ ∈ calls := by
  obtain ⟨setup, sent, r, rfl, hconnects, hsent⟩ := h.parts
  rw [@mem_append_sent setup sent hsent ⟨.coreApi, .ok ()⟩ rfl]
  exact hconnects.isConnected_iff

end Serves

/-- What a request does to a connection, and how it is answered. -/
structure Served (api : (q : Call) → S → q.Reply × S) (q : Request) (before : Connection)
    (started : S) (calls : List Exchange) (reply : q.Reply) (after : Connection) (ended : S) :
    Prop where
  attached : after.Attached
  settings : after.kubeconfig = before.kubeconfig ∧ after.context = before.context
  answered : Script.Answered api started calls ended
  /-- It is one of the ways in which a request can go. -/
  served : Serves api q before started calls reply after ended
  /-- Without a connection it begins with connecting. -/
  begun : before.isConnected = false → calls.head?.map Sigma.fst = some before.firstCall
  /-- A connection that is made is used as it is, and stays so whatever comes of the request. -/
  kept : before.isConnected = true → (∀ x ∈ calls, x.1.isRequest = true) ∧ after = before
  /-- There is a connection if there was one, or else if an interface to the core objects was
  got. -/
  connected : after.isConnected = true ↔ before.isConnected = true ∨ ⟨.coreApi, .ok ()⟩ ∈ calls
  /-- If there is none, connecting has failed, and there is no call about objects. -/
  failed : after.isConnected = false →
    (∀ x ∈ calls, x.1.isRequest = false) ∧ ∃ e, reply = q.refuse (.connection e)
  /-- The default settings file is tried exactly if there are no settings of the cluster that this
  runs in. -/
  default : (∃ r, ⟨.newClient none, r⟩ ∈ calls) ↔
    ∃ m, ⟨.loadInCluster, .error (.noClusterSettings m)⟩ ∈ calls ∨
      ⟨.apiClient, .error (.noClusterSettings m)⟩ ∈ calls

theorem served (q : Request) {c : Connection} (hc : c.Attached) (s : S) :
    let o := (serve q c).run api s
    Served api q c s ((serve q c).exchanges api s) o.result.1 o.result.2 o.state := by
  have h := @serves_serve S api q c hc s
  exact
    { attached := h.attached hc
      settings := h.settings
      answered := Script.answered_exchanges _ s
      served := h
      begun := h.head?
      kept := h.kept
      connected := h.isConnected_iff
      failed := h.failed
      default := h.default_iff }

/-! ## Closing -/

/-- There is a client that can be closed. -/
def Closable (c : Connection) : Prop :=
  ∃ client, c.client = some client ∧ client.closing ≠ .missing

/-- A connection that is no longer made. -/
def unmade (c : Connection) : Connection :=
  { c with client := none, hasCore := false }

/-- The ways in which a close can go. A client that can be closed is closed by one call. -/
inductive Closes (c : Connection) : List Exchange → Except Failure Unit → Connection → Prop
  /-- There is no client, or none that can be closed. -/
  | silent (hc : ¬c.Closable) : Closes c [] (.ok ()) c.unmade
  | closed (hc : c.Closable) : Closes c [⟨.close, .ok ()⟩] (.ok ()) c.unmade
  | failed (hc : c.Closable) (e : Failure) : Closes c [⟨.close, .error e⟩] (.error e) c

theorem closes_close (c : Connection) (s : S) :
    c.Closes (c.close.exchanges api s) (c.close.run api s).result.1
      (c.close.run api s).result.2 := by
  rw [close]
  rcases hclient : c.client with _ | ⟨⟨closing⟩⟩
  · exact .silent fun ⟨client, h, _⟩ => nomatch hclient.symm.trans h
  · cases closing with
    | missing =>
      refine .silent fun ⟨client, h, hne⟩ => hne ?_
      rw [← Option.some.inj (hclient.symm.trans h)]
    | plain | awaited =>
      have hclosable : c.Closable := ⟨_, hclient, by decide⟩
      simp only [Script.exchanges, Script.run, Script.Outcome.consAsked]
      cases (api .close s).1 with
      | error e => exact .failed hclosable e
      | ok u => exact .closed hclosable

section Closes

variable {c c' : Connection} {calls : List Exchange} {reply : Except Failure Unit}

theorem Closable.isConnected (h : c.Closable) : c.isConnected = true := by
  obtain ⟨client, hclient, -⟩ := h
  rw [Connection.isConnected, hclient, Option.isSome_some]

theorem Closes.attached (h : c.Closes calls reply c') (hc : c.Attached) : c'.Attached := by
  cases h with
  | failed hclosable e => exact hc
  | _ => rfl

theorem Closes.settings (h : c.Closes calls reply c') :
    c'.kubeconfig = c.kubeconfig ∧ c'.context = c.context := by
  cases h <;> exact ⟨rfl, rfl⟩

/-- The client is closed exactly if there is one that can be. -/
theorem Closes.called_iff (h : c.Closes calls reply c') :
    (∃ r, ⟨.close, r⟩ ∈ calls) ↔ c.Closable := by
  cases h with
  | silent hclosable =>
    exact iff_of_false (fun ⟨r, hr⟩ => absurd hr List.not_mem_nil) hclosable
  | closed hclosable => exact iff_of_true ⟨_, List.mem_singleton_self _⟩ hclosable
  | failed hclosable e => exact iff_of_true ⟨_, List.mem_singleton_self _⟩ hclosable

/-- There is a connection exactly if the client failed to close, which is then reported; the
connection stays as it is. -/
theorem Closes.outcome (h : c.Closes calls reply c') :
    (c'.isConnected = true ∧ c' = c ∧ ∃ e, ⟨.close, .error e⟩ ∈ calls ∧ reply = .error e) ∨
      (c'.isConnected = false ∧ (∀ e, ⟨.close, .error e⟩ ∉ calls) ∧ reply = .ok ()) := by
  cases h with
  | silent hclosable => exact Or.inr ⟨rfl, by simp, rfl⟩
  | closed hclosable => exact Or.inr ⟨rfl, by simp, rfl⟩
  | failed hclosable e =>
    exact Or.inl ⟨hclosable.isConnected, rfl, e, List.mem_singleton_self _, rfl⟩

end Closes

/-- What closing does to a connection. -/
structure Closed (api : (q : Call) → S → q.Reply × S) (before : Connection) (started : S)
    (calls : List Exchange) (reply : Except Failure Unit) (after : Connection) (ended : S) :
    Prop where
  attached : after.Attached
  settings : after.kubeconfig = before.kubeconfig ∧ after.context = before.context
  answered : Script.Answered api started calls ended
  /-- It is one of the ways in which a close can go. -/
  closed : before.Closes calls reply after
  /-- The client is closed exactly if there is one that can be. -/
  called : (∃ r, ⟨.close, r⟩ ∈ calls) ↔ before.Closable
  /-- The connection is gone, unless the client failed to close; then it stays as it is, and the
  failure is reported. -/
  outcome : (after.isConnected = true ∧ after = before ∧
      ∃ e, ⟨.close, .error e⟩ ∈ calls ∧ reply = .error e) ∨
    (after.isConnected = false ∧ (∀ e, ⟨.close, .error e⟩ ∉ calls) ∧ reply = .ok ())

theorem closed {c : Connection} (hc : c.Attached) (s : S) :
    let o := c.close.run api s
    Closed api c s (c.close.exchanges api s) o.result.1 o.result.2 o.state := by
  have h := @closes_close S api c s
  exact
    { attached := h.attached hc
      settings := h.settings
      answered := Script.answered_exchanges _ s
      closed := h
      called := h.called_iff
      outcome := h.outcome }

/-! ## One use after another -/

/-- A use of a connection. -/
inductive Use where
  | request (q : Request)
  | close

/-- The answer to a use. -/
abbrev Use.Reply : Use → Type
  | request q => q.Reply
  | close => Except Failure Unit

/-- What a use does. -/
def Use.script : (u : Use) → Connection → CallScript (u.Reply × Connection)
  | request q => serve q
  | close => Connection.close

/-- A use in a sequence of them : the connection and the state before it, the calls with their
answers, the answer to the use, the connection and the state after it. -/
structure Turn (S : Type) where
  use : Use
  before : Connection
  started : S
  calls : List Exchange
  reply : use.Reply
  after : Connection
  ended : S

/-- The uses of a connection one after another. -/
def turns (api : (q : Call) → S → q.Reply × S) : List Use → Connection → S → List (Turn S)
  | [], _, _ => []
  | u :: us, c, s =>
    let o := (u.script c).run api s
    ⟨u, c, s, (u.script c).exchanges api s, o.result.1, o.result.2, o.state⟩ ::
      turns api us o.result.2 o.state

/-- A use did what it should. -/
def Turn.Proper (api : (q : Call) → S → q.Reply × S) : Turn S → Prop
  | ⟨.request q, before, started, calls, reply, after, ended⟩ =>
    Served api q before started calls reply after ended
  | ⟨.close, before, started, calls, reply, after, ended⟩ =>
    Closed api before started calls reply after ended

theorem attached_new (kubeconfig context : Value) : (new kubeconfig context).Attached := rfl

/-- One use of a connection does what it should, and leaves a connection that can be used again. -/
theorem proper_use (u : Use) {c : Connection} (hc : c.Attached) (s : S) :
    let o := (u.script c).run api s
    Turn.Proper api ⟨u, c, s, (u.script c).exchanges api s, o.result.1, o.result.2, o.state⟩ ∧
      o.result.2.Attached := by
  cases u with
  | request q =>
    have h := @served S api q c hc s
    exact ⟨h, h.attached⟩
  | close =>
    have h := @closed S api c hc s
    exact ⟨h, h.attached⟩

/-- Each use is of the connection that the one before it left, in the state that it left. -/
def Linked : Connection → S → List (Turn S) → Prop
  | _, _, [] => True
  | c, s, t :: ts => t.before = c ∧ t.started = s ∧ Linked t.after t.ended ts

theorem linked_turns (us : List Use) (c : Connection) (s : S) : Linked c s (turns api us c s) := by
  induction us generalizing c s with
  | nil => exact trivial
  | cons u us ih => exact ⟨rfl, rfl, ih _ _⟩

theorem map_use_turns (us : List Use) (c : Connection) (s : S) :
    (turns api us c s).map Turn.use = us := by
  induction us generalizing c s with
  | nil => rfl
  | cons u us ih => exact congrArg (List.cons u) (ih _ _)

theorem proper_turns (us : List Use) {c : Connection} (hc : c.Attached) (s : S) :
    ∀ t ∈ turns api us c s, t.Proper api := by
  induction us generalizing c s with
  | nil => exact fun t ht => absurd ht List.not_mem_nil
  | cons u us ih =>
    obtain ⟨hproper, hattached⟩ := @proper_use S api u c hc s
    exact List.forall_mem_cons.2 ⟨hproper, ih hattached _⟩

/-- Whatever becomes of the calls, each use in any sequence of them does what it should, on the
connection and in the state that the use before it left; the first one on a connection that has not
been made. -/
theorem lifecycle (api : (q : Call) → S → q.Reply × S) (kubeconfig context : Value) (us : List Use)
    (s : S) :
    let ts := turns api us (new kubeconfig context) s
    ts.map Turn.use = us ∧ Linked (new kubeconfig context) s ts ∧ ∀ t ∈ ts, t.Proper api :=
  ⟨map_use_turns us _ s, linked_turns us _ s, proper_turns us (attached_new kubeconfig context) s⟩

/-- The answer that a call failed. -/
def failCall (e : Failure) : (q : Call) → q.Reply
  | .loadInCluster => .error e
  | .newClient _ => .error e
  | .apiClient => .error e
  | .coreApi => .error e
  | .read _ _ => .error e
  | .create _ _ _ => .error e
  | .replace _ _ _ => .error e
  | .list _ _ _ => .error e
  | .close => .error e

/-- A server whose next calls fail where a list has a failure for them. -/
def answerFlaky (q : Call) :
    List (Option Failure) × Server → q.Reply × List (Option Failure) × Server
  | (some e :: es, w) => (failCall e q, es, w)
  | (none :: es, w) => ((Server.answer q w).1, es, (Server.answer q w).2)
  | ([], w) => ((Server.answer q w).1, [], (Server.answer q w).2)

/-- The interface to the core objects fails, then a request, then the close of the client. -/
def threeFailures : List (Option Failure) :=
  [none, none, some (.runtime "no core objects"), none, none, none, some Server.absent,
   some (.runtime "still busy")]

/-- A connection that could not be made is made by the next request, outlives the failure of that
request and of a close, and is closed by the next one. -/
theorem lifecycle_madeAgain :
    let pod : ObjectName := ⟨"vt", "pod"⟩
    let get : Use := .request (.get (.text Kind.pod.name) pod)
    let ts := turns answerFlaky [get, get, .close, .close] (new .none .none)
      (threeFailures, Server.new)
    (∀ t ∈ ts, t.Proper answerFlaky) ∧
    (ts.map fun t => t.after.isConnected) = [false, true, true, false] ∧
    (ts.map fun t => t.calls.map Sigma.fst) =
      [[.loadInCluster, .newClient none, .coreApi],
       [.loadInCluster, .newClient none, .coreApi, .read .pod pod], [.close], [.close]] := by
  intro pod get ts
  exact ⟨(lifecycle answerFlaky .none .none [get, get, .close, .close] _).2.2, rfl, rfl⟩

end Connection

end VolumeTunnel
