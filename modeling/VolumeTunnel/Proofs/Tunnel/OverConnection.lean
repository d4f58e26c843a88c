import VolumeTunnel.Proofs.Cluster.Refinement
import VolumeTunnel.Proofs.Tunnel.History

/-!
# Requests and calls over a connection

A connection over a programming interface that is a keyed store is itself as good as one. Any
requests about objects of known kinds get the same replies as from a store in memory, by one call
each, and leave the same objects (`Request.inTurn_agree`). So do the requests of any calls that
provision tunnel ends (`Provisioning.inTurn_agree`) : they succeed or fail alike, although the texts
of the failures differ.
-/

namespace VolumeTunnel

/-- Scripts that get along with any replies that agree. -/
abbrev Robust {α β : Type} (post : α → β → Prop) : ClusterScript α → ClusterScript β → Prop :=
  Script.Agree Request.Proper Request.Agree post

/-! ## Requests -/

namespace Request

/-- Requests one after another, with their replies. -/
def inTurn : List Request → ClusterScript (List ((q : Request) × q.Reply))
  | [] => .done []
  | q :: qs => .ask q fun r => (inTurn qs).bind fun rs => .done (⟨q, r⟩ :: rs)

/-- Replies to the same request that agree. -/
inductive SameExchange : (q : Request) × q.Reply → (q : Request) × q.Reply → Prop
  | mk {q : Request} {r r' : q.Reply} (h : q.Agree r r') : SameExchange ⟨q, r⟩ ⟨q, r'⟩

theorem inTurn_agree {qs : List Request} (hqs : ∀ q ∈ qs, q.Proper) :
    Robust (List.Forall₂ SameExchange) (inTurn qs) (inTurn qs) := by
  induction qs with
  | nil => exact .done List.Forall₂.nil
  | cons q qs ih =>
    refine .ask (hqs q List.mem_cons_self) fun r r' h => ?_
    refine (ih fun q' hq' => hqs q' (List.mem_cons_of_mem _ hq')).bind fun rs rs' hrs => ?_
    exact .done (List.Forall₂.cons (.mk h) hrs)

theorem asked_inTurn {S : Type} (answer : (q : Request) → S → q.Reply × S) (qs : List Request)
    (s : S) : ((inTurn qs).run answer s).asked = qs := by
  induction qs generalizing s with
  | nil => rfl
  | cons q qs ih =>
    simp only [inTurn, Script.run, Script.Outcome.consAsked, Script.run_bind, ih, List.append_nil]

end Request

/-! ## Calls -/

theorem Failure.isAlreadyExists_of_alreadyExists {e : RequestFailure} (h : e.kind = .alreadyExists) :
    (Failure.request e).isAlreadyExists = true := by
  obtain ⟨kind, message, reason⟩ := e
  obtain rfl : kind = .alreadyExists := h
  rfl

theorem Failure.isAlreadyExists_of_notFound {e : RequestFailure} (h : e.kind = .notFound) :
    (Failure.request e).isAlreadyExists = false := by
  obtain ⟨kind, message, reason⟩ := e
  obtain rfl : kind = .notFound := h
  rfl

/-- Two steps that both succeed or both fail. -/
def SameStep (r r' : Except Failure Unit) : Prop :=
  r = .ok () ↔ r' = .ok ()

theorem SameStep.of_errors (e e' : Failure) : SameStep (.error e) (.error e') :=
  ⟨(nomatch ·), (nomatch ·)⟩

variable {o : Object} {p : Place}

theorem applyConfigMap_agree (ho : o.place? = some p) :
    Robust SameStep (applyConfigMap (.object o)) (applyConfigMap (.object o)) := by
  obtain ⟨m, hm⟩ := Object.exists_metadata ho
  simp only [applyConfigMap, hm]
  refine .ask (.create ho) fun r r' (h : Request.SameReply r r') => ?_
  cases h with
  | ok x => exact .tell (.done Iff.rfl)
  | notFound h h' =>
    simp only [Failure.isAlreadyExists_of_notFound h, Failure.isAlreadyExists_of_notFound h']
    exact .done (.of_errors _ _)
  | alreadyExists h h' =>
    simp only [Failure.isAlreadyExists_of_alreadyExists h,
      Failure.isAlreadyExists_of_alreadyExists h', if_true]
    refine .ask (.update ho) fun r r' (h : Request.SameReply r r') => ?_
    cases h with
    | ok x => exact .tell (.done Iff.rfl)
    | notFound h h' => exact .done (.of_errors _ _)
    | alreadyExists h h' => exact .done (.of_errors _ _)

theorem createSecretOnce_agree (ho : o.place? = some p) :
    Robust SameStep (createSecretOnce (.object o)) (createSecretOnce (.object o)) := by
  obtain ⟨m, hm⟩ := Object.exists_metadata ho
  simp only [createSecretOnce, hm]
  refine .ask (.create ho) fun r r' (h : Request.SameReply r r') => ?_
  cases h with
  | ok x => exact .tell (.done Iff.rfl)
  | notFound h h' =>
    simp only [Failure.isAlreadyExists_of_notFound h, Failure.isAlreadyExists_of_notFound h']
    exact .done (.of_errors _ _)
  | alreadyExists h h' =>
    simp only [Failure.isAlreadyExists_of_alreadyExists h,
      Failure.isAlreadyExists_of_alreadyExists h', if_true]
    exact .tell (.done Iff.rfl)

namespace Provisioning

variable {c : Provisioning}

/-- Two outcomes of a call that agree : both succeed or both fail, and leave the same tunnel. -/
structure SameOutcome (r r' : Except Failure Unit × Tunnel) : Prop where
  result : SameStep r.1 r'.1
  tunnel : r.2 = r'.2

theorem configScript_agree (hc : c.Typed) : Robust SameStep c.configScript c.configScript := by
  rw [configScript, Tunnel.provisionConfig]
  cases h : c.tunnel.endConfigMap c.side c.scope c.endpoint with
  | error e => exact .done Iff.rfl
  | ok o => exact applyConfigMap_agree (place?_configMap hc h)

theorem secretScript_agree (hc : c.Typed) : Robust SameStep c.secretScript c.secretScript := by
  rw [secretScript, Tunnel.provisionSecret]
  cases h : c.tunnel.endSecret c.side c.scope c.endpoint with
  | error e => exact .done Iff.rfl
  | ok o => exact createSecretOnce_agree (place?_secret hc h)

theorem finish_agree {a a' b b' : Except Failure Unit} (ha : SameStep a a') (hb : SameStep b b') :
    SameOutcome (c.tunnel.finish c.side c.scope c.endpoint [a, b])
      (c.tunnel.finish c.side c.scope c.endpoint [a', b']) := by
  rw [Tunnel.finish, Tunnel.finish]
  cases c.tunnel.endParts c.side c.scope c.endpoint with
  | error e => exact ⟨Iff.rfl, rfl⟩
  | ok parts =>
    exact ⟨report_pair_eq_ok.trans ((and_congr ha hb).trans report_pair_eq_ok.symm), rfl⟩

theorem script_agree (hc : c.Typed) : Robust SameOutcome c.script c.script :=
  (configScript_agree hc).bind fun _ _ ha => (secretScript_agree hc).bind fun _ _ hb =>
    .done (finish_agree ha hb)

theorem inTurn_agree {cs : List Provisioning} (hcs : ∀ c ∈ cs, c.Typed) :
    Robust (List.Forall₂ SameOutcome) (inTurn cs) (inTurn cs) := by
  induction cs with
  | nil => exact .done List.Forall₂.nil
  | cons c cs ih =>
    refine (script_agree (hcs c List.mem_cons_self)).bind fun r r' hr => ?_
    refine (ih fun d hd => hcs d (List.mem_cons_of_mem _ hd)).bind fun rs rs' hrs => ?_
    exact .done (List.Forall₂.cons hr hrs)

end Provisioning

/-! ## Both over a connection -/

namespace Connection

variable {S : Type} {api : (q : Call) → S → q.Reply × S} {shows : S → Store → Prop}

/-- The outcomes over a connection and on a store in memory, of which the second shows what the
first comes to : results related by `post`, the same objects left, and one call for each request. -/
structure LikeStore {α : Type} (post : α → α → Prop) (shows : S → Store → Prop)
    (o : Script.Outcome Call S (α × Connection)) (r : Script.Outcome Request Store α) : Prop where
  results : post o.result.1 r.result
  objects : shows o.state r.state
  calls : List.Forall₂ Request.Issues r.asked (o.asked.filter Call.isRequest)

theorem likeStore_of_robust {α : Type} {post : α → α → Prop} {x : ClusterScript α}
    (hx : Robust post x x) (hapi : KeyedApi api shows) {c : Connection} (hc : c.Consistent) {s : S}
    {st : Store} (hs : shows s st) :
    LikeStore post shows ((x.through serve c).run api s) (x.run Store.answer st) := by
  obtain ⟨hpost, ⟨-, hshows⟩, hcalls⟩ := hx.through (refines hapi) ⟨hc, hs⟩
  exact ⟨hpost, hshows, hcalls⟩

/-- A connection over a keyed store refines a store in memory, for any requests about objects of
known kinds and for any calls that provision tunnel ends. -/
theorem like_store (hapi : KeyedApi api shows) {c : Connection} (hc : c.Consistent) {s : S}
    {st : Store} (hs : shows s st) :
    (∀ qs : List Request, (∀ q ∈ qs, q.Proper) →
      ((Request.inTurn qs).run Store.answer st).asked = qs ∧
      LikeStore (List.Forall₂ Request.SameExchange) shows
        (((Request.inTurn qs).through serve c).run api s)
        ((Request.inTurn qs).run Store.answer st)) ∧
    ∀ ps : List Provisioning, (∀ p ∈ ps, p.Typed) →
      LikeStore (List.Forall₂ Provisioning.SameOutcome) shows
        (((Provisioning.inTurn ps).through serve c).run api s)
        ((Provisioning.inTurn ps).run Store.answer st) :=
  ⟨fun qs hqs => ⟨Request.asked_inTurn _ qs st,
      likeStore_of_robust (Request.inTurn_agree hqs) hapi hc hs⟩,
    fun _ hps => likeStore_of_robust (Provisioning.inTurn_agree hps) hapi hc hs⟩

/-- A config map that does not say its kind. -/
def unnamedConfigMap : Object :=
  ⟨"ConfigMap", none, none, some ⟨some "src", some "settings", none⟩, none, none⟩

/-- On a server without objects, a config map is created twice and read, what is not there is
updated and read, and all are listed; then both ends of a tunnel are provisioned. -/
theorem like_store_server :
    let qs : List Request := [.create (.object unnamedConfigMap), .create (.object unnamedConfigMap),
      .get (.text Kind.configMap.name) ⟨.text "src", .text "settings"⟩,
      .update (.object (Tunnel.secret ⟨some "dst", some "pair", none⟩ [1] [2])),
      .get (.text Kind.pod.name) ⟨.text "src", .text "pod"⟩,
      .list (.text Kind.configMap.name) (.text "src") .none]
    let ps : List Provisioning := [.plain .client [1] [2], .plain .server [1] [2]]
    LikeStore (List.Forall₂ Request.SameExchange) Server.Serves
      (((Request.inTurn qs).through serve (new .none .none)).run Server.answer .new)
      ((Request.inTurn qs).run Store.answer .empty) ∧
    LikeStore (List.Forall₂ Provisioning.SameOutcome) Server.Serves
      (((Provisioning.inTurn ps).through serve (new .none .none)).run Server.answer .new)
      ((Provisioning.inTurn ps).run Store.answer .empty) := by
  have hserves : Server.new.Serves .empty := ⟨Or.inr ⟨_, rfl⟩, rfl, rfl, rfl, rfl⟩
  have h := like_store Server.keyedApi (consistent_new .none .none) hserves
  refine ⟨(h.1 _ ?_).2, h.2 _ ?_⟩
  · intro q hq
    simp only [List.mem_cons, List.not_mem_nil, or_false] at hq
    rcases hq with rfl | rfl | rfl | rfl | rfl | rfl
    · exact .create rfl
    · exact .create rfl
    · exact .get .configMap "src" "settings"
    · exact .update rfl
    · exact .get .pod "src" "pod"
    · exact .list .configMap "src" (Or.inl rfl)
  · intro p hp
    simp only [List.mem_cons, List.not_mem_nil, or_false] at hp
    rcases hp with rfl | rfl <;> exact Provisioning.plain_typed _ _ _

end Connection

end VolumeTunnel
