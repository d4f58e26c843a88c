import VolumeTunnel.Proofs.Cluster.Lifecycle
import VolumeTunnel.Tunnel.Provision

/-!
# Conflicts

A cluster that refuses to create an object answers with a status, a phrase and a body. Whether the
object is there already is told by the status and by the reason in the body; only if the body gives
no reason, by the phrase (`Rejection.MeansTaken`). So a conflict whose body says nothing is taken
for an object that is there if its phrase happens to be that reason (`Connection.phrase_taken`).

* `Rejection.ReadAs` : the failure of a request that a rejection is read as;
* `Connection.exists_createServed` : a request to create makes one call about objects at most, and
  is answered as that call is;
* `Connection.conflicts_read` : how a request to create fails that was rejected, and when a secret
  counts as written.
-/

namespace VolumeTunnel

/-! ## Statuses -/

theorem Double.sameInt_unique {d : Double} {i j : Int} (hi : d.sameInt i = true)
    (hj : d.sameInt j = true) : i = j := by
  cases d with
  | finite s m q =>
    have hden : ((ratio m q).2 : Int) ≠ 0 :=
      Int.natCast_ne_zero.2 (Nat.pos_iff_ne_zero.1 (Nat.pow_pos Nat.two_pos))
    simp only [sameInt, beq_iff_eq] at hi hj
    exact Int.eq_of_mul_eq_mul_right hden (hi.symm.trans hj)
  | _ => exact nomatch hi

namespace Value

theorem int_same_comm (i : Int) (v : Value) : (int i).same v = v.same (.int i) := by
  cases v <;> simp [same, sameAsInt, toInt?, Bool.beq_comm]

/-- A value is equal to one integer at most. -/
theorem same_int_unique {v : Value} {i j : Int} (hi : v.same (.int i) = true)
    (hj : v.same (.int j) = true) : i = j := by
  rw [← int_same_comm] at hi hj
  simp only [same] at hi hj
  cases v with
  | float d => exact Double.sameInt_unique hi hj
  | bool b => exact (beq_iff_eq.1 hi).trans (beq_iff_eq.1 hj).symm
  | int k => exact (beq_iff_eq.1 hi).trans (beq_iff_eq.1 hj).symm
  | _ => cases hi

theorem eq_text_of_toValue {j : Json} {t : Text} (h : j.toValue = .text t) : j = .text t := by
  cases j <;> simp_all [Json.toValue]

/-- Where a value is asked for that is true, or else another, a text is the one or the other. -/
theorem orElse_eq_text_iff {v fallback : Value} {t : Text} (ht : t ≠ []) :
    v.orElse fallback = .text t ↔ v = .text t ∨ v.truthy = false ∧ fallback = .text t := by
  have htext : (Value.text t).truthy = true := by
    cases t with
    | nil => exact absurd rfl ht
    | cons c t => rfl
  cases hv : v.truthy with
  | true =>
    rw [orElse_of_true hv]
    simp
  | false =>
    rw [orElse_of_false hv]
    refine ⟨fun h => Or.inr ⟨rfl, h⟩, fun h => h.elim (fun hvt => ?_) And.right⟩
    rw [hvt, htext] at hv
    exact nomatch hv

end Value

/-! ## Reasons -/

namespace Rejection

variable {r : Rejection} {reason : Text}

/-- The reason in the body is a text exactly if the body is a document with that reason. -/
theorem statusReason_eq_text_iff (hne : reason ≠ []) :
    r.statusReason = .text reason ↔ r.Says reason := by
  refine ⟨fun h => ?_, fun h => statusReason_of_says h hne⟩
  have hreason {t : Text} (h : reasonIn t = .text reason) :
      ∃ j, Json.read? t = some j ∧ j.member? "reason" = some (.text reason) := by
    rw [reasonIn] at h
    split at h
    next j hread =>
      rcases (Value.orElse_eq_text_iff hne).1 h with hvalue | ⟨-, hnone⟩
      · cases hmember : j.member? "reason" with
        | none =>
          rw [hmember] at hvalue
          cases hvalue
        | some member =>
          rw [hmember] at hvalue
          exact ⟨j, hread, hmember.trans (congrArg some (Value.eq_text_of_toValue hvalue))⟩
      · cases hnone
    next => cases h
  rw [statusReason] at h
  split at h
  next t hbody =>
    obtain ⟨j, hread, hmember⟩ := hreason h
    exact ⟨t, j, Or.inl hbody, hread, hmember⟩
  next bs hbody =>
    obtain ⟨j, hread, hmember⟩ := hreason h
    exact ⟨_, j, Or.inr ⟨bs, hbody, rfl⟩, hread, hmember⟩
  next => cases h

/-- A reason in the body is true. -/
theorem statusReason_eq_none_iff : r.statusReason = .none ↔ r.statusReason.truthy = false := by
  have htrue (v : Value) : (v.orElse .none).truthy = false → v.orElse .none = .none := by
    rw [Value.orElse]
    split
    next hv => exact fun h => absurd (hv.symm.trans h) (by decide)
    next => exact fun _ => rfl
  have hreason (t : Text) : (reasonIn t).truthy = false → reasonIn t = .none := by
    rw [reasonIn]
    split
    next => exact htrue _
    next => exact fun _ => rfl
  refine ⟨fun h => by rw [h]; rfl, ?_⟩
  rw [statusReason]
  split
  next => exact hreason _
  next => exact hreason _
  next => exact fun _ => rfl

/-- The rejection counts as that of a request to create what is there : its status is 409, and the
reason is that in the body or, if the body gives none, the phrase. -/
def MeansTaken (r : Rejection) : Prop :=
  r.status.same (.int 409) = true ∧
    (r.Says "AlreadyExists" ∨ r.statusReason = .none ∧ r.reason = "AlreadyExists")

theorem fullReason_iff (hne : reason ≠ []) : r.fullReason = .text reason ↔
    r.Says reason ∨ r.statusReason = .none ∧ r.reason = .text reason := by
  rw [fullReason, Value.orElse_eq_text_iff hne, statusReason_eq_text_iff hne,
    statusReason_eq_none_iff]

/-- The failure of a request that a rejection is read as. -/
structure ReadAs (r : Rejection) (e : RequestFailure) : Prop where
  alreadyExists : e.kind = .alreadyExists ↔ r.MeansTaken
  notFound : e.kind = .notFound ↔ r.status.same (.int 404) = true
  /-- Any other rejection is a failure without a kind of its own. -/
  other : ¬r.MeansTaken → r.status.same (.int 404) = false → e.kind = .other r.status
  status : e.status = r.status ∨ e.status.same r.status = true

theorem failure_readAs (r : Rejection) (what : Text) : r.ReadAs (r.failure what) := by
  have hexclusive : r.status.same (.int 404) = true → ¬r.MeansTaken := fun habsent htaken =>
    absurd (Value.same_int_unique habsent htaken.1) (by decide)
  have hkind : (r.failure what).kind = r.failureKind := rfl
  have htaken : (r.status.same (.int 409) = true ∧ r.fullReason.same "AlreadyExists" = true) ↔
      r.MeansTaken :=
    and_congr_right fun _ => (Value.same_text_iff _ _).trans (fullReason_iff (by decide))
  rw [failureKind] at hkind
  by_cases habsent : r.status.same (.int 404) = true
  · rw [if_pos habsent] at hkind
    refine ⟨?_, iff_of_true hkind habsent, fun _ h => ?_, Or.inr ?_⟩
    · rw [hkind]
      exact iff_of_false (by simp) (hexclusive habsent)
    · exact absurd (habsent.symm.trans h) (by decide)
    · rw [RequestFailure.status, hkind, Value.int_same_comm]
      exact habsent
  · rw [if_neg habsent] at hkind
    by_cases hmeans : r.MeansTaken
    · rw [if_pos (htaken.2 hmeans)] at hkind
      refine ⟨iff_of_true hkind hmeans, ?_, fun h => absurd hmeans h, Or.inr ?_⟩
      · rw [hkind]
        exact iff_of_false (by simp) habsent
      · rw [RequestFailure.status, hkind, Value.int_same_comm]
        exact hmeans.1
    · rw [if_neg (hmeans ∘ htaken.1)] at hkind
      refine ⟨?_, ?_, fun _ _ => hkind, Or.inl ?_⟩
      · rw [hkind]
        exact iff_of_false (by simp) hmeans
      · rw [hkind]
        exact iff_of_false (by simp) habsent
      · rw [RequestFailure.status, hkind]

end Rejection

/-! ## Requests to create -/

theorem Resource.kindOf_error {resource : Resource} {e : Failure} (h : resource.kindOf = .error e) :
    ∃ typeName, e = .unsupportedObject typeName := by
  cases resource with
  | plain v => exact ⟨_, (Except.error.inj h).symm⟩
  | object o =>
    rw [kindOf, Object.kindOf] at h
    split at h
    · cases h
    · split at h
      · cases h
      · exact ⟨_, (Except.error.inj h).symm⟩

theorem Kind.ofValue_error {kind : Value} {e : Failure} (h : ofValue kind = .error e) :
    e = .unsupportedKind kind ∨ ∃ fault, e = .fault fault := by
  cases hkey : kind.unhashable? with
  | some typeName =>
    simp only [ofValue, hkey] at h
    exact Or.inr ⟨_, (Except.error.inj h).symm⟩
  | none =>
    simp only [ofValue, hkey] at h
    split at h
    · split at h
      · cases h
      · exact Or.inl (Except.error.inj h).symm
    · obtain rfl := Except.error.inj h
      cases hw : kind.isWritable with
      | true => exact Or.inl (Failure.naming_of_isWritable hw _)
      | false => exact Or.inr ⟨_, Failure.naming_of_not_isWritable hw _⟩

theorem Object.metadata?_error {o : Object} {e : Failure} (h : o.metadata? = .error e) :
    e = .fault .noSuchPart := by
  rw [metadata?] at h
  split at h
  · cases h
  · exact (Except.error.inj h).symm

namespace Connection

theorem target_error {resource : Resource} {e : Failure} (h : target resource = .error e) :
    e.isAlreadyExists = false := by
  rcases Failure.bind_eq_error.1 h with hkind | ⟨kind, -, h⟩
  · obtain ⟨typeName, rfl⟩ := Resource.kindOf_error hkind
    rfl
  rcases Failure.bind_eq_error.1 h with hknown | ⟨known, -, h⟩
  · rcases Kind.ofValue_error hknown with rfl | ⟨fault, rfl⟩ <;> rfl
  cases resource with
  | plain v => rw [← Except.error.inj h]; rfl
  | object o =>
    rcases Failure.bind_eq_error.1 h with hm | ⟨m, -, h⟩
    · rw [Object.metadata?_error hm]
      rfl
    · exact nomatch h

variable {S : Type} {api : (q : Call) → S → q.Reply × S}

/-- What comes of a request to create, by the calls about objects that are made for it : there is
none and the request fails, not because the object is there; or there is one, and the request is
answered as it is. -/
inductive CreateServed (api : (q : Call) → S → q.Reply × S) :
    List Exchange → Except Failure Object → Prop
  | unsent {e : Failure} (he : e.isAlreadyExists = false) : CreateServed api [] (.error e)
  | sent (known : Kind) (space : Value) (object : Object) (what : Text) (s : S) :
    CreateServed api [⟨.create known space object, (api (.create known space object) s).1⟩]
      (readReply what (api (.create known space object) s).1)

theorem createServed_send (resource : Resource) (s : S) :
    CreateServed api ((send (.create resource)).exchanges api s)
      ((send (.create resource)).run api s).result := by
  rw [send]
  cases htarget : target resource with
  | error e => exact .unsent (target_error htarget)
  | ok x =>
    obtain ⟨kind, known, object, key⟩ := x
    have h := @CreateServed.sent S api known key.space object
      ("Failed to create " ++ objectText kind key) s
    simp only [Script.exchanges, Script.run, Script.Outcome.consAsked]
    cases hanswer : (api (.create known key.space object) s).1 with
    | error e =>
      rw [hanswer] at h
      exact h
    | ok stored =>
      rw [hanswer] at h
      exact h

/-- The calls about objects come after those that connect. -/
theorem exists_createServed (resource : Resource) {c : Connection} (hc : c.Attached) (s : S) :
    ∃ setup sent, (serve (.create resource) c).exchanges api s = setup ++ sent ∧
      (∀ x ∈ setup, x.1.isSetup = true) ∧
      CreateServed api sent ((serve (.create resource) c).run api s).result.1 := by
  obtain ⟨setup, sent, hcalls, hsetup, hreplied⟩ :=
    (@serves_serve S api (.create resource) c hc s).replied
  refine ⟨setup, sent, hcalls, hsetup, ?_⟩
  rcases hreplied with ⟨mid, rfl, hreply⟩ | ⟨rfl, e, hreply⟩
  · rw [hreply]
    exact createServed_send resource mid
  · rw [hreply]
    exact .unsent rfl

/-! ## Secrets -/

/-- An answer to a call that creates means that the object is there : it was created, or it counts
as there. -/
def MeansThere (answer : Except Failure Object) : Prop :=
  (∃ stored, answer = .ok stored) ∨ ∃ r, answer = .error (.rejected r) ∧ r.MeansTaken

/-- The programming interface fails to create with failures of its own, not with those that they are
read as. -/
def FailsByItself (api : (q : Call) → S → q.Reply × S) : Prop :=
  ∀ known space object s e, (api (.create known space object) s).1 ≠ .error (.request e)

theorem isAlreadyExists_readRejection (what : Text) {e : Failure} (he : ∀ f, e ≠ .request f) :
    (e.readRejection what).isAlreadyExists = true ↔ ∃ r, e = .rejected r ∧ r.MeansTaken := by
  cases e with
  | rejected r =>
    have hkind : (Failure.request (r.failure what)).isAlreadyExists = true ↔
        (r.failure what).kind = .alreadyExists := by
      rcases r.failure what with ⟨kind, message, reason⟩
      cases kind <;> simp [Failure.isAlreadyExists]
    simp [Failure.readRejection, hkind, (r.failure_readAs what).alreadyExists]
  | request f => exact absurd rfl (he f)
  | _ => simp [Failure.readRejection, Failure.isAlreadyExists]

/-- A reply that is no failure, or one that the object is there, is the reply to such an answer. -/
theorem meansThere_iff (what : Text) {answer : Except Failure Object}
    (h : ∀ f, answer ≠ .error (.request f)) :
    (∀ e, readReply what answer = .error e → e.isAlreadyExists = true) ↔ MeansThere answer := by
  cases answer with
  | ok stored => exact iff_of_true (fun e he => nomatch he) (Or.inl ⟨stored, rfl⟩)
  | error e =>
    have hread := isAlreadyExists_readRejection what fun f he => h f (congrArg _ he)
    simp only [readReply, Except.mapError, Except.error.injEq, forall_eq', hread, MeansThere,
      reduceCtorEq, exists_false, false_or]

section Calls

variable {setup sent : List Exchange} {reply : Except Failure Object}

/-- The reply goes by the answer to the call that creates. -/
theorem CreateServed.reply_of_mem (h : CreateServed api sent reply)
    (hsetup : ∀ x ∈ setup, x.1.isSetup = true) {known : Kind} {space : Value} {object : Object}
    {answer : Except Failure Object} (hmem : ⟨.create known space object, answer⟩ ∈ setup ++ sent) :
    ∃ what, reply = readReply what answer := by
  rcases List.mem_append.1 hmem with hmem | hmem
  · exact nomatch hsetup _ hmem
  · cases h with
    | unsent he => exact absurd hmem List.not_mem_nil
    | sent known space object what s =>
      cases List.mem_singleton.1 hmem
      exact ⟨what, rfl⟩

theorem CreateServed.there_iff (h : CreateServed api sent reply) (hown : FailsByItself api)
    (hsetup : ∀ x ∈ setup, x.1.isSetup = true) :
    (∀ e, reply = .error e → e.isAlreadyExists = true) ↔ ∃ known space object answer,
      ⟨.create known space object, answer⟩ ∈ setup ++ sent ∧ MeansThere answer := by
  cases h with
  | @unsent e he =>
    refine iff_of_false (fun hall => ?_) ?_
    · exact absurd (he.symm.trans (hall e rfl)) (by decide)
    · rintro ⟨known, space, object, answer, hmem, -⟩
      rw [List.append_nil] at hmem
      exact nomatch hsetup _ hmem
  | sent known space object what s =>
    rw [meansThere_iff what (hown known space object s)]
    refine ⟨fun hthere => ⟨known, space, object, _, List.mem_append_right _ List.mem_cons_self,
      hthere⟩, ?_⟩
    rintro ⟨known', space', object', answer, hmem, hthere⟩
    rcases List.mem_append.1 hmem with hmem | hmem
    · exact nomatch hsetup _ hmem
    · cases List.mem_singleton.1 hmem
      exact hthere

end Calls

/-- A secret is created by a request, and nothing else is asked. -/
theorem createSecretOnce_of_metadata {resource : Resource} {m : Metadata}
    (hm : resource.metadata? = .ok m) (c : Connection) (s : S) :
    ((createSecretOnce resource).through serve c).exchanges api s =
        (serve (.create resource) c).exchanges api s ∧
      ((((createSecretOnce resource).through serve c).run api s).result.1 = .ok () ↔
        ∀ e, ((serve (.create resource) c).run api s).result.1 = .error e →
          e.isAlreadyExists = true) := by
  simp only [createSecretOnce, hm, Script.through, Script.exchanges_bind, Script.run_bind]
  rcases ((serve (.create resource) c).run api s).result with ⟨reply, c'⟩
  cases reply with
  | ok stored => exact ⟨List.append_nil _, iff_of_true rfl (by simp)⟩
  | error e =>
    cases he : e.isAlreadyExists with
    | true => simp [he, Script.through, Script.exchanges, Script.run, Script.Outcome.consTold]
    | false => simp [he, Script.through, Script.exchanges, Script.run]

/-- A step that writes a secret succeeds exactly if the call that creates it was answered, and the
answer means that the secret is there. -/
theorem createSecretOnce_iff (hown : FailsByItself api) (resource : Resource) {c : Connection}
    (hc : c.Attached) (s : S) :
    (((createSecretOnce resource).through serve c).run api s).result.1 = .ok () ↔
      ∃ known space object answer, ⟨.create known space object, answer⟩ ∈
        ((createSecretOnce resource).through serve c).exchanges api s ∧ MeansThere answer := by
  cases hm : resource.metadata? with
  | error e =>
    simp only [createSecretOnce, hm]
    refine iff_of_false (nomatch ·) ?_
    rintro ⟨known, space, object, answer, hmem, -⟩
    exact absurd hmem List.not_mem_nil
  | ok m =>
    obtain ⟨hcalls, hresult⟩ := @createSecretOnce_of_metadata S api _ _ hm c s
    obtain ⟨setup, sent, hparts, hsetup, hserved⟩ := @exists_createServed S api resource c hc s
    rw [hresult, hcalls, hparts]
    exact hserved.there_iff hown hsetup

/-- Whatever becomes of the calls, a request to create fails as the rejection says whose call was
rejected : because the object is there, because something is not, or without a kind of its own, and
with the same status. A secret counts as written exactly if the call that creates it succeeded, or
its rejection counts as one of what is there already. -/
theorem conflicts_read (hown : FailsByItself api) {c : Connection} (hc : c.Attached) (s : S) :
    (∀ resource known space object r, ⟨.create known space object, .error (.rejected r)⟩ ∈
        (serve (.create resource) c).exchanges api s →
      ∃ e, ((serve (.create resource) c).run api s).result.1 = .error (.request e) ∧ r.ReadAs e) ∧
    ∀ resource, (((createSecretOnce resource).through serve c).run api s).result.1 = .ok () ↔
      ∃ known space object answer, ⟨.create known space object, answer⟩ ∈
          ((createSecretOnce resource).through serve c).exchanges api s ∧
        ((∃ stored, answer = .ok stored) ∨
          ∃ r, answer = .error (.rejected r) ∧ r.status.same (.int 409) = true ∧
            (r.Says "AlreadyExists" ∨
              r.statusReason = .none ∧ r.reason = .text "AlreadyExists")) := by
  refine ⟨fun resource known space object r hmem => ?_, fun resource => ?_⟩
  · obtain ⟨setup, sent, hparts, hsetup, hserved⟩ := @exists_createServed S api resource c hc s
    rw [hparts] at hmem
    obtain ⟨what, hreply⟩ := hserved.reply_of_mem hsetup hmem
    exact ⟨r.failure what, hreply, r.failure_readAs what⟩
  · exact createSecretOnce_iff hown resource hc s

/-! ## An interface that rejects everything -/

/-- A programming interface that rejects every call about objects. -/
def rejecting (r : Rejection) : (q : Call) → Unit → q.Reply × Unit
  | .loadInCluster, s => (.ok (), s)
  | .newClient _, s => (.ok ⟨.plain⟩, s)
  | .apiClient, s => (.ok ⟨.plain⟩, s)
  | .coreApi, s => (.ok (), s)
  | .read _ _, s => (.error (.rejected r), s)
  | .create _ _ _, s => (.error (.rejected r), s)
  | .replace _ _ _, s => (.error (.rejected r), s)
  | .list _ _ _, s => (.error (.rejected r), s)
  | .close, s => (.ok (), s)

theorem failsByItself_rejecting (r : Rejection) : FailsByItself (rejecting r) :=
  fun _ _ _ _ _ => (nomatch ·)

/-- A secret without data. -/
def bareSecret : Object :=
  ⟨"Secret", none, none, some ⟨some "vt", some "tls", none⟩, none, none⟩

/-- The call that creates the secret comes after those that connect. -/
theorem mem_exchanges_rejecting (r : Rejection) :
    ⟨.create .secret (.text "vt") bareSecret, .error (.rejected r)⟩ ∈
      (serve (.create (.object bareSecret)) (.new .none .none)).exchanges (rejecting r) () := by
  refine List.mem_cons_of_mem _ (List.mem_cons_of_mem _ (List.mem_cons_of_mem _ ?_))
  exact List.mem_cons_self

theorem mem_secret_exchanges_rejecting (r : Rejection) :
    ⟨.create .secret (.text "vt") bareSecret, .error (.rejected r)⟩ ∈
      ((createSecretOnce (.object bareSecret)).through serve (.new .none .none)).exchanges
        (rejecting r) () := by
  have hmetadata : (Resource.object bareSecret).metadata? = .ok ⟨some "vt", some "tls", none⟩ := rfl
  rw [(createSecretOnce_of_metadata hmetadata _ ()).1]
  exact mem_exchanges_rejecting r

/-- The secret counts as written if the rejection counts as one of what is there. -/
theorem createSecretOnce_rejecting {r : Rejection} (h : r.MeansTaken) :
    (((createSecretOnce (.object bareSecret)).through serve (.new .none .none)).run
      (rejecting r) ()).result.1 = .ok () :=
  (createSecretOnce_iff (failsByItself_rejecting r) _ (attached_new .none .none) ()).2
    ⟨_, _, _, _, mem_secret_exchanges_rejecting r, Or.inr ⟨r, rfl, h⟩⟩

/-- A conflict with the given reason in its body, and with another as its phrase. -/
def conflictFor (reason phrase : Text) : Rejection :=
  ⟨.int 409, .text phrase, Server.statusBody reason⟩

/-- The reason in the body comes before the phrase. A stale conflict is a failure without a kind of
its own, and a secret that is there counts as written. -/
theorem conflicts_read_bodies :
    let stale := conflictFor "Conflict" "AlreadyExists"
    let taken := conflictFor "AlreadyExists" "Conflict"
    let c := Connection.new .none .none
    c.Attached ∧ FailsByItself (rejecting stale) ∧ FailsByItself (rejecting taken) ∧
    (∃ e, ((serve (.create (.object bareSecret)) c).run (rejecting stale) ()).result.1 =
      .error (.request e) ∧ e.kind = .other (.int 409) ∧ e.status = .int 409) ∧
    (((createSecretOnce (.object bareSecret)).through serve c).run (rejecting taken) ()).result.1 =
      .ok () := by
  intro stale taken c
  refine ⟨rfl, failsByItself_rejecting stale, failsByItself_rejecting taken, ?_, ?_⟩
  · obtain ⟨hcreate, -⟩ := conflicts_read (failsByItself_rejecting stale) (attached_new .none .none) ()
    obtain ⟨e, he, hread⟩ := hcreate _ _ _ _ _ (mem_exchanges_rejecting stale)
    have hreason : stale.statusReason = .text "Conflict" :=
      Rejection.statusReason_of_says ⟨_, _, Or.inl rfl, rfl, rfl⟩ (by decide)
    have hmeans : ¬stale.MeansTaken := by
      rintro ⟨-, hnamed | ⟨hnone, -⟩⟩
      · have htaken := Rejection.statusReason_of_says hnamed (by decide)
        exact absurd (Value.text.inj (hreason.symm.trans htaken)) (by decide)
      · exact nomatch hreason.symm.trans hnone
    have hkind := hread.other hmeans ((Value.same_int 409 404).trans (by decide))
    exact ⟨e, he, hkind, by rw [RequestFailure.status, hkind]; rfl⟩
  · obtain ⟨-, hsecret⟩ := conflicts_read (failsByItself_rejecting taken) (attached_new .none .none) ()
    have hnamed : taken.Says "AlreadyExists" := ⟨_, _, Or.inl rfl, rfl, rfl⟩
    exact (hsecret (.object bareSecret)).2 ⟨_, _, _, _, mem_secret_exchanges_rejecting taken,
      Or.inr ⟨taken, rfl, Value.same_int 409 409, Or.inl hnamed⟩⟩

/-- A conflict whose body gives no reason and whose phrase is that reason. -/
def phrasedConflict : Rejection :=
  ⟨.int 409, "AlreadyExists", .none⟩

/-- The secret counts as written, although no body says that it is there. -/
theorem phrase_taken :
    ¬phrasedConflict.Says "AlreadyExists" ∧
    (∀ what, (phrasedConflict.failure what).kind = .alreadyExists) ∧
    (((createSecretOnce (.object bareSecret)).through serve (.new .none .none)).run
      (rejecting phrasedConflict) ()).result.1 = .ok () ∧
    ¬∀ (r : Rejection) (what : Text), (r.failure what).kind = .alreadyExists ↔
      r.status.same (.int 409) = true ∧ r.Says "AlreadyExists" := by
  have hnamed : ¬phrasedConflict.Says "AlreadyExists" := by
    rintro ⟨t, j, hbody | ⟨bs, hbody, -⟩, -⟩ <;> exact nomatch hbody
  have hmeans : phrasedConflict.MeansTaken := ⟨Value.same_int 409 409, Or.inr ⟨rfl, rfl⟩⟩
  have hkind (what : Text) : (phrasedConflict.failure what).kind = .alreadyExists :=
    (phrasedConflict.failure_readAs what).alreadyExists.2 hmeans
  exact ⟨hnamed, hkind, createSecretOnce_rejecting hmeans,
    fun h => hnamed ((h phrasedConflict []).1 (hkind [])).2⟩

end Connection

end VolumeTunnel
