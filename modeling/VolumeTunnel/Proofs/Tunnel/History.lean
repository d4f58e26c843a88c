import VolumeTunnel.Proofs.Tunnel.Steps

/-!
# Calls one after another

Any number of calls, by any tunnels, on a keyed store whose requests may be made to fail. The object
at the place of a config map is that of the last call for it whose config step completed
(`Provisioning.find?_after_configMap`). The object at the place of a secret is the one that was
there, otherwise that of the first call for it whose request was not made to fail
(`Provisioning.find?_after_secret`).

`Provisioning.History` puts this together : secrets are never changed, config maps follow the last
completed step, and each call leaves a secret behind unless its own request was made to fail.

* `Provisioning.inTurn` : the calls as one script, whose result is the list of theirs;
* `Provisioning.after` : the cluster after them;
* `Provisioning.lastConfigured`, `Provisioning.firstServed` : the calls that the objects are due to.
-/

namespace VolumeTunnel.Provisioning

open UnreliableStore (answer)

/-- The calls one after another. -/
def inTurn : List Provisioning → ClusterScript (List (Except Failure Unit × Tunnel))
  | [] => .done []
  | c :: cs => c.script.bind fun r => (inTurn cs).bind fun rs => .done (r :: rs)

/-- The cluster after the calls. -/
def after (cs : List Provisioning) (w : UnreliableStore) : UnreliableStore :=
  ((inTurn cs).run answer w).state

/-- The last of the calls for a place whose config step completed. -/
def lastConfigured (p : Place) : List Provisioning → UnreliableStore → Option Provisioning
  | [], _ => none
  | c :: cs, w =>
    match lastConfigured p cs (after [c] w) with
    | some d => some d
    | none => if c.configPlace.same p && c.configDone w then some c else none

/-- The first of the calls for a place whose request to create a secret was not made to fail. -/
def firstServed (p : Place) : List Provisioning → UnreliableStore → Option Provisioning
  | [], _ => none
  | c :: cs, w =>
    if c.secretPlace.same p && c.secretServed w then some c else firstServed p cs (after [c] w)

theorem firstServed_of_served {c : Provisioning} (hc : c.Typed) {w : UnreliableStore}
    (h : c.secretServed w = true) (cs : List Provisioning) :
    firstServed c.secretPlace (c :: cs) w = some c := by
  rw [firstServed, h, hc.secretPlace_textual.same_self]
  rfl

theorem after_singleton (c : Provisioning) (w : UnreliableStore) :
    after [c] w = (c.script.run answer w).state := by
  simp only [after, inTurn, Script.run_bind]
  rfl

theorem after_cons (c : Provisioning) (cs : List Provisioning) (w : UnreliableStore) :
    after (c :: cs) w = after cs (after [c] w) := by
  rw [after_singleton]
  simp only [after, inTurn, Script.run_bind]
  rfl

theorem after_append (cs ds : List Provisioning) (w : UnreliableStore) :
    after (cs ++ ds) w = after ds (after cs w) := by
  induction cs generalizing w with
  | nil => rfl
  | cons c cs ih => rw [List.cons_append, after_cons, ih, ← after_cons]

/-! ## Config maps -/

variable {cs : List Provisioning} {c : Provisioning} {p : Place}

theorem ne_secretPlace_of_kind (hp : p.kind = .text Kind.configMap.name) (c : Provisioning) :
    p ≠ c.secretPlace := by
  rintro rfl
  exact absurd (Value.text.inj hp) (by decide)

theorem ne_configPlace_of_kind (hp : p.kind = .text Kind.secret.name) (c : Provisioning) :
    p ≠ c.configPlace := by
  rintro rfl
  exact absurd (Value.text.inj hp) (by decide)

/-- A call changes the object at the place of a config map if and only if it is the place of its own
and its config step completes. -/
theorem find?_after_call_configMap (hc : c.Typed) (ht : p.Textual)
    (hp : p.kind = .text Kind.configMap.name) (w : UnreliableStore) :
    (after [c] w).store.find? p =
      if c.configPlace.same p && c.configDone w then c.configMap.toOption
      else w.store.find? p := by
  rw [after_singleton, find?_script_of_ne hc (ne_secretPlace_of_kind hp c)]
  rcases config_step w hc with ⟨hdone, o, ho, hs⟩ | ⟨hdone, hs⟩
  · rw [hs, hdone, Bool.and_true, ho]
    by_cases h : c.configPlace = p
    · rw [if_pos (ht.same_iff.2 h), ← h, Store.find?_put_self _ _ hc.configPlace_textual]
      rfl
    · rw [if_neg fun hsame => h (ht.same_iff.1 hsame),
        Store.find?_put_of_ne _ _ hc.configPlace_textual (Ne.symm h)]
  · rw [hs, hdone, Bool.and_false, if_neg Bool.false_ne_true]

/-- The object at the place of a config map is that of the last call for it whose config step
completed. -/
theorem find?_after_configMap (hcs : ∀ c ∈ cs, c.Typed) (ht : p.Textual)
    (hp : p.kind = .text Kind.configMap.name) (w : UnreliableStore) :
    (after cs w).store.find? p =
      match lastConfigured p cs w with
      | some c => c.configMap.toOption
      | none => w.store.find? p := by
  induction cs generalizing w with
  | nil => rfl
  | cons c cs ih =>
    rw [after_cons, ih fun d hd => hcs d (List.mem_cons_of_mem _ hd), lastConfigured]
    cases hlast : lastConfigured p cs (after [c] w) with
    | some d => rfl
    | none =>
      dsimp only
      rw [find?_after_call_configMap (hcs c List.mem_cons_self) ht hp]
      split <;> rfl

/-- A call whose config step completed has a config map. -/
theorem exists_configMap_of_configDone (hc : c.Typed) {w : UnreliableStore}
    (h : c.configDone w = true) : ∃ o, c.configMap = .ok o := by
  rcases config_step w hc with ⟨-, o, ho, -⟩ | ⟨hdone, -⟩
  · exact ⟨o, ho⟩
  · rw [h] at hdone
    exact nomatch hdone

theorem exists_of_lastConfigured (hcs : ∀ c ∈ cs, c.Typed) {w : UnreliableStore}
    (h : lastConfigured p cs w = some c) : ∃ o, c.configMap = .ok o := by
  induction cs generalizing w with
  | nil => exact nomatch h
  | cons d cs ih =>
    rw [lastConfigured] at h
    cases hlast : lastConfigured p cs (after [d] w) with
    | some d' =>
      rw [hlast] at h
      exact ih (fun d hd => hcs d (List.mem_cons_of_mem _ hd)) (hlast.trans h)
    | none =>
      rw [hlast] at h
      dsimp only at h
      split at h
      · next hdone =>
        obtain rfl := Option.some.inj h
        exact exists_configMap_of_configDone (hcs d List.mem_cons_self)
          (Bool.and_eq_true_iff.1 hdone).2
      · exact nomatch h

/-! ## Secrets -/

/-- A call changes the object at the place of a secret only if there is none, it is the place of its
own, and its request is not made to fail. -/
theorem find?_after_call_secret (hc : c.Typed) (ht : p.Textual)
    (hp : p.kind = .text Kind.secret.name) (w : UnreliableStore) :
    (after [c] w).store.find? p = (w.store.find? p).or
      (if c.secretPlace.same p && c.secretServed w then c.secret.toOption else none) := by
  have hconfig : (c.afterConfig w).store.find? p = w.store.find? p :=
    find?_afterConfig_of_ne hc (ne_configPlace_of_kind hp c)
  rw [after_singleton]
  cases hserved : c.secretServed w with
  | false =>
    rw [secret_step_failed hc hserved, hconfig, Bool.and_false, if_neg Bool.false_ne_true,
      Option.or_none]
  | true =>
    obtain ⟨m, ho⟩ := exists_secret hc
    rw [(secret_step_served hc ho hserved).2, Bool.and_true, ho]
    by_cases h : c.secretPlace = p
    · rw [if_pos (ht.same_iff.2 h), h, Store.find?_keep_self _ _ ht, hconfig]
      cases w.store.find? p <;> rfl
    · rw [if_neg fun hsame => h (ht.same_iff.1 hsame),
        Store.find?_keep_of_ne _ _ hc.secretPlace_textual (Ne.symm h), hconfig, Option.or_none]

/-- The object at the place of a secret is the one that was there, otherwise that of the first call
for it whose request was not made to fail. -/
theorem find?_after_secret (hcs : ∀ c ∈ cs, c.Typed) (ht : p.Textual)
    (hp : p.kind = .text Kind.secret.name) (w : UnreliableStore) :
    (after cs w).store.find? p = (w.store.find? p).or
      ((firstServed p cs w).bind fun c => c.secret.toOption) := by
  induction cs generalizing w with
  | nil => exact (Option.or_none).symm
  | cons c cs ih =>
    rw [after_cons, ih fun d hd => hcs d (List.mem_cons_of_mem _ hd),
      find?_after_call_secret (hcs c List.mem_cons_self) ht hp, Option.or_assoc, firstServed]
    split
    · obtain ⟨m, ho⟩ := exists_secret (hcs c List.mem_cons_self)
      rw [Option.bind_some, ho]
      rfl
    · rw [Option.none_or]

/-! ## Every moment of a run -/

/-- The calls send no requests but theirs. -/
theorem inTurn_only (cs : List Provisioning) :
    (inTurn cs).Only fun q => ∃ c ∈ cs, c.Sends q := by
  induction cs with
  | nil => exact trivial
  | cons c cs ih =>
    refine (c.script_only.imp fun q hq => ⟨c, List.mem_cons_self, hq⟩).bind fun r => ?_
    refine (ih.imp fun q hq => ?_).bind fun rs => trivial
    obtain ⟨d, hd, hq⟩ := hq
    exact ⟨d, List.mem_cons_of_mem _ hd, hq⟩

theorem reliable_after (cs : List Provisioning) {w : UnreliableStore} (hw : w.Reliable) :
    (after cs w).Reliable :=
  (inTurn_only cs).invariant (fun q _ _ h => h.answer q) hw

theorem honest_after (cs : List Provisioning) {w : UnreliableStore} (hw : w.Honest) :
    (after cs w).Honest :=
  (inTurn_only cs).invariant (fun q _ _ h => h.answer q) hw

/-- A request of a call changes no secret. -/
theorem find?_answer_of_some (hc : c.Typed) {q : Request} (hq : c.Sends q)
    (hp : p.kind = .text Kind.secret.name) {x : Object} {w : UnreliableStore}
    (h : w.store.find? p = some x) : (answer q w).2.store.find? p = some x := by
  rcases UnreliableStore.answer_cases q w with ⟨e, hs⟩ | hs
  · rw [hs]
    exact h
  · obtain ⟨o, p', ho, rfl | ⟨rfl, rfl⟩⟩ := hq.placed hc
    · rw [hs, Store.answer, UnreliableStore.next, Store.create_state ho]
      exact Store.find?_keep_of_some _ _ (Object.place?_textual ho) h
    · rw [hs, Store.answer, UnreliableStore.next,
        Store.find?_update_of_ne ho (ne_configPlace_of_kind hp c), h]

/-- Every secret of a cluster is there unchanged in a later state. -/
def SecretsKept (w w' : UnreliableStore) : Prop :=
  ∀ p x, p.kind = .text Kind.secret.name → w.store.find? p = some x → w'.store.find? p = some x

/-- A secret that is there at some moment of a run is there at every later moment. -/
theorem secretsKept_trail (hcs : ∀ c ∈ cs, c.Typed) (w : UnreliableStore) :
    ((inTurn cs).trail answer w).Pairwise SecretsKept := by
  refine (inTurn_only cs).pairwise_trail (fun st p x hp h => h)
    (fun st₁ st₂ st₃ h₁ h₂ p x hp h => h₂ p x hp (h₁ p x hp h)) ?_ w
  rintro q st ⟨c, hc, hq⟩ p x hp h
  exact find?_answer_of_some (hcs c hc) hq hp h

/-- Only config maps are updated. -/
theorem kindOf_of_update_mem (hcs : ∀ c ∈ cs, c.Typed) (w : UnreliableStore) {r : Resource}
    (h : Request.update r ∈ ((inTurn cs).run answer w).asked) :
    r.kindOf = .ok Kind.configMap.name := by
  obtain ⟨c, hc, hq⟩ := (inTurn_only cs).asked answer w _ h
  cases hq with
  | updateConfigMap ho =>
    obtain ⟨k, m, space, name, hkind, -, -, -, hplace⟩ :=
      Object.place?_eq_some (place?_configMap (hcs c hc) ho)
    have hk : Kind.configMap.name = k.name := Value.text.inj (congrArg Place.kind hplace)
    rw [Resource.kindOf, hkind, hk]

/-! ## All calls together -/

/-- What calls do to a cluster, whichever requests are made to fail. -/
structure History (cs : List Provisioning) (w : UnreliableStore) : Prop where
  /-- A secret that is there at some moment is there unchanged at every later one. -/
  secrets : ((inTurn cs).trail answer w).Pairwise SecretsKept
  /-- No secret is ever updated. -/
  updates : ∀ r, Request.update r ∈ ((inTurn cs).run answer w).asked →
    r.kindOf = .ok Kind.configMap.name
  /-- After each call, a config map is that of the last call for it whose config step completed,
  and as it was at the start if there is none. -/
  configMaps : ∀ earlier later, cs = earlier ++ later → ∀ space name,
    let p := Place.of Kind.configMap.name space name
    match lastConfigured p earlier w with
    | some c => ∃ o, c.configMap = .ok o ∧ (after earlier w).store.find? p = some o
    | none => (after earlier w).store.find? p = w.store.find? p
  /-- After a call whose request to create its secret was not made to fail, there is a secret : the
  one from before the call, or else the one with the certificate and the key of its tunnel. -/
  served : ∀ earlier c later, cs = earlier ++ c :: later →
    c.secretServed (after earlier w) = true →
      ∃ m, c.secret = .ok (Tunnel.secret m c.tunnel.certificate c.tunnel.privateKey) ∧
        (after (earlier ++ [c]) w).store.find? c.secretPlace =
          some (((after earlier w).store.find? c.secretPlace).getD
            (Tunnel.secret m c.tunnel.certificate c.tunnel.privateKey))

/-- Any calls, on any cluster, with any requests made to fail. -/
theorem history_of_calls (hcs : ∀ c ∈ cs, c.Typed) (w : UnreliableStore) : History cs w where
  secrets := secretsKept_trail hcs w
  updates r hr := kindOf_of_update_mem hcs w hr
  configMaps earlier later h space name := by
    have hearlier : ∀ c ∈ earlier, c.Typed := fun c hc =>
      hcs c (h ▸ List.mem_append_left _ hc)
    have hfind := find?_after_configMap hearlier
      (Place.textual_of Kind.configMap.name space name) rfl w
    dsimp only
    cases hlast : lastConfigured (Place.of Kind.configMap.name space name) earlier w with
    | some c =>
      obtain ⟨o, ho⟩ := exists_of_lastConfigured hearlier hlast
      rw [hlast] at hfind
      refine ⟨o, ho, hfind.trans ?_⟩
      dsimp only
      rw [ho]
      rfl
    | none =>
      rw [hlast] at hfind
      exact hfind
  served earlier c later h hserved := by
    have hc : c.Typed := hcs c (h ▸ List.mem_append_right _ List.mem_cons_self)
    obtain ⟨m, ho⟩ := exists_secret hc
    refine ⟨m, ho, ?_⟩
    rw [after_append, find?_after_call_secret hc hc.secretPlace_textual rfl, hserved,
      hc.secretPlace_textual.same_self, ho]
    cases (after earlier w).store.find? c.secretPlace <;> rfl

/-- Both sides are provisioned by two tunnels; the third request and all updates fail. -/
theorem history_of_four_calls :
    let cs := [plain .client [1] [2], plain .server [1] [2], plain .client [3] [4],
      plain .server [3] [4]]
    (∀ c ∈ cs, c.Typed) ∧ History cs ⟨.empty, fun n q =>
      if n = 2 then some (.runtime "down") else match q with
        | .update _ => some (.rejected ⟨.int 500, "", .none⟩)
        | _ => none⟩ := by
  have htyped : ∀ c ∈ [plain .client [1] [2], plain .server [1] [2], plain .client [3] [4],
      plain .server [3] [4]], c.Typed := by
    intro c hc
    simp only [List.mem_cons, List.not_mem_nil, or_false] at hc
    rcases hc with rfl | rfl | rfl | rfl <;> exact plain_typed _ _ _
  exact ⟨htyped, history_of_calls htyped _⟩

end VolumeTunnel.Provisioning
