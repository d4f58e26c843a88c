import VolumeTunnel.Proofs.Tunnel.Provisioning

/-!
# The two steps of a call

What a call does to a keyed store whose requests may fail, whatever was there and whichever requests
fail. The config step either puts the config map at its place or fails and changes nothing
(`run_applyConfigMap`). The secret step changes nothing if its request is made to fail, and
otherwise puts the secret at its place unless one is there (`run_createSecretOnce_failed`,
`run_createSecretOnce_served`).

`Provisioning.config_step`, `Provisioning.secret_step_served` and `Provisioning.secret_step_failed`
say the same of the steps of a call.
-/

namespace VolumeTunnel

open UnreliableStore (answer)

variable {o : Object} {p : Place}

/-! ## Single requests -/

/-- A request that is not made to fail creates an object or finds one there. -/
theorem UnreliableStore.answer_create_served (ho : o.place? = some p) {w : UnreliableStore}
    (hw : w.failure 0 (.create (.object o)) = none) :
    ((answer (.create (.object o)) w).1 = .ok o ∨
      (answer (.create (.object o)) w).1 = .error p.taken) ∧
    (answer (.create (.object o)) w).2.store = w.store.keep o p := by
  rw [answer_of_none hw, Store.answer]
  refine ⟨?_, Store.create_state ho⟩
  cases hp : w.store.find? p with
  | some x => exact Or.inr (by rw [Store.create_of_taken ho hp])
  | none => exact Or.inl (by rw [Store.create_of_free ho hp])

/-! ## The steps -/

/-- The config step puts its object at its place, or fails and leaves the store as it was. -/
theorem run_applyConfigMap (ho : o.place? = some p) (w : UnreliableStore) :
    w.store.Attempted o p ((applyConfigMap (.object o)).run answer w).result
      ((applyConfigMap (.object o)).run answer w).state.store := by
  obtain ⟨m, hm⟩ := Object.exists_metadata ho
  simp only [applyConfigMap, hm, Script.run, Script.Outcome.consAsked]
  rcases UnreliableStore.attempted_create ho w with ⟨⟨x, hr⟩, hs⟩ | ⟨⟨e, hr⟩, hs⟩
  · simp only [hr]
    exact Or.inl ⟨⟨(), rfl⟩, hs⟩
  · simp only [hr]
    by_cases he : e.isAlreadyExists = true
    · simp only [he, if_true, Script.run, Script.Outcome.consAsked]
      rcases UnreliableStore.attempted_update ho (answer (.create (.object o)) w).2 with
        ⟨⟨x, hr'⟩, hs'⟩ | ⟨⟨e', hr'⟩, hs'⟩
      · simp only [hr']
        exact Or.inl ⟨⟨(), rfl⟩, by rw [← hs]; exact hs'⟩
      · simp only [hr']
        exact Or.inr ⟨⟨e', rfl⟩, by rw [← hs]; exact hs'⟩
    · simp only [he]
      exact Or.inr ⟨⟨e, rfl⟩, hs⟩

/-- The config step succeeds if no request is made to fail. -/
theorem run_applyConfigMap_reliable (ho : o.place? = some p) {w : UnreliableStore}
    (hw : w.Reliable) : ((applyConfigMap (.object o)).run answer w).result = .ok () := by
  obtain ⟨m, hm⟩ := Object.exists_metadata ho
  simp only [applyConfigMap, hm, Script.run, Script.Outcome.consAsked,
    UnreliableStore.answer_of_none (hw 0 _), Store.answer]
  cases hp : w.store.find? p with
  | none =>
    simp only [Store.create_of_free ho hp]
    rfl
  | some x =>
    have hp' : (w.next w.store).store.find? p = some x := hp
    simp only [Store.create_of_taken ho hp, Place.isAlreadyExists_taken, if_true, Script.run,
      UnreliableStore.answer_of_none (hw.next _ 0 _), Store.answer, Store.update_of_taken ho hp']
    rfl

/-- The secret step succeeds if its request is not made to fail, and then keeps what is at its
place. -/
theorem run_createSecretOnce_served (ho : o.place? = some p) {w : UnreliableStore}
    (hw : w.failure 0 (.create (.object o)) = none) :
    ((createSecretOnce (.object o)).run answer w).result = .ok () ∧
      ((createSecretOnce (.object o)).run answer w).state.store = w.store.keep o p := by
  obtain ⟨m, hm⟩ := Object.exists_metadata ho
  simp only [createSecretOnce, hm, Script.run, Script.Outcome.consAsked]
  obtain ⟨hr | hr, hs⟩ := UnreliableStore.answer_create_served ho hw
  · simp only [hr]
    exact ⟨rfl, hs⟩
  · simp only [hr]
    exact ⟨rfl, hs⟩

/-- If its request is made to fail, the secret step changes nothing, and fails unless the failure
says that there is a secret. -/
theorem run_createSecretOnce_failed (ho : o.place? = some p) {w : UnreliableStore} {e : Failure}
    (hw : w.failure 0 (.create (.object o)) = some e) :
    (((createSecretOnce (.object o)).run answer w).result = .ok () ↔ e.isAlreadyExists = true) ∧
      ((createSecretOnce (.object o)).run answer w).state.store = w.store := by
  obtain ⟨m, hm⟩ := Object.exists_metadata ho
  simp only [createSecretOnce, hm, Script.run, Script.Outcome.consAsked,
    UnreliableStore.answer_of_some hw, Request.refuse]
  by_cases he : e.isAlreadyExists = true
  · simp [he, Script.run, Script.Outcome.consTold, UnreliableStore.next]
  · simp [he, Script.run, UnreliableStore.next]

/-! ## The steps of a call -/

namespace Provisioning

variable (c : Provisioning) (w : UnreliableStore)

/-- The cluster after the config step of a call. -/
def afterConfig : UnreliableStore :=
  (c.configScript.run answer w).state

/-- Whether the config step of a call completes. -/
def configDone : Bool :=
  (c.configScript.run answer w).result.isOk

/-- Whether a call sends the request to create its secret, and it is not made to fail. -/
def secretServed : Bool :=
  match c.secret with
  | .ok o => ((c.afterConfig w).failure 0 (.create (.object o))).isNone
  | .error _ => false

/-- The secret step comes after the config step, however that went. -/
theorem script_state : (c.script.run answer w).state =
    (c.secretScript.run answer (c.afterConfig w)).state := by
  simp only [script, Tunnel.provision, Script.run_bind]
  rfl

theorem script_result : (c.script.run answer w).result =
    c.tunnel.finish c.side c.scope c.endpoint [(c.configScript.run answer w).result,
      (c.secretScript.run answer (c.afterConfig w)).result] := by
  simp only [script, Tunnel.provision, Script.run_bind]
  rfl

variable {c}

/-- The config step of a call puts its config map at its place, or changes nothing. -/
theorem config_step (hc : c.Typed) :
    (c.configDone w = true ∧
      ∃ o, c.configMap = .ok o ∧ (c.afterConfig w).store = w.store.put c.configPlace o) ∨
    (c.configDone w = false ∧ (c.afterConfig w).store = w.store) := by
  rw [configDone, afterConfig, configScript, Tunnel.provisionConfig]
  cases h : c.tunnel.endConfigMap c.side c.scope c.endpoint with
  | error e => exact Or.inr ⟨rfl, rfl⟩
  | ok o =>
    rcases run_applyConfigMap (place?_configMap hc h) w with ⟨⟨u, hr⟩, hs⟩ | ⟨⟨e, hr⟩, hs⟩
    · exact Or.inl ⟨by rw [hr]; rfl, o, h, hs⟩
    · exact Or.inr ⟨by rw [hr]; rfl, hs⟩

variable {w} {o : Object}

theorem secretServed_iff (ho : c.secret = .ok o) :
    c.secretServed w = true ↔ (c.afterConfig w).failure 0 (.create (.object o)) = none := by
  rw [secretServed, ho]
  exact Option.isNone_iff_eq_none

/-- The secret step of a call keeps the secret at its place, or puts its own there. -/
theorem secret_step_served (hc : c.Typed) (ho : c.secret = .ok o) (h : c.secretServed w = true) :
    (c.secretScript.run answer (c.afterConfig w)).result = .ok () ∧
      (c.script.run answer w).state.store = (c.afterConfig w).store.keep o c.secretPlace := by
  rw [script_state, secretScript_eq ho]
  exact run_createSecretOnce_served (place?_secret hc ho) ((secretServed_iff ho).1 h)

/-- If its request is made to fail, the secret step of a call changes nothing. -/
theorem secret_step_failed (hc : c.Typed) (h : c.secretServed w = false) :
    (c.script.run answer w).state.store = (c.afterConfig w).store := by
  obtain ⟨m, ho⟩ := exists_secret hc
  obtain ⟨e, he⟩ := Option.ne_none_iff_exists'.1 fun hn =>
    Bool.eq_false_iff.1 h ((secretServed_iff ho).2 hn)
  rw [script_state, secretScript_eq ho]
  exact (run_createSecretOnce_failed (place?_secret hc ho) he).2

/-! ## What a call returns -/

theorem reliable_afterConfig (hw : w.Reliable) : (c.afterConfig w).Reliable :=
  c.configScript_only.invariant (fun q _ _ h => h.answer q) hw

theorem honest_afterConfig (hw : w.Honest) : (c.afterConfig w).Honest :=
  c.configScript_only.invariant (fun q _ _ h => h.answer q) hw

theorem secretServed_of_reliable (hc : c.Typed) (hw : w.Reliable) : c.secretServed w = true := by
  obtain ⟨m, ho⟩ := exists_secret hc
  exact (secretServed_iff ho).2 (reliable_afterConfig hw 0 _)

/-- A call in which nothing is wrong returns without failing if no request is made to fail. -/
theorem script_ok (hc : c.Ready) (hw : w.Reliable) :
    (c.script.run answer w).result.1 = .ok () := by
  obtain ⟨config, hconfig⟩ := hc.config
  obtain ⟨m, hmap⟩ := exists_configMap hc.toTyped hconfig
  obtain ⟨m', hsecret⟩ := exists_secret hc.toTyped
  have hfirst : (c.configScript.run answer w).result = .ok () := by
    rw [configScript_eq hmap]
    exact run_applyConfigMap_reliable (place?_configMap hc.toTyped hmap) hw
  have hsecond := (secret_step_served hc.toTyped hsecret
    (secretServed_of_reliable hc.toTyped hw)).1
  rw [script_result, hfirst, hsecond]
  exact hc.finish_ok

/-- What a call that returned without failing went through : the parts for the pods were computed,
and both steps succeeded. -/
theorem steps_of_ok {t : Tunnel} (h : (c.script.run answer w).result = (.ok (), t)) :
    ∃ parts, c.tunnel.endParts c.side c.scope c.endpoint = .ok parts ∧
      t = c.tunnel.setParts c.side parts ∧ (c.configScript.run answer w).result = .ok () ∧
      (c.secretScript.run answer (c.afterConfig w)).result = .ok () := by
  rw [script_result, Tunnel.finish] at h
  cases hparts : c.tunnel.endParts c.side c.scope c.endpoint with
  | error e =>
    rw [hparts] at h
    cases h
  | ok parts =>
    rw [hparts] at h
    obtain ⟨hreport, htunnel⟩ := Prod.mk.inj h
    exact ⟨parts, rfl, htunnel.symm, report_pair_eq_ok.1 hreport⟩

/-- A call that returns without failing was served, unless a failure pretended that its secret was
there. -/
theorem secretServed_of_ok (hc : c.Typed) (hw : w.Honest)
    (h : (c.script.run answer w).result.1 = .ok ()) : c.secretServed w = true := by
  obtain ⟨m, ho⟩ := exists_secret hc
  refine (secretServed_iff ho).2 (Option.eq_none_iff_forall_ne_some.2 fun e he => ?_)
  have hresult : (c.script.run answer w).result = (.ok (), (c.script.run answer w).result.2) :=
    Prod.ext h rfl
  obtain ⟨parts, -, -, -, hsecond⟩ := steps_of_ok hresult
  rw [secretScript_eq ho] at hsecond
  have hpretend := (run_createSecretOnce_failed (place?_secret hc ho) he).1.1 hsecond
  rw [honest_afterConfig hw 0 _ e he] at hpretend
  exact absurd hpretend Bool.false_ne_true

/-! ## The store after a call -/

/-- A call changes the object at another place than that of its secret only by its config step. -/
theorem find?_script_of_ne (hc : c.Typed) {p : Place} (hp : p ≠ c.secretPlace) :
    (c.script.run answer w).state.store.find? p = (c.afterConfig w).store.find? p := by
  cases h : c.secretServed w with
  | false => rw [secret_step_failed hc h]
  | true =>
    obtain ⟨m, ho⟩ := exists_secret hc
    rw [(secret_step_served hc ho h).2, Store.find?_keep_of_ne _ _ hc.secretPlace_textual hp]

/-- A config step changes the object at the place of its config map only. -/
theorem find?_afterConfig_of_ne (hc : c.Typed) {p : Place} (hp : p ≠ c.configPlace) :
    (c.afterConfig w).store.find? p = w.store.find? p := by
  rcases config_step w hc with ⟨-, o, -, hs⟩ | ⟨-, hs⟩
  · rw [hs, Store.find?_put_of_ne _ _ hc.configPlace_textual hp]
  · rw [hs]

end Provisioning

end VolumeTunnel
