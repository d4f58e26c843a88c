import VolumeTunnel.Proofs.Cluster.Footprint
import VolumeTunnel.Proofs.Tunnel.Steps

/-!
# Calls made again

A call computes parts for the pods of its side and keeps them in its tunnel, but no call reads
them : what a call does, and what it returns, depends on its tunnel without them
(`Provisioning.bare`, `Provisioning.outcome_bare`, `Provisioning.state_bare`).

So a call that succeeded does the same when it is made again at once, and finds its objects as it
would leave them. If requests fail or not by what they are about, it succeeds again and changes
nothing at all : no object, nor their order, nor the parts (`Provisioning.again`). Only its update,
which the first call may not have needed, could fail.
-/

namespace VolumeTunnel

open UnreliableStore (answer)

/-! ## The tunnel of a call -/

namespace Tunnel

/-- The tunnel without the parts that calls compute. -/
def bare (t : Tunnel) : Tunnel :=
  { t with clientParts := .empty, serverParts := .empty }

@[simp] theorem bare_setParts (t : Tunnel) (side : Side) (parts : PodParts) :
    (t.setParts side parts).bare = t.bare := by
  cases side <;> rfl

theorem setParts_setParts (t : Tunnel) (side : Side) (parts parts' : PodParts) :
    (t.setParts side parts).setParts side parts' = t.setParts side parts' := by
  cases side <;> rfl

theorem bare_finish (t : Tunnel) (side : Side) (scope : Value) (e : Endpoint)
    (steps : List (Except Failure Unit)) : (t.finish side scope e steps).2.bare = t.bare := by
  rw [finish]
  split
  · rfl
  · exact bare_setParts t side _

theorem endParts_bare (t : Tunnel) (side : Side) (scope : Value) (e : Endpoint) :
    t.bare.endParts side scope e = t.endParts side scope e := rfl

theorem finish_bare (t : Tunnel) (side : Side) (scope : Value) (e : Endpoint)
    (steps : List (Except Failure Unit)) :
    (t.bare.finish side scope e steps).1 = (t.finish side scope e steps).1 := by
  rw [finish, finish, endParts_bare]
  split <;> rfl

end Tunnel

namespace Provisioning

variable {c : Provisioning}

/-- The call by the tunnel without the parts that calls compute. -/
def bare (c : Provisioning) : Provisioning :=
  { c with tunnel := c.tunnel.bare }

theorem configScript_bare : c.bare.configScript = c.configScript := rfl

theorem secretScript_bare : c.bare.secretScript = c.secretScript := rfl

theorem outcome_bare (c : Provisioning) (w : UnreliableStore) :
    (c.bare.script.run answer w).result.1 = (c.script.run answer w).result.1 := by
  rw [script_result, script_result]
  exact Tunnel.finish_bare c.tunnel c.side c.scope c.endpoint _

theorem state_bare (c : Provisioning) (w : UnreliableStore) :
    (c.bare.script.run answer w).state = (c.script.run answer w).state := by
  rw [script_state, script_state]
  rfl

theorem bare_result (c : Provisioning) (w : UnreliableStore) :
    (c.script.run answer w).result.2.bare = c.tunnel.bare := by
  rw [script_result]
  exact Tunnel.bare_finish c.tunnel c.side c.scope c.endpoint _

end Provisioning

/-! ## The steps made again -/

section Again

variable {o : Object} {p : Place} {w : UnreliableStore}

/-- If the config step succeeded, its first request did not fail except for an object that was there
already. -/
theorem isAlreadyExists_of_applied (ho : o.place? = some p)
    (h : ((applyConfigMap (.object o)).run answer w).result = .ok ()) {e : Failure}
    (he : w.failure 0 (.create (.object o)) = some e) : e.isAlreadyExists = true := by
  obtain ⟨m, hm⟩ := Object.exists_metadata ho
  simp only [applyConfigMap, hm, Script.run, Script.Outcome.consAsked,
    UnreliableStore.answer_of_some he, Request.refuse] at h
  cases halready : e.isAlreadyExists with
  | true => rfl
  | false =>
    simp only [halready, Bool.false_eq_true, if_false, Script.run] at h
    cases h

/-- The config step changes nothing where its object is. -/
theorem run_applyConfigMap_again (ho : o.place? = some p) (hfound : w.store.find? p = some o)
    (hcreate : ∀ e, w.failure 0 (.create (.object o)) = some e → e.isAlreadyExists = true)
    (hupdate : w.failure 1 (.update (.object o)) = none) :
    ((applyConfigMap (.object o)).run answer w).result = .ok () ∧
      ((applyConfigMap (.object o)).run answer w).state.store = w.store := by
  obtain ⟨m, hm⟩ := Object.exists_metadata ho
  have hanswer : ∃ e, answer (.create (.object o)) w = (.error e, w.next w.store) ∧
      e.isAlreadyExists = true := by
    cases hfail : w.failure 0 (.create (.object o)) with
    | some e => exact ⟨e, UnreliableStore.answer_of_some hfail, hcreate e hfail⟩
    | none =>
      refine ⟨p.taken, ?_, Place.isAlreadyExists_taken p⟩
      rw [UnreliableStore.answer_of_none hfail, Store.answer, Store.create_of_taken ho hfound]
  obtain ⟨e, hanswer, he⟩ := hanswer
  have hnext : (w.next w.store).failure 0 (.update (.object o)) = none := hupdate
  have hfound' : (w.next w.store).store.find? p = some o := hfound
  simp only [applyConfigMap, hm, Script.run, Script.Outcome.consAsked, hanswer, he, if_true,
    UnreliableStore.answer_of_none hnext, Store.answer, Store.update_of_taken ho hfound',
    Script.Outcome.consTold]
  exact ⟨trivial, Store.put_of_find? w.store o hfound⟩

/-- The secret step that succeeded changes nothing when it is made again. -/
theorem run_createSecretOnce_again (ho : o.place? = some p) {w' : UnreliableStore}
    (h : ((createSecretOnce (.object o)).run answer w).result = .ok ())
    (hstore : w'.store = ((createSecretOnce (.object o)).run answer w).state.store)
    (hfailure : w'.failure 0 (.create (.object o)) = w.failure 0 (.create (.object o))) :
    ((createSecretOnce (.object o)).run answer w').result = .ok () ∧
      ((createSecretOnce (.object o)).run answer w').state.store = w'.store := by
  cases hfail : w.failure 0 (.create (.object o)) with
  | some e =>
    rw [hfail] at hfailure
    have he := (run_createSecretOnce_failed ho hfail).1.1 h
    have hagain := run_createSecretOnce_failed ho hfailure
    exact ⟨hagain.1.2 he, hagain.2⟩
  | none =>
    rw [hfail] at hfailure
    obtain ⟨hok, hkept⟩ := run_createSecretOnce_served ho hfailure
    refine ⟨hok, ?_⟩
    have hfound : w'.store.find? p = some ((w.store.find? p).getD o) := by
      rw [hstore, (run_createSecretOnce_served ho hfail).2,
        Store.find?_keep_self _ _ (Object.place?_textual ho)]
    rw [hkept, Store.keep_of_some _ _ hfound]

end Again

namespace Provisioning

variable {c : Provisioning} {w : UnreliableStore}

/-- The config step of a call that succeeded changes nothing when it is made again, unless its
update is made to fail. -/
theorem config_step_again (hc : c.Typed) (h : (c.configScript.run answer w).result = .ok ())
    (hupdate : ∀ n o, o.place? = some c.configPlace → w.failure n (.update (.object o)) = none)
    {w' : UnreliableStore} (hfailure : w'.failure = w.failure)
    (hfind : w'.store.find? c.configPlace = (c.afterConfig w).store.find? c.configPlace) :
    (c.configScript.run answer w').result = .ok () ∧
      (c.configScript.run answer w').state.store = w'.store := by
  rcases config_step w hc with ⟨-, o, ho, hs⟩ | ⟨hfailed, -⟩
  · have hplace := place?_configMap hc ho
    have hfound : w'.store.find? c.configPlace = some o := by
      rw [hfind, hs, Store.find?_put_self _ _ hc.configPlace_textual]
    rw [configScript_eq ho] at h ⊢
    refine run_applyConfigMap_again hplace hfound (fun e he => ?_) ?_
    · rw [hfailure] at he
      exact isAlreadyExists_of_applied hplace h he
    · rw [hfailure]
      exact hupdate 1 o hplace
  · rw [configDone, h] at hfailed
    cases hfailed

/-- The secret step of a call that succeeded changes nothing when it is made again. -/
theorem secret_step_again (hc : c.Typed)
    (h : (c.secretScript.run answer (c.afterConfig w)).result = .ok ()) {w' : UnreliableStore}
    (hstore : w'.store = (c.script.run answer w).state.store)
    (hfailure : w'.failure = (c.afterConfig w).failure) :
    (c.secretScript.run answer w').result = .ok () ∧
      (c.secretScript.run answer w').state.store = w'.store := by
  obtain ⟨m, ho⟩ := exists_secret hc
  rw [script_state, secretScript_eq ho] at hstore
  rw [secretScript_eq ho] at h ⊢
  exact run_createSecretOnce_again (place?_secret hc ho) h hstore (by rw [hfailure])

/-- A call that succeeded changes nothing when it is made again at once, unless its update is made
to fail. -/
theorem again (hc : c.Typed) (hw : w.Steady)
    (hupdate : ∀ n o, o.place? = some c.configPlace → w.failure n (.update (.object o)) = none)
    {t : Tunnel} (h : (c.script.run answer w).result = (.ok (), t)) :
    let d : Provisioning := { c with tunnel := t }
    (d.script.run answer (c.script.run answer w).state).result = (.ok (), t) ∧
      (d.script.run answer (c.script.run answer w).state).state =
        (c.script.run answer w).state := by
  obtain ⟨parts, hparts, rfl, hconfig, hsecret⟩ := steps_of_ok h
  intro d
  have hbare : d.bare = c.bare := congrArg (fun t => { c with tunnel := t })
    (Tunnel.bare_setParts c.tunnel c.side parts)
  have hconfigScript : d.configScript = c.configScript := by
    rw [← configScript_bare, hbare, configScript_bare]
  have hsecretScript : d.secretScript = c.secretScript := by
    rw [← secretScript_bare, hbare, secretScript_bare]
  have hendParts : d.tunnel.endParts d.side d.scope d.endpoint = .ok parts := by
    rw [← hparts, ← Tunnel.endParts_bare, Tunnel.bare_setParts, Tunnel.endParts_bare]
  generalize hw' : (c.script.run answer w).state = w'
  have hfailure : w'.failure = w.failure := by rw [← hw', hw.failure_run]
  have hsteady : w'.Steady := by
    rw [UnreliableStore.Steady, hfailure]
    exact hw
  obtain ⟨hconfig', hstore⟩ := config_step_again hc hconfig hupdate hfailure
    (by rw [← hw', find?_script_of_ne hc (configPlace_ne_secretPlace c c)])
  have hafter : d.afterConfig w' = w' := by
    rw [afterConfig, hconfigScript]
    exact hsteady.state_run hstore
  obtain ⟨hsecret', hstore'⟩ := secret_step_again hc hsecret (congrArg _ hw'.symm)
    (hfailure.trans (hw.failure_run c.configScript).symm)
  constructor
  · rw [script_result, hafter, hconfigScript, hsecretScript, hconfig', hsecret', Tunnel.finish,
      hendParts]
    exact congrArg (Prod.mk _) (Tunnel.setParts_setParts c.tunnel c.side parts parts)
  · rw [script_state, hafter, hsecretScript]
    exact hsteady.state_run hstore'

end Provisioning

end VolumeTunnel
