import VolumeTunnel.Proofs.Cluster.Journal
import VolumeTunnel.Proofs.Script.Pool
import VolumeTunnel.Proofs.Tunnel.Provisioning

/-!
# Calls at the same time

Any number of calls run side by side on one keyed store on which no request fails of itself and
nothing is deleted. Between two requests of a call, any requests of others may be answered, also for
the same places.

A config map that a call found is still there when the call updates it, since no place that was
taken is free again (`Journal.Grows`). So no call fails (`Provisioning.ensures_script`), and what it
leaves is read off the journal : at the place of a config map, the one of the call whose request
took effect last; at the place of a secret, the one that was there, or else the one of the call
whose request arrived first. `Provisioning.Interleaved` puts this together for every schedule.
-/

namespace VolumeTunnel

variable {ι : Type} {o : Object} {p : Place}

/-! ## One call among others -/

/-- The config step succeeds, and its object has been at its place. -/
theorem ensures_applyConfigMap (ho : o.place? = some p) (i : ι) (j : Journal ι) :
    (applyConfigMap (.object o)).Ensures (Journal.answer i) Journal.Grows
      (fun r j' => r = .ok () ∧ ∃ e ∈ j'.entries, e.Writes p o) j := by
  obtain ⟨m, hm⟩ := Object.exists_metadata ho
  simp only [applyConfigMap, hm]
  intro j₁ _
  cases h : j₁.store.find? p with
  | none =>
    rw [Journal.create_of_free ho h]
    intro j₂ h₂ j₃ h₃
    exact ⟨rfl, _, (h₂.trans h₃).entries _ (List.mem_append_right _ List.mem_cons_self), rfl,
      Or.inl rfl, ho⟩
  | some x =>
    rw [Journal.create_of_taken ho h]
    intro j₂ h₂
    -- others may have replaced what was found, but not taken it away
    obtain ⟨x', hx'⟩ := h₂.taken p x h
    rw [Journal.update_of_taken ho hx']
    intro j₃ h₃ j₄ h₄
    exact ⟨rfl, _, (h₃.trans h₄).entries _ (List.mem_append_right _ List.mem_cons_self), rfl,
      Or.inr rfl, ho⟩

/-- The secret step succeeds and leaves a secret at its place. -/
theorem ensures_createSecretOnce (ho : o.place? = some p) (i : ι) (j : Journal ι) :
    (createSecretOnce (.object o)).Ensures (Journal.answer i) Journal.Grows
      (fun r j' => r = .ok () ∧ ∃ x, j'.store.find? p = some x) j := by
  obtain ⟨m, hm⟩ := Object.exists_metadata ho
  simp only [createSecretOnce, hm]
  intro j₁ _
  cases h : j₁.store.find? p with
  | none =>
    rw [Journal.create_of_free ho h]
    intro j₂ h₂ j₃ h₃
    exact ⟨rfl, (h₂.trans h₃).taken p o (Store.find?_put_self _ _ (Object.place?_textual ho))⟩
  | some x =>
    rw [Journal.create_of_taken ho h]
    intro j₂ h₂ j₃ h₃
    exact ⟨rfl, (h₂.trans h₃).taken p x h⟩

namespace Provisioning

variable {c : Provisioning}

/-- What a call sends takes nothing away. -/
theorem grows_of_sends (hc : c.Typed) {q : Request} (hq : c.Sends q) (i : ι) (j : Journal ι) :
    j.Grows (Journal.answer i q j).2 := by
  obtain ⟨o, p, ho, hq | ⟨hq, -⟩⟩ := hq.placed hc
  · exact Journal.grows_answer ho (Or.inl hq) i j
  · exact Journal.grows_answer ho (Or.inr hq) i j

/-- What a call that is done has achieved : it has returned without failing, a config map has been
put at its place, and there is a secret at the place of its secret. -/
structure Achieved (c : Provisioning) (r : Except Failure Unit × Tunnel) (j : Journal ι) :
    Prop where
  returned : r.1 = .ok ()
  configured : ∃ e ∈ j.entries, ∃ o, e.Writes c.configPlace o
  secured : ∃ x, j.store.find? c.secretPlace = some x

/-- Whatever the others do, a call achieves this. -/
theorem ensures_script (hc : c.Ready) (i : ι) (j : Journal ι) :
    c.script.Ensures (Journal.answer i) Journal.Grows c.Achieved j := by
  obtain ⟨config, hconfig⟩ := hc.config
  obtain ⟨m, hmap⟩ := exists_configMap hc.toTyped hconfig
  obtain ⟨m', hsecret⟩ := exists_secret hc.toTyped
  have hfirst : c.configScript.Ensures (Journal.answer i) Journal.Grows
      (fun r j' => r = .ok () ∧ ∃ e ∈ j'.entries, ∃ o, e.Writes c.configPlace o) j := by
    rw [configScript_eq hmap]
    refine (ensures_applyConfigMap (place?_configMap hc.toTyped hmap) i j).imp ?_
    rintro r j' ⟨hr, e, he, hw⟩
    exact ⟨hr, e, he, _, hw⟩
  have hsecond : ∀ j, c.secretScript.Ensures (Journal.answer i) Journal.Grows
      (fun r j' => (r = .ok () ∧ ∃ x, j'.store.find? c.secretPlace = some x) ∧ j.Grows j') j := by
    intro j
    have halone : c.secretScript.Ensures (Journal.answer i) Journal.Grows
        (fun r j' => r = .ok () ∧ ∃ x, j'.store.find? c.secretPlace = some x) j := by
      rw [secretScript_eq hsecret]
      exact ensures_createSecretOnce (place?_secret hc.toTyped hsecret) i j
    have hboth := halone.and_rely c.secretScript_only (fun _ _ _ => Journal.Grows.trans)
      (fun q s hq => grows_of_sends hc.toTyped hq i s) (Journal.Grows.refl j)
    exact hboth
  refine (hfirst.imp ?_).bind Journal.Grows.refl
  rintro r j₁ ⟨rfl, e, he, o, hw⟩
  refine ((hsecond j₁).imp ?_).bind Journal.Grows.refl
  rintro r j₂ ⟨⟨rfl, x, hx⟩, h₂⟩ j₃ h₃
  exact ⟨hc.finish_ok, ⟨e, (h₂.trans h₃).entries e he, o, hw⟩, h₃.taken _ x hx⟩

/-! ## How many turns a call takes -/

theorem configScript_within (c : Provisioning) : c.configScript.Within 3 := by
  rw [configScript, Tunnel.provisionConfig]
  cases c.tunnel.endConfigMap c.side c.scope c.endpoint with
  | error e => exact trivial
  | ok o =>
    dsimp only
    rw [applyConfigMap]
    cases (Resource.object o).metadata? with
    | error e => exact trivial
    | ok m =>
      intro reply
      cases reply with
      | ok x => exact trivial
      | error e =>
        dsimp only
        split
        · intro reply
          cases reply <;> exact trivial
        · exact trivial

theorem secretScript_within (c : Provisioning) : c.secretScript.Within 2 := by
  rw [secretScript, Tunnel.provisionSecret]
  cases c.tunnel.endSecret c.side c.scope c.endpoint with
  | error e => exact trivial
  | ok o =>
    dsimp only
    rw [createSecretOnce]
    cases (Resource.object o).metadata? with
    | error e => exact trivial
    | ok m =>
      intro reply
      cases reply with
      | ok x => exact trivial
      | error e =>
        dsimp only
        split <;> exact trivial

/-- At most three requests and two records. -/
theorem script_within (c : Provisioning) : c.script.Within 5 := by
  have hrest : ∀ a, (c.secretScript.bind fun secret =>
      .done (c.tunnel.finish c.side c.scope c.endpoint [a, secret])).Within (2 + 0) := fun a =>
    c.secretScript_within.bind fun _ => Script.within_done 0 _
  exact c.configScript_within.bind hrest

/-! ## Whose objects requests are about -/

variable {cs : ι → Provisioning}

/-- A request of a call that aims at a place is about the config map or the secret of that call, and
the place is that of the object. -/
theorem object_of_aims (hcs : ∀ i, (cs i).Typed) {e : Entry ι}
    (hsends : (cs e.caller).Sends e.request) (h : e.Aims p o) :
    (p = (cs e.caller).configPlace ∧ (cs e.caller).configMap = .ok o) ∨
      (p = (cs e.caller).secretPlace ∧ (cs e.caller).secret = .ok o) := by
  obtain ⟨hreq, ho⟩ := h
  generalize e.request = q at hreq hsends
  cases hsends with
  | createConfigMap h =>
    obtain rfl : _ = o := by simpa using hreq
    exact Or.inl ⟨Option.some.inj (ho.symm.trans (place?_configMap (hcs _) h)), h⟩
  | updateConfigMap h =>
    obtain rfl : _ = o := by simpa using hreq
    exact Or.inl ⟨Option.some.inj (ho.symm.trans (place?_configMap (hcs _) h)), h⟩
  | createSecret h =>
    obtain rfl : _ = o := by simpa using hreq
    exact Or.inr ⟨Option.some.inj (ho.symm.trans (place?_secret (hcs _) h)), h⟩

theorem configMap_of_aims (hcs : ∀ i, (cs i).Typed) {e : Entry ι} {d : Provisioning}
    (hsends : (cs e.caller).Sends e.request) (h : e.Aims d.configPlace o) :
    (cs e.caller).configMap = .ok o := by
  rcases object_of_aims hcs hsends h with ⟨-, h⟩ | ⟨hplace, -⟩
  · exact h
  · exact absurd hplace (configPlace_ne_secretPlace _ _)

theorem secret_of_aims (hcs : ∀ i, (cs i).Typed) {e : Entry ι} {d : Provisioning}
    (hsends : (cs e.caller).Sends e.request) (h : e.Aims d.secretPlace o) :
    (cs e.caller).secret = .ok o := by
  rcases object_of_aims hcs hsends h with ⟨hplace, -⟩ | ⟨-, h⟩
  · exact absurd hplace.symm (configPlace_ne_secretPlace _ _)
  · exact h

/-! ## Any schedule -/

variable [DecidableEq ι] {s₀ : Store}

/-- Calls side by side on a store. -/
def together (cs : ι → Provisioning) (s₀ : Store) :
    Pool ι Request Request.Reply (Except Failure Unit × Tunnel) (Journal ι) :=
  ⟨fun i => (cs i).script, ⟨s₀, []⟩⟩

/-- The calls after their turns in the order of a schedule. -/
def afterTurns (cs : ι → Provisioning) (s₀ : Store) (schedule : List ι) :
    Pool ι Request Request.Reply (Except Failure Unit × Tunnel) (Journal ι) :=
  (together cs s₀).run Journal.answer schedule

/-- What is true of the journal at the start and kept by the requests of the calls is true after any
schedule. -/
theorem afterTurns_invariant {I : Journal ι → Prop} (h₀ : I ⟨s₀, []⟩)
    (hstep : ∀ i q j, (cs i).Sends q → I j → I (Journal.answer i q j).2) (schedule : List ι) :
    I (afterTurns cs s₀ schedule).state :=
  Pool.invariant_run (fun i => (cs i).script_only) hstep h₀ schedule

/-- Every request that was written down is one of its caller. -/
def Attributed (cs : ι → Provisioning) (j : Journal ι) : Prop :=
  ∀ e ∈ j.entries, (cs e.caller).Sends e.request

theorem attributed_afterTurns (schedule : List ι) :
    Attributed cs (afterTurns cs s₀ schedule).state := by
  refine afterTurns_invariant (fun e he => absurd he List.not_mem_nil) ?_ schedule
  intro i q j hq h e he
  rw [Journal.entries_answer] at he
  rcases List.mem_append.1 he with he | he
  · exact h e he
  · rw [List.mem_singleton.1 he]
    exact hq

theorem current_afterTurns (hcs : ∀ i, (cs i).Typed) (p : Place) (schedule : List ι) :
    (afterTurns cs s₀ schedule).state.Current s₀ p := by
  refine afterTurns_invariant (Or.inr ⟨fun e he => absurd he List.not_mem_nil, rfl⟩) ?_ schedule
  intro i q j hq h
  obtain ⟨o, p', ho, hq⟩ := hq.placed (hcs i)
  exact h.answer ho (hq.imp_right And.left)

theorem begun_afterTurns (hcs : ∀ i, (cs i).Typed) (d : Provisioning) (schedule : List ι) :
    (afterTurns cs s₀ schedule).state.Begun s₀ d.secretPlace := by
  refine afterTurns_invariant ?_ ?_ schedule
  · cases h : s₀.find? d.secretPlace with
    | some x => exact Or.inl ⟨x, h, h⟩
    | none => exact Or.inr ⟨h, Or.inr ⟨fun e he => absurd he List.not_mem_nil, h⟩⟩
  · intro i q j hq h
    obtain ⟨o, p', ho, hq⟩ := hq.placed (hcs i)
    refine h.answer ho (hq.imp_right fun ⟨hupdate, hp⟩ => ⟨hupdate, ?_⟩)
    rw [hp]
    exact (configPlace_ne_secretPlace _ _).symm

theorem grows_afterTurns (hcs : ∀ i, (cs i).Typed) (schedule : List ι) :
    (⟨s₀, []⟩ : Journal ι).Grows (afterTurns cs s₀ schedule).state :=
  afterTurns_invariant (Journal.Grows.refl _)
    (fun i _ j hq h => h.trans (grows_of_sends (hcs i) hq i j)) schedule

theorem distinct_afterTurns (hcs : ∀ i, (cs i).Typed) (h : s₀.Distinct) (schedule : List ι) :
    (afterTurns cs s₀ schedule).state.store.Distinct := by
  refine @afterTurns_invariant ι cs _ s₀ (fun j => j.store.Distinct) h ?_ schedule
  intro i q j hq h
  obtain ⟨o, p, ho, hq⟩ := hq.placed (hcs i)
  exact Journal.distinct_answer ho (hq.imp_right And.left) i h

/-- Whoever is done has achieved what it was to achieve. -/
theorem achieved_of_done (hcs : ∀ i, (cs i).Ready) {schedule : List ι} {i : ι}
    {r : Except Failure Unit × Tunnel} (h : (afterTurns cs s₀ schedule).scripts i = .done r) :
    (cs i).Achieved r (afterTurns cs s₀ schedule).state := by
  have hstart : ∀ i, ((together cs s₀).scripts i).Ensures (Journal.answer i) Journal.Grows
      (cs i).Achieved (together cs s₀).state := fun i => ensures_script (hcs i) i ⟨s₀, []⟩
  have hi := Pool.ensures_run hstart (fun i => (cs i).script_only) Journal.Grows.refl
    (fun _ _ _ => Journal.Grows.trans)
    (fun i q s hq => grows_of_sends (hcs i).toTyped hq i s) schedule i
  rw [show ((together cs s₀).run Journal.answer schedule).scripts i = .done r from h] at hi
  exact hi _ (Journal.Grows.refl _)

/-- A place of no call is as it was. -/
theorem find?_afterTurns_of_ne (hcs : ∀ i, (cs i).Typed) {p : Place}
    (hconfig : ∀ i, p ≠ (cs i).configPlace) (hsecret : ∀ i, p ≠ (cs i).secretPlace)
    (schedule : List ι) :
    (afterTurns cs s₀ schedule).state.store.find? p = s₀.find? p := by
  rcases current_afterTurns hcs p schedule with ⟨e, o, hlast, -⟩ | ⟨-, hfind⟩
  · have hsends := attributed_afterTurns schedule e hlast.mem
    obtain ⟨before, after, -, ⟨-, haims⟩, -⟩ := hlast
    rcases object_of_aims hcs hsends haims with ⟨hplace, -⟩ | ⟨hplace, -⟩
    · exact absurd hplace (hconfig _)
    · exact absurd hplace (hsecret _)
  · exact hfind

/-! ## All calls together -/

/-- What calls come to after their turns in the order of a schedule. -/
structure Interleaved (cs : ι → Provisioning) (s₀ : Store) (schedule : List ι) : Prop where
  /-- No call fails. -/
  returned : ∀ i r, (afterTurns cs s₀ schedule).scripts i = .done r → r.1 = .ok ()
  /-- At the place of the config map of a call that is done, there is the config map of the call
  whose request took effect last there. -/
  configMaps : ∀ i r, (afterTurns cs s₀ schedule).scripts i = .done r → ∃ e o,
    LastAt (cs i).configPlace (afterTurns cs s₀ schedule).state.entries e o ∧
      (cs e.caller).configMap = .ok o ∧
      (afterTurns cs s₀ schedule).state.store.find? (cs i).configPlace = some o
  /-- At the place of the secret of a call that is done, there is the secret that was there, or else
  that of the call whose request arrived first there, with the certificate and the key of its
  tunnel. -/
  secrets : ∀ i r, (afterTurns cs s₀ schedule).scripts i = .done r →
    (∃ x, s₀.find? (cs i).secretPlace = some x ∧
      (afterTurns cs s₀ schedule).state.store.find? (cs i).secretPlace = some x) ∨
    s₀.find? (cs i).secretPlace = none ∧ ∃ e o m,
      FirstAt (cs i).secretPlace (afterTurns cs s₀ schedule).state.entries e o ∧
        (cs e.caller).secret = .ok o ∧
        o = Tunnel.secret m (cs e.caller).tunnel.certificate (cs e.caller).tunnel.privateKey ∧
        (afterTurns cs s₀ schedule).state.store.find? (cs i).secretPlace = some o
  /-- No place has two entries. -/
  distinct : s₀.Distinct → (afterTurns cs s₀ schedule).state.store.Distinct
  /-- No place that was taken is free. -/
  kept : ∀ p x, s₀.find? p = some x →
    ∃ x', (afterTurns cs s₀ schedule).state.store.find? p = some x'
  /-- A place of no call is as it was. -/
  untouched : ∀ p, (∀ i, p ≠ (cs i).configPlace) → (∀ i, p ≠ (cs i).secretPlace) →
    (afterTurns cs s₀ schedule).state.store.find? p = s₀.find? p
  /-- A call that has had five turns is done. -/
  done : ∀ i, 5 ≤ schedule.count i → ∃ r, (afterTurns cs s₀ schedule).scripts i = .done r

/-- Any calls in which nothing is wrong, from any store, in any order of turns. -/
theorem interleaved_of_ready (hcs : ∀ i, (cs i).Ready) (s₀ : Store) (schedule : List ι) :
    Interleaved cs s₀ schedule where
  returned i r h := (achieved_of_done hcs h).returned
  configMaps i r h := by
    have htyped : ∀ i, (cs i).Typed := fun i => (hcs i).toTyped
    obtain ⟨e, he, o, hw⟩ := (achieved_of_done hcs h).configured
    rcases current_afterTurns htyped (cs i).configPlace schedule with
      ⟨e', o', hlast, hfind⟩ | ⟨hnone, -⟩
    · have hsends := attributed_afterTurns schedule e' hlast.mem
      obtain ⟨before, after, hsplit, hw', hafter⟩ := hlast
      exact ⟨e', o', ⟨before, after, hsplit, hw', hafter⟩,
        configMap_of_aims htyped hsends hw'.2, hfind⟩
    · exact absurd hw (hnone e he o)
  secrets i r h := by
    have htyped : ∀ i, (cs i).Typed := fun i => (hcs i).toTyped
    obtain ⟨x, hx⟩ := (achieved_of_done hcs h).secured
    rcases begun_afterTurns htyped (cs i) schedule with
      hthere | ⟨hfree, ⟨e, o, hfirst, hfind⟩ | ⟨-, hfind⟩⟩
    · exact Or.inl hthere
    · have hsends := attributed_afterTurns schedule e hfirst.mem
      obtain ⟨before, after, hsplit, haims, hbefore⟩ := hfirst
      have hbuilt := secret_of_aims htyped hsends haims
      obtain ⟨m, ho⟩ := exists_secret (htyped e.caller)
      exact Or.inr ⟨hfree, e, o, m, ⟨before, after, hsplit, haims, hbefore⟩, hbuilt,
        Except.ok.inj (hbuilt.symm.trans ho), hfind⟩
    · exact absurd (hfind.symm.trans hx) (by simp)
  distinct h := distinct_afterTurns (fun i => (hcs i).toTyped) h schedule
  kept := (grows_afterTurns (fun i => (hcs i).toTyped) schedule).taken
  untouched p hconfig hsecret :=
    find?_afterTurns_of_ne (fun i => (hcs i).toTyped) hconfig hsecret schedule
  done i hi := Pool.done_of_count (cs i).script_within hi

/-- Two tunnels provision the same end, taking turns. -/
theorem interleaved_two_calls :
    let cs : Fin 2 → Provisioning := fun i => plain .client [UInt8.ofNat i] [UInt8.ofNat i]
    (∀ i, (cs i).Ready) ∧ Interleaved cs .empty [0, 1, 1, 0, 0, 1, 0, 0, 1, 1] :=
  ⟨fun _ => plain_ready _ _ _, interleaved_of_ready (fun _ => plain_ready _ _ _) _ _⟩

end Provisioning

end VolumeTunnel
