import VolumeTunnel.Proofs.Tunnel.Provisioning

/-!
# Reported failures

A call goes through two steps and reports the failures of both together. Whatever the cluster
answers, a step fails in one of few ways : its object cannot be built, or a request fails
(`Provisioning.ConfigFails`, `Provisioning.SecretFails`). The parts for the pods are computed
afterwards, from the same inputs.

* `Provisioning.Reports` : the failures of the steps are all that is raised, and the parts are
  computed;
* `Provisioning.failures_reported` : a call reports so if and only if its container can be
  described, that is, if the port on which the end listens is a whole number and the image is a
  text; otherwise the failures of the steps are lost.
-/

namespace VolumeTunnel

/-! ## Several steps -/

namespace Tunnel

/-- The failures of the steps that failed, in order. -/
def failuresOf (steps : List (Except Failure Unit)) : List Failure :=
  steps.filterMap stepFailure

theorem filterMap_stepFailure (steps : List (Except Failure Unit)) :
    (steps.map stepFailure).filterMap id = failuresOf steps := by
  rw [List.filterMap_map, failuresOf]
  rfl

theorem report_of_failuresOf_eq_nil {steps : List (Except Failure Unit)}
    (h : failuresOf steps = []) : report steps = .ok () := by
  rw [report, Failure.gather?, filterMap_stepFailure, h]

/-- What is reported are the failures of the steps, in order. -/
theorem report_of_failuresOf_ne_nil {steps : List (Except Failure Unit)}
    (h : failuresOf steps ≠ []) : report steps = .error (.gather (failuresOf steps)) := by
  rw [report, Failure.gather?, filterMap_stepFailure]
  cases hes : failuresOf steps with
  | nil => exact absurd hes h
  | cons e es => rfl

/-! ## The parts for the pods -/

/-- A container is described if and only if its port is a whole number and its image is a text or
left out. Its volumes have names that are texts. -/
theorem containers_texts (image port : Value) (configVolume secretVolume : Text) :
    ((∃ i, port = .int i) ∧ (image = .none ∨ ∃ t, image = .text t) →
      ∃ cs, containers image port configVolume secretVolume = .ok cs) ∧
    (¬((∃ i, port = .int i) ∧ (image = .none ∨ ∃ t, image = .text t)) →
      containers image port configVolume secretVolume = .error (.fault .wrongValue)) := by
  constructor
  · rintro ⟨⟨i, rfl⟩, rfl | ⟨t, rfl⟩⟩ <;> exact ⟨_, rfl⟩
  · intro h
    cases port with
    | int i =>
      cases image with
      | none => exact absurd ⟨⟨i, rfl⟩, Or.inl rfl⟩ h
      | text t => exact absurd ⟨⟨i, rfl⟩, Or.inr ⟨t, rfl⟩⟩ h
      | _ => rfl
    | _ => rfl

theorem exists_volumes (configVolume configMapName secretVolume secretName : Text) :
    ∃ vs, volumes configVolume configMapName secretVolume secretName = .ok vs :=
  ⟨_, rfl⟩

/-- An image is chosen in any case, the default one if no other. -/
theorem image_ne_none (t : Tunnel) : t.image ≠ .none := by
  rw [image, Value.orElse]
  split
  next h =>
    intro hnone
    rw [hnone] at h
    exact Bool.false_ne_true h
  · intro hnone
    cases hnone

end Tunnel

namespace Provisioning

variable (c : Provisioning)

/-- The container of the end can be described : the port on which it listens is a whole number, and
its image is a text. -/
structure Describable : Prop where
  port : ∃ i, c.tunnel.acceptPort c.side c.endpoint = .int i
  image : ∃ t, c.tunnel.image = .text t

/-- The parts for the pods of the side. -/
def parts : Except Failure PodParts :=
  c.tunnel.endParts c.side c.scope c.endpoint

variable {c}

theorem exists_parts (h : c.Describable) : ∃ parts, c.parts = .ok parts := by
  obtain ⟨cs, hcs⟩ := (Tunnel.containers_texts c.tunnel.image _ (Tunnel.configName c.side)
    (Tunnel.secretName c.side)).1 ⟨h.port, Or.inr h.image⟩
  obtain ⟨vs, hvs⟩ := Tunnel.exists_volumes (Tunnel.configName c.side)
    (Tunnel.prefixed c.scope (Tunnel.configName c.side)) (Tunnel.secretName c.side)
    (Tunnel.prefixed c.scope (Tunnel.secretName c.side))
  exact ⟨⟨cs, vs⟩, by rw [parts, Tunnel.endParts, hcs, hvs]; rfl⟩

theorem parts_of_not_describable (h : ¬c.Describable) : c.parts = .error (.fault .wrongValue) := by
  have hcontainers := (Tunnel.containers_texts c.tunnel.image
    (c.tunnel.acceptPort c.side c.endpoint) (Tunnel.configName c.side)
    (Tunnel.secretName c.side)).2 fun hboth =>
      h ⟨hboth.1, hboth.2.resolve_left c.tunnel.image_ne_none⟩
  rw [parts, Tunnel.endParts, hcontainers]
  rfl

/-! ## How steps go -/

variable (c)

/-- How the config step of a call goes, given the requests that it sends with their answers, and
what it comes to. -/
inductive ConfigGoes : List (Sigma Request.Reply) → Except Failure Unit → Prop
  /-- The config map cannot be built, because its configuration is refused or its name or labels. -/
  | unbuilt {e : Failure} (h : c.configMap = .error e) : ConfigGoes [] (.error e)
  | created {o stored : Object} (h : c.configMap = .ok o) :
    ConfigGoes [⟨.create (.object o), .ok stored⟩] (.ok ())
  | notCreated {o : Object} {e : Failure} (h : c.configMap = .ok o)
    (he : e.isAlreadyExists = false) : ConfigGoes [⟨.create (.object o), .error e⟩] (.error e)
  | replaced {o stored : Object} {taken : Failure} (h : c.configMap = .ok o)
    (htaken : taken.isAlreadyExists = true) :
    ConfigGoes [⟨.create (.object o), .error taken⟩, ⟨.update (.object o), .ok stored⟩] (.ok ())
  | notReplaced {o : Object} {taken e : Failure} (h : c.configMap = .ok o)
    (htaken : taken.isAlreadyExists = true) :
    ConfigGoes [⟨.create (.object o), .error taken⟩, ⟨.update (.object o), .error e⟩] (.error e)

/-- How the secret step of a call goes. -/
inductive SecretGoes : List (Sigma Request.Reply) → Except Failure Unit → Prop
  | unbuilt {e : Failure} (h : c.secret = .error e) : SecretGoes [] (.error e)
  | created {o stored : Object} (h : c.secret = .ok o) :
    SecretGoes [⟨.create (.object o), .ok stored⟩] (.ok ())
  | notCreated {o : Object} {e : Failure} (h : c.secret = .ok o) (he : e.isAlreadyExists = false) :
    SecretGoes [⟨.create (.object o), .error e⟩] (.error e)
  | kept {o : Object} {taken : Failure} (h : c.secret = .ok o)
    (htaken : taken.isAlreadyExists = true) :
    SecretGoes [⟨.create (.object o), .error taken⟩] (.ok ())

variable {c} {S : Type} (answer : (q : Request) → S → q.Reply × S) (s : S)

theorem exists_metadata_configMap {o : Object} (h : c.configMap = .ok o) :
    ∃ m, (Resource.object o).metadata? = .ok m := by
  obtain ⟨config, -, h⟩ := Failure.bind_eq_ok.1 h
  obtain ⟨m, -, h⟩ := Failure.bind_eq_ok.1 h
  obtain ⟨t, -, h⟩ := Failure.bind_eq_ok.1 h
  rw [← Except.ok.inj h]
  exact ⟨m, rfl⟩

theorem exists_metadata_secret {o : Object} (h : c.secret = .ok o) :
    ∃ m, (Resource.object o).metadata? = .ok m := by
  obtain ⟨m, -, h⟩ := Failure.bind_eq_ok.1 h
  rw [← Except.ok.inj h]
  exact ⟨m, rfl⟩

theorem configGoes :
    c.ConfigGoes (c.configScript.exchanges answer s) (c.configScript.run answer s).result := by
  cases hbuilt : c.configMap with
  | error e =>
    rw [configScript, Tunnel.provisionConfig,
      show c.tunnel.endConfigMap c.side c.scope c.endpoint = .error e from hbuilt]
    exact .unbuilt hbuilt
  | ok o =>
    obtain ⟨m, hm⟩ := exists_metadata_configMap hbuilt
    simp only [configScript_eq hbuilt, applyConfigMap, hm, Script.run, Script.exchanges,
      Script.Outcome.consAsked]
    cases (answer (.create (.object o)) s).1 with
    | ok stored => exact .created hbuilt
    | error e =>
      cases he : e.isAlreadyExists with
      | false =>
        simp only [he]
        exact .notCreated hbuilt he
      | true =>
        simp only [he, if_true, Script.run, Script.exchanges, Script.Outcome.consAsked]
        cases (answer (.update (.object o)) (answer (.create (.object o)) s).2).1 with
        | ok stored => exact .replaced hbuilt he
        | error e' => exact .notReplaced hbuilt he

theorem secretGoes :
    c.SecretGoes (c.secretScript.exchanges answer s) (c.secretScript.run answer s).result := by
  cases hbuilt : c.secret with
  | error e =>
    rw [secretScript, Tunnel.provisionSecret,
      show c.tunnel.endSecret c.side c.scope c.endpoint = .error e from hbuilt]
    exact .unbuilt hbuilt
  | ok o =>
    obtain ⟨m, hm⟩ := exists_metadata_secret hbuilt
    simp only [secretScript_eq hbuilt, createSecretOnce, hm, Script.run, Script.exchanges,
      Script.Outcome.consAsked]
    cases (answer (.create (.object o)) s).1 with
    | ok stored => exact .created hbuilt
    | error e =>
      cases he : e.isAlreadyExists with
      | false =>
        simp only [he]
        exact .notCreated hbuilt he
      | true =>
        simp only [he]
        exact .kept hbuilt he

/-! ## What a call raises -/

variable (c)

/-- What the steps of a call come to, the config step first. -/
def steps : List (Except Failure Unit) :=
  let config := c.configScript.run answer s
  [config.result, (c.secretScript.run answer config.state).result]

/-- A call reports the failures of its steps : nothing if there are none, and otherwise all of them
together, in order. The parts for the pods of the side are computed in any case. -/
structure Reports (steps : List (Except Failure Unit)) (r : Except Failure Unit × Tunnel) :
    Prop where
  silent : Tunnel.failuresOf steps = [] → r.1 = .ok ()
  raised : Tunnel.failuresOf steps ≠ [] → r.1 = .error (.gather (Tunnel.failuresOf steps))
  computed : ∃ parts, c.parts = .ok parts ∧ r.2 = c.tunnel.setParts c.side parts

variable {c} {answer s}

theorem finish_of_describable (h : c.Describable) (steps : List (Except Failure Unit)) :
    c.Reports steps (c.tunnel.finish c.side c.scope c.endpoint steps) := by
  obtain ⟨parts, hparts⟩ := exists_parts h
  rw [Tunnel.finish, show c.tunnel.endParts c.side c.scope c.endpoint = .ok parts from hparts]
  exact ⟨Tunnel.report_of_failuresOf_eq_nil, Tunnel.report_of_failuresOf_ne_nil, parts, hparts, rfl⟩

/-- If the parts cannot be computed, whatever the steps came to is lost. -/
theorem finish_of_not_describable (h : ¬c.Describable) (steps : List (Except Failure Unit)) :
    c.tunnel.finish c.side c.scope c.endpoint steps =
      (.error (.fault .wrongValue), c.tunnel) := by
  rw [Tunnel.finish, show c.tunnel.endParts c.side c.scope c.endpoint = .error _ from
    parts_of_not_describable h]

theorem Reports.describable {steps : List (Except Failure Unit)} {r : Except Failure Unit × Tunnel}
    (h : c.Reports steps r) : c.Describable := by
  obtain ⟨parts, hparts, -⟩ := h.computed
  refine Classical.byContradiction fun hnot => ?_
  exact nomatch (parts_of_not_describable hnot).symm.trans hparts

theorem result_eq_finish : (c.script.run answer s).result =
    c.tunnel.finish c.side c.scope c.endpoint (c.steps answer s) := by
  simp only [script, Tunnel.provision, Script.run_bind]
  rfl

/-- A call reports the failures of its steps, and the parts are computed, if and only if the
container of the end can be described. Otherwise the call raises that a part has the wrong value,
whatever its steps came to, and the tunnel stays as it was. -/
theorem failures_reported (c : Provisioning) {S : Type} (answer : (q : Request) → S → q.Reply × S)
    (s : S) :
    let config := c.configScript.run answer s
    let secret := c.secretScript.run answer config.state
    let call := c.script.run answer s
    c.ConfigGoes (c.configScript.exchanges answer s) config.result ∧
    c.SecretGoes (c.secretScript.exchanges answer config.state) secret.result ∧
    (c.Reports [config.result, secret.result] call.result ↔ c.Describable) ∧
    (¬c.Describable → call.result = (.error (.fault .wrongValue), c.tunnel)) := by
  refine ⟨configGoes answer s, secretGoes answer _, ⟨Reports.describable, fun h => ?_⟩, fun h => ?_⟩
  · rw [result_eq_finish]
    exact finish_of_describable h _
  · rw [result_eq_finish]
    exact finish_of_not_describable h _

/-! ## A port that is none -/

/-- The call for the client side of a tunnel that was given no port. -/
def portless : Provisioning :=
  let c := plain .client [1] [2]
  { c with tunnel := { c.tunnel with port := .none } }

/-- On an empty store, the configuration of such a call is refused for its port and the secret is
created. The call does not report the refusal : it fails at the container, and no parts are
computed. -/
theorem portless_unreported :
    portless.steps Store.answer .empty =
      [.error (.configuration (.notAPort "accept port" .none)), .ok ()] ∧
    (portless.script.run Store.answer .empty).result =
      (.error (.fault .wrongValue), portless.tunnel) ∧
    ¬∀ (c : Provisioning) (S : Type) (answer : (q : Request) → S → q.Reply × S) (s : S),
      c.Reports (c.steps answer s) (c.script.run answer s).result := by
  refine ⟨rfl, rfl, fun h => ?_⟩
  have hraised := (h portless Store Store.answer .empty).raised (List.cons_ne_nil _ _)
  exact nomatch hraised

end Provisioning

end VolumeTunnel
