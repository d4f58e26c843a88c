import VolumeTunnel.Proofs.Cluster.Keyed
import VolumeTunnel.Proofs.Script.Run
import VolumeTunnel.Tunnel.Provision

/-!
# Calls that provision a tunnel end

A `Provisioning` is one call : the tunnel, the side, the prefix and the endpoint. It builds a config
map and a secret, each for a place of its own. If the namespace is a text and the labels map texts
to texts (`Provisioning.Typed`), both objects have the places that the call names
(`Provisioning.place?_configMap`, `Provisioning.place?_secret`), and the secret can always be built
(`Provisioning.exists_secret`).

Whatever the cluster answers, a call sends only three requests (`Provisioning.Sends`) : it creates
or updates its config map, and it creates its secret.
-/

namespace VolumeTunnel

/-! ## Objects and their places -/

theorem Metadata.make?_texts {space name : Text} {labels : Option Dict} {m : Metadata}
    (h : Metadata.make? (.text space) (.text name) labels = .ok m) :
    m.space = some space ∧ m.name = some name := by
  obtain ⟨space', hspace, h⟩ := Failure.bind_eq_ok.1 h
  obtain ⟨name', hname, h⟩ := Failure.bind_eq_ok.1 h
  obtain ⟨labels', -, h⟩ := Failure.bind_eq_ok.1 h
  rw [← Except.ok.inj h]
  exact ⟨(Except.ok.inj hspace).symm, (Except.ok.inj hname).symm⟩

theorem Tunnel.place?_endObject {kind : Kind} {m : Metadata} {data : TextMap Content}
    {space name : Text} (hspace : m.space = some space) (hname : m.name = some name) :
    (Tunnel.endObject kind m data).place? = some (Place.of kind.name space name) := by
  obtain ⟨space', name', labels⟩ := m
  obtain rfl : space' = some space := hspace
  obtain rfl : name' = some name := hname
  cases kind <;> rfl

theorem Tunnel.place?_configMap? {space name : Text} {labels : Dict} {config : Value} {o : Object}
    (h : Tunnel.configMap? ⟨.text space, .text name⟩ labels config = .ok o) :
    o.place? = some (Place.of Kind.configMap.name space name) := by
  obtain ⟨m, hm, h⟩ := Failure.bind_eq_ok.1 h
  obtain ⟨t, -, h⟩ := Failure.bind_eq_ok.1 h
  obtain ⟨hspace, hname⟩ := Metadata.make?_texts hm
  rw [← Except.ok.inj h]
  exact Tunnel.place?_endObject hspace hname

theorem Tunnel.place?_secret? {space name : Text} {labels : Dict} {certificate key : List UInt8}
    {o : Object}
    (h : Tunnel.secret? ⟨.text space, .text name⟩ labels (.bytes certificate) (.bytes key) = .ok o) :
    o.place? = some (Place.of Kind.secret.name space name) := by
  obtain ⟨m, hm, h⟩ := Failure.bind_eq_ok.1 h
  obtain ⟨hspace, hname⟩ := Metadata.make?_texts hm
  rw [← Except.ok.inj h]
  exact Tunnel.place?_endObject hspace hname

/-- Labels that map texts to texts. -/
def Dict.TextToText (d : Dict) : Prop :=
  ∀ e ∈ d, ∃ k v, e = (.text k, .text v)

/-- Such labels are accepted as they are. -/
theorem Dict.TextToText.exists_asTextMap {d : Dict} (h : d.TextToText) :
    ∃ ls, d.asTextMap Value.asText = .ok ls := by
  suffices hmap : ∃ es, d.mapM (fun (e : Value × Value) => do
      pure ((← e.1.asKey), (← Value.asText e.2))) = (.ok es : Except Failure _) by
    obtain ⟨es, hes⟩ := hmap
    refine ⟨TextMap.ofEntries es, ?_⟩
    rw [Dict.asTextMap, hes]
    rfl
  induction d with
  | nil => exact ⟨[], rfl⟩
  | cons e d ih =>
    obtain ⟨k, v, rfl⟩ := h e List.mem_cons_self
    obtain ⟨es, hes⟩ := ih fun e he => h e (List.mem_cons_of_mem _ he)
    refine ⟨(k, v) :: es, ?_⟩
    rw [List.mapM_cons, hes]
    rfl

/-! ## One call -/

/-- A call that provisions a side of a tunnel. -/
structure Provisioning where
  tunnel : Tunnel
  side : Side
  scope : Value
  endpoint : Endpoint

namespace Provisioning

variable (c : Provisioning)

/-- What the call does. -/
def script : ClusterScript (Except Failure Unit × Tunnel) :=
  c.tunnel.provision c.side c.scope c.endpoint

/-- Its first step, about the config map. -/
def configScript : ClusterScript (Except Failure Unit) :=
  c.tunnel.provisionConfig c.side c.scope c.endpoint

/-- Its second step, about the secret. -/
def secretScript : ClusterScript (Except Failure Unit) :=
  c.tunnel.provisionSecret c.side c.scope c.endpoint

/-- The config map that the call builds, if its configuration can be rendered. -/
def configMap : Except Failure Object :=
  c.tunnel.endConfigMap c.side c.scope c.endpoint

/-- The secret that the call builds, from the certificate and the key of its tunnel. -/
def secret : Except Failure Object :=
  c.tunnel.endSecret c.side c.scope c.endpoint

/-- The place of its config map. -/
def configPlace : Place :=
  Server.place .configMap (c.tunnel.configMapKey c.side c.scope)

/-- The place of its secret. -/
def secretPlace : Place :=
  Server.place .secret (c.tunnel.secretKey c.side c.scope)

/-- The types that a call is declared with : the namespace is a text, and labels map texts to
texts. -/
structure Typed : Prop where
  space : ∃ t, c.tunnel.space c.side = .text t
  labels : c.endpoint.labels.TextToText

variable {c} {o : Object}

theorem Typed.configPlace_textual (hc : c.Typed) : c.configPlace.Textual := by
  obtain ⟨t, ht⟩ := hc.space
  exact ⟨_, t, _, by rw [configPlace, Server.place, Tunnel.configMapKey, ht]; rfl⟩

theorem Typed.secretPlace_textual (hc : c.Typed) : c.secretPlace.Textual := by
  obtain ⟨t, ht⟩ := hc.space
  exact ⟨_, t, _, by rw [secretPlace, Server.place, Tunnel.secretKey, ht]; rfl⟩

theorem configPlace_eq {space : Text} (h : c.tunnel.space c.side = .text space) :
    c.configPlace =
      Place.of Kind.configMap.name space (Tunnel.prefixed c.scope (Tunnel.configName c.side)) := by
  rw [configPlace, Server.place, Tunnel.configMapKey, h]
  rfl

theorem secretPlace_eq {space : Text} (h : c.tunnel.space c.side = .text space) :
    c.secretPlace =
      Place.of Kind.secret.name space (Tunnel.prefixed c.scope (Tunnel.secretName c.side)) := by
  rw [secretPlace, Server.place, Tunnel.secretKey, h]
  rfl

/-- A place is not both that of a config map and that of a secret. -/
theorem configPlace_ne_secretPlace (c d : Provisioning) : c.configPlace ≠ d.secretPlace := by
  intro h
  have hkind : Kind.configMap.name = Kind.secret.name := Value.text.inj (congrArg Place.kind h)
  exact absurd hkind (by decide)

theorem place?_configMap (hc : c.Typed) (h : c.configMap = .ok o) :
    o.place? = some c.configPlace := by
  obtain ⟨t, ht⟩ := hc.space
  obtain ⟨config, -, h⟩ := Failure.bind_eq_ok.1 h
  rw [Tunnel.configMapKey, ht] at h
  rw [Tunnel.place?_configMap? h, configPlace, Server.place, Tunnel.configMapKey, ht]
  rfl

theorem place?_secret (hc : c.Typed) (h : c.secret = .ok o) : o.place? = some c.secretPlace := by
  obtain ⟨t, ht⟩ := hc.space
  rw [secret, Tunnel.endSecret, Tunnel.secretKey, ht] at h
  rw [Tunnel.place?_secret? h, secretPlace, Server.place, Tunnel.secretKey, ht]
  rfl

theorem Typed.exists_metadata (hc : c.Typed) (name : Text) :
    ∃ m, Metadata.make? (c.tunnel.space c.side) (.text name) (some c.endpoint.labels) = .ok m := by
  obtain ⟨t, ht⟩ := hc.space
  obtain ⟨ls, hls⟩ := hc.labels.exists_asTextMap
  refine ⟨⟨some t, some name, some ls⟩, ?_⟩
  rw [Metadata.make?, ht, Option.mapM_some, hls]
  rfl

/-- The secret of a call can be built. -/
theorem exists_secret (hc : c.Typed) : ∃ m, c.secret =
    .ok (Tunnel.secret m c.tunnel.certificate c.tunnel.privateKey) := by
  obtain ⟨m, hm⟩ := hc.exists_metadata (Tunnel.prefixed c.scope (Tunnel.secretName c.side))
  refine ⟨m, ?_⟩
  rw [secret, Tunnel.endSecret, Tunnel.secret?, Tunnel.secretKey, hm]
  rfl

/-- The config map of a call can be built if its configuration can be rendered. -/
theorem exists_configMap (hc : c.Typed) {config : Config}
    (h : c.tunnel.config c.side c.endpoint = .ok config) :
    ∃ m, c.configMap = .ok (Tunnel.configMap m config.text) := by
  obtain ⟨m, hm⟩ := hc.exists_metadata (Tunnel.prefixed c.scope (Tunnel.configName c.side))
  refine ⟨m, ?_⟩
  rw [configMap, Tunnel.endConfigMap, h]
  simp only [bind, Except.bind, Tunnel.configMap?, Tunnel.configMapKey, hm, Value.asText]
  rfl

/-- The first step of a call whose config map can be built. -/
theorem configScript_eq (h : c.configMap = .ok o) :
    c.configScript = applyConfigMap (.object o) := by
  rw [configScript, Tunnel.provisionConfig,
    show c.tunnel.endConfigMap c.side c.scope c.endpoint = .ok o from h]

/-- The second step of a call whose secret can be built. -/
theorem secretScript_eq (h : c.secret = .ok o) :
    c.secretScript = createSecretOnce (.object o) := by
  rw [secretScript, Tunnel.provisionSecret,
    show c.tunnel.endSecret c.side c.scope c.endpoint = .ok o from h]

/-! ## The requests of a call -/

/-- The requests that a call may send. Only its config map is ever updated. -/
inductive Sends (c : Provisioning) : Request → Prop
  | createConfigMap {o : Object} (h : c.configMap = .ok o) : Sends c (.create (.object o))
  | updateConfigMap {o : Object} (h : c.configMap = .ok o) : Sends c (.update (.object o))
  | createSecret {o : Object} (h : c.secret = .ok o) : Sends c (.create (.object o))

theorem configScript_only (c : Provisioning) : c.configScript.Only c.Sends := by
  rw [configScript, Tunnel.provisionConfig]
  cases h : c.tunnel.endConfigMap c.side c.scope c.endpoint with
  | error e => exact trivial
  | ok o =>
    dsimp only
    rw [applyConfigMap]
    cases (Resource.object o).metadata? with
    | error e => exact trivial
    | ok m =>
      refine ⟨.createConfigMap h, fun reply => ?_⟩
      cases reply with
      | ok x => exact trivial
      | error e =>
        dsimp only
        split
        · refine ⟨.updateConfigMap h, fun reply => ?_⟩
          cases reply <;> exact trivial
        · exact trivial

theorem secretScript_only (c : Provisioning) : c.secretScript.Only c.Sends := by
  rw [secretScript, Tunnel.provisionSecret]
  cases h : c.tunnel.endSecret c.side c.scope c.endpoint with
  | error e => exact trivial
  | ok o =>
    dsimp only
    rw [createSecretOnce]
    cases (Resource.object o).metadata? with
    | error e => exact trivial
    | ok m =>
      refine ⟨.createSecret h, fun reply => ?_⟩
      cases reply with
      | ok x => exact trivial
      | error e =>
        dsimp only
        split <;> exact trivial

/-- Whatever the cluster answers, a call sends no other requests. -/
theorem script_only (c : Provisioning) : c.script.Only c.Sends :=
  c.configScript_only.bind fun _ => c.secretScript_only.bind fun _ => trivial

/-- What a call creates or updates has a place. -/
theorem Sends.placed (hc : c.Typed) {q : Request} (h : c.Sends q) :
    ∃ o p, o.place? = some p ∧ (q = .create (.object o) ∨
      q = .update (.object o) ∧ p = c.configPlace) := by
  cases h with
  | createConfigMap h => exact ⟨_, _, place?_configMap hc h, Or.inl rfl⟩
  | updateConfigMap h => exact ⟨_, _, place?_configMap hc h, Or.inr ⟨rfl, rfl⟩⟩
  | createSecret h => exact ⟨_, _, place?_secret hc h, Or.inl rfl⟩

/-! ## Calls in which nothing is wrong -/

/-- A call that fails only if a request does : its configuration can be rendered, and the image is
left out or a text. -/
structure Ready (c : Provisioning) : Prop extends Typed c where
  config : ∃ config, c.tunnel.config c.side c.endpoint = .ok config
  image : c.tunnel.chosenImage = .none ∨ ∃ t, c.tunnel.chosenImage = .text t

theorem exists_int_of_checkPort {role : Text} {port : Value} {u : Unit}
    (h : Config.checkPort role port = .ok u) : ∃ i, port = .int i := by
  cases port with
  | int i => exact ⟨i, rfl⟩
  | _ => cases h

/-- A configuration is only rendered for a whole number as the port that the end listens on. -/
theorem exists_int_acceptPort {config : Config}
    (h : c.tunnel.config c.side c.endpoint = .ok config) :
    ∃ i, c.tunnel.acceptPort c.side c.endpoint = .int i := by
  cases hside : c.side with
  | client =>
    rw [Tunnel.config, hside, Tunnel.endConfig.eq_def] at h
    obtain ⟨u, hu, -⟩ := Failure.bind_eq_ok.1 h
    exact exists_int_of_checkPort hu
  | server =>
    rw [Tunnel.config, hside, Tunnel.endConfig.eq_def] at h
    obtain ⟨u, hu, -⟩ := Failure.bind_eq_ok.1 h
    exact exists_int_of_checkPort hu

theorem Ready.exists_image (hc : c.Ready) : ∃ t, c.tunnel.image = .text t := by
  rcases hc.image with h | ⟨t, h⟩
  · exact ⟨_, by rw [Tunnel.image, h]; rfl⟩
  · rw [Tunnel.image, h, Value.orElse]
    split
    · exact ⟨t, rfl⟩
    · exact ⟨_, rfl⟩

/-- The parts for the pods can be computed. -/
theorem Ready.exists_endParts (hc : c.Ready) :
    ∃ parts, c.tunnel.endParts c.side c.scope c.endpoint = .ok parts := by
  obtain ⟨config, hconfig⟩ := hc.config
  obtain ⟨i, hi⟩ := exists_int_acceptPort hconfig
  obtain ⟨t, ht⟩ := hc.exists_image
  rw [Tunnel.endParts, Tunnel.containers, ht, hi]
  exact ⟨_, rfl⟩

theorem report_pair_eq_ok {a b : Except Failure Unit} :
    Tunnel.report [a, b] = .ok () ↔ a = .ok () ∧ b = .ok () := by
  cases a with
  | ok _ =>
    cases b with
    | ok _ => exact iff_of_true rfl ⟨rfl, rfl⟩
    | error _ => exact iff_of_false (nomatch ·) (nomatch ·.2)
  | error _ =>
    cases b with
    | ok _ => exact iff_of_false (nomatch ·) (nomatch ·.1)
    | error _ => exact iff_of_false (nomatch ·) (nomatch ·.1)

theorem Ready.finish_ok (hc : c.Ready) :
    (c.tunnel.finish c.side c.scope c.endpoint [.ok (), .ok ()]).1 = .ok () := by
  obtain ⟨parts, hparts⟩ := hc.exists_endParts
  rw [Tunnel.finish, hparts]
  exact report_pair_eq_ok.2 ⟨rfl, rfl⟩

/-! ## Plain calls -/

/-- The call for a side of a tunnel from namespace `src` to namespace `dst`, in which nothing is
chosen but the certificate and the key. -/
def plain (side : Side) (certificate privateKey : List UInt8) : Provisioning where
  tunnel := ⟨certificate, privateKey, ⟨"src", "pvcs"⟩, ⟨"dst", "pvcs"⟩, .default, .none,
    .int Tunnel.defaultPort, .empty, .empty⟩
  side := side
  scope := "vt"
  endpoint := ⟨"transfer.example.com", .int 2222, .int 443, [("app", "tunnel")]⟩

theorem plain_typed (side : Side) (certificate privateKey : List UInt8) :
    (plain side certificate privateKey).Typed := by
  refine ⟨?_, fun e he => ⟨_, _, List.mem_singleton.1 he⟩⟩
  cases side <;> exact ⟨_, rfl⟩

theorem plain_ready (side : Side) (certificate privateKey : List UInt8) :
    (plain side certificate privateKey).Ready := by
  refine ⟨plain_typed side certificate privateKey, ?_, Or.inl rfl⟩
  cases side <;> exact ⟨_, rfl⟩

end Provisioning

end VolumeTunnel
