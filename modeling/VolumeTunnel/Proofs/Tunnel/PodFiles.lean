import VolumeTunnel.Proofs.Tunnel.ConfigText
import VolumeTunnel.Proofs.Tunnel.SharedPair

/-!
# The files of a pod

The parts for the pods of a side only name things : a mount names a volume, a volume names an object
and entries of it, the command and the configuration name paths. `PodParts.Shows` follows a mount to
the object that it shows, and `PodParts.HasFile` says which files a container then has.

After a call that returned without failing, every name leads somewhere (`Provisioning.Resolves`).
The container has exactly three files (`Tunnel.hasFile_iff`) : its configuration, which is the one
rendered for the call, and the certificate and the key of the secret that is stored.
-/

namespace VolumeTunnel

open UnreliableStore (answer)

/-- The place of the object that a volume shows, which is in the namespace of the pod. -/
def VolumeSource.place? (space : Text) : VolumeSource → Option Place
  | configMap name => name.map (Place.of Kind.configMap.name space)
  | secret name _ => name.map (Place.of Kind.secret.name space)

namespace PodParts

variable (parts : PodParts) (space : Text) (s : Store)

/-- A mount names exactly one volume, and the object that the volume shows is stored. -/
structure Shows (m : Mount) (source : VolumeSource) (o : Object) : Prop where
  volume : parts.volumes.filter (fun v => v.name = m.volume) = [⟨m.volume, source⟩]
  found : ∃ p, source.place? space = some p ∧ s.find? p = some o

/-- The files of a container and what is in them. -/
inductive HasFile (ct : Container) : Text → Content → Prop
  /-- One entry of a config map is mounted as a file. -/
  | entry {m : Mount} {name : Option Text} {o : Object} {key : Text} {x : Content}
      (hm : m ∈ ct.mounts) (hshows : parts.Shows space s m (.configMap name) o)
      (hentry : m.entry = some key) (hx : o.valueAt? key = some x) : HasFile ct m.path x
  /-- The items of a secret are files in the directory where it is mounted. They are stored
  encoded. -/
  | item {m : Mount} {name : Option Text} {items : List SecretItem} {o : Object} {i : SecretItem}
      {t : Text} {bs : List UInt8} (hm : m ∈ ct.mounts)
      (hshows : parts.Shows space s m (.secret name items) o) (hentry : m.entry = none)
      (hi : i ∈ items) (hx : o.valueAt? i.key = some (.text t)) (hbs : Base64.decode? t = some bs) :
      HasFile ct (m.path ++ .char '/' :: i.path) (.bytes bs)

variable {parts space s} {m : Mount} {source source' : VolumeSource} {o o' : Object}

/-- A mount shows one object. -/
theorem Shows.unique (h : parts.Shows space s m source o) (h' : parts.Shows space s m source' o') :
    source = source' ∧ o = o' := by
  have hvolume := h.volume.symm.trans h'.volume
  obtain rfl : source = source' := by simpa using hvolume
  obtain ⟨p, hp, ho⟩ := h.found
  obtain ⟨p', hp', ho'⟩ := h'.found
  obtain rfl := Option.some.inj (hp.symm.trans hp')
  exact ⟨rfl, Option.some.inj (ho.symm.trans ho')⟩

end PodParts

namespace Tunnel

theorem parts_setParts (t : Tunnel) (side : Side) (parts : PodParts) :
    (t.setParts side parts).parts side = parts := by
  cases side <;> rfl

/-- The container of an end. -/
def endContainer (side : Side) (image : Option Text) (port : Int) : Container where
  name := typeName
  image := image
  command := command
  portName := typeName
  port := port
  mounts := [⟨configName side, configPath, some configKey⟩,
    ⟨secretName side, certificatesPath, none⟩]

/-- The volumes of an end. -/
def endVolumes (side : Side) (scope : Value) : List Volume :=
  [⟨configName side, .configMap (some (prefixed scope (configName side)))⟩,
   ⟨secretName side, .secret (some (prefixed scope (secretName side)))
      [⟨certificateKey, certificateKey⟩, ⟨privateKeyKey, privateKeyKey⟩]⟩]

/-- The parts for the pods of a side, if they can be computed. -/
theorem eq_of_endParts {t : Tunnel} {side : Side} {scope : Value} {e : Endpoint} {parts : PodParts}
    (h : t.endParts side scope e = .ok parts) :
    ∃ image port, t.acceptPort side e = .int port ∧
      parts = ⟨[endContainer side image port], endVolumes side scope⟩ := by
  obtain ⟨cts, hcts, h⟩ := Failure.bind_eq_ok.1 h
  obtain ⟨vs, hvs, h⟩ := Failure.bind_eq_ok.1 h
  obtain ⟨port, hport, hcts⟩ := Failure.bind_eq_ok.1 hcts
  obtain ⟨configVolume, hconfig, hcts⟩ := Failure.bind_eq_ok.1 hcts
  obtain ⟨secretVolume, hsecret, hcts⟩ := Failure.bind_eq_ok.1 hcts
  obtain ⟨image, -, hcts⟩ := Failure.bind_eq_ok.1 hcts
  have haccept : t.acceptPort side e = .int port := by
    cases hp : t.acceptPort side e with
    | int i =>
      rw [hp] at hport
      rw [Except.ok.inj hport]
    | _ =>
      rw [hp] at hport
      exact nomatch hport
  refine ⟨image, port, haccept, ?_⟩
  rw [← Except.ok.inj h, ← Except.ok.inj hcts, ← Except.ok.inj hvs, ← Except.ok.inj hconfig,
    ← Except.ok.inj hsecret]
  rfl

theorem configName_ne_secretName (side : Side) : configName side ≠ secretName side := by
  cases side <;> decide

theorem valueAt?_configKey {m : Metadata} {config : Text} :
    (configMap m config).valueAt? configKey = some (.text config) := rfl

theorem certificatePath_eq : certificatePath = certificatesPath ++ .char '/' :: certificateKey := by
  decide

theorem privateKeyPath_eq : privateKeyPath = certificatesPath ++ .char '/' :: privateKeyKey := by
  decide

/-! ## The files of an end -/

section Files

variable {side : Side} {scope : Value} {image : Option Text} {port : Int} {space config : Text}
  {s : Store} {m m' : Metadata} {certificate privateKey : List UInt8}

theorem shows_config
    (h : s.find? (Place.of Kind.configMap.name space (prefixed scope (configName side))) =
      some (configMap m config)) :
    PodParts.Shows ⟨[endContainer side image port], endVolumes side scope⟩ space s
      ⟨configName side, configPath, some configKey⟩
      (.configMap (some (prefixed scope (configName side)))) (configMap m config) where
  volume := by simp [endVolumes, (configName_ne_secretName side).symm]
  found := ⟨_, rfl, h⟩

theorem shows_secret
    (h : s.find? (Place.of Kind.secret.name space (prefixed scope (secretName side))) =
      some (secret m' certificate privateKey)) :
    PodParts.Shows ⟨[endContainer side image port], endVolumes side scope⟩ space s
      ⟨secretName side, certificatesPath, none⟩
      (.secret (some (prefixed scope (secretName side)))
        [⟨certificateKey, certificateKey⟩, ⟨privateKeyKey, privateKeyKey⟩])
      (secret m' certificate privateKey) where
  volume := by simp [endVolumes, configName_ne_secretName side]
  found := ⟨_, rfl, h⟩

/-- The container of an end has exactly three files : the configuration, the certificate and the
key. -/
theorem hasFile_iff
    (hconfig : s.find? (Place.of Kind.configMap.name space (prefixed scope (configName side))) =
      some (configMap m config))
    (hsecret : s.find? (Place.of Kind.secret.name space (prefixed scope (secretName side))) =
      some (secret m' certificate privateKey)) {path : Text} {x : Content} :
    PodParts.HasFile ⟨[endContainer side image port], endVolumes side scope⟩ space s
        (endContainer side image port) path x ↔
      (path = configPath ∧ x = .text config) ∨ (path = certificatePath ∧ x = .bytes certificate) ∨
        (path = privateKeyPath ∧ x = .bytes privateKey) := by
  have hc := @shows_config side scope image port space config s m hconfig
  have hs := @shows_secret side scope image port space s m' certificate privateKey hsecret
  constructor
  · intro h
    cases h with
    | entry hm hshows hentry hx =>
      rcases List.mem_cons.1 hm with rfl | hm
      · obtain ⟨-, rfl⟩ := hshows.unique hc
        obtain rfl := Option.some.inj hentry
        exact Or.inl ⟨rfl, Option.some.inj (hx.symm.trans valueAt?_configKey)⟩
      · obtain rfl := List.mem_singleton.1 hm
        exact nomatch hentry
    | item hm hshows hentry hi hx hbs =>
      rcases List.mem_cons.1 hm with rfl | hm
      · exact nomatch hentry
      · obtain rfl := List.mem_singleton.1 hm
        obtain ⟨hsource, rfl⟩ := hshows.unique hs
        obtain ⟨-, rfl⟩ := VolumeSource.secret.inj hsource
        rcases List.mem_cons.1 hi with rfl | hi
        · rw [valueAt?_certificateKey] at hx
          obtain rfl := Content.text.inj (Option.some.inj hx)
          rw [Base64.decode?_encode] at hbs
          exact Or.inr (Or.inl ⟨certificatePath_eq.symm, by rw [Option.some.inj hbs]⟩)
        · obtain rfl := List.mem_singleton.1 hi
          rw [valueAt?_privateKeyKey] at hx
          obtain rfl := Content.text.inj (Option.some.inj hx)
          rw [Base64.decode?_encode] at hbs
          exact Or.inr (Or.inr ⟨privateKeyPath_eq.symm, by rw [Option.some.inj hbs]⟩)
  · rintro (⟨rfl, rfl⟩ | ⟨rfl, rfl⟩ | ⟨rfl, rfl⟩)
    · exact .entry List.mem_cons_self hc rfl valueAt?_configKey
    · rw [certificatePath_eq]
      exact .item (List.mem_cons_of_mem _ List.mem_cons_self) hs rfl List.mem_cons_self
        valueAt?_certificateKey (Base64.decode?_encode _)
    · rw [privateKeyPath_eq]
      exact .item (List.mem_cons_of_mem _ List.mem_cons_self) hs rfl
        (List.mem_cons_of_mem _ List.mem_cons_self) valueAt?_privateKeyKey (Base64.decode?_encode _)

end Files

end Tunnel

namespace Provisioning

/-! ## What the configuration says -/

variable {c : Provisioning} {config : Config}

/-- The parts of a configuration that come first. -/
theorem exists_rest_of_config (h : c.tunnel.config c.side c.endpoint = .ok config) :
    Config.isPort (c.tunnel.acceptPort c.side c.endpoint) = true ∧
      ∃ rest, config = Config.globalLines c.side ++
        Config.serviceLines (c.tunnel.acceptPort c.side c.endpoint) ++ rest := by
  rw [Tunnel.config] at h
  cases hside : c.side with
  | client =>
    rw [hside, Tunnel.endConfig.eq_def] at h
    obtain ⟨hu, rfl⟩ := Config.client_eq_ok.1 h
    exact ⟨hu.accept, _, List.append_assoc _ _ _⟩
  | server =>
    rw [hside, Tunnel.endConfig.eq_def] at h
    obtain ⟨haccept, -, rfl⟩ := Config.server_eq_ok.1 h
    exact ⟨haccept, _, List.append_assoc _ _ _⟩

theorem keys_serviceLines (port : Value) :
    Config.keys (Config.serviceLines port) = ([("debug" : Text), "accept", "cert", "key"]) := rfl

theorem isKey_of_mem_front {side : Side} {port : Value} {k : Text}
    (hk : k ∈ Config.keys (Config.globalLines side ++ Config.serviceLines port)) :
    Config.IsKey k := by
  refine Config.isKey_of_mem_clientKeys k ?_
  rw [Config.keys_append, keys_serviceLines] at hk
  revert k
  cases side <;> decide

/-- The settings that both ends share are the first ones with their keys, whatever follows them. -/
theorem find?_config (h : c.tunnel.config c.side c.endpoint = .ok config) {key value : Text}
    (hmem : (key, value) ∈ [(("accept" : Text), (c.tunnel.acceptPort c.side c.endpoint).shown),
      ("cert", Tunnel.certificatePath), ("key", Tunnel.privateKeyPath)]) :
    (Text.lines config.text).find? (Config.setsKey key) =
      some (ConfigLine.setting key value).text := by
  obtain ⟨haccept, rest, rfl⟩ := exists_rest_of_config h
  have hone := Config.oneLined_append.2
    ⟨Config.oneLined_globalLines c.side, Config.oneLined_serviceLines haccept⟩
  have honly : (Config.globalLines c.side ++
      Config.serviceLines (c.tunnel.acceptPort c.side c.endpoint)).filter
        (fun line => line.key? = some key) = [.setting key value] := by
    simp only [List.mem_cons, List.not_mem_nil, or_false, Prod.mk.injEq] at hmem
    rcases hmem with ⟨rfl, rfl⟩ | ⟨rfl, rfl⟩ | ⟨rfl, rfl⟩ <;> cases c.side <;> rfl
  have hkey : Config.IsKey key := by
    have hline := List.mem_singleton_self (ConfigLine.setting key value)
    rw [← honly] at hline
    exact isKey_of_mem_front (Config.mem_keys.2 ⟨_, (List.mem_filter.1 hline).1, rfl⟩)
  exact Config.find?_lines hkey (fun k hk => isKey_of_mem_front hk) hone honly rest

/-! ## The parts of a call -/

/-- How the parts for the pods of a side, which have one container, resolve in a namespace of a
store. -/
structure Resolves (c : Provisioning) (space : Text) (config : Config) (s : Store)
    (parts : PodParts) (ct : Container) : Prop where
  container : parts.containers = [ct]
  /-- Each mount names exactly one volume, which shows an object that is stored. -/
  mounts : ∀ m ∈ ct.mounts, ∃ source o, parts.Shows space s m source o
  /-- The command reads the configuration from a file that holds it. -/
  command : ∃ program path, ct.command = [program, path] ∧
    parts.HasFile space s ct path (.text config.text)
  /-- There is a secret, and the paths that the configuration gives first are those of its
  certificate and of its key. -/
  pair : ∃ m certificate privateKey, ∃ certificatePath privateKeyPath : Text,
    s.find? c.secretPlace = some (Tunnel.secret m certificate privateKey) ∧
    (Text.lines config.text).find? (Config.setsKey "cert") = some ("cert = " ++ certificatePath) ∧
    parts.HasFile space s ct certificatePath (.bytes certificate) ∧
    (Text.lines config.text).find? (Config.setsKey "key") = some ("key = " ++ privateKeyPath) ∧
    parts.HasFile space s ct privateKeyPath (.bytes privateKey)
  /-- The container opens the port on which the configuration accepts. -/
  port : (Text.lines config.text).find? (Config.setsKey "accept") =
    some ("accept = " ++ Text.ofInt ct.port)
  /-- No path has two files. -/
  unique : ∀ path x y, parts.HasFile space s ct path x → parts.HasFile space s ct path y → x = y

variable {space : Text} {w : UnreliableStore} {t : Tunnel}

/-- After its config step completed, a call has left the configuration that it renders. -/
theorem exists_config_stored (hc : c.Typed) (h : c.configDone w = true) :
    ∃ config m, c.tunnel.config c.side c.endpoint = .ok config ∧
      (c.script.run answer w).state.store.find? c.configPlace =
        some (Tunnel.configMap m config.text) := by
  rcases config_step w hc with ⟨-, o, ho, hs⟩ | ⟨hfailed, -⟩
  · obtain ⟨config, hconfig, -⟩ := Failure.bind_eq_ok.1 ho
    obtain ⟨m, hm⟩ := exists_configMap hc hconfig
    obtain rfl := Except.ok.inj (ho.symm.trans hm)
    refine ⟨config, m, hconfig, ?_⟩
    rw [find?_script_of_ne hc (configPlace_ne_secretPlace c c), hs,
      Store.find?_put_self _ _ hc.configPlace_textual]
  · rw [h] at hfailed
    exact nomatch hfailed

/-- After a call was served there is a secret, if there was none or one that was made so. -/
theorem exists_secret_stored (hc : c.Typed) (h : c.secretServed w = true)
    (hmade : ∀ x, w.store.find? c.secretPlace = some x →
      ∃ m certificate privateKey, x = Tunnel.secret m certificate privateKey) :
    ∃ m certificate privateKey, (c.script.run answer w).state.store.find? c.secretPlace =
      some (Tunnel.secret m certificate privateKey) := by
  obtain ⟨m, ho⟩ := exists_secret hc
  rw [(secret_step_served hc ho h).2, Store.find?_keep_self _ _ hc.secretPlace_textual,
    find?_afterConfig_of_ne hc (configPlace_ne_secretPlace c c).symm]
  cases hx : w.store.find? c.secretPlace with
  | none => exact ⟨m, _, _, rfl⟩
  | some x =>
    obtain ⟨m', certificate, privateKey, rfl⟩ := hmade x hx
    exact ⟨m', certificate, privateKey, rfl⟩

/-- The parts that a call computes resolve where its objects are stored. -/
theorem resolves_of_stored (hspace : c.tunnel.space c.side = .text space)
    (hconfig : c.tunnel.config c.side c.endpoint = .ok config) {parts : PodParts}
    (hparts : c.tunnel.endParts c.side c.scope c.endpoint = .ok parts) {s : Store}
    {m m' : Metadata} {certificate privateKey : List UInt8}
    (hmap : s.find? c.configPlace = some (Tunnel.configMap m config.text))
    (hsecret : s.find? c.secretPlace = some (Tunnel.secret m' certificate privateKey)) :
    ∃ ct, c.Resolves space config s parts ct := by
  obtain ⟨image, port, hport, rfl⟩ := Tunnel.eq_of_endParts hparts
  have hmap' := hmap
  have hsecret' := hsecret
  rw [configPlace_eq hspace] at hmap'
  rw [secretPlace_eq hspace] at hsecret'
  have hfile := @Tunnel.hasFile_iff c.side c.scope image port space config.text s m m' certificate
    privateKey hmap' hsecret'
  refine ⟨Tunnel.endContainer c.side image port, ?_⟩
  constructor
  case container => rfl
  case mounts =>
    intro mount hmount
    rcases List.mem_cons.1 hmount with rfl | hmount
    · exact ⟨_, _, Tunnel.shows_config hmap'⟩
    · obtain rfl := List.mem_singleton.1 hmount
      exact ⟨_, _, Tunnel.shows_secret hsecret'⟩
  case command => exact ⟨_, _, rfl, hfile.2 (Or.inl ⟨rfl, rfl⟩)⟩
  case pair =>
    refine ⟨m', certificate, privateKey, Tunnel.certificatePath, Tunnel.privateKeyPath, hsecret,
      find?_config hconfig ?_, hfile.2 (Or.inr (Or.inl ⟨rfl, rfl⟩)), find?_config hconfig ?_,
      hfile.2 (Or.inr (Or.inr ⟨rfl, rfl⟩))⟩
    · exact List.mem_cons_of_mem _ List.mem_cons_self
    · exact List.mem_cons_of_mem _ (List.mem_cons_of_mem _ List.mem_cons_self)
  case port =>
    have haccept := find?_config hconfig List.mem_cons_self
    rw [hport] at haccept
    exact haccept
  case unique =>
    intro path x y hx hy
    have hcertificate : Tunnel.configPath ≠ Tunnel.certificatePath := by decide
    have hkey : Tunnel.configPath ≠ Tunnel.privateKeyPath := by decide
    have hpair : Tunnel.certificatePath ≠ Tunnel.privateKeyPath := by decide
    rcases hfile.1 hx with ⟨rfl, rfl⟩ | ⟨rfl, rfl⟩ | ⟨rfl, rfl⟩
    · rcases hfile.1 hy with ⟨-, rfl⟩ | ⟨h, -⟩ | ⟨h, -⟩
      · rfl
      · exact absurd h hcertificate
      · exact absurd h hkey
    · rcases hfile.1 hy with ⟨h, -⟩ | ⟨-, rfl⟩ | ⟨h, -⟩
      · exact absurd h hcertificate.symm
      · rfl
      · exact absurd h hpair
    · rcases hfile.1 hy with ⟨h, -⟩ | ⟨h, -⟩ | ⟨-, rfl⟩
      · exact absurd h hkey.symm
      · exact absurd h hpair.symm
      · rfl

/-- A call that returned without failing has computed parts whose names all lead to what it
provisioned, on any cluster where its secret is not there yet or was made by such a call. -/
theorem parts_resolve (hc : c.Typed) (hw : w.Honest)
    (hmade : ∀ x, w.store.find? c.secretPlace = some x →
      ∃ m certificate privateKey, x = Tunnel.secret m certificate privateKey)
    (h : (c.script.run answer w).result = (.ok (), t)) :
    ∃ space config ct, c.tunnel.space c.side = .text space ∧
      c.tunnel.config c.side c.endpoint = .ok config ∧
      c.Resolves space config (c.script.run answer w).state.store (t.parts c.side) ct := by
  obtain ⟨space, hspace⟩ := hc.space
  obtain ⟨parts, hparts, rfl, hconfigured, -⟩ := steps_of_ok h
  have hdone : c.configDone w = true := by
    rw [configDone, hconfigured]
    rfl
  obtain ⟨config, m, hconfig, hmap⟩ := exists_config_stored hc hdone
  have hserved := secretServed_of_ok hc hw (by rw [h])
  obtain ⟨m', certificate, privateKey, hsecret⟩ := exists_secret_stored hc hserved hmade
  obtain ⟨ct, hct⟩ := resolves_of_stored hspace hconfig hparts hmap hsecret
  rw [Tunnel.parts_setParts]
  exact ⟨space, config, ct, hspace, hconfig, hct⟩

/-- The server end of a plain tunnel, where a secret with another certificate and key is stored. -/
theorem parts_resolve_server :
    let c := plain .server [1] [2]
    let w : UnreliableStore :=
      ⟨Store.empty.put c.secretPlace (Tunnel.secret ⟨none, none, none⟩ [3] [4]), fun _ _ => none⟩
    c.Typed ∧ w.Honest ∧
      (∀ x, w.store.find? c.secretPlace = some x →
        ∃ m certificate privateKey, x = Tunnel.secret m certificate privateKey) ∧
      ∃ t, (c.script.run answer w).result = (.ok (), t) ∧
        ∃ space config ct, c.tunnel.space c.side = .text space ∧
          c.tunnel.config c.side c.endpoint = .ok config ∧
          c.Resolves space config (c.script.run answer w).state.store (t.parts c.side) ct := by
  intro c w
  have hc : c.Typed := plain_typed .server [1] [2]
  have hw : w.Reliable := fun _ _ => rfl
  have hmade : ∀ x, w.store.find? c.secretPlace = some x →
      ∃ m certificate privateKey, x = Tunnel.secret m certificate privateKey := by
    intro x hx
    rw [Store.find?_put_self _ _ hc.secretPlace_textual] at hx
    exact ⟨_, _, _, (Option.some.inj hx).symm⟩
  have hok := script_ok (plain_ready .server [1] [2]) hw
  have hresult : (c.script.run answer w).result = (.ok (), (c.script.run answer w).result.2) :=
    Prod.ext hok rfl
  exact ⟨hc, hw.honest, hmade, _, hresult, parts_resolve hc hw.honest hmade hresult⟩

end Provisioning

end VolumeTunnel
