import VolumeTunnel.Proofs.Tunnel.Independence
import VolumeTunnel.Proofs.Tunnel.Password

/-!
# Passwords and keys stay in objects

Two tunnels are alike (`Tunnel.Alike`) if they differ in the text of the password and in the private
key only. What they put into a cluster differs in two entries only (`Object.Alike`) : the
configuration in a client config map and the private key in a secret. Calls that provision ends of
such tunnels, or read their objects, send requests that are alike, log the same, fail for the same
reasons and leave the same parts for the pods (`TunnelUse.script_like`).

`TunnelUse.secrets_unseen` puts this together for any sequence of calls, on any number of tunnels
and clusters : whatever answers the requests or the calls of the connections, it sees and shows no
more than those two entries as long as it does not itself look into them.
-/

namespace VolumeTunnel

/-! ## Tunnels and their objects -/

/-- Tunnels that differ in the text of the password and in the private key only. -/
def Tunnel.Alike (t t' : Tunnel) : Prop :=
  ∃ o key, t.options.Alike o ∧ t' = { t with options := o, privateKey := key }

/-- Objects that are the same, but for the configuration in a config map that has the name of one of
the client side, and for the private key in a secret. -/
inductive Object.Alike : Object → Object → Prop
  | same (o : Object) : Alike o o
  | clientConfig {m : Metadata} {scope : Value}
    (hm : m.name = some (Tunnel.prefixed scope (Tunnel.configName .client))) (c c' : Text) :
    Alike (Tunnel.configMap m c) (Tunnel.configMap m c')
  | secret (m : Metadata) (certificate key key' : List UInt8) :
    Alike (Tunnel.secret m certificate key) (Tunnel.secret m certificate key')

theorem Object.veils_alike : Object.Veils Object.Alike where
  refl := .same
  data o o' h := by
    cases h with
    | same => exact ⟨_, rfl⟩
    | clientConfig hm c c' => exact ⟨_, rfl⟩
    | secret m certificate key key' => exact ⟨_, rfl⟩

/-- A config map that has the name of one of the server side. -/
def Object.IsServerConfig (o : Object) : Prop :=
  o.kind = some Kind.configMap.name ∧ ∃ m scope, o.metadata = some m ∧
    m.name = some (Tunnel.prefixed scope (Tunnel.configName .server))

/-- In the configuration of a server side nothing is hidden. -/
theorem Object.Alike.eq_of_isServerConfig {o o' : Object} (h : o.Alike o') (ho : o.IsServerConfig) :
    o' = o := by
  obtain ⟨hkind, m, scope, hm, hname⟩ := ho
  cases h with
  | same => rfl
  | @clientConfig m' scope' hm' c c' =>
    obtain rfl : m' = m := Option.some.inj hm
    have hprefixed : Tunnel.prefixed (.text scope'.shown) (.text (Tunnel.configName .client)) =
        Tunnel.prefixed (.text scope.shown) (.text (Tunnel.configName .server)) :=
      Option.some.inj (hm'.symm.trans hname)
    exact absurd (Tunnel.prefixed_inj (by simp only [Tunnel.length_configName]) hprefixed).2
      (by decide)
  | secret m' certificate key key' => exact absurd (Option.some.inj hkind) (by decide)

/-- Requests that are the same but for the configuration of a client side and private keys. -/
abbrev Request.seen : Likeness Request Request.Reply :=
  Request.likeness Object.Alike

/-- Calls that are the same but for the configuration of a client side and private keys. -/
abbrev Call.seen : Likeness Call Call.Reply :=
  Call.likeness Object.Alike

theorem Metadata.make?_name {space : Value} {name : Text} {labels : Option Dict} {m : Metadata}
    (h : Metadata.make? space (.text name) labels = .ok m) : m.name = some name := by
  obtain ⟨space', -, h⟩ := Failure.bind_eq_ok.1 h
  obtain ⟨name', hname, h⟩ := Failure.bind_eq_ok.1 h
  obtain ⟨labels', -, h⟩ := Failure.bind_eq_ok.1 h
  rw [← Except.ok.inj h]
  exact (Except.ok.inj hname).symm

namespace Tunnel

variable {t t' : Tunnel} (side : Side) (scope : Value) (e : Endpoint)

theorem Alike.quoted_eq (h : t.Alike t') : t.options.quoted = t'.options.quoted := by
  obtain ⟨o, key, ho, rfl⟩ := h
  exact ho.quoted_eq

theorem Alike.parts_eq (h : t.Alike t') : t.parts side = t'.parts side := by
  obtain ⟨o, key, -, rfl⟩ := h
  cases side <;> rfl

/-- Config maps of client ends with different configurations are alike. -/
theorem configMap?_alike (t : Tunnel) (labels : Dict) (c c' : Text) :
    SameResult Object.Alike (configMap? (t.configMapKey .client scope) labels (.text c))
      (configMap? (t.configMapKey .client scope) labels (.text c')) := by
  rw [configMap?, configMap?]
  cases hm : Metadata.make? (t.configMapKey .client scope).space
      (t.configMapKey .client scope).name (some labels) with
  | error e => exact .error e
  | ok m => exact .ok (.clientConfig (Metadata.make?_name hm) c c')

/-- The config maps of alike tunnels are alike, or refused for the same reason. -/
theorem endConfigMap_alike (h : t.Alike t') :
    SameResult Object.Alike (t.endConfigMap side scope e) (t'.endConfigMap side scope e) := by
  obtain ⟨o, key, ho, rfl⟩ := h
  cases side with
  | server =>
    have hconfig : ({ t with options := o, privateKey := key } : Tunnel).config .server e =
        t.config .server e := Config.server_eq ho e.port _
    rw [endConfigMap, endConfigMap, hconfig]
    exact SameResult.refl .same _
  | client =>
    exact (Config.client_refused ho t.port e.hostname e.exposedPort).bind
      fun c c' _ => configMap?_alike scope t e.labels c.text c'.text

/-- The secrets of alike tunnels are alike, or refused for the same reason. -/
theorem endSecret_alike (h : t.Alike t') :
    SameResult Object.Alike (t.endSecret side scope e) (t'.endSecret side scope e) := by
  obtain ⟨o, key, -, rfl⟩ := h
  refine (SameResult.refl (fun _ => rfl) (Metadata.make? (t.secretKey side scope).space
    (t.secretKey side scope).name (some e.labels))).bind fun m _ hm => ?_
  obtain rfl := hm
  exact .ok (.secret m t.certificate t.privateKey key)

end Tunnel

/-! ## What a call shows -/

theorem applyConfigMap_like {o o' : Object} (h : o.Alike o') :
    Script.Like Request.seen (fun r r' => r = r') (applyConfigMap (.object o))
      (applyConfigMap (.object o')) := by
  have hmetadata : o'.metadata? = o.metadata? := Object.veils_alike.metadata?_eq h
  simp only [applyConfigMap, Resource.metadata?, hmetadata]
  cases o.metadata? with
  | error e => exact .done rfl
  | ok m =>
    refine .ask (.create h) fun r r' hr => ?_
    cases hr with
    | ok _ => exact .tell (.done rfl)
    | error e =>
      dsimp only
      split
      · refine .ask (.update h) fun r r' hr => ?_
        cases hr with
        | ok _ => exact .tell (.done rfl)
        | error e => exact .done rfl
      · exact .done rfl

theorem createSecretOnce_like {o o' : Object} (h : o.Alike o') :
    Script.Like Request.seen (fun r r' => r = r') (createSecretOnce (.object o))
      (createSecretOnce (.object o')) := by
  have hmetadata : o'.metadata? = o.metadata? := Object.veils_alike.metadata?_eq h
  simp only [createSecretOnce, Resource.metadata?, hmetadata]
  cases o.metadata? with
  | error e => exact .done rfl
  | ok m =>
    refine .ask (.create h) fun r r' hr => ?_
    cases hr with
    | ok _ => exact .tell (.done rfl)
    | error e =>
      dsimp only
      split
      · exact .tell (.done rfl)
      · exact .done rfl

namespace Tunnel

variable {t t' : Tunnel} (side : Side) (scope : Value) (e : Endpoint)

theorem provisionConfig_like (h : t.Alike t') :
    Script.Like Request.seen (fun r r' => r = r') (t.provisionConfig side scope e)
      (t'.provisionConfig side scope e) := by
  have hbuilt := endConfigMap_alike side scope e h
  rw [provisionConfig, provisionConfig]
  generalize t.endConfigMap side scope e = b, t'.endConfigMap side scope e = b' at hbuilt ⊢
  cases hbuilt with
  | ok ho => exact applyConfigMap_like ho
  | error e => exact .done rfl

theorem provisionSecret_like (h : t.Alike t') :
    Script.Like Request.seen (fun r r' => r = r') (t.provisionSecret side scope e)
      (t'.provisionSecret side scope e) := by
  have hbuilt := endSecret_alike side scope e h
  rw [provisionSecret, provisionSecret]
  generalize t.endSecret side scope e = b, t'.endSecret side scope e = b' at hbuilt ⊢
  cases hbuilt with
  | ok ho => exact createSecretOnce_like ho
  | error e => exact .done rfl

theorem finish_alike (h : t.Alike t') (steps : List (Except Failure Unit)) :
    (t.finish side scope e steps).1 = (t'.finish side scope e steps).1 ∧
      (t.finish side scope e steps).2.Alike (t'.finish side scope e steps).2 := by
  obtain ⟨o, key, ho, rfl⟩ := h
  have hparts : ({ t with options := o, privateKey := key } : Tunnel).endParts side scope e =
      t.endParts side scope e := by
    cases side <;> rfl
  rw [finish, finish, hparts]
  cases t.endParts side scope e with
  | error failure => exact ⟨rfl, o, key, ho, rfl⟩
  | ok parts => cases side <;> exact ⟨rfl, o, key, ho, rfl⟩

/-- A call that provisions a side raises the same and computes the same parts for alike tunnels. -/
theorem provision_like (h : t.Alike t') :
    Script.Like Request.seen (fun r r' => r.1 = r'.1 ∧ r.2.Alike r'.2) (t.provision side scope e)
      (t'.provision side scope e) := by
  refine (provisionConfig_like side scope e h).bind fun config _ hconfig => ?_
  obtain rfl := hconfig
  refine (provisionSecret_like side scope e h).bind fun secret _ hsecret => ?_
  obtain rfl := hsecret
  exact .done (finish_alike side scope e h [config, secret])

end Tunnel

/-! ## Sequences of calls -/

/-- What is done with a side of a tunnel. -/
inductive TunnelAct where
  | provision (e : Endpoint)
  | readConfigMap
  | readSecret

/-- A call on one of several tunnels, which goes to one of several clusters. -/
structure TunnelUse (κ τ : Type) where
  cluster : κ
  tunnel : τ
  side : Side
  scope : Value
  act : TunnelAct

namespace TunnelUse

/-- What a call comes to. -/
inductive Result where
  | provisioned (r : Except Failure Unit)
  | found (r : Except Failure Object)

/-- Results that are the same but for the configuration of a client side and private keys. -/
inductive Result.Alike : Result → Result → Prop
  | provisioned (r : Except Failure Unit) : Alike (.provisioned r) (.provisioned r)
  | found {r r' : Except Failure Object} (h : SameResult Object.Alike r r') :
    Alike (.found r) (.found r')

variable {κ τ : Type}

/-- What a call does with its tunnel, and the tunnel after it. -/
def script (u : TunnelUse κ τ) (t : Tunnel) : ClusterScript (Result × Tunnel) :=
  match u.act with
  | .provision e => (t.provision u.side u.scope e).bind fun r => .done (.provisioned r.1, r.2)
  | .readConfigMap => (t.readConfigMap u.side u.scope).bind fun r => .done (.found r, t)
  | .readSecret => (t.readSecret u.side u.scope).bind fun r => .done (.found r, t)

variable [DecidableEq τ]

/-- Calls one after another, what they come to and the tunnels after them. A call that fails does
not keep the next one from being made. -/
def inTurn : List (TunnelUse κ τ) → (τ → Tunnel) →
    Script (κ × Request) (fun q => q.2.Reply) (List Result × (τ → Tunnel))
  | [], ts => .done ([], ts)
  | u :: us, ts => ((u.script (ts u.tunnel)).sentTo u.cluster).bind fun r =>
    (inTurn us (Function.update ts u.tunnel r.2)).bind fun rs => .done (r.1 :: rs.1, rs.2)

/-- Alike tunnels, one by one. -/
def AlikeTunnels (ts ts' : τ → Tunnel) : Prop :=
  ∀ i, (ts i).Alike (ts' i)

/-- What two sequences of calls come to is the same but for the configuration of client sides and
private keys, and the tunnels after them have the same parts for the pods. -/
structure SameOutcome (r r' : List Result × (τ → Tunnel)) : Prop where
  results : List.Forall₂ Result.Alike r.1 r'.1
  tunnels : AlikeTunnels r.2 r'.2
  parts : ∀ i side, (r.2 i).parts side = (r'.2 i).parts side

omit [DecidableEq τ] in
theorem SameOutcome.of_alike {rs rs' : List Result} {ts ts' : τ → Tunnel}
    (hrs : List.Forall₂ Result.Alike rs rs') (hts : AlikeTunnels ts ts') :
    SameOutcome (rs, ts) (rs', ts') :=
  ⟨hrs, hts, fun i side => (hts i).parts_eq side⟩

omit [DecidableEq τ] in
theorem script_like {t t' : Tunnel} (h : t.Alike t') (u : TunnelUse κ τ) :
    Script.Like Request.seen (fun r r' => r.1.Alike r'.1 ∧ r.2.Alike r'.2) (u.script t)
      (u.script t') := by
  rw [script, script]
  cases u.act with
  | provision e =>
    refine (Tunnel.provision_like u.side u.scope e h).bind fun r r' hr => ?_
    rw [hr.1]
    exact .done ⟨.provisioned _, hr.2⟩
  | readConfigMap =>
    obtain ⟨o, key, ho, rfl⟩ := h
    refine .ask ?_ fun r r' hr => .done ⟨.found hr, o, key, ho, rfl⟩
    cases u.side <;> exact .get _ _
  | readSecret =>
    obtain ⟨o, key, ho, rfl⟩ := h
    refine .ask ?_ fun r r' hr => .done ⟨.found hr, o, key, ho, rfl⟩
    cases u.side <;> exact .get _ _

/-- Sequences of calls on alike tunnels are alike. -/
theorem inTurn_like {ts ts' : τ → Tunnel} (h : AlikeTunnels ts ts') (us : List (TunnelUse κ τ)) :
    Script.Like (Request.seen.toEach κ) SameOutcome (inTurn us ts) (inTurn us ts') := by
  induction us generalizing ts ts' with
  | nil => exact .done (.of_alike .nil h)
  | cons u us ih =>
    refine ((script_like (h u.tunnel) u).sentTo u.cluster).bind fun r r' hr => ?_
    refine (ih (Script.rel_update h hr.2 u.tunnel)).bind fun rs rs' hrs => ?_
    exact .done (.of_alike (.cons hr.1 hrs.results) hrs.tunnels)

variable [DecidableEq κ]

/-- What two runs show is the same, but for the configurations of client sides and the private keys,
if they are of the same calls, on tunnels that differ in the text of the password and in the private
key only. That holds before any client of clusters that does not tell such requests apart, and over
connections to any programming interfaces that do not tell such calls apart : the questions are the
same one by one, with the same names and failures, and the same is logged. The configuration of a
server side, the written form of the options and the parts for the pods are the same altogether.
Options that are read from mappings do not tell passwords apart either. -/
theorem secrets_unseen (us : List (TunnelUse κ τ)) {ts ts' : τ → Tunnel} (h : AlikeTunnels ts ts') :
    (∀ (S : Type) (answer : (q : κ × Request) → S → q.2.Reply × S) (rel : S → S → Prop) (s s' : S),
      Script.Blind (Request.seen.toEach κ) rel answer → rel s s' →
      Script.Outcome.Like (Request.seen.toEach κ) SameOutcome rel
        ((inTurn us ts).run answer s) ((inTurn us ts').run answer s')) ∧
    (∀ (S : Type) (api : (q : κ × Call) → S → q.2.Reply × S) (rel : S → S → Prop) (s s' : S)
      (cs : κ → Connection), Script.Blind (Call.seen.toEach κ) rel api → rel s s' →
      Script.Outcome.Like (Call.seen.toEach κ)
        (fun r r' => SameOutcome r.1 r'.1 ∧ ∀ k, r.2 k = r'.2 k) rel
        (((inTurn us ts).through (Script.serveEach Connection.serve) cs).run api s)
        (((inTurn us ts').through (Script.serveEach Connection.serve) cs).run api s')) ∧
    (∀ i, (ts i).options.quoted = (ts' i).options.quoted) ∧
    (∀ o o' : Object, o.Alike o' → o.IsServerConfig → o' = o) ∧
    (∀ mapping mapping' : Dict, List.Forall₂ Options.EntryAlike mapping mapping' →
      SameResult Options.Alike (Options.ofMapping mapping) (Options.ofMapping mapping') ∧
      ∀ e, Options.ofMapping mapping = .error e → Options.FailsBy mapping e) := by
  have hlike := inTurn_like h us
  refine ⟨fun S answer rel s s' hblind hs => hlike.run hblind hs, fun S api rel s s' cs hblind hs => ?_,
    fun i => (h i).quoted_eq, fun o o' ho hserver => ho.eq_of_isServerConfig hserver,
    fun mapping mapping' hm => ⟨Options.ofMapping_alike hm, fun e => Options.ofMapping_error⟩⟩
  have hcs : ∀ k, cs k = cs k := fun _ => rfl
  exact (hlike.through (Script.like_serveEach (Connection.serve_like Object.veils_alike)) hcs).run
    hblind hs

/-- A tunnel whose client end goes through a proxy, with the given password and private key. -/
def proxied (password : Text) (privateKey : List UInt8) : Tunnel :=
  let t := (Provisioning.plain .client [1] privateKey).tunnel
  { t with options := { t.options with proxyUrl := "proxy.example.com:3128",
                                       proxyPassword := .text password } }

/-- A call about the only tunnel, to the cluster of its side. -/
def plain (side : Side) (act : TunnelAct) : TunnelUse Side Unit :=
  ⟨side, (), side, "vt", act⟩

/-- Both ends of such a tunnel are provisioned, the client end twice, and two objects are read, once
on stores in memory and once over connections to servers. -/
theorem secrets_unseen_bothEnds :
    let e := (Provisioning.plain .client [1] [2]).endpoint
    let us : List (TunnelUse Side Unit) :=
      [plain .client (.provision e), plain .server (.provision e), plain .client (.provision e),
        plain .client .readConfigMap, plain .server .readSecret]
    let ts : Unit → Tunnel := fun _ => proxied "first" [2]
    let ts' : Unit → Tunnel := fun _ => proxied "" [3, 4]
    let mapping (password : Text) : Dict :=
      [("proxyPassword", .text password), ("caVerifyLevel", "5")]
    AlikeTunnels ts ts' ∧ List.Forall₂ Options.EntryAlike (mapping "first") (mapping "") ∧
    Script.Outcome.Like (Request.seen.toEach Side) SameOutcome
      (fun s s' => ∀ side, (s side).Veiled Object.Alike (s' side))
      ((inTurn us ts).run (Script.answerEach Store.answer) fun _ => .empty)
      ((inTurn us ts').run (Script.answerEach Store.answer) fun _ => .empty) ∧
    Script.Outcome.Like (Call.seen.toEach Side)
      (fun r r' => SameOutcome r.1 r'.1 ∧ ∀ side, r.2 side = r'.2 side)
      (fun s s' => ∀ side, (s side).Veiled Object.Alike (s' side))
      (((inTurn us ts).through (Script.serveEach Connection.serve) fun _ => .new .none .none).run
        (Script.answerEach Server.answer) fun _ => .new)
      (((inTurn us ts').through (Script.serveEach Connection.serve) fun _ => .new .none .none).run
        (Script.answerEach Server.answer) fun _ => .new) ∧
    (proxied "first" [2]).options.quoted = (proxied "" [3, 4]).options.quoted ∧
    SameResult Options.Alike (Options.ofMapping (mapping "first"))
      (Options.ofMapping (mapping "")) := by
  intro e us ts ts' mapping
  have hts : AlikeTunnels ts ts' := fun _ => ⟨_, [3, 4], Or.inr ⟨_, _, rfl, rfl⟩, rfl⟩
  have hmapping : List.Forall₂ Options.EntryAlike (mapping "first") (mapping "") :=
    .cons (.password rfl _ _) (.cons (.same _) .nil)
  obtain ⟨hstores, hservers, hquoted, -, hoptions⟩ := secrets_unseen us hts
  refine ⟨hts, hmapping, ?_, ?_, hquoted (), (hoptions _ _ hmapping).1⟩
  · exact hstores _ _ _ _ _ (Store.blind Object.veils_alike).each fun _ => .nil
  · exact hservers _ _ _ _ _ _ (Server.blind Object.veils_alike).each fun _ => ⟨_, rfl, .nil⟩

end TunnelUse

end VolumeTunnel
