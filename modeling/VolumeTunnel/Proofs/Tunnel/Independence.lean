import VolumeTunnel.Proofs.Tunnel.Repetition
import Mathlib.Logic.Function.Basic

/-!
# Calls for different targets

Any two calls may share a cluster, a namespace and a tunnel. Unless they are for the same side, with
the same prefix as well, the places that they write are apart (`Provisioning.Owns.eq`), since the
names of an object on the two sides are of one length. So neither call sees what the other one did
(`Job.agreeOn_perform`), and they can be made in either order.

* `World`, `Job` : several clusters and tunnels, and a call that names those it is about;
* `Job.perform` : what comes of a call, and the clusters and tunnels after it.
-/

namespace VolumeTunnel

open UnreliableStore (answer)

/-! ## Names -/

namespace Tunnel

/-- A name of known length is told from its prefix, whatever that holds. -/
theorem prefixed_inj {x y n m : Text} (hlength : n.length = m.length)
    (h : prefixed (.text x) (.text n) = prefixed (.text y) (.text m)) : x = y ∧ n = m := by
  have hcons : (CodePoint.char '-' :: n).length = (CodePoint.char '-' :: m).length :=
    congrArg Nat.succ hlength
  obtain ⟨hscopes, hname⟩ := List.append_inj' h hcons
  exact ⟨hscopes, List.tail_eq_of_cons_eq hname⟩

theorem configName_injective : Function.Injective configName := by
  intro side side'
  cases side <;> cases side' <;> decide

theorem secretName_injective : Function.Injective secretName := by
  intro side side'
  cases side <;> cases side' <;> decide

theorem length_configName (side : Side) : (configName side).length = 28 := by
  cases side <;> decide

theorem length_secretName (side : Side) : (secretName side).length = 28 := by
  cases side <;> decide

end Tunnel

namespace Provisioning

variable {c d : Provisioning}

/-! ## The places of a call -/

/-- The places that a call writes. -/
def Owns (c : Provisioning) (p : Place) : Prop :=
  p = c.configPlace ∨ p = c.secretPlace

theorem Sends.writes (hc : c.Typed) {q : Request} (h : c.Sends q) : q.Writes c.Owns := by
  cases h with
  | createConfigMap h => exact ⟨_, _, place?_configMap hc h, Or.inl rfl, Or.inl rfl⟩
  | updateConfigMap h => exact ⟨_, _, place?_configMap hc h, Or.inl rfl, Or.inr rfl⟩
  | createSecret h => exact ⟨_, _, place?_secret hc h, Or.inr rfl, Or.inl rfl⟩

theorem script_writes (hc : c.Typed) : c.script.Only (Request.Writes c.Owns) :=
  c.script_only.imp fun _ h => h.writes hc

/-- Calls that write a common place are for the same side, namespace and prefix. -/
theorem Owns.eq {p : Place} {space space' x y : Text} (hc : c.Owns p) (hd : d.Owns p)
    (hspace : c.tunnel.space c.side = .text space) (hspace' : d.tunnel.space d.side = .text space')
    (hscope : c.scope = .text x) (hscope' : d.scope = .text y) :
    c.side = d.side ∧ space = space' ∧ x = y := by
  rcases hc with rfl | rfl
  · rcases hd with h | h
    · rw [configPlace_eq hspace, configPlace_eq hspace', hscope, hscope'] at h
      obtain ⟨-, hspaces, hname⟩ := Place.of_inj.1 h
      obtain ⟨hscopes, hside⟩ :=
        Tunnel.prefixed_inj (by simp only [Tunnel.length_configName]) hname
      exact ⟨Tunnel.configName_injective hside, hspaces, hscopes⟩
    · exact absurd h (configPlace_ne_secretPlace c d)
  · rcases hd with h | h
    · exact absurd h.symm (configPlace_ne_secretPlace d c)
    · rw [secretPlace_eq hspace, secretPlace_eq hspace', hscope, hscope'] at h
      obtain ⟨-, hspaces, hname⟩ := Place.of_inj.1 h
      obtain ⟨hscopes, hside⟩ :=
        Tunnel.prefixed_inj (by simp only [Tunnel.length_secretName]) hname
      exact ⟨Tunnel.secretName_injective hside, hspaces, hscopes⟩

theorem typed_bare : c.bare.Typed ↔ c.Typed :=
  ⟨fun h => ⟨h.space, h.labels⟩, fun h => ⟨h.space, h.labels⟩⟩

theorem owns_bare : c.bare.Owns = c.Owns := rfl

end Provisioning

/-! ## Several clusters and tunnels -/

/-- Clusters and tunnels. -/
structure World (κ τ : Type) where
  cluster : κ → UnreliableStore
  tunnel : τ → Tunnel

/-- A call : its cluster, its tunnel, the side, the prefix and the endpoint. -/
structure Job (κ τ : Type) where
  cluster : κ
  tunnel : τ
  side : Side
  scope : Text
  endpoint : Endpoint

variable {κ τ : Type} {W W' : World κ τ} {a b : Job κ τ}

/-- On each cluster, failures depend on what requests are about only. -/
def World.Steady (W : World κ τ) : Prop :=
  ∀ k, (W.cluster k).Steady

namespace Job

/-- The call by its tunnel as that is. -/
def on (j : Job κ τ) (W : World κ τ) : Provisioning :=
  ⟨W.tunnel j.tunnel, j.side, .text j.scope, j.endpoint⟩

/-- Calls on one cluster for the same side, namespace and prefix. -/
def SameTarget (a b : Job κ τ) (W : World κ τ) : Prop :=
  a.cluster = b.cluster ∧ a.side = b.side ∧ a.scope = b.scope ∧
    (W.tunnel a.tunnel).space a.side = (W.tunnel b.tunnel).space b.side

theorem sameTarget_comm : a.SameTarget b W ↔ b.SameTarget a W := by
  constructor
  · rintro ⟨hcluster, hside, hscope, hspace⟩
    exact ⟨hcluster.symm, hside.symm, hscope.symm, hspace.symm⟩
  · rintro ⟨hcluster, hside, hscope, hspace⟩
    exact ⟨hcluster.symm, hside.symm, hscope.symm, hspace.symm⟩

/-- Calls with different targets own no place in common. -/
theorem not_owns_of_owns (ha : (a.on W).Typed) (hb : (b.on W).Typed) (hab : ¬a.SameTarget b W)
    {p : Place} (hp : (a.on W).Owns p) : ¬(a.cluster = b.cluster ∧ (b.on W).Owns p) := by
  rintro ⟨hcluster, hp'⟩
  obtain ⟨space, hspace⟩ := ha.space
  obtain ⟨space', hspace'⟩ := hb.space
  obtain ⟨hside, hspaces, hscope⟩ := hp.eq hp' hspace hspace' rfl rfl
  exact hab ⟨hcluster, hside, hscope, hspace.trans (hspaces ▸ hspace'.symm)⟩

variable [DecidableEq κ] [DecidableEq τ]

/-- What a call returns, and the clusters and tunnels after it. -/
def perform (j : Job κ τ) (W : World κ τ) : Except Failure Unit × World κ τ :=
  let o := (j.on W).script.run answer (W.cluster j.cluster)
  (o.result.1,
    ⟨Function.update W.cluster j.cluster o.state, Function.update W.tunnel j.tunnel o.result.2⟩)

theorem cluster_perform_self (j : Job κ τ) (W : World κ τ) : (j.perform W).2.cluster j.cluster =
    ((j.on W).script.run answer (W.cluster j.cluster)).state :=
  Function.update_self _ _ _

theorem cluster_perform_of_ne {k : κ} (hk : k ≠ b.cluster) :
    (b.perform W).2.cluster k = W.cluster k :=
  Function.update_of_ne hk _ _

/-- No call changes another one, except for the parts that its tunnel keeps. -/
theorem bare_on_perform (a b : Job κ τ) (W : World κ τ) :
    (a.on (b.perform W).2).bare = (a.on W).bare := by
  have htunnel : ((b.perform W).2.tunnel a.tunnel).bare = (W.tunnel a.tunnel).bare := by
    by_cases h : a.tunnel = b.tunnel
    · rw [h]
      refine (congrArg Tunnel.bare (Function.update_self _ _ _)).trans ?_
      exact (b.on W).bare_result (W.cluster b.cluster)
    · exact congrArg Tunnel.bare (Function.update_of_ne h _ _)
  exact congrArg (fun t : Tunnel => (⟨t, a.side, .text a.scope, a.endpoint⟩ : Provisioning)) htunnel

theorem typed_on_perform (ha : (a.on W).Typed) (b : Job κ τ) : (a.on (b.perform W).2).Typed := by
  rw [← Provisioning.typed_bare, bare_on_perform, Provisioning.typed_bare]
  exact ha

theorem owns_on_perform (a b : Job κ τ) (W : World κ τ) :
    (a.on (b.perform W).2).Owns = (a.on W).Owns := by
  rw [← Provisioning.owns_bare, bare_on_perform, Provisioning.owns_bare]

/-- Failures stay the same over a call. -/
theorem failure_perform (hW : W.Steady) (b : Job κ τ) (k : κ) :
    ((b.perform W).2.cluster k).failure = (W.cluster k).failure := by
  by_cases hk : k = b.cluster
  · rw [hk, cluster_perform_self]
    exact (hW b.cluster).failure_run _
  · rw [cluster_perform_of_ne hk]

/-- A call leaves every place that is not its own, on every cluster. -/
theorem find?_perform (hb : (b.on W).Typed) {k : κ} {p : Place}
    (h : ¬(k = b.cluster ∧ (b.on W).Owns p)) :
    ((b.perform W).2.cluster k).store.find? p = (W.cluster k).store.find? p := by
  by_cases hk : k = b.cluster
  · subst hk
    rw [cluster_perform_self]
    exact (Provisioning.script_writes hb).find?_run (fun hp => h ⟨rfl, hp⟩) _
  · rw [cluster_perform_of_ne hk]

/-- A call finds its places as they were before a call with another target. -/
theorem agreeOn_perform (hW : W.Steady) (ha : (a.on W).Typed) (hb : (b.on W).Typed)
    (hab : ¬a.SameTarget b W) :
    (W.cluster a.cluster).AgreeOn (a.on W).Owns ((b.perform W).2.cluster a.cluster) where
  failure := (failure_perform hW b a.cluster).symm
  find? _ hp := (find?_perform hb (not_owns_of_owns ha hb hab hp)).symm

/-- What a call comes to depends on its own places only. -/
theorem perform_congr (ha : (a.on W).Typed) (hbare : (a.on W').bare = (a.on W).bare)
    (h : (W.cluster a.cluster).AgreeOn (a.on W).Owns (W'.cluster a.cluster)) :
    (a.perform W').1 = (a.perform W).1 ∧ ((a.perform W).2.cluster a.cluster).AgreeOn (a.on W).Owns
      ((a.perform W').2.cluster a.cluster) := by
  obtain ⟨hresult, hstate⟩ := h.run (Provisioning.script_writes ha)
  have houtcome : ((a.on W').script.run answer (W'.cluster a.cluster)).result.1 =
      ((a.on W).script.run answer (W'.cluster a.cluster)).result.1 := by
    rw [← Provisioning.outcome_bare, hbare, Provisioning.outcome_bare]
  have hleft : ((a.on W').script.run answer (W'.cluster a.cluster)).state =
      ((a.on W).script.run answer (W'.cluster a.cluster)).state := by
    rw [← Provisioning.state_bare, hbare, Provisioning.state_bare]
  refine ⟨houtcome.trans (congrArg Prod.fst hresult.symm), ?_⟩
  rw [cluster_perform_self, cluster_perform_self, hleft]
  exact hstate

/-! ## Two calls in either order -/

/-- A call returns the same whether or not a call with another target was made before. -/
theorem outcome_perform (hW : W.Steady) (ha : (a.on W).Typed) (hb : (b.on W).Typed)
    (hab : ¬a.SameTarget b W) : (a.perform (b.perform W).2).1 = (a.perform W).1 :=
  (perform_congr ha (bare_on_perform a b W) (agreeOn_perform hW ha hb hab)).1

/-- At a place of the first of two calls there is what it leaves there, in either order. -/
theorem find?_swap_of_owns (hW : W.Steady) (ha : (a.on W).Typed) (hb : (b.on W).Typed)
    (hab : ¬a.SameTarget b W) {p : Place} (hp : (a.on W).Owns p) :
    ((b.perform (a.perform W).2).2.cluster a.cluster).store.find? p =
      ((a.perform (b.perform W).2).2.cluster a.cluster).store.find? p := by
  have hown := (perform_congr ha (bare_on_perform a b W) (agreeOn_perform hW ha hb hab)).2
  have hother : ¬(a.cluster = b.cluster ∧ (b.on (a.perform W).2).Owns p) := by
    rw [owns_on_perform]
    exact not_owns_of_owns ha hb hab hp
  rw [find?_perform (typed_on_perform hb a) hother]
  exact hown.find? p hp

/-- Two calls with different targets leave the same objects in either order. -/
theorem find?_swap (hW : W.Steady) (ha : (a.on W).Typed) (hb : (b.on W).Typed)
    (hab : ¬a.SameTarget b W) (k : κ) (p : Place) :
    ((b.perform (a.perform W).2).2.cluster k).store.find? p =
      ((a.perform (b.perform W).2).2.cluster k).store.find? p := by
  by_cases hp : k = a.cluster ∧ (a.on W).Owns p
  · obtain ⟨rfl, hp⟩ := hp
    exact find?_swap_of_owns hW ha hb hab hp
  · by_cases hp' : k = b.cluster ∧ (b.on W).Owns p
    · obtain ⟨rfl, hp'⟩ := hp'
      exact (find?_swap_of_owns hW hb ha (fun h => hab (sameTarget_comm.2 h)) hp').symm
    · -- a place of neither call
      have hafter : ¬(k = b.cluster ∧ (b.on (a.perform W).2).Owns p) := by
        rw [owns_on_perform]
        exact hp'
      have hbefore : ¬(k = a.cluster ∧ (a.on (b.perform W).2).Owns p) := by
        rw [owns_on_perform]
        exact hp
      rw [find?_perform (typed_on_perform hb a) hafter, find?_perform ha hp,
        find?_perform (typed_on_perform ha b) hbefore, find?_perform hb hp']

/-! ## A call made again -/

/-- A call that succeeds and leaves its cluster and its tunnel as they were changes nothing. -/
theorem perform_of_fixed
    (hresult : ((a.on W).script.run answer (W.cluster a.cluster)).result =
      (.ok (), W.tunnel a.tunnel))
    (hstate : ((a.on W).script.run answer (W.cluster a.cluster)).state = W.cluster a.cluster) :
    a.perform W = (.ok (), W) := by
  rw [perform, hresult, hstate, Function.update_eq_self, Function.update_eq_self]

/-- A call that succeeded succeeds again at once and changes nothing, unless its update is made to
fail. -/
theorem perform_again (hW : W.Steady) (ha : (a.on W).Typed)
    (hupdate : ∀ n o, o.place? = some (a.on W).configPlace →
      (W.cluster a.cluster).failure n (.update (.object o)) = none)
    (h : (a.perform W).1 = .ok ()) :
    a.perform (a.perform W).2 = (.ok (), (a.perform W).2) := by
  have hresult : ((a.on W).script.run answer (W.cluster a.cluster)).result =
      (.ok (), ((a.on W).script.run answer (W.cluster a.cluster)).result.2) := Prod.ext h rfl
  obtain ⟨hresult', hstate'⟩ := Provisioning.again ha (hW a.cluster) hupdate hresult
  have htunnel : (a.perform W).2.tunnel a.tunnel =
      ((a.on W).script.run answer (W.cluster a.cluster)).result.2 := Function.update_self _ _ _
  have hon : a.on (a.perform W).2 = { a.on W with
      tunnel := ((a.on W).script.run answer (W.cluster a.cluster)).result.2 } :=
    congrArg (fun t => (⟨t, a.side, .text a.scope, a.endpoint⟩ : Provisioning)) htunnel
  refine perform_of_fixed ?_ ?_
  · rw [hon, cluster_perform_self, htunnel]
    exact hresult'
  · rw [hon, cluster_perform_self]
    exact hstate'

/-! ## Both -/

/-- Calls with different targets can be made in either order, and a call that succeeded can be made
again. -/
theorem apart_and_again (hW : W.Steady) (ha : (a.on W).Typed) (hb : (b.on W).Typed) :
    (¬a.SameTarget b W →
      (a.perform W).1 = (a.perform (b.perform W).2).1 ∧
      (b.perform (a.perform W).2).1 = (b.perform W).1 ∧
      ∀ k p, ((b.perform (a.perform W).2).2.cluster k).store.find? p =
        ((a.perform (b.perform W).2).2.cluster k).store.find? p) ∧
    ((a.perform W).1 = .ok () →
      (∀ n o, o.place? = some (a.on W).configPlace →
        (W.cluster a.cluster).failure n (.update (.object o)) = none) →
      a.perform (a.perform W).2 = (.ok (), (a.perform W).2)) := by
  refine ⟨fun hab => ⟨?_, ?_, ?_⟩, fun h hupdate => perform_again hW ha hupdate h⟩
  · exact (outcome_perform hW ha hb hab).symm
  · exact outcome_perform hW hb ha fun h => hab (sameTarget_comm.2 h)
  · exact find?_swap hW ha hb hab

/-- The two calls of a transfer within one namespace of one cluster. -/
def within (side : Side) : Job Unit Unit :=
  ⟨(), (), side, "vt", ⟨"transfer.example.com", .int 2222, .int 443, [("app", "tunnel")]⟩⟩

/-- A cluster without objects, and a tunnel from a namespace of it to the same one. -/
def oneNamespace : World Unit Unit where
  cluster _ := ⟨.empty, fun _ _ => none⟩
  tunnel _ := { (Provisioning.plain .client [1] [2]).tunnel with destination := ⟨"src", "copy"⟩ }

theorem typed_within (side : Side) : ((within side).on oneNamespace).Typed := by
  refine ⟨?_, (Provisioning.plain_typed .client [1] [2]).labels⟩
  cases side <;> exact ⟨_, rfl⟩

theorem ready_within (side : Side) : ((within side).on oneNamespace).Ready := by
  refine ⟨typed_within side, ?_, Or.inl rfl⟩
  cases side <;> exact ⟨_, rfl⟩

/-- The two ends of such a transfer can be provisioned in either order, and again. -/
theorem apart_and_again_within :
    let W := oneNamespace
    let a := within .client
    let b := within .server
    W.Steady ∧ (a.on W).Typed ∧ (b.on W).Typed ∧ ¬a.SameTarget b W ∧ (a.perform W).1 = .ok () ∧
      (∀ n o, o.place? = some (a.on W).configPlace →
        (W.cluster a.cluster).failure n (.update (.object o)) = none) ∧
      ((a.perform W).1 = (a.perform (b.perform W).2).1 ∧
        (b.perform (a.perform W).2).1 = (b.perform W).1 ∧
        ∀ k p, ((b.perform (a.perform W).2).2.cluster k).store.find? p =
          ((a.perform (b.perform W).2).2.cluster k).store.find? p) ∧
      a.perform (a.perform W).2 = (.ok (), (a.perform W).2) := by
  intro W a b
  have hW : W.Steady := fun _ _ _ _ _ _ => rfl
  have hab : ¬a.SameTarget b W := fun h => nomatch h.2.1
  have hok : (a.perform W).1 = .ok () :=
    Provisioning.script_ok (ready_within .client) fun _ _ => rfl
  have hupdate : ∀ n o, o.place? = some (a.on W).configPlace →
      (W.cluster a.cluster).failure n (.update (.object o)) = none := fun _ _ _ => rfl
  obtain ⟨hswap, hagain⟩ :=
    apart_and_again hW (typed_within .client) (typed_within .server)
  exact ⟨hW, typed_within .client, typed_within .server, hab, hok, hupdate, hswap hab,
    hagain hok hupdate⟩

end Job

end VolumeTunnel
