import VolumeTunnel.Proofs.Base64
import VolumeTunnel.Proofs.Tunnel.History
import VolumeTunnel.Proofs.Tunnel.Repetition

/-!
# The pair in a secret

A call puts the certificate and the private key of its tunnel into a secret, which the tunnel can
read afterwards. Where no secret was before, the one that is read has these two entries and no
other, each the text in base 64 of its bytes (`Object.HoldsPair`), whatever the config step came to.

* `Provisioning.secretRead` : what the tunnel reads right after a call;
* `Provisioning.stored_pair` : a secret is read if and only if neither the request to create it nor
  the one to read it is made to fail, it holds the pair, and calls with other pairs store other
  data.
-/

namespace VolumeTunnel

/-- The data of an object is a certificate and a private key : two entries, each a text that stands
for its bytes. -/
def Object.HoldsPair (o : Object) (certificate privateKey : List UInt8) : Prop :=
  ∃ a b, o.data = some [(Tunnel.certificateKey, .text a), (Tunnel.privateKeyKey, .text b)] ∧
    Base64.Carries a certificate ∧ Base64.Carries b privateKey

namespace Tunnel

variable {m m' : Metadata} {certificate privateKey certificate' privateKey' : List UInt8}

theorem holdsPair_secret :
    (secret m certificate privateKey).HoldsPair certificate privateKey :=
  ⟨_, _, rfl, Base64.carries_encode certificate, Base64.carries_encode privateKey⟩

/-- Secrets have the same data if and only if they are made from the same pair. -/
theorem data_secret_eq_iff :
    (secret m certificate privateKey).data = (secret m' certificate' privateKey').data ↔
      certificate = certificate' ∧ privateKey = privateKey' := by
  constructor
  · intro h
    have hentries := List.cons.inj (Option.some.inj h)
    have hcertificate := Content.text.inj (Prod.mk.inj hentries.1).2
    have hkey := Content.text.inj (Prod.mk.inj (List.cons.inj hentries.2).1).2
    exact ⟨Base64.encode_injective hcertificate, Base64.encode_injective hkey⟩
  · rintro ⟨rfl, rfl⟩
    rfl

end Tunnel

namespace Provisioning

open UnreliableStore (answer)

variable (c : Provisioning) (w : UnreliableStore)

/-- What the tunnel of a call reads as its secret right after the call. -/
def secretRead : Except Failure Object :=
  let call := c.script.run answer w
  ((call.result.2.readSecret c.side c.scope).run answer call.state).result

/-- Whether the request to read the secret is not made to fail. -/
def readServed : Prop :=
  (c.script.run answer w).state.failure 0
    (.get (.text Kind.secret.name) (c.tunnel.secretKey c.side c.scope)) = none

variable {c w} {o : Object}

/-- A call does not change where the secret of its tunnel is. -/
theorem secretKey_result : (c.script.run answer w).result.2.secretKey c.side c.scope =
    c.tunnel.secretKey c.side c.scope :=
  congrArg (fun t => t.secretKey c.side c.scope) (bare_result c w)

theorem secretRead_of_served (h : c.readServed w) :
    c.secretRead w = (c.script.run answer w).state.store.read c.secretPlace := by
  rw [secretRead, Tunnel.readSecret, secretKey_result]
  simp only [Script.run, Script.Outcome.consAsked, UnreliableStore.answer_of_none h]
  rfl

theorem secretRead_of_not_served (h : ¬c.readServed w) : ∃ e, c.secretRead w = .error e := by
  obtain ⟨e, he⟩ := Option.ne_none_iff_exists'.1 h
  refine ⟨e, ?_⟩
  rw [secretRead, Tunnel.readSecret, secretKey_result]
  simp only [Script.run, Script.Outcome.consAsked, UnreliableStore.answer_of_some he,
    Request.refuse]

/-- Where no secret was before, that of the call is there afterwards, unless its request was made to
fail. -/
theorem find?_secretPlace (hc : c.Typed) (hfree : w.store.find? c.secretPlace = none) :
    (c.script.run answer w).state.store.find? c.secretPlace =
      if c.secretServed w then c.secret.toOption else none := by
  rw [← after_singleton, find?_after_call_secret hc hc.secretPlace_textual rfl, hfree,
    hc.secretPlace_textual.same_self, Option.none_or, Bool.true_and]

/-- Where no secret was before, the secret of the call is read, if a secret is. -/
theorem secretRead_eq_ok_iff (hc : c.Typed) (hfree : w.store.find? c.secretPlace = none) :
    c.secretRead w = .ok o ↔ c.secret = .ok o ∧ c.secretServed w = true ∧ c.readServed w := by
  by_cases hread : c.readServed w
  · obtain ⟨m, ho⟩ := exists_secret hc
    rw [secretRead_of_served hread, Store.read, find?_secretPlace hc hfree, ho]
    cases c.secretServed w with
    | true => simp [Except.toOption, hread]
    | false => simp
  · obtain ⟨e, he⟩ := secretRead_of_not_served hread
    rw [he]
    exact iff_of_false (by simp) fun h => hread h.2.2

/-- The pair of a tunnel survives being stored. After a call where no secret was before, whatever
its config step came to, a secret is read if and only if neither the request to create it nor the
one to read it is made to fail. It holds the certificate and the private key of the tunnel and
nothing else. Two calls, on any clusters, store the same data if and only if their tunnels have the
same pair. -/
theorem stored_pair (hc : c.Typed) (hfree : w.store.find? c.secretPlace = none) :
    ((∃ o, c.secretRead w = .ok o) ↔ c.secretServed w = true ∧ c.readServed w) ∧
    (∀ o, c.secretRead w = .ok o → o.HoldsPair c.tunnel.certificate c.tunnel.privateKey) ∧
    ∀ (c' : Provisioning) (w' : UnreliableStore) (o o' : Object), c'.Typed →
      w'.store.find? c'.secretPlace = none → c.secretRead w = .ok o → c'.secretRead w' = .ok o' →
      (o.data = o'.data ↔ c.tunnel.certificate = c'.tunnel.certificate ∧
        c.tunnel.privateKey = c'.tunnel.privateKey) := by
  obtain ⟨m, ho⟩ := exists_secret hc
  refine ⟨⟨?_, fun h => ⟨_, (secretRead_eq_ok_iff hc hfree).2 ⟨ho, h⟩⟩⟩, ?_, ?_⟩
  · rintro ⟨o, hread⟩
    exact ((secretRead_eq_ok_iff hc hfree).1 hread).2
  · intro o hread
    obtain rfl := Except.ok.inj (ho.symm.trans ((secretRead_eq_ok_iff hc hfree).1 hread).1)
    exact Tunnel.holdsPair_secret
  · intro c' w' o o' hc' hfree' hread hread'
    obtain ⟨m', ho'⟩ := exists_secret hc'
    obtain rfl := Except.ok.inj (ho.symm.trans ((secretRead_eq_ok_iff hc hfree).1 hread).1)
    obtain rfl := Except.ok.inj (ho'.symm.trans ((secretRead_eq_ok_iff hc' hfree').1 hread').1)
    exact Tunnel.data_secret_eq_iff

/-- A cluster without objects, on which every request about a config map fails. -/
def withoutConfigMaps : UnreliableStore where
  store := .empty
  failure _ q := match q with
    | .create (.object o) =>
      if o.kind = some Kind.configMap.name then some (.rejected ⟨.int 500, "", .none⟩) else none
    | _ => none

/-- The config steps of two calls fail. Their tunnels have certificates of one and of two bytes, and
read them back. -/
theorem stored_pair_withoutConfigMaps :
    let c := plain .client [1] []
    let c' := plain .server [255, 254] []
    c.configDone withoutConfigMaps = false ∧
    ∃ o o', c.secretRead withoutConfigMaps = .ok o ∧ c'.secretRead withoutConfigMaps = .ok o' ∧
      o.HoldsPair [1] [] ∧ o'.HoldsPair [255, 254] [] ∧ o.data ≠ o'.data := by
  have h := stored_pair (w := withoutConfigMaps) (plain_typed .client [1] []) rfl
  have h' := stored_pair (w := withoutConfigMaps) (plain_typed .server [255, 254] []) rfl
  obtain ⟨o, ho⟩ := h.1.2 ⟨rfl, rfl⟩
  obtain ⟨o', ho'⟩ := h'.1.2 ⟨rfl, rfl⟩
  refine ⟨rfl, o, o', ho, ho', h.2.1 o ho, h'.2.1 o' ho', fun hdata => ?_⟩
  have heq := (h.2.2 _ _ o o' (plain_typed .server [255, 254] []) rfl ho ho').1 hdata
  exact absurd heq.1 (by decide)

end Provisioning

end VolumeTunnel
