import VolumeTunnel.Proofs.Base64
import VolumeTunnel.Proofs.Tunnel.History
import Mathlib.Logic.Function.Basic

/-!
# The pair of both ends

The two ends of a tunnel are provisioned by separate calls, each on the cluster of its side, and
each end keeps the secret that it finds. Calls of several tunnels may share the namespaces and the
prefix, as when a transfer is begun anew with a fresh certificate.

The secret of a side is then that of the first call of that side that was served
(`Provisioning.find?_afterEach`). Hence the two ends hold the same certificate and key exactly if
the two calls that were served first have them (`Provisioning.sharesPair_iff`), which nothing
ensures : after `Provisioning.begunAnew` they do not, although no request fails.
-/

namespace VolumeTunnel

/-! ## What a secret carries -/

/-- An entry of the data of an object. -/
def Object.valueAt? (o : Object) (key : Text) : Option Content :=
  o.data.bind fun d => d.lookup key

namespace Tunnel

variable {m m' : Metadata} {certificate privateKey certificate' privateKey' : List UInt8}

theorem valueAt?_certificateKey : (secret m certificate privateKey).valueAt? certificateKey =
    some (.text (Base64.encode certificate)) := rfl

theorem valueAt?_privateKeyKey : (secret m certificate privateKey).valueAt? privateKeyKey =
    some (.text (Base64.encode privateKey)) := rfl

theorem certificate_eq_of_valueAt? (h : (secret m certificate privateKey).valueAt? certificateKey =
    (secret m' certificate' privateKey').valueAt? certificateKey) : certificate = certificate' := by
  rw [valueAt?_certificateKey, valueAt?_certificateKey] at h
  exact Base64.encode_injective (Content.text.inj (Option.some.inj h))

theorem privateKey_eq_of_valueAt? (h : (secret m certificate privateKey).valueAt? privateKeyKey =
    (secret m' certificate' privateKey').valueAt? privateKeyKey) : privateKey = privateKey' := by
  rw [valueAt?_privateKeyKey, valueAt?_privateKeyKey] at h
  exact Base64.encode_injective (Content.text.inj (Option.some.inj h))

end Tunnel

namespace Provisioning

open UnreliableStore (answer)

variable {ι : Type} [DecidableEq ι]

/-! ## Calls on several clusters -/

/-- The clusters after calls, each on the cluster of its side. -/
def afterEach (home : Side → ι) :
    List Provisioning → (ι → UnreliableStore) → ι → UnreliableStore
  | [], ws => ws
  | c :: cs, ws =>
    afterEach home cs (Function.update ws (home c.side) (after [c] (ws (home c.side))))

/-- The calls, each with what it returns. -/
def returns (home : Side → ι) :
    List Provisioning → (ι → UnreliableStore) → List (Provisioning × Except Failure Unit)
  | [], _ => []
  | c :: cs, ws =>
    (c, (c.script.run answer (ws (home c.side))).result.1) ::
      returns home cs (Function.update ws (home c.side) (after [c] (ws (home c.side))))

/-- A cluster only sees the calls that go to it. -/
theorem afterEach_eq (home : Side → ι) (cs : List Provisioning) (ws : ι → UnreliableStore) (k : ι) :
    afterEach home cs ws k = after (cs.filter fun c => home c.side = k) (ws k) := by
  induction cs generalizing ws with
  | nil => rfl
  | cons c cs ih =>
    rw [afterEach, ih]
    by_cases hk : home c.side = k
    · rw [List.filter_cons_of_pos (by simpa using hk), ← hk, Function.update_self]
      exact (after_cons _ _ _).symm
    · rw [List.filter_cons_of_neg (by simpa using hk), Function.update_of_ne (Ne.symm hk)]

/-- Calls in which nothing is wrong return without failing if no request is made to fail. -/
theorem returns_of_reliable {home : Side → ι} {cs : List Provisioning} {ws : ι → UnreliableStore}
    (hcs : ∀ c ∈ cs, c.Ready) (hws : ∀ k, (ws k).Reliable) :
    returns home cs ws = cs.map fun c => (c, .ok ()) := by
  induction cs generalizing ws with
  | nil => rfl
  | cons c cs ih =>
    have hnext : ∀ k, (Function.update ws (home c.side) (after [c] (ws (home c.side))) k).Reliable :=
      (Function.forall_update_iff ws fun _ w => w.Reliable).2
        ⟨reliable_after [c] (hws (home c.side)), fun k _ => hws k⟩
    rw [returns, script_ok (hcs c List.mem_cons_self) (hws (home c.side)),
      ih (fun d hd => hcs d (List.mem_cons_of_mem _ hd)) hnext]
    rfl

/-! ## The secrets of a pair -/

/-- The namespace of a side. -/
def sideSpace (src dst : Text) : Side → Text
  | .client => src
  | .server => dst

/-- The place of the secret of a side, for given namespaces and a prefix. -/
def pairPlace (src dst : Text) (scope : Value) (side : Side) : Place :=
  Place.of Kind.secret.name (sideSpace src dst side) (Tunnel.prefixed scope (Tunnel.secretName side))

/-- A call between given namespaces with a prefix. -/
structure Joins (src dst : Text) (scope : Value) (c : Provisioning) : Prop where
  source : c.tunnel.source.space = .text src
  destination : c.tunnel.destination.space = .text dst
  scope : c.scope = scope
  labels : c.endpoint.labels.TextToText

variable {src dst : Text} {scope : Value} {c : Provisioning}

theorem Joins.space (hc : c.Joins src dst scope) :
    c.tunnel.space c.side = .text (sideSpace src dst c.side) := by
  cases hside : c.side with
  | client => exact hc.source
  | server => exact hc.destination

theorem Joins.typed (hc : c.Joins src dst scope) : c.Typed :=
  ⟨⟨_, hc.space⟩, hc.labels⟩

theorem Joins.secretPlace (hc : c.Joins src dst scope) :
    c.secretPlace = pairPlace src dst scope c.side := by
  rw [Provisioning.secretPlace, Server.place, Tunnel.secretKey, hc.space, hc.scope]
  rfl

/-- The first call on the cluster of a side that was served for the secret of that side. -/
def setter (src dst : Text) (scope : Value) (home : Side → ι) (cs : List Provisioning)
    (ws : ι → UnreliableStore) (side : Side) : Option Provisioning :=
  firstServed (pairPlace src dst scope side) (cs.filter fun c => home c.side = home side)
    (ws (home side))

variable {home : Side → ι} {cs : List Provisioning} {ws : ι → UnreliableStore}

/-- The secret of a side is the one that was there, otherwise that of the first call served. -/
theorem find?_afterEach (hcs : ∀ c ∈ cs, c.Joins src dst scope) (side : Side) :
    (afterEach home cs ws (home side)).store.find? (pairPlace src dst scope side) =
      ((ws (home side)).store.find? (pairPlace src dst scope side)).or
        ((setter src dst scope home cs ws side).bind fun c => c.secret.toOption) := by
  rw [afterEach_eq]
  exact find?_after_secret (fun c hc => (hcs c (List.mem_filter.1 hc).1).typed)
    (Place.textual_of _ _ _) rfl _

theorem mem_of_firstServed {p : Place} {w : UnreliableStore} (h : firstServed p cs w = some c) :
    c ∈ cs := by
  induction cs generalizing w with
  | nil => exact nomatch h
  | cons d cs ih =>
    rw [firstServed] at h
    split at h
    · rw [Option.some.inj h]
      exact List.mem_cons_self
    · exact List.mem_cons_of_mem _ (ih h)

theorem mem_of_setter {side : Side} (h : setter src dst scope home cs ws side = some c) : c ∈ cs :=
  (List.mem_filter.1 (mem_of_firstServed h)).1

/-- A call that returns without failing leaves a side with a call that was served, unless a failure
pretends that a secret is there. -/
theorem exists_setter_of_returned (hcs : ∀ c ∈ cs, c.Joins src dst scope)
    (hws : ∀ k, (ws k).Honest) (h : (c, .ok ()) ∈ returns home cs ws) :
    ∃ d, setter src dst scope home cs ws c.side = some d := by
  induction cs generalizing ws with
  | nil => exact absurd h List.not_mem_nil
  | cons d cs ih =>
    have hd := hcs d List.mem_cons_self
    have hnext : ∀ k, (Function.update ws (home d.side) (after [d] (ws (home d.side))) k).Honest :=
      (Function.forall_update_iff ws fun _ w => w.Honest).2
        ⟨honest_after [d] (hws (home d.side)), fun k _ => hws k⟩
    rcases List.mem_cons.1 h with h | h
    · obtain ⟨rfl, hok⟩ := Prod.mk.inj h
      have hserved := secretServed_of_ok hd.typed (hws (home c.side)) hok.symm
      refine ⟨c, ?_⟩
      rw [setter, List.filter_cons_of_pos (by simp), ← hd.secretPlace,
        firstServed_of_served hd.typed hserved]
    · obtain ⟨d', hd'⟩ := ih (fun e he => hcs e (List.mem_cons_of_mem _ he)) hnext h
      rw [setter] at hd' ⊢
      by_cases hk : home d.side = home c.side
      · rw [List.filter_cons_of_pos (by simpa using hk), firstServed]
        split
        · exact ⟨d, rfl⟩
        · rw [hk, Function.update_self] at hd'
          exact ⟨d', hd'⟩
      · rw [List.filter_cons_of_neg (by simpa using hk)]
        rw [Function.update_of_ne (Ne.symm hk)] at hd'
        exact ⟨d', hd'⟩

/-! ## The same pair on both sides -/

/-- Both sides have a secret, with the same certificate and the same key. -/
def SharesPair (src dst : Text) (scope : Value) (home : Side → ι) (ws : ι → UnreliableStore) :
    Prop :=
  ∃ x y, (ws (home .client)).store.find? (pairPlace src dst scope .client) = some x ∧
    (ws (home .server)).store.find? (pairPlace src dst scope .server) = some y ∧
    x.valueAt? Tunnel.certificateKey = y.valueAt? Tunnel.certificateKey ∧
    x.valueAt? Tunnel.privateKeyKey = y.valueAt? Tunnel.privateKeyKey

/-- The two ends share a pair if and only if the calls served first on both sides have the same. -/
theorem sharesPair_iff (hcs : ∀ c ∈ cs, c.Joins src dst scope)
    (hfree : ∀ side, (ws (home side)).store.find? (pairPlace src dst scope side) = none) :
    SharesPair src dst scope home (afterEach home cs ws) ↔
      ∃ c d, setter src dst scope home cs ws .client = some c ∧
        setter src dst scope home cs ws .server = some d ∧
        c.tunnel.certificate = d.tunnel.certificate ∧ c.tunnel.privateKey = d.tunnel.privateKey := by
  have hfind : ∀ side c, setter src dst scope home cs ws side = some c → ∃ m,
      (afterEach home cs ws (home side)).store.find? (pairPlace src dst scope side) =
        some (Tunnel.secret m c.tunnel.certificate c.tunnel.privateKey) := by
    intro side c hc
    obtain ⟨m, ho⟩ := exists_secret (hcs c (mem_of_setter hc)).typed
    exact ⟨m, by rw [find?_afterEach hcs, hfree, hc, Option.none_or, Option.bind_some, ho]; rfl⟩
  have hsetter : ∀ side x,
      (afterEach home cs ws (home side)).store.find? (pairPlace src dst scope side) = some x →
        ∃ c, setter src dst scope home cs ws side = some c := by
    intro side x hx
    rw [find?_afterEach hcs, hfree, Option.none_or] at hx
    obtain ⟨c, hc, -⟩ := Option.bind_eq_some_iff.1 hx
    exact ⟨c, hc⟩
  constructor
  · rintro ⟨x, y, hx, hy, hcert, hkey⟩
    obtain ⟨c, hc⟩ := hsetter _ x hx
    obtain ⟨d, hd⟩ := hsetter _ y hy
    obtain ⟨m, hcx⟩ := hfind _ c hc
    obtain ⟨m', hdy⟩ := hfind _ d hd
    obtain rfl := Option.some.inj (hx.symm.trans hcx)
    obtain rfl := Option.some.inj (hy.symm.trans hdy)
    exact ⟨c, d, hc, hd, Tunnel.certificate_eq_of_valueAt? hcert, Tunnel.privateKey_eq_of_valueAt? hkey⟩
  · rintro ⟨c, d, hc, hd, hcert, hkey⟩
    obtain ⟨m, hcx⟩ := hfind _ c hc
    obtain ⟨m', hdy⟩ := hfind _ d hd
    refine ⟨_, _, hcx, hdy, ?_, ?_⟩
    · rw [Tunnel.valueAt?_certificateKey, Tunnel.valueAt?_certificateKey, hcert]
    · rw [Tunnel.valueAt?_privateKeyKey, Tunnel.valueAt?_privateKeyKey, hkey]

/-- What becomes of the pair of a tunnel, whichever requests are made to fail. The two ends hold the
same certificate and key if and only if the calls served first on both sides have them. A call that
returns without failing leaves a secret on its side, unless a failure pretends that there is one. -/
theorem pair_of_ends (hcs : ∀ c ∈ cs, c.Joins src dst scope)
    (hfree : ∀ side, (ws (home side)).store.find? (pairPlace src dst scope side) = none) :
    (SharesPair src dst scope home (afterEach home cs ws) ↔
      ∃ c d, setter src dst scope home cs ws .client = some c ∧
        setter src dst scope home cs ws .server = some d ∧
        c.tunnel.certificate = d.tunnel.certificate ∧ c.tunnel.privateKey = d.tunnel.privateKey) ∧
    ((∀ k, (ws k).Honest) → ∀ c, (c, .ok ()) ∈ returns home cs ws → ∃ d x,
      setter src dst scope home cs ws c.side = some d ∧ d.secret = .ok x ∧
      (afterEach home cs ws (home c.side)).store.find? (pairPlace src dst scope c.side) =
        some x) := by
  refine ⟨sharesPair_iff hcs hfree, fun hws c hc => ?_⟩
  obtain ⟨d, hd⟩ := exists_setter_of_returned hcs hws hc
  obtain ⟨m, ho⟩ := exists_secret (hcs d (mem_of_setter hd)).typed
  refine ⟨d, _, hd, ho, ?_⟩
  rw [find?_afterEach hcs, hfree, hd, Option.none_or, Option.bind_some, ho]
  rfl

theorem plain_joins (side : Side) (certificate privateKey : List UInt8) :
    (plain side certificate privateKey).Joins "src" "dst" "vt" :=
  ⟨rfl, rfl, rfl, (plain_typed side certificate privateKey).labels⟩

/-- Two clusters without objects, on which no request fails. -/
def emptyClusters : Side → UnreliableStore :=
  fun _ => ⟨.empty, fun _ _ => none⟩

theorem emptyClusters_reliable (side : Side) : (emptyClusters side).Reliable :=
  fun _ _ => rfl

/-- A transfer is begun by one tunnel, which gets no further than its client end, and begun anew by
another. -/
def begunAnew : List Provisioning :=
  [plain .client [1] [2], plain .client [3] [4], plain .server [3] [4]]

theorem joins_of_mem_begunAnew : ∀ c ∈ begunAnew, c.Joins "src" "dst" "vt" := by
  intro c hc
  simp only [begunAnew, List.mem_cons, List.not_mem_nil, or_false] at hc
  rcases hc with rfl | rfl | rfl <;> exact plain_joins _ _ _

theorem ready_of_mem_begunAnew : ∀ c ∈ begunAnew, c.Ready := by
  intro c hc
  simp only [begunAnew, List.mem_cons, List.not_mem_nil, or_false] at hc
  rcases hc with rfl | rfl | rfl <;> exact plain_ready _ _ _

theorem setter_begunAnew_client :
    setter "src" "dst" "vt" id begunAnew emptyClusters .client = some (plain .client [1] [2]) := by
  have hserved := secretServed_of_reliable (plain_typed .client [1] [2])
    (emptyClusters_reliable .client)
  have h := firstServed_of_served (plain_typed .client [1] [2]) hserved [plain .client [3] [4]]
  rwa [(plain_joins .client [1] [2]).secretPlace] at h

theorem setter_begunAnew_server :
    setter "src" "dst" "vt" id begunAnew emptyClusters .server = some (plain .server [3] [4]) := by
  have hserved := secretServed_of_reliable (plain_typed .server [3] [4])
    (emptyClusters_reliable .server)
  have h := firstServed_of_served (plain_typed .server [3] [4]) hserved []
  rwa [(plain_joins .server [3] [4]).secretPlace] at h

/-- No request fails and every call returns without failing. The second tunnel has provisioned both
of its ends, which hold different pairs. -/
theorem ends_apart :
    (∀ c ∈ begunAnew, (c, .ok ()) ∈ returns id begunAnew emptyClusters) ∧
      ¬SharesPair "src" "dst" "vt" id (afterEach id begunAnew emptyClusters) := by
  refine ⟨fun c hc => ?_, fun h => ?_⟩
  · rw [returns_of_reliable ready_of_mem_begunAnew emptyClusters_reliable]
    exact List.mem_map_of_mem hc
  · obtain ⟨c, d, hc, hd, hcert, -⟩ :=
      (sharesPair_iff joins_of_mem_begunAnew fun _ => rfl).1 h
    rw [setter_begunAnew_client] at hc
    rw [setter_begunAnew_server] at hd
    obtain rfl := Option.some.inj hc
    obtain rfl := Option.some.inj hd
    exact absurd hcert (by decide)

/-- After the same run, the condition on the calls served first decides, and every call has left a
secret. -/
theorem pair_of_ends_begunAnew :
    (SharesPair "src" "dst" "vt" id (afterEach id begunAnew emptyClusters) ↔
      ∃ c d, setter "src" "dst" "vt" id begunAnew emptyClusters .client = some c ∧
        setter "src" "dst" "vt" id begunAnew emptyClusters .server = some d ∧
        c.tunnel.certificate = d.tunnel.certificate ∧
        c.tunnel.privateKey = d.tunnel.privateKey) ∧
    ∀ c ∈ begunAnew, ∃ d x,
      setter "src" "dst" "vt" id begunAnew emptyClusters c.side = some d ∧ d.secret = .ok x ∧
      (afterEach id begunAnew emptyClusters (id c.side)).store.find?
        (pairPlace "src" "dst" "vt" c.side) = some x := by
  have h := @pair_of_ends Side _ "src" "dst" "vt" id begunAnew emptyClusters joins_of_mem_begunAnew
    fun _ => rfl
  refine ⟨h.1, fun c hc => h.2 (fun k => (emptyClusters_reliable k).honest) c ?_⟩
  rw [returns_of_reliable ready_of_mem_begunAnew emptyClusters_reliable]
  exact List.mem_map_of_mem hc

end Provisioning

end VolumeTunnel
