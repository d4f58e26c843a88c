import VolumeTunnel.Proofs.Cluster.Keyed
import VolumeTunnel.Proofs.Script.Likeness

/-!
# Clusters that do not look into objects

Objects may differ in their data only (`Object.Veils`). Requests with such objects in them are alike
(`Request.likeness`), and so are calls (`Call.likeness`). A connection keeps it that way : whatever
it logs, calls or replies to a request is alike for alike requests (`Connection.serve_like`). A
store in memory and a server are blind to such differences (`Store.blind`, `Server.blind`) : what
they refuse, and with which failure, is decided by kinds, names and labels.
-/

namespace VolumeTunnel

/-! ## Results that are the same but for what is hidden -/

/-- Two results that are related, or the same failure both times. -/
inductive SameResult {α β : Type} (rel : α → β → Prop) : Except Failure α → Except Failure β → Prop
  | ok {a : α} {b : β} (h : rel a b) : SameResult rel (.ok a) (.ok b)
  | error (e : Failure) : SameResult rel (.error e) (.error e)

namespace SameResult

variable {α β γ δ : Type} {rel : α → β → Prop} {rel' : γ → δ → Prop} {x : Except Failure α}
  {y : Except Failure β}

theorem refl {rel : α → α → Prop} (h : ∀ a, rel a a) (x : Except Failure α) :
    SameResult rel x x := by
  cases x with
  | ok a => exact .ok (h a)
  | error e => exact .error e

theorem bind {f : α → Except Failure γ} {g : β → Except Failure δ} (h : SameResult rel x y)
    (hfg : ∀ a b, rel a b → SameResult rel' (f a) (g b)) :
    SameResult rel' (x >>= f) (y >>= g) := by
  cases h with
  | ok h => exact hfg _ _ h
  | error e => exact .error e

theorem mapError (h : SameResult rel x y) (f : Failure → Failure) :
    SameResult rel (x.mapError f) (y.mapError f) := by
  cases h with
  | ok h => exact .ok h
  | error e => exact .error (f e)

end SameResult

/-! ## Objects, requests and calls -/

/-- A relation between objects that differ in their data only. -/
structure Object.Veils (veiled : Object → Object → Prop) : Prop where
  refl : ∀ o, veiled o o
  data : ∀ o o', veiled o o' → ∃ data, o' = { o with data := data }

variable {veiled : Object → Object → Prop} {o o' : Object}

theorem Object.Veils.metadata?_eq (hv : Object.Veils veiled) (h : veiled o o') :
    o'.metadata? = o.metadata? := by
  obtain ⟨data, rfl⟩ := hv.data o o' h
  rfl

/-- Requests that are the same but for what is hidden in an object. -/
inductive Request.Alike (veiled : Object → Object → Prop) : Request → Request → Prop
  | get (kind : Value) (key : ObjectName) : Alike veiled (.get kind key) (.get kind key)
  | create {o o' : Object} (h : veiled o o') :
    Alike veiled (.create (.object o)) (.create (.object o'))
  | update {o o' : Object} (h : veiled o o') :
    Alike veiled (.update (.object o)) (.update (.object o'))
  | list (kind space selector : Value) :
    Alike veiled (.list kind space selector) (.list kind space selector)

/-- Requests and their replies that are the same but for what is hidden in objects. -/
def Request.likeness (veiled : Object → Object → Prop) : Likeness Request Request.Reply where
  question := Alike veiled
  reply
    | .get _ _, .get _ _, r, r' => SameResult veiled r r'
    | .create _, .create _, r, r' => SameResult veiled r r'
    | .update _, .update _, r, r' => SameResult veiled r r'
    | .list _ _ _, .list _ _ _, r, r' => SameResult (List.Forall₂ veiled) r r'
    | _, _, _, _ => False

/-- Calls that are the same but for what is hidden in an object. -/
inductive Call.Alike (veiled : Object → Object → Prop) : Call → Call → Prop
  | loadInCluster : Alike veiled .loadInCluster .loadInCluster
  | newClient (settings : Option (Value × Value)) :
    Alike veiled (.newClient settings) (.newClient settings)
  | apiClient : Alike veiled .apiClient .apiClient
  | coreApi : Alike veiled .coreApi .coreApi
  | read (kind : Kind) (key : ObjectName) : Alike veiled (.read kind key) (.read kind key)
  | create (kind : Kind) (space : Value) {o o' : Object} (h : veiled o o') :
    Alike veiled (.create kind space o) (.create kind space o')
  | replace (kind : Kind) (key : ObjectName) {o o' : Object} (h : veiled o o') :
    Alike veiled (.replace kind key o) (.replace kind key o')
  | list (kind : Kind) (space : Value) (selector : Option Value) :
    Alike veiled (.list kind space selector) (.list kind space selector)
  | close : Alike veiled .close .close

/-- Calls and their replies that are the same but for what is hidden in objects. -/
def Call.likeness (veiled : Object → Object → Prop) : Likeness Call Call.Reply where
  question := Alike veiled
  reply
    | .loadInCluster, .loadInCluster, r, r' => r = r'
    | .newClient _, .newClient _, r, r' => r = r'
    | .apiClient, .apiClient, r, r' => r = r'
    | .coreApi, .coreApi, r, r' => r = r'
    | .read _ _, .read _ _, r, r' => SameResult veiled r r'
    | .create _ _ _, .create _ _ _, r, r' => SameResult veiled r r'
    | .replace _ _ _, .replace _ _ _, r, r' => SameResult veiled r r'
    | .list _ _ _, .list _ _ _, r, r' => SameResult (List.Forall₂ veiled) r r'
    | .close, .close, r, r' => r = r'
    | _, _, _, _ => False

/-- A request refused for the same reason. -/
theorem Request.Alike.refuse {q q' : Request} (h : Request.Alike veiled q q') (e : Failure) :
    (Request.likeness veiled).reply q q' (q.refuse e) (q'.refuse e) := by
  cases h <;> exact .error e

/-! ## Connections -/

namespace Connection

/-- Connecting shows nothing of what is hidden. -/
theorem ensure_like (c : Connection) :
    Script.Like (Call.likeness veiled) (fun a b => a = b) c.ensure c.ensure := by
  have hdefault : defaultClient.Only fun q =>
      (Call.likeness veiled).question q q ∧ ∀ a b, (Call.likeness veiled).reply q q a b → a = b :=
    ⟨⟨.newClient none, fun _ _ h => h⟩, fun _ => trivial⟩
  refine Script.Like.refl_of_only ?_
  rw [ensure]
  split
  · exact trivial
  · refine Script.Only.bind ?_ fun r => ?_
    · rw [findClient]
      split
      · exact ⟨⟨.newClient _, fun _ _ h => h⟩, fun _ => trivial⟩
      · refine ⟨⟨.loadInCluster, fun _ _ h => h⟩, fun loaded => ?_⟩
        cases loaded with
        | error e =>
          dsimp only
          split
          · exact hdefault
          · exact trivial
        | ok u =>
          refine ⟨⟨.apiClient, fun _ _ h => h⟩, fun made => ?_⟩
          cases made with
          | error e =>
            dsimp only
            split
            · exact hdefault
            · exact trivial
          | ok client => exact trivial
    · cases r with
      | error e => exact trivial
      | ok client =>
        refine ⟨⟨.coreApi, fun _ _ h => h⟩, fun core => ?_⟩
        cases core <;> exact trivial

/-- Kind, namespace and name of an object are found in what is not hidden. -/
theorem target_veiled (hv : Object.Veils veiled) (h : veiled o o') :
    SameResult (fun t t' => ∃ kind known key, t = (kind, known, o, key) ∧ t' = (kind, known, o', key))
      (target (.object o)) (target (.object o')) := by
  obtain ⟨data, rfl⟩ := hv.data o o' h
  refine (SameResult.refl (fun _ => rfl) o.kindOf).bind fun kind _ hkind => ?_
  obtain rfl := hkind
  refine (SameResult.refl (fun _ => rfl) (Kind.ofValue (.text kind))).bind fun known _ hknown => ?_
  obtain rfl := hknown
  refine (SameResult.refl (fun _ => rfl) o.metadata?).bind fun metadata _ hmetadata => ?_
  obtain rfl := hmetadata
  exact .ok ⟨_, _, _, rfl, rfl⟩

theorem send_like (hv : Object.Veils veiled) {q q' : Request} (h : Request.Alike veiled q q') :
    Script.Like (Call.likeness veiled) ((Request.likeness veiled).reply q q') (send q) (send q') := by
  cases h with
  | get kind key =>
    rw [send]
    cases Kind.ofValue kind with
    | error e => exact .done (.error e)
    | ok known => exact .ask (.read known key) fun r r' h => .done (h.mapError _)
  | list kind space selector =>
    rw [send]
    cases Kind.ofValue kind with
    | error e => exact .done (.error e)
    | ok known => exact .ask (.list known space _) fun r r' h => .done (h.mapError _)
  | @create o o' h =>
    have ht := target_veiled hv h
    rw [send, send]
    generalize target (.object o) = t, target (.object o') = t' at ht ⊢
    cases ht with
    | error e => exact .done (.error e)
    | ok ht =>
      obtain ⟨kind, known, key, rfl, rfl⟩ := ht
      refine .ask (.create known key.space h) fun r r' hr => ?_
      cases hr with
      | ok hstored => exact .tell (.done (.ok hstored))
      | error e => exact .done (.error _)
  | @update o o' h =>
    have ht := target_veiled hv h
    rw [send, send]
    generalize target (.object o) = t, target (.object o') = t' at ht ⊢
    cases ht with
    | error e => exact .done (.error e)
    | ok ht =>
      obtain ⟨kind, known, key, rfl, rfl⟩ := ht
      refine .ask (.replace known key h) fun r r' hr => ?_
      cases hr with
      | ok hstored => exact .tell (.done (.ok hstored))
      | error e => exact .done (.error _)

/-- What a connection does with a request shows no more than the request does. -/
theorem serve_like (hv : Object.Veils veiled) (q q' : Request) (c c' : Connection)
    (hq : (Request.likeness veiled).question q q') (hc : c = c') :
    Script.Like (Call.likeness veiled)
      (fun a b => (Request.likeness veiled).reply q q' a.1 b.1 ∧ a.2 = b.2)
      (serve q c) (serve q' c') := by
  subst hc
  refine (ensure_like c).bind fun r r' hr => ?_
  subst hr
  obtain ⟨connected, c⟩ := r
  cases connected with
  | error e => exact .done ⟨hq.refuse e, rfl⟩
  | ok u =>
    dsimp only
    split
    · exact (send_like hv hq).bind fun reply reply' h => .done ⟨h, rfl⟩
    · exact .done ⟨hq.refuse _, rfl⟩

end Connection

/-! ## Stores -/

/-- Entries at the same place whose objects differ in what is hidden only. -/
def Store.VeiledEntry (veiled : Object → Object → Prop) (e e' : Place × Object) : Prop :=
  e.1 = e'.1 ∧ veiled e.2 e'.2

/-- Stores that differ in what is hidden in their objects only. -/
def Store.Veiled (veiled : Object → Object → Prop) (s s' : Store) : Prop :=
  List.Forall₂ (VeiledEntry veiled) s.entries s'.entries

namespace Store

theorem findEntry_veiled {es es' : List (Place × Object)}
    (h : List.Forall₂ (VeiledEntry veiled) es es') (p : Place) :
    Option.Rel veiled (findEntry es p) (findEntry es' p) := by
  induction h with
  | nil => exact .none
  | @cons e e' es es' he h ih =>
    obtain ⟨q, x⟩ := e
    obtain ⟨q', x'⟩ := e'
    obtain ⟨hq, hx⟩ := he
    obtain rfl : q = q' := hq
    rw [findEntry_cons, findEntry_cons]
    split
    · exact .some hx
    · exact ih

theorem putEntry_veiled {es es' : List (Place × Object)}
    (h : List.Forall₂ (VeiledEntry veiled) es es') (p : Place) (ho : veiled o o') :
    List.Forall₂ (VeiledEntry veiled) (putEntry p o es) (putEntry p o' es') := by
  induction h with
  | nil => exact .cons ⟨rfl, ho⟩ .nil
  | @cons e e' es es' he h ih =>
    obtain ⟨q, x⟩ := e
    obtain ⟨q', x'⟩ := e'
    obtain rfl : q = q' := he.1
    rw [putEntry, putEntry]
    split
    · exact .cons ⟨rfl, ho⟩ h
    · exact .cons he ih

variable {s s' : Store}

theorem find?_veiled (h : s.Veiled veiled s') (p : Place) :
    Option.Rel veiled (s.find? p) (s'.find? p) :=
  findEntry_veiled h p

theorem put_veiled (h : s.Veiled veiled s') (p : Place) (ho : veiled o o') :
    (s.put p o).Veiled veiled (s'.put p o') :=
  putEntry_veiled h p ho

/-- Selectors look at labels. -/
theorem select_veiled (hv : Object.Veils veiled) (h : s.Veiled veiled s') (kind space : Value)
    (terms : List SelectorTerm) :
    List.Forall₂ veiled (s.select kind space terms) (s'.select kind space terms) := by
  obtain ⟨es⟩ := s
  obtain ⟨es'⟩ := s'
  replace h : List.Forall₂ (VeiledEntry veiled) es es' := h
  simp only [select]
  induction h with
  | nil => exact .nil
  | @cons e e' es es' he h ih =>
    obtain ⟨p, x⟩ := e
    obtain ⟨p', x'⟩ := e'
    obtain ⟨hp, hx⟩ := he
    obtain rfl : p = p' := hp
    have hlabels : x.labels = x'.labels := by
      obtain ⟨data, rfl⟩ := hv.data x x' hx
      rfl
    simp only [List.filter_cons, hlabels]
    split
    · exact .cons hx ih
    · exact ih

/-- Objects that differ in what is hidden only are stored at the same place. -/
theorem placed_veiled (hv : Object.Veils veiled) (h : veiled o o') :
    SameResult (fun e e' => ∃ p, e = (p, o) ∧ e' = (p, o')) (Resource.object o).placed
      (Resource.object o').placed := by
  obtain ⟨data, rfl⟩ := hv.data o o' h
  refine (SameResult.refl (fun _ => rfl) o.kindOf).bind fun kind _ hkind => ?_
  obtain rfl := hkind
  refine (SameResult.refl (fun _ => rfl) o.metadata?).bind fun metadata _ hmetadata => ?_
  obtain rfl := hmetadata
  exact .ok ⟨_, rfl, rfl⟩

/-- A store in memory does not tell apart what is hidden. -/
theorem blind (hv : Object.Veils veiled) :
    Script.Blind (Request.likeness veiled) (Store.Veiled veiled) answer := by
  intro q q' s s' hq hs
  cases hq with
  | get kind key =>
    refine ⟨?_, hs⟩
    have hfind := find?_veiled hs ⟨kind, key⟩
    simp only [Request.likeness, answer, read]
    generalize s.find? ⟨kind, key⟩ = found, s'.find? ⟨kind, key⟩ = found' at hfind ⊢
    cases hfind with
    | some h => exact .ok h
    | none => exact .error _
  | list kind space selector =>
    refine ⟨?_, hs⟩
    simp only [Request.likeness, answer, list]
    split
    · split
      · exact .ok (select_veiled hv hs _ _ _)
      · exact .error _
    · exact .ok (select_veiled hv hs _ _ _)
  | @create o o' h =>
    have hplaced := placed_veiled hv h
    simp only [Request.likeness, answer, create]
    generalize (Resource.object o).placed = e, (Resource.object o').placed = e' at hplaced ⊢
    cases hplaced with
    | error e => exact ⟨.error e, hs⟩
    | ok he =>
      obtain ⟨p, rfl, rfl⟩ := he
      have hfind := find?_veiled hs p
      dsimp only
      generalize s.find? p = found, s'.find? p = found' at hfind ⊢
      cases hfind with
      | some _ => exact ⟨.error _, hs⟩
      | none => exact ⟨.ok h, put_veiled hs p h⟩
  | @update o o' h =>
    have hplaced := placed_veiled hv h
    simp only [Request.likeness, answer, update]
    generalize (Resource.object o).placed = e, (Resource.object o').placed = e' at hplaced ⊢
    cases hplaced with
    | error e => exact ⟨.error e, hs⟩
    | ok he =>
      obtain ⟨p, rfl, rfl⟩ := he
      have hfind := find?_veiled hs p
      dsimp only
      generalize s.find? p = found, s'.find? p = found' at hfind ⊢
      cases hfind with
      | some _ => exact ⟨.ok h, put_veiled hs p h⟩
      | none => exact ⟨.error _, hs⟩

end Store

/-! ## Servers -/

namespace Server

/-- Servers that differ in what is hidden in their objects only. -/
def Veiled (veiled : Object → Object → Prop) (s s' : Server) : Prop :=
  ∃ store, s' = { s with store := store } ∧ s.store.Veiled veiled store

variable {s : Server} {store : Store}

theorem readObject_veiled (h : s.store.Veiled veiled store) (kind : Kind) (key : ObjectName) :
    SameResult veiled (s.readObject kind key) ({ s with store := store }.readObject kind key) := by
  refine (SameResult.refl (fun _ => rfl) (s.check .read kind)).bind fun _ _ _ => ?_
  refine (SameResult.refl (fun _ => rfl) (place kind key).check).bind fun _ _ _ => ?_
  have hfind := Store.find?_veiled h (place kind key)
  dsimp only
  generalize s.store.find? (place kind key) = found, store.find? (place kind key) = found' at hfind ⊢
  cases hfind with
  | some h => exact .ok h
  | none => exact .error _

theorem createObject_veiled (hv : Object.Veils veiled) (h : s.store.Veiled veiled store)
    (ho : veiled o o') (kind : Kind) (space : Value) :
    SameResult (Store.Veiled veiled) (s.createObject kind space o)
      ({ s with store := store }.createObject kind space o') := by
  rw [createObject, createObject, hv.metadata?_eq ho]
  refine (SameResult.refl (fun _ => rfl) (s.check .create kind)).bind fun _ _ _ => ?_
  refine (SameResult.refl (fun _ => rfl) o.metadata?).bind fun m _ hm => ?_
  obtain rfl := hm
  refine (SameResult.refl (fun _ => rfl) (place kind ⟨space, m.objectName.name⟩).check).bind
    fun _ _ _ => ?_
  have hfind := Store.find?_veiled h (place kind ⟨space, m.objectName.name⟩)
  dsimp only
  generalize s.store.find? (place kind ⟨space, m.objectName.name⟩) = found,
    store.find? (place kind ⟨space, m.objectName.name⟩) = found' at hfind ⊢
  cases hfind with
  | some _ => exact .error _
  | none => exact .ok (Store.put_veiled h _ ho)

theorem replaceObject_veiled (h : s.store.Veiled veiled store) (ho : veiled o o') (kind : Kind)
    (key : ObjectName) :
    SameResult (Store.Veiled veiled) (s.replaceObject kind key o)
      ({ s with store := store }.replaceObject kind key o') := by
  refine (SameResult.refl (fun _ => rfl) (s.check .replace kind)).bind fun _ _ _ => ?_
  refine (SameResult.refl (fun _ => rfl) (place kind key).check).bind fun _ _ _ => ?_
  have hfind := Store.find?_veiled h (place kind key)
  dsimp only
  generalize s.store.find? (place kind key) = found, store.find? (place kind key) = found' at hfind ⊢
  cases hfind with
  | some _ => exact .ok (Store.put_veiled h _ ho)
  | none => exact .error _

theorem listObjects_veiled (hv : Object.Veils veiled) (h : s.store.Veiled veiled store)
    (kind : Kind) (space : Value) (selector : Option Value) :
    SameResult (List.Forall₂ veiled) (s.listObjects kind space selector)
      ({ s with store := store }.listObjects kind space selector) := by
  refine (SameResult.refl (fun _ => rfl) (s.check .list kind)).bind fun _ _ _ => ?_
  split
  · exact .ok (Store.select_veiled hv h _ _ _)
  · exact .ok (Store.select_veiled hv h _ _ _)
  · exact .error _

/-- A server does not tell apart what is hidden. -/
theorem blind (hv : Object.Veils veiled) :
    Script.Blind (Call.likeness veiled) (Server.Veiled veiled) answer := by
  rintro q q' s _ hq ⟨store, rfl, hs⟩
  cases hq with
  | loadInCluster => exact ⟨rfl, store, rfl, hs⟩
  | newClient settings => exact ⟨rfl, store, rfl, hs⟩
  | apiClient => exact ⟨rfl, store, rfl, hs⟩
  | coreApi => exact ⟨rfl, store, rfl, hs⟩
  | close => exact ⟨rfl, store, rfl, hs⟩
  | read kind key => exact ⟨readObject_veiled hs kind key, store, rfl, hs⟩
  | list kind space selector => exact ⟨listObjects_veiled hv hs kind space selector, store, rfl, hs⟩
  | @create kind space o o' h =>
    have hcreate := createObject_veiled hv hs h kind space
    simp only [Call.likeness, answer]
    generalize s.createObject kind space o = r,
      { s with store := store }.createObject kind space o' = r' at hcreate ⊢
    cases hcreate with
    | ok hstore => exact ⟨.ok h, _, rfl, hstore⟩
    | error e => exact ⟨.error e, store, rfl, hs⟩
  | @replace kind key o o' h =>
    have hreplace := replaceObject_veiled hs h kind key
    simp only [Call.likeness, answer]
    generalize s.replaceObject kind key o = r,
      { s with store := store }.replaceObject kind key o' = r' at hreplace ⊢
    cases hreplace with
    | ok hstore => exact ⟨.ok h, _, rfl, hstore⟩
    | error e => exact ⟨.error e, store, rfl, hs⟩

end Server

end VolumeTunnel
