import VolumeTunnel.Proofs.Text.Numeral
import VolumeTunnel.Transfer.Health
import Mathlib.Data.List.Forall2

/-!
# What a check of several pods answers

A pod is ready when it reports exactly two containers and both are ready (`Object.Ready`). If any of
the listed pods is ready, the check is content (`anyReady_of_ready`), whatever was found before that
pod. Otherwise there is one reason for each pod, in the order of the list (`anyReady_of_unready`),
and none at all for an empty list. So whether all is well depends only on which pods there are
(`podsHealthy_of_reply`).

* `Object.IsPod`, `Object.podName` : a pod with metadata, and the name that they give;
* `Object.Explains` : a reason for which a pod is not ready.
-/

namespace VolumeTunnel

namespace Object

/-- A pod that carries metadata. -/
structure IsPod (o : Object) : Prop where
  model : o.model = Kind.pod.name
  named : o.metadata.isSome = true

/-- The namespace and the name in the metadata. -/
def podName (o : Object) : ObjectName :=
  o.metadata.elim ⟨.none, .none⟩ Metadata.objectName

/-- The containers that a pod reports. -/
def statuses (o : Object) : List ContainerStatus :=
  PodStatus.statuses o.status

/-- A pod with exactly two containers, both ready. -/
def Ready (o : Object) : Prop :=
  ∃ a b, o.statuses = [a, b] ∧ a.ready = some true ∧ b.ready = some true

/-- A reason for which a pod is not ready. It names the pod and, if the pod has two containers, the
first of them that is not ready. -/
structure Explains (o : Object) (f : PodFailure) : Prop where
  pod : f.pod = o.podName
  count : o.statuses.length ≠ 2 → f.container = .none ∧
    f.message = "expected 2 container statuses found " ++ Text.ofNat o.statuses.length
      ++ ", for pod " ++ o.podName.text
  first : ∀ before s after, o.statuses = before ++ s :: after → o.statuses.length = 2 →
    (∀ b ∈ before, b.ready = some true) → s.ready ≠ some true →
    f.container = .text s.name ∧
      f.message = "container " ++ s.name ++ " in pod " ++ o.podName.text ++ " is not ready"

end Object

open Object

/-! ## One pod -/

theorem containersReady_of_isPod {o : Object} (h : o.IsPod) :
    containersReady (.object o) = .ok (statusHealth o.podName o.statuses) := by
  obtain ⟨m, hm⟩ := Option.isSome_iff_exists.1 h.named
  have hstate : o.canHaveStatus = true := by
    unfold Object.canHaveStatus
    rw [h.model]
    rfl
  simp [containersReady, Object.metadata?, hm, hstate, Object.podName, Object.statuses, bind,
    Except.bind, pure, Except.pure]

theorem statusHealth_of_ready {o : Object} (h : o.Ready) :
    statusHealth o.podName o.statuses = .good := by
  obtain ⟨a, b, hstatuses, ha, hb⟩ := h
  simp [statusHealth, hstatuses, expectedContainers, ha, hb]

theorem not_ready_iff (s : ContainerStatus) :
    (!s.ready.getD false) = true ↔ s.ready ≠ some true := by
  cases s.ready <;> simp

/-- The first container that is not ready is the one that is found. -/
theorem find?_not_ready {before after : List ContainerStatus} {s : ContainerStatus}
    (hbefore : ∀ b ∈ before, b.ready = some true) (hs : s.ready ≠ some true) :
    (before ++ s :: after).find? (fun s => !s.ready.getD false) = some s := by
  have hnone : before.find? (fun s => !s.ready.getD false) = none := by
    refine List.find?_eq_none.2 fun b hb => ?_
    rw [not_ready_iff]
    exact fun hne => hne (hbefore b hb)
  rw [List.find?_append, hnone, Option.none_or]
  exact List.find?_cons_of_pos ((not_ready_iff s).2 hs)

/-- Two containers of which none is found not to be ready. -/
theorem ready_of_find?_eq_none {o : Object} (hcount : o.statuses.length = 2)
    (h : o.statuses.find? (fun s => !s.ready.getD false) = none) : o.Ready := by
  obtain ⟨a, b, hstatuses⟩ := List.length_eq_two.1 hcount
  have hready : ∀ s ∈ o.statuses, s.ready = some true := by
    intro s hs
    have hnot := List.find?_eq_none.1 h s hs
    rw [not_ready_iff] at hnot
    exact Classical.not_not.1 hnot
  refine ⟨a, b, hstatuses, hready a ?_, hready b ?_⟩ <;> simp [hstatuses]

/-- For a pod that is not ready there is a reason. -/
theorem statusHealth_of_not_ready {o : Object} (h : ¬o.Ready) :
    ∃ f, statusHealth o.podName o.statuses = .bad (.pod f) ∧ o.Explains f := by
  unfold statusHealth
  by_cases hcount : o.statuses.length = 2
  · rw [if_neg (by simp [expectedContainers, hcount])]
    cases hfind : o.statuses.find? fun s => !s.ready.getD false with
    | none => exact absurd (ready_of_find?_eq_none hcount hfind) h
    | some s =>
      refine ⟨_, rfl, rfl, fun hne => absurd hcount hne, ?_⟩
      intro before s' after hstatuses _ hbefore hs'
      rw [hstatuses, find?_not_ready hbefore hs'] at hfind
      obtain rfl := Option.some.inj hfind
      exact ⟨rfl, rfl⟩
  · rw [if_pos (by simpa [expectedContainers] using hcount)]
    have htwo : Text.ofNat 2 = "2" := Text.ofNat_of_lt (by decide)
    refine ⟨_, rfl, rfl, fun _ => ⟨rfl, ?_⟩, fun _ _ _ _ hlength => absurd hlength hcount⟩
    simp only [expectedContainers, htwo]
    rfl

/-! ## Several pods -/

/-- A ready pod decides, whatever was found before it. -/
theorem anyReady_of_ready {pods : List Object} (hpods : ∀ p ∈ pods, p.IsPod)
    (h : ∃ p ∈ pods, p.Ready) (problems : List Failure) : anyReady problems pods = .ok .good := by
  induction pods generalizing problems with
  | nil => simp at h
  | cons p pods ih =>
    have hrest : ∀ q ∈ pods, q.IsPod := fun q hq => hpods q (List.mem_cons_of_mem _ hq)
    rw [anyReady, containersReady_of_isPod (hpods p List.mem_cons_self)]
    by_cases hp : p.Ready
    · rw [statusHealth_of_ready hp]
      rfl
    · obtain ⟨f, hf, -⟩ := statusHealth_of_not_ready hp
      rw [hf]
      refine ih hrest ?_ _
      simpa [hp] using h

/-- Without a ready pod, a reason for each pod is added to what was found before, in order. -/
theorem anyReady_of_unready {pods : List Object} (hpods : ∀ p ∈ pods, p.IsPod)
    (h : ∀ p ∈ pods, ¬p.Ready) (problems : List Failure) :
    ∃ fs, List.Forall₂ Explains pods fs ∧
      anyReady problems pods =
        .ok ⟨false, Failure.gather? ((problems ++ fs.map Failure.pod).map some)⟩ := by
  induction pods generalizing problems with
  | nil => exact ⟨[], .nil, by simp [anyReady]⟩
  | cons p pods ih =>
    have hrest : ∀ q ∈ pods, q.IsPod := fun q hq => hpods q (List.mem_cons_of_mem _ hq)
    obtain ⟨f, hf, hexplains⟩ := statusHealth_of_not_ready (h p List.mem_cons_self)
    obtain ⟨fs, hfs, hall⟩ := ih hrest (fun q hq => h q (List.mem_cons_of_mem _ hq))
      (problems ++ [.pod f])
    refine ⟨f :: fs, .cons hexplains hfs, ?_⟩
    rw [anyReady, containersReady_of_isPod (hpods p List.mem_cons_self), hf]
    simpa [Health.bad] using hall

theorem gather?_map_some {es : List Failure} (h : es ≠ []) :
    Failure.gather? (es.map some) = some (Failure.gather es) := by
  unfold Failure.gather?
  cases es with
  | nil => exact absurd rfl h
  | cons e es => simp

/-- A verdict on pods : content if one is ready, empty if there are none, and otherwise one reason
for each pod. -/
structure Health.Judges (pods : List Object) (h : Health) : Prop where
  content : h = ⟨true, none⟩ ↔ ∃ p ∈ pods, p.Ready
  empty : h = ⟨false, none⟩ ↔ pods = []
  reasons : pods ≠ [] → (∀ p ∈ pods, ¬p.Ready) →
    ∃ fs, h = ⟨false, some (Failure.gather (fs.map Failure.pod))⟩ ∧ List.Forall₂ Explains pods fs

/-- What the check finds is a verdict on the pods. -/
theorem exists_judges {pods : List Object} (hpods : ∀ p ∈ pods, p.IsPod) :
    ∃ h, anyReady [] pods = .ok h ∧ h.Judges pods := by
  by_cases hready : ∃ p ∈ pods, p.Ready
  · refine ⟨.good, anyReady_of_ready hpods hready [], ?_⟩
    obtain ⟨p, hp, hpready⟩ := hready
    exact
      { content := iff_of_true rfl ⟨p, hp, hpready⟩
        empty := iff_of_false (by simp [Health.good]) (List.ne_nil_of_mem hp)
        reasons := fun _ hnone => absurd hpready (hnone p hp) }
  · have hnone : ∀ p ∈ pods, ¬p.Ready := fun p hp hpready => hready ⟨p, hp, hpready⟩
    obtain ⟨fs, hfs, hall⟩ := anyReady_of_unready hpods hnone []
    refine ⟨_, hall, ?_⟩
    cases pods with
    | nil =>
      cases hfs
      exact
        { content := iff_of_false (by simp) hready
          empty := iff_of_true rfl rfl
          reasons := fun hne => absurd rfl hne }
    | cons p pods =>
      have hne : fs.map Failure.pod ≠ [] := by
        cases hfs
        simp
      rw [List.nil_append, gather?_map_some hne]
      exact
        { content := iff_of_false (by simp) hready
          empty := iff_of_false (by simp) (by simp)
          reasons := fun _ _ => ⟨fs, rfl, hfs⟩ }

/-- The check is content exactly if a pod is ready. -/
theorem Health.Judges.healthy_iff {pods : List Object} {h : Health} (hjudges : h.Judges pods) :
    h.healthy = true ↔ ∃ p ∈ pods, p.Ready := by
  refine ⟨fun hhealthy => ?_, fun hready => by rw [hjudges.content.2 hready]⟩
  by_contra hnone
  have hunready : ∀ p ∈ pods, ¬p.Ready := fun p hp hpready => hnone ⟨p, hp, hpready⟩
  cases hpods : pods with
  | nil => simp [hjudges.empty.2 hpods] at hhealthy
  | cons p rest =>
    obtain ⟨_, heq, -⟩ := hjudges.reasons (by simp [hpods]) hunready
    simp [heq] at hhealthy

/-! ## The pods with given labels -/

/-- The request for the pods with given labels. -/
def podsRequest (space : Value) (labels : Dict) : Request :=
  .list (.text Kind.pod.name) space (.text (labelSelector labels))

/-- A check of several pods asks one question and goes by the answer. -/
theorem run_podsHealthy {S : Type} (client : (q : Request) → S → q.Reply × S) (space : Value)
    {labels : Dict} (hlabels : Value.areWritableEntries labels) (s : S) :
    (podsHealthy space labels).run client s =
      ⟨match (client (podsRequest space labels) s).1 with
        | .error e => .ok (.bad e)
        | .ok pods => anyReady [] pods,
       (client (podsRequest space labels) s).2, [podsRequest space labels], []⟩ := by
  unfold podsHealthy podsRequest
  rw [if_pos hlabels]
  unfold Script.run
  simp only [Script.Outcome.consAsked]
  cases (client (.list (.text Kind.pod.name) space (.text (labelSelector labels))) s).1 <;> rfl

/-- Without a selector nothing is asked. -/
theorem run_podsHealthy_of_not_writable {S : Type} (client : (q : Request) → S → q.Reply × S)
    (space : Value) {labels : Dict} (hlabels : ¬Value.areWritableEntries labels) (s : S) :
    (podsHealthy space labels).run client s =
      ⟨.ok ⟨false, some (.fault .wrongValue)⟩, s, [], []⟩ := by
  unfold podsHealthy
  rw [if_neg hlabels]
  rfl

/-- Labels are texts, or other values that have a written form. If the list fails, the check answers
with the failure itself. Otherwise it answers with a verdict on the pods listed. A check of other
pods, in any state of any cluster, finds the same of the same pods in another order, and if it found
all well here, it does so with more pods. Labels that cannot be written are a reason too, and then
no pods are asked for. -/
theorem podsHealthy_of_reply {S : Type} (client : (q : Request) → S → q.Reply × S) (space : Value)
    (labels : Dict) (s : S) :
    (Value.areWritableEntries labels →
      (∀ e, (client (podsRequest space labels) s).1 = .error e →
        ((podsHealthy space labels).run client s).result = .ok ⟨false, some e⟩) ∧
      ∀ pods, (client (podsRequest space labels) s).1 = .ok pods → (∀ p ∈ pods, p.IsPod) →
        ∃ h, ((podsHealthy space labels).run client s).result = .ok h ∧ h.Judges pods ∧
          ∀ (S' : Type) (client' : (q : Request) → S' → q.Reply × S') (space' : Value)
            (labels' : Dict) (s' : S') (pods' : List Object), Value.areWritableEntries labels' →
            (client' (podsRequest space' labels') s').1 = .ok pods' → (∀ p ∈ pods', p.IsPod) →
            ∃ h', ((podsHealthy space' labels').run client' s').result = .ok h' ∧
              (pods.Perm pods' → h'.healthy = h.healthy) ∧
              (pods ⊆ pods' → h.healthy = true → h'.healthy = true)) ∧
    (¬Value.areWritableEntries labels →
      (podsHealthy space labels).run client s =
        ⟨.ok ⟨false, some (.fault .wrongValue)⟩, s, [], []⟩) := by
  refine ⟨fun hlabels => ⟨fun e he => ?_, fun pods hreply hpods => ?_⟩,
    fun hlabels => run_podsHealthy_of_not_writable client space hlabels s⟩
  · simp only [run_podsHealthy client space hlabels, he]
    rfl
  obtain ⟨h, hh, hjudges⟩ := exists_judges hpods
  refine ⟨h, ?_, hjudges, ?_⟩
  · simpa only [run_podsHealthy client space hlabels, hreply] using hh
  intro S' client' space' labels' s' pods' hlabels' hreply' hpods'
  obtain ⟨h', hh', hjudges'⟩ := exists_judges hpods'
  refine ⟨h', ?_, fun hperm => ?_, fun hsubset hhealthy => ?_⟩
  · simpa only [run_podsHealthy client' space' hlabels', hreply'] using hh'
  · rw [Bool.eq_iff_iff, hjudges'.healthy_iff, hjudges.healthy_iff]
    simp only [hperm.mem_iff]
  · obtain ⟨p, hp, hready⟩ := hjudges.healthy_iff.1 hhealthy
    exact hjudges'.healthy_iff.2 ⟨p, hsubset hp, hready⟩

/-- A pod with a name and the given containers. -/
def reportingPod (name : Text) (containers : List (Text × Option Bool)) : Object :=
  ⟨Kind.pod.name, none, none, some ⟨some "transfer", some name, none⟩, none,
    some ⟨some (containers.map fun (name, ready) => ⟨name, ready, [], [], 0⟩)⟩⟩

/-- A cluster without a state that lists the pods that it is given and fails for all else. -/
def lister (pods : List Object) (q : Request) (s : Unit) : q.Reply × Unit :=
  match q with
  | .list _ _ _ => (.ok pods, s)
  | q => (q.refuse (.fault .noSuchPart), s)

/-- A pod with one container and a pod whose second container does not say whether it is ready. -/
def startingPods : List Object :=
  [reportingPod "a" [("stunnel", some true)],
   reportingPod "b" [("stunnel", some true), ("rsync", none)]]

/-- A pod of which both containers are ready. -/
def startedPod : Object :=
  reportingPod "c" [("stunnel", some true), ("rsync", some true)]

theorem reportingPod_isPod (name : Text) (containers : List (Text × Option Bool)) :
    (reportingPod name containers).IsPod :=
  ⟨rfl, rfl⟩

theorem startingPods_isPod : ∀ p ∈ startingPods, p.IsPod := by
  simp [startingPods, reportingPod_isPod]

theorem podsHealthy_of_reply_starting :
    ((podsHealthy (.text "transfer") [(.text "app", .text "ferry")]).run
        (fun q (s : Unit) => (q.refuse (.runtime "no route"), s)) ()).result =
      .ok ⟨false, some (.runtime "no route")⟩ ∧
    (∃ f g, ((podsHealthy (.text "transfer") [(.text "app", .text "ferry")]).run
          (lister startingPods) ()).result =
        .ok ⟨false, some (Failure.gather [.pod f, .pod g])⟩ ∧
      f.container = .none ∧ g.container = .text "rsync") ∧
    ((podsHealthy (.text "transfer") [(.text "app", .text "ferry")]).run
        (lister (startingPods ++ [startedPod])) ()).result = .ok ⟨true, none⟩ ∧
    ∃ h, ((podsHealthy (.text "transfer") [(.text "app", .text "ferry")]).run
          (lister (startedPod :: startingPods)) ()).result = .ok h ∧ h.healthy = true := by
  have hmore : ∀ p ∈ startingPods ++ [startedPod], p.IsPod := by
    simp [startingPods, startedPod, reportingPod_isPod]
  have hperm : (startingPods ++ [startedPod]).Perm (startedPod :: startingPods) :=
    List.perm_append_singleton _ _
  refine ⟨?_, ?_, ?_⟩
  · exact ((podsHealthy_of_reply _ _ _ ()).1 rfl).1 _ rfl
  · obtain ⟨h, hresult, hjudges, -⟩ :=
      ((podsHealthy_of_reply (lister startingPods) (.text "transfer")
        [(.text "app", .text "ferry")] ()).1 rfl).2 _ rfl startingPods_isPod
    have hunready : ∀ p ∈ startingPods, ¬p.Ready := by
      simp [startingPods, Ready, reportingPod, Object.statuses, PodStatus.statuses]
    obtain ⟨fs, rfl, hfs⟩ := hjudges.reasons (List.cons_ne_nil _ _) hunready
    obtain ⟨f, _, hf, hrest, rfl⟩ := List.forall₂_cons_left_iff.1 hfs
    obtain ⟨g, _, hg, hnil, rfl⟩ := List.forall₂_cons_left_iff.1 hrest
    obtain rfl := List.forall₂_nil_left_iff.1 hnil
    refine ⟨f, g, hresult, (hf.count (by decide)).1, ?_⟩
    exact (hg.first [⟨"stunnel", some true, [], [], 0⟩] ⟨"rsync", none, [], [], 0⟩ [] rfl rfl
      (by simp) (by simp)).1
  · obtain ⟨h, hresult, hjudges, hlater⟩ :=
      ((podsHealthy_of_reply (lister (startingPods ++ [startedPod])) (.text "transfer")
        [(.text "app", .text "ferry")] ()).1 rfl).2 _ rfl hmore
    have hgood := hjudges.content.2 ⟨startedPod, by simp, _, _, rfl, rfl, rfl⟩
    obtain ⟨h', hresult', hsame, -⟩ :=
      hlater Unit (lister (startedPod :: startingPods)) (.text "transfer")
        [(.text "app", .text "ferry")] () _ rfl rfl fun p hp => hmore p (hperm.mem_iff.2 hp)
    exact ⟨hgood ▸ hresult, h', hresult', (hsame hperm).trans (by rw [hgood])⟩

end VolumeTunnel
