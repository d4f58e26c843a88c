import VolumeTunnel.Cluster.Request

/-!
# Readiness of transfer pods

A transfer pod runs two containers, the tunnel and the sync tool, and is healthy when both are
ready. A pod that is not yet healthy is no failure of the check: the check answers whether the pod
is healthy, and if not, why.

* `containersReady` : one pod;
* `podHealthy`, `podsHealthy` : one pod or the pods with given labels, as a cluster reports them;
* `labelSelector` : the selector of a set of labels.
-/

namespace VolumeTunnel

/-- The answer of a check: whether all is well, and what is wrong. -/
structure Health where
  healthy : Bool
  problem : Option Failure

namespace Health

/-- All is well. -/
def good : Health := ⟨true, none⟩

/-- Something is wrong. -/
def bad (e : Failure) : Health := ⟨false, some e⟩

end Health

/-- The number of containers of a transfer pod. -/
def expectedContainers : Nat := 2

/-- The selector of a set of labels, which must have written forms. -/
def labelSelector (labels : Dict) : Text :=
  Text.join "," (labels.map fun (k, v) => k.shown ++ .char '=' :: v.shown)

/-- The readiness of the containers of a pod, none if the pod does not report it. -/
def PodStatus.statuses (s : Option PodStatus) : List ContainerStatus :=
  (s.bind (·.containers)).getD []

/-- The failure of a pod with the wrong number of containers. -/
def wrongCount (pod : ObjectName) (found : Nat) : Failure :=
  .pod ⟨"expected " ++ Text.ofNat expectedContainers ++ " container statuses found "
    ++ Text.ofNat found ++ ", for pod " ++ pod.text, pod, .none⟩

/-- The failure of a pod with a container that is not ready. -/
def notReady (pod : ObjectName) (container : Text) : Failure :=
  .pod ⟨"container " ++ container ++ " in pod " ++ pod.text ++ " is not ready", pod,
    .text container⟩

/-- The health of a pod with the given containers. -/
def statusHealth (pod : ObjectName) (statuses : List ContainerStatus) : Health :=
  if statuses.length ≠ expectedContainers then .bad (wrongCount pod statuses.length)
  else match statuses.find? fun s => !s.ready.getD false with
    | some s => .bad (notReady pod s.name)
    | none => .good

/-- The health of a pod. It has to have metadata and be of a model with a state. -/
def containersReady : Resource → Except Failure Health
  | .plain _ => .error (.fault .noSuchPart)
  | .object o => do
    let metadata ← o.metadata?
    if o.canHaveStatus then
      pure (statusHealth metadata.objectName (PodStatus.statuses o.status))
    else .error (.fault .noSuchPart)

/-- The health of a pod as a cluster reports it. -/
def podHealthy (pod : ObjectName) : ClusterScript (Except Failure Health) :=
  .ask (.get (.text Kind.pod.name) pod) fun
    | .error e => .done (.ok (.bad e))
    | .ok o => .done (containersReady (.object o))

/-- The health of several pods, of which one has to be healthy. The problems before the first
healthy one are gathered. -/
def anyReady (problems : List Failure) : List Object → Except Failure Health
  | [] => .ok ⟨false, Failure.gather? (problems.map some)⟩
  | o :: os =>
    match containersReady (.object o) with
    | .error e => .error e
    | .ok ⟨true, _⟩ => .ok .good
    | .ok ⟨false, problem⟩ => anyReady (problems ++ problem.toList) os

/-- The health of the pods with the given labels, which must have written forms. -/
def podsHealthy (space : Value) (labels : Dict) : ClusterScript (Except Failure Health) :=
  if Value.areWritableEntries labels then
    .ask (.list (.text Kind.pod.name) space (.text (labelSelector labels))) fun
      | .error e => .done (.ok (.bad e))
      | .ok os => .done (anyReady [] os)
  else .done (.ok (.bad (.fault .wrongValue)))

end VolumeTunnel
