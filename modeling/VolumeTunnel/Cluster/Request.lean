import VolumeTunnel.Cluster.Object
import VolumeTunnel.Script

/-!
# Requests to a cluster

What a transfer asks of a cluster: to read, create, replace or list objects. A script over requests
does not say how they reach the cluster.

* `Request.Reply` : the type of the answer to each request;
* `Failure.isAlreadyExists` : the one failure that provisioning tells apart from all others.
-/

namespace VolumeTunnel

/-- A request to a cluster. -/
inductive Request where
  | get (kind : Value) (key : ObjectName)
  | create (resource : Resource)
  | update (resource : Resource)
  /-- The objects of a kind in a namespace; a selector that is not true selects all. -/
  | list (kind space selector : Value)

namespace Request

/-- The answer to a request. -/
abbrev Reply : Request → Type
  | get _ _ => Except Failure Object
  | create _ => Except Failure Object
  | update _ => Except Failure Object
  | list _ _ _ => Except Failure (List Object)

/-- The answer that a request failed. -/
def refuse (e : Failure) : (q : Request) → q.Reply
  | get _ _ => .error e
  | create _ => .error e
  | update _ => .error e
  | list _ _ _ => .error e

end Request

/-- A computation that sends requests to one cluster. -/
abbrev ClusterScript (α : Type) := Script Request Request.Reply α

/-- Whether a request failed because its object is already there. -/
def Failure.isAlreadyExists : Failure → Bool
  | .request ⟨.alreadyExists, _, _⟩ => true
  | _ => false

/-- The kind that a value names. -/
def Kind.ofValue (kind : Value) : Except Failure Kind :=
  match kind.unhashable? with
  | some typeName => .error (.fault (.unhashable typeName))
  | none =>
    match kind with
    | .text t =>
      match ofName? t with
      | some k => .ok k
      | none => .error (.unsupportedKind kind)
    | _ => .error (.naming kind (.unsupportedKind kind))

end VolumeTunnel
