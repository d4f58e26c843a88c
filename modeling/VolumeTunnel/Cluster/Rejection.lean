import VolumeTunnel.Cluster.Request
import VolumeTunnel.Json.Reader
import VolumeTunnel.Text.Utf8

/-!
# Rejected requests

A cluster that rejects a request answers with a status, a reason phrase and a body, which may hold
a document with a reason of its own. From these it is decided which failure it was: a conflict only
means that the object is already there if the reason says so, since a stale update is a conflict
too.

* `Rejection.statusReason` : the reason in the body;
* `Rejection.failure` : the failure of the request.
-/

namespace VolumeTunnel

/-- The reason that a document gives, if it gives a true one. -/
def reasonIn (t : Text) : Value :=
  match Json.read? t with
  | some j => ((j.member? "reason").elim .none Json.toValue).orElse .none
  | none => .none

namespace Rejection

/-- The reason in the body of a rejection. Bytes are read as text first. -/
def statusReason (r : Rejection) : Value :=
  match r.body with
  | .text t => reasonIn t
  | .bytes bs => reasonIn (Utf8.decodeReplacing bs)
  | _ => .none

/-- The reason of a rejection: that in the body before the phrase. -/
def fullReason (r : Rejection) : Value :=
  r.statusReason.orElse r.reason

/-- Which failure a rejection is. -/
def failureKind (r : Rejection) : RequestFailureKind :=
  if r.status.same (.int 404) then .notFound
  else if r.status.same (.int 409) ∧ r.fullReason.same "AlreadyExists" then .alreadyExists
  else .other r.status

/-- The failure of a request, given what the request was for. Its message holds the reason, which
can be written : that of a body in any case, and the phrase of an answer because it is a text. -/
def failure (r : Rejection) (what : Text) : RequestFailure :=
  ⟨r.failureKind, what ++ ": " ++ r.fullReason.shown, r.fullReason⟩

end Rejection

/-- A failure, with a rejection read as the failure of the request that it answers. -/
def Failure.readRejection (what : Text) : Failure → Failure
  | .rejected r => .request (r.failure what)
  | e => e

end VolumeTunnel
