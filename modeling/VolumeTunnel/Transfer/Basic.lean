import VolumeTunnel.Transfer.Registry
import VolumeTunnel.Tunnel.Provision

/-!
# Transfers

A transport is a tunnel, or goes straight to the endpoint. A transfer may create its sides through
one (`Transfer.viaTransport`) or in any other way. Its server side is created only after every kind
that it makes is known. Removing a side removes nothing; the objects are left to whoever owns them.

* `Transfer.hostname`, `Transfer.port` : what the source side connects to;
* `Transfer.createServer` : nothing is asked of a cluster unless all kinds are known.
-/

namespace VolumeTunnel

/-- The channel between the two sides of a transfer. -/
inductive Transport where
  | tunnel (t : Tunnel)
  /-- No tunnel: the source side connects to the endpoint. -/
  | direct (port : Value)

namespace Transport

/-- Whether traffic goes straight to the endpoint. -/
def isDirect : Transport → Bool
  | tunnel _ => false
  | direct _ => true

/-- The port of the transport. -/
def port : Transport → Value
  | tunnel t => t.port
  | direct port => port

/-- The parts for the pods of a side. -/
def parts (side : Side) : Transport → PodParts
  | tunnel t => t.parts side
  | direct _ => .empty

/-- Provisions a side. Without a tunnel there is nothing to do. -/
def provision (side : Side) (scope : Value) (e : Endpoint) :
    Transport → ClusterScript (Except Failure Unit × Transport)
  | tunnel t => (t.provision side scope e).bind fun (r, t) => .done (r, tunnel t)
  | direct port => .done (.ok (), direct port)

end Transport

/-- A transfer, as its entry points see it : the clients of its two clusters, and how it creates a
side on the cluster that it is handed. That may change what it keeps. -/
structure Transfer (Q : Type) (R : Q → Type) (Client Kept : Type) where
  source : Client
  destination : Client
  kept : Kept
  create : Side → Client → Kept → Script Q R (Except Failure Unit × Kept)

namespace Transfer

/-- The host that a tunnel is reached at from its own pod. -/
def localhost : Text := "localhost"

/-- The host that the source side connects to. -/
def hostname (t : Transport) (e : Endpoint) : Value :=
  if t.isDirect then e.hostname else localhost

/-- The port that the source side connects to. -/
def port (t : Transport) (e : Endpoint) : Value :=
  if t.isDirect then e.exposedPort else t.port

/-- The transfer that provisions its sides through a transport. Its requests go to one cluster,
which both of its clients stand for. -/
def viaTransport (scope : Value) (e : Endpoint) (t : Transport) :
    Transfer Request Request.Reply Unit Transport where
  source := ()
  destination := ()
  kept := t
  create side _ t := t.provision side scope e

section

variable {Q : Type} {R : Q → Type} {Client Kept : Type}

/-- Creates the server side on the destination cluster if every kind that it makes is known, given
the models that are missing. -/
def createServer (missing : List Text) (t : Transfer Q R Client Kept) :
    Script Q R (Except Failure Unit × Kept) :=
  match Registry.serverSide missing with
  | .error failure => .done (.error failure, t.kept)
  | .ok registry =>
    .tell (.debug ("[TRANSFER] Registered " ++ Text.ofNat registry.size ++ " server side kinds"))
      (t.create .server t.destination t.kept)

/-- Creates the client side on the source cluster. -/
def createClient (t : Transfer Q R Client Kept) : Script Q R (Except Failure Unit × Kept) :=
  t.create .client t.source t.kept

end

/-- What is logged in place of the removal of a side. -/
def deleteRecord : Side → Record
  | .client => .debug "[TRANSFER] delete_client has nothing to remove"
  | .server => .debug "[TRANSFER] delete_server has nothing to remove"

end Transfer

end VolumeTunnel
