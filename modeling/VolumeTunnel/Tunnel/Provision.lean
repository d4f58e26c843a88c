import VolumeTunnel.Cluster.Request
import VolumeTunnel.Tunnel.Config
import VolumeTunnel.Tunnel.Objects

/-!
# Provisioning a tunnel end

The config map of an end is written anew each time. Its secret is written once and then kept, since
both ends trust the certificate in it. The two steps are independent: a failure of one does not
keep the other from being tried, and all failures are reported together.

* `applyConfigMap` : creates a config map or replaces it;
* `createSecretOnce` : creates a secret or keeps the one that is there;
* `Tunnel.provision` : both for one side, and the parts for its pods.
-/

namespace VolumeTunnel

/-- Creates a config map, replacing one that is there already. -/
def applyConfigMap (r : Resource) : ClusterScript (Except Failure Unit) :=
  match r.metadata? with
  | .error e => .done (.error e)
  | .ok metadata =>
    let name := metadata.objectName.text
    .ask (.create r) fun
      | .ok _ => .tell (.info ("[STUNNEL] Created config map " ++ name)) (.done (.ok ()))
      | .error e =>
        if e.isAlreadyExists then .ask (.update r) fun
          | .ok _ =>
            .tell (.info ("[STUNNEL] Config map " ++ name ++ " exists, updated")) (.done (.ok ()))
          | .error e => .done (.error e)
        else .done (.error e)

/-- Creates a secret, keeping one that is there already. -/
def createSecretOnce (r : Resource) : ClusterScript (Except Failure Unit) :=
  match r.metadata? with
  | .error e => .done (.error e)
  | .ok metadata =>
    let name := metadata.objectName.text
    .ask (.create r) fun
      | .ok _ => .tell (.info ("[STUNNEL] Created secret " ++ name)) (.done (.ok ()))
      | .error e =>
        if e.isAlreadyExists then
          .tell (.debug ("[STUNNEL] Secret " ++ name ++ " already exists, keeping it"))
            (.done (.ok ()))
        else .done (.error e)

namespace Tunnel

/-- The configuration of an end, given the port of the tunnel and its options. -/
def endConfig (port : Value) (options : Options) (side : Side) (e : Endpoint) :
    Except Failure Config :=
  match side with
  | .client => Config.client port e.hostname e.exposedPort options
  | .server => Config.server e.port (.int syncPort) options

/-- The configuration of an end. -/
def config (t : Tunnel) (side : Side) (e : Endpoint) : Except Failure Config :=
  endConfig t.port t.options side e

/-- The config map of an end. -/
def endConfigMap (t : Tunnel) (side : Side) (scope : Value) (e : Endpoint) :
    Except Failure Object := do
  let c ← t.config side e
  configMap? (t.configMapKey side scope) e.labels (.text c.text)

/-- The secret of an end. -/
def endSecret (t : Tunnel) (side : Side) (scope : Value) (e : Endpoint) : Except Failure Object :=
  secret? (t.secretKey side scope) e.labels (.bytes t.certificate) (.bytes t.privateKey)

/-- Writes the configuration of an end. -/
def provisionConfig (t : Tunnel) (side : Side) (scope : Value) (e : Endpoint) :
    ClusterScript (Except Failure Unit) :=
  match t.endConfigMap side scope e with
  | .error failure => .done (.error failure)
  | .ok o => applyConfigMap (.object o)

/-- Writes the certificate and the private key of an end, once. -/
def provisionSecret (t : Tunnel) (side : Side) (scope : Value) (e : Endpoint) :
    ClusterScript (Except Failure Unit) :=
  match t.endSecret side scope e with
  | .error failure => .done (.error failure)
  | .ok o => createSecretOnce (.object o)

/-- The failure of a step, if it failed. -/
def stepFailure (r : Except Failure Unit) : Option Failure :=
  match r with
  | .error e => some e
  | .ok () => none

/-- Nothing, or the failures of the steps together. -/
def report (steps : List (Except Failure Unit)) : Except Failure Unit :=
  match Failure.gather? (steps.map stepFailure) with
  | some e => .error e
  | none => .ok ()

/-- What the two steps of provisioning come to: the parts for the pods are computed in any case,
and the failures of the steps reported. If the parts cannot be computed, that is the failure. -/
def finish (t : Tunnel) (side : Side) (scope : Value) (e : Endpoint)
    (steps : List (Except Failure Unit)) : Except Failure Unit × Tunnel :=
  match t.endParts side scope e with
  | .error failure => (.error failure, t)
  | .ok parts => (report steps, t.setParts side parts)

/-- Provisions the objects of a side and computes the parts for its pods. -/
def provision (t : Tunnel) (side : Side) (scope : Value) (e : Endpoint) :
    ClusterScript (Except Failure Unit × Tunnel) :=
  (t.provisionConfig side scope e).bind fun config =>
    (t.provisionSecret side scope e).bind fun secret =>
      .done (t.finish side scope e [config, secret])

/-- Reads the config map of an end. -/
def readConfigMap (t : Tunnel) (side : Side) (scope : Value) :
    ClusterScript (Except Failure Object) :=
  .ask (.get (.text Kind.configMap.name) (t.configMapKey side scope)) .done

/-- Reads the secret of an end. -/
def readSecret (t : Tunnel) (side : Side) (scope : Value) :
    ClusterScript (Except Failure Object) :=
  .ask (.get (.text Kind.secret.name) (t.secretKey side scope)) .done

end Tunnel

end VolumeTunnel
