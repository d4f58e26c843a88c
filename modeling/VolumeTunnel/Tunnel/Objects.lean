import VolumeTunnel.Base64
import VolumeTunnel.Tunnel.Basic

/-!
# The objects and pod parts of a tunnel end

An end reads its configuration from a config map, and its certificate and private key from a
secret. Its container mounts both.

* `Tunnel.configMap`, `Tunnel.secret` : the objects;
* `Tunnel.containers`, `Tunnel.volumes` : the parts for a pod;
* `Tunnel.endParts` : those of one side.
-/

namespace VolumeTunnel.Tunnel

/-- An object of a tunnel end. -/
def endObject (kind : Kind) (metadata : Metadata) (data : TextMap Content) : Object where
  model := kind.name
  version := some "v1"
  kind := some kind.name
  metadata := some metadata
  data := some data
  status := none

/-- The config map with a configuration. -/
def configMap (metadata : Metadata) (config : Text) : Object :=
  endObject .configMap metadata [(configKey, .text config)]

/-- The secret with a certificate and a private key. -/
def secret (metadata : Metadata) (certificate privateKey : List UInt8) : Object :=
  endObject .secret metadata
    [(certificateKey, .text (Base64.encode certificate)),
     (privateKeyKey, .text (Base64.encode privateKey))]

/-- The config map with a configuration, given its name and labels. -/
def configMap? (key : ObjectName) (labels : Dict) (config : Value) : Except Failure Object := do
  pure (configMap (← Metadata.make? key.space key.name (some labels)) (← config.asText))

/-- The secret with a certificate and a private key, which have to be bytes, given its name and
labels. -/
def secret? (key : ObjectName) (labels : Dict) (certificate privateKey : Value) :
    Except Failure Object := do
  let metadata ← Metadata.make? key.space key.name (some labels)
  match certificate, privateKey with
  | .bytes c, .bytes k => pure (secret metadata c k)
  | _, _ => .error (.fault .wrongType)

/-- The container of an end. -/
def containers (image port configVolume secretVolume : Value) :
    Except Failure (List Container) := do
  let port ← port.asNumber
  let configVolume ← configVolume.asText
  let secretVolume ← secretVolume.asText
  let image ← image.asText?
  pure [
    { name := typeName
      image := image
      command := command
      portName := typeName
      port := port
      mounts := [⟨configVolume, configPath, some configKey⟩,
        ⟨secretVolume, certificatesPath, none⟩] }]

/-- The volumes of an end. -/
def volumes (configVolume configMapName secretVolume secretName : Value) :
    Except Failure (List Volume) := do
  let configMapName ← configMapName.asText?
  let configVolume ← configVolume.asText
  let secretName ← secretName.asText?
  let secretVolume ← secretVolume.asText
  pure [
    ⟨configVolume, .configMap configMapName⟩,
    ⟨secretVolume, .secret secretName
      [⟨certificateKey, certificateKey⟩, ⟨privateKeyKey, privateKeyKey⟩]⟩]

/-- The parts for the pods of a side. -/
def endParts (t : Tunnel) (side : Side) (scope : Value) (e : Endpoint) :
    Except Failure PodParts := do
  let containers ← containers t.image (t.acceptPort side e) (configName side) (secretName side)
  let volumes ← volumes (configName side) (prefixed scope (configName side))
    (secretName side) (prefixed scope (secretName side))
  pure ⟨containers, volumes⟩

end VolumeTunnel.Tunnel
