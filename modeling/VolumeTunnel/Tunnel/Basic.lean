import VolumeTunnel.Cluster.PodParts
import VolumeTunnel.Logging.Record
import VolumeTunnel.Options
import VolumeTunnel.Tunnel.Naming

/-!
# Tunnels

A tunnel encrypts the traffic between two namespaces. Its certificate and private key are fixed
for its lifetime, since both ends use the same pair. The parts for the pods of either side are
computed when the objects of that side are provisioned.

* `Tunnel.make?` : a tunnel from values, the certificate and the key being read as bytes;
* `bytesOf?` : the bytes that a value stands for.
-/

namespace VolumeTunnel

/-- A byte given as a number. -/
def byteOf? : Value → Except Failure UInt8
  | .int i =>
    if 0 ≤ i ∧ i < 256 then .ok (UInt8.ofNat i.toNat) else .error (.fault .wrongValue)
  | .bool b => .ok (if b then 1 else 0)
  | _ => .error (.fault .wrongType)

/-- The greatest number of bytes that can be asked for. -/
def maxByteCount : Int := Int.pow 2 63 - 1

/-- The given number of zero bytes. -/
def zeroBytes? (n : Int) : Except Failure (List UInt8) :=
  if n > maxByteCount ∨ n < -maxByteCount - 1 then .error (.fault .tooLarge)
  else if n < 0 then .error (.fault .wrongValue)
  else .ok (List.replicate n.toNat 0)

/-- The bytes that a value stands for: bytes themselves, a number of zeros, or numbers one by
one. -/
def bytesOf? : Value → Except Failure (List UInt8)
  | .bytes bs => .ok bs
  | .int n => zeroBytes? n
  | .bool b => zeroBytes? (if b then 1 else 0)
  | .list xs | .tuple xs | .set xs => xs.mapM byteOf?
  | .dict es => es.mapM fun e => byteOf? e.1
  | _ => .error (.fault .wrongType)

/-- A tunnel. -/
structure Tunnel where
  certificate : List UInt8
  privateKey : List UInt8
  source : ObjectName
  destination : ObjectName
  options : Options
  chosenImage : Value
  port : Value
  clientParts : PodParts
  serverParts : PodParts

/-- Where a tunnel can be reached. -/
structure Endpoint where
  hostname : Value
  /-- The port behind the endpoint. -/
  port : Value
  /-- The port that can be reached from outside. -/
  exposedPort : Value
  labels : Dict

namespace Tunnel

/-- A tunnel with the given certificate and private key. -/
def make? (certificate privateKey : Value) (source destination : ObjectName) (options : Options)
    (image port : Value) : Except Failure Tunnel := do
  let certificate ← bytesOf? certificate
  let privateKey ← bytesOf? privateKey
  pure ⟨certificate, privateKey, source, destination, options, image, port, .empty, .empty⟩

/-- What is logged when a certificate and a private key were made. -/
def generatedRecord (source destination : ObjectName) : Record :=
  .debug ("[STUNNEL] Generated TLS material for " ++ source.text ++ " -> " ++ destination.text)

/-- The image of the container. -/
def image (t : Tunnel) : Value :=
  t.chosenImage.orElse defaultImage

/-- The namespace of a side. -/
def space (t : Tunnel) : Side → Value
  | .client => t.source.space
  | .server => t.destination.space

/-- The name of the config map of a side. -/
def configMapKey (t : Tunnel) (side : Side) (scope : Value) : ObjectName :=
  ⟨t.space side, prefixed scope (configName side)⟩

/-- The name of the secret of a side. -/
def secretKey (t : Tunnel) (side : Side) (scope : Value) : ObjectName :=
  ⟨t.space side, prefixed scope (secretName side)⟩

/-- The parts for the pods of a side. -/
def parts (t : Tunnel) : Side → PodParts
  | .client => t.clientParts
  | .server => t.serverParts

/-- The tunnel with the parts for the pods of a side. -/
def setParts (t : Tunnel) (side : Side) (parts : PodParts) : Tunnel :=
  match side with
  | .client => { t with clientParts := parts }
  | .server => { t with serverParts := parts }

/-- The port on which an end listens. -/
def acceptPort (t : Tunnel) (side : Side) (e : Endpoint) : Value :=
  match side with
  | .client => t.port
  | .server => e.port

end Tunnel

end VolumeTunnel
