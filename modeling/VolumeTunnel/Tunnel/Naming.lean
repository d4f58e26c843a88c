import VolumeTunnel.Value.Show

/-!
# Names and paths of a tunnel

The two ends of a tunnel agree on the names of the objects they use, on the keys inside those
objects, and on the places where a pod mounts them.

* `Tunnel.configName`, `Tunnel.secretName` : the four names, one for each kind of object on each
  side;
* `Tunnel.prefixed` : the name of an object is scoped by a prefix.
-/

namespace VolumeTunnel

/-- The side of a transfer that an end of the tunnel is on. -/
inductive Side where
  /-- Next to the source volumes, dialling out. -/
  | client
  /-- Next to the destination volumes, accepting. -/
  | server
deriving DecidableEq, Repr

namespace Tunnel

/-- The kind of tunnel, also the name of its container. -/
def typeName : Text := "stunnel"

/-- The image of the tunnel container if no other is chosen. -/
def defaultImage : Text := "quay.io/konveyor/rsync-transfer:latest"

/-- The port on which the client end listens if no other is chosen. -/
def defaultPort : Nat := 2222

/-- The port of the sync tool behind the server end. -/
def syncPort : Nat := 8080

/-- The name of the configuration of an end. -/
def configName : Side → Text
  | .client => "crane2-stunnel-client-config"
  | .server => "crane2-stunnel-server-config"

/-- The name of the secret of an end. -/
def secretName : Side → Text
  | .client => "crane2-stunnel-client-secret"
  | .server => "crane2-stunnel-server-secret"

/-- The entry of a config map that holds the configuration. -/
def configKey : Text := "stunnel.conf"

/-- The entry of a secret that holds the certificate. -/
def certificateKey : Text := "tls.crt"

/-- The entry of a secret that holds the private key. -/
def privateKeyKey : Text := "tls.key"

/-- Where the configuration is mounted. -/
def configPath : Text := "/etc/stunnel/stunnel.conf"

/-- Where the entries of the secret are mounted. -/
def certificatesPath : Text := "/etc/stunnel/certs"

/-- The path of the certificate in a pod. -/
def certificatePath : Text := "/etc/stunnel/certs/tls.crt"

/-- The path of the private key in a pod. -/
def privateKeyPath : Text := "/etc/stunnel/certs/tls.key"

/-- The only service of a configuration. -/
def serviceName : Text := "rsync"

/-- The command of the tunnel container. -/
def command : List Text := ["/bin/stunnel", configPath]

/-- The name `name` scoped by a prefix. -/
def prefixed (scope : Value) (name : Value) : Text :=
  scope.shown ++ .char '-' :: name.shown

end Tunnel

end VolumeTunnel
