import VolumeTunnel.Options
import VolumeTunnel.Tunnel.Naming

/-!
# The configuration of a tunnel end

A configuration is a list of lines: settings of the whole process, the header of the one service,
and the settings of that service. The client end may go through a proxy; the server end connects
to the sync tool in its own pod.

* `Config.client`, `Config.server` : the lines, if ports and hostname can be used;
* `Config.unchecked` : the settings of the client end that are written as they are;
* `Config.text` : every line ends in a line feed.
-/

namespace VolumeTunnel

/-- A line of a configuration. -/
inductive ConfigLine where
  /-- The header of a service. -/
  | header (service : Text)
  /-- A setting without a value. -/
  | unset (key : Text)
  /-- A setting with its value. -/
  | setting (key : Text) (value : Text)
deriving DecidableEq

/-- The text of a line. -/
def ConfigLine.text : ConfigLine → Text
  | header service => .char '[' :: service ++ [.char ']']
  | unset key => key ++ " ="
  | setting key value => key ++ " = " ++ value

/-- A configuration, line by line. -/
abbrev Config := List ConfigLine

namespace Config

/-- The text of a configuration. -/
def text (c : Config) : Text :=
  c.flatMap fun line => line.text ++ [.char '\n']

/-- Whether a value is the number of a port. -/
def isPort : Value → Bool
  | .int n => 0 < n && n < 65536
  | _ => false

/-- Refuses a value that is not the number of a port. -/
def checkPort (role : Text) (port : Value) : Except Failure Unit :=
  if isPort port then .ok () else .error (.naming port (.configuration (.notAPort role port)))

/-- The settings of the process. -/
def globalLines (side : Side) : Config :=
  [.unset "pid", .setting "sslVersion" "TLSv1.2"]
    ++ (match side with
      | .client => [.setting "client" "yes"]
      | .server => [])
    ++ [.setting "syslog" "no", .setting "output" "/dev/stdout"]

/-- The header of the service and the settings that both ends share. -/
def serviceLines (acceptPort : Value) : Config :=
  [.header Tunnel.serviceName, .setting "debug" "7", .setting "accept" acceptPort.shown,
   .setting "cert" Tunnel.certificatePath, .setting "key" Tunnel.privateKeyPath]

/-- A host and a port, separated by a colon. -/
def address (host port : Value) : Text :=
  host.shown ++ .char ':' :: port.shown

/-- A setting that is present if its value is true. -/
def optional (key : Text) (v : Value) : Config :=
  if v.truthy then [.setting key v.shown] else []

/-- Where the client end connects to: the endpoint, or the proxy that leads to it. -/
def connectLines (hostname port : Value) (o : Options) : Config :=
  if o.proxyUrl.truthy then
    [.setting "protocol" "connect", .setting "connect" o.proxyUrl.shown,
     .setting "protocolHost" (address hostname port)]
      ++ optional "protocolUsername" o.proxyUsername
      ++ optional "protocolPassword" o.proxyPassword
  else [.setting "connect" (address hostname port)]

/-- The settings of the client end that are written as they are. -/
def unchecked (hostname : Value) (o : Options) : List Value :=
  if o.proxyUrl.truthy then
    o.proxyUrl :: hostname :: [o.proxyUsername, o.proxyPassword].filter Value.truthy
  else [hostname]

/-- The verification of the peer, if it is not switched off. -/
def verifyLines (o : Options) : Config :=
  if o.noVerify.truthy then [] else [.setting "verify" o.resolvedLevel]

/-- The configuration of the client end. Every setting must have a written form. -/
def client (acceptPort hostname port : Value) (o : Options) : Except Failure Config := do
  checkPort "accept port" acceptPort
  checkPort "endpoint port" port
  if !hostname.truthy then .error (.configuration .emptyHostname)
  else if (unchecked hostname o).all Value.isWritable then
    pure (globalLines .client ++ serviceLines acceptPort ++ connectLines hostname port o
      ++ verifyLines o)
  else .error (.fault .wrongValue)

/-- The configuration of the server end. -/
def server (acceptPort connectPort : Value) (o : Options) : Except Failure Config := do
  checkPort "accept port" acceptPort
  checkPort "connect port" connectPort
  pure (globalLines .server ++ serviceLines acceptPort
    ++ [.setting "connect" (address "localhost" connectPort)] ++ verifyLines o)

end Config

end VolumeTunnel
