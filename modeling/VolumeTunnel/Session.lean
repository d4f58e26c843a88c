import VolumeTunnel.Cluster.Server
import VolumeTunnel.Transfer.Basic
import VolumeTunnel.Transfer.Health

/-!
# Sessions

A session holds clusters, endpoints and transports under names, and takes one step after another on
them. A step answers or fails, and shows the calls and records it led to; a failed step changes
nothing but what it had already done.

* `Cluster.run` : a script over requests, run over the connection of a cluster against its server;
* `Session.step` : one step.
-/

namespace VolumeTunnel

/-- A cluster with the connection to it. -/
structure Cluster where
  connection : Connection
  server : Server

namespace Cluster

/-- Runs calls against the server of a cluster. -/
def runCalls {α : Type} (s : CallScript (α × Connection)) (c : Cluster) :
    Script.Outcome Call Cluster α :=
  let o := s.run Server.answer c.server
  ⟨o.result.1, ⟨o.result.2, o.state⟩, o.asked, o.told⟩

/-- Runs requests over the connection of a cluster. -/
def run {α : Type} (s : ClusterScript α) (c : Cluster) : Script.Outcome Call Cluster α :=
  runCalls (s.through Connection.serve c.connection) c

end Cluster

/-- Something that a session shows. -/
inductive Event where
  | call (c : Call)
  /-- A transport without a tunnel was to provision a side. -/
  | provisioned (side : Side) (scope : Value)

/-- One of the two objects of a tunnel end. -/
inductive PartKind where
  | config
  | secret
deriving DecidableEq, Repr

/-- A change to a server. What is absent stays. -/
structure ServerChange where
  inCluster : Option (Option Failure)
  newClient : Option (Option Failure)
  core : Option (Option Failure)
  closing : Option Closing

/-- The server after a change. -/
def ServerChange.apply (change : ServerChange) (s : Server) : Server :=
  { s with
    inCluster := change.inCluster.getD s.inCluster
    newClient := change.newClient.getD s.newClient
    core := change.core.getD s.core
    closing := change.closing.getD s.closing }

/-- What a tunnel is made of. -/
structure TunnelSettings where
  /-- Whether certificate and private key were made for this tunnel. -/
  generated : Bool
  certificate : Value
  privateKey : Value
  source : ObjectName
  destination : ObjectName
  options : Options
  image : Value
  port : Value

/-- The names of the transport and the endpoint of a step, and the scope of its objects. -/
structure Route where
  transport : Text
  endpoint : Text
  scope : Value

/-- A step of a session. -/
inductive Step where
  | addCluster (id : Text) (kubeconfig context : Value)
  | changeServer (cluster : Text) (change : ServerChange)
  | setFailure (cluster : Text) (m : Method) (e : Option Failure)
  | put (cluster : Text) (r : Resource)
  | remove (cluster : Text) (p : Place)
  | dump (cluster : Text)
  | request (cluster : Text) (q : Request)
  | isConnected (cluster : Text)
  | close (cluster : Text)
  | addEndpoint (id : Text) (e : Endpoint)
  | setLabel (endpoint : Text) (key v : Value)
  | addTunnel (id : Text) (settings : TunnelSettings)
  | addDirect (id : Text) (port : Value)
  | provision (cluster : Text) (side : Side) (route : Route)
  | provisionPart (cluster : Text) (side : Side) (part : PartKind) (route : Route)
  | readPart (cluster : Text) (side : Side) (part : PartKind) (route : Route)
  | partKey (side : Side) (part : PartKind) (transport : Text) (scope : Value)
  | applyConfigMap (cluster : Text) (r : Resource)
  | applySecret (cluster : Text) (r : Resource)
  | podParts (transport : Text)
  | address (transport endpoint : Text)
  | createServer (destination : Text) (missing : List Text) (route : Route)
  | createClient (source : Text) (route : Route)
  | deleteSide (side : Side)
  | podHealthy (cluster : Text) (pod : ObjectName)
  | podsHealthy (cluster : Text) (space : Value) (labels : Dict)

/-- The answer of a step. -/
inductive Answer where
  | nothing
  | flag (b : Bool)
  | text (t : Text)
  | connection (c : Connection)
  | object (o : Object)
  | objects (os : List Object)
  | stored (entries : List (Place × Object))
  | tunnel (t : Tunnel)
  | parts (client server : PodParts)
  | address (host port : Value)
  | health (h : Health)

/-- What a step leaves: its answer or failure, what it showed on which cluster, and the records. -/
structure StepResult where
  answer : Except Failure Answer
  events : List (Text × Event)
  told : List Record

/-- The named clusters, endpoints and transports of a session. -/
structure Session where
  clusters : List (Text × Cluster)
  endpoints : List (Text × Endpoint)
  transports : List (Text × Transport)

namespace Session

/-- Nothing has a name yet. -/
def new : Session := ⟨[], [], []⟩

/-- What has a name. -/
def named? {α : Type} (xs : List (Text × α)) (id : Text) : Except Failure α :=
  match xs.find? fun x => x.1 = id with
  | some (_, x) => .ok x
  | none => .error (.fault .unlistedWord)

/-- Gives a name to something, taking it from what had it. -/
def rename {α : Type} (id : Text) (x : α) (xs : List (Text × α)) : List (Text × α) :=
  (id, x) :: xs.filter fun y => y.1 ≠ id

/-- A step that shows nothing. -/
def quiet (answer : Except Failure Answer) : StepResult :=
  ⟨answer, [], []⟩

/-- The session with a cluster under a name. -/
def setCluster (s : Session) (id : Text) (c : Cluster) : Session :=
  { s with clusters := rename id c s.clusters }

/-- The session with a transport under a name. -/
def setTransport (s : Session) (id : Text) (t : Transport) : Session :=
  { s with transports := rename id t s.transports }

/-- What a run on a cluster leaves. -/
def ran {α : Type} (s : Session) (id : Text) (o : Script.Outcome Call Cluster α)
    (answer : α → Except Failure Answer) : StepResult × Session :=
  (⟨answer o.result, o.asked.map fun c => (id, .call c), o.told⟩, s.setCluster id o.state)

/-- Runs a script on a cluster. -/
def onCluster {α : Type} (s : Session) (id : Text) (script : ClusterScript (Except Failure α))
    (answer : α → Answer) : StepResult × Session :=
  match named? s.clusters id with
  | .error e => (quiet (.error e), s)
  | .ok c => s.ran id (c.run script) fun r => r.map answer

/-- Changes a server without any call. -/
def onServer (s : Session) (id : Text) (change : Server → Except Failure Server) :
    StepResult × Session :=
  match named? s.clusters id with
  | .error e => (quiet (.error e), s)
  | .ok c =>
    match change c.server with
    | .error e => (quiet (.error e), s)
    | .ok server => (quiet (.ok .nothing), s.setCluster id { c with server := server })

/-- Answers from what there is. -/
def asked (s : Session) (answer : Except Failure Answer) : StepResult × Session :=
  (quiet answer, s)

/-- The store with an object put directly. -/
def putResource (r : Resource) (s : Server) : Except Failure Server := do
  let kind ← r.kindOf
  let metadata ← r.metadata?
  let p : Place := ⟨.text kind, metadata.objectName⟩
  p.check
  match r with
  | .object o => pure { s with store := s.store.put p o }
  | .plain _ => .error (.fault .noSuchPart)

/-- Makes a tunnel, logging first if its certificate was made for it. -/
def addTunnel (s : Session) (id : Text) (t : TunnelSettings) : StepResult × Session :=
  let told := if t.generated then [Tunnel.generatedRecord t.source t.destination] else []
  match Tunnel.make? t.certificate t.privateKey t.source t.destination t.options t.image t.port with
  | .error e => (⟨.error e, [], told⟩, s)
  | .ok tunnel => (⟨.ok (.tunnel tunnel), [], told⟩, s.setTransport id (.tunnel tunnel))

/-- The transport and the endpoint of a route. -/
def resolve (s : Session) (r : Route) : Except Failure (Transport × Endpoint) := do
  let t ← named? s.transports r.transport
  let e ← named? s.endpoints r.endpoint
  pure (t, e)

/-- The events of a provisioned side: without a tunnel, that it was to be done. -/
def provisionEvents {α : Type} (t : Transport) (side : Side) (scope : Value)
    (r : Except Failure α) : List Event :=
  match t, r with
  | .direct _, .ok _ => [.provisioned side scope]
  | _, _ => []

/-- Runs a script that provisions a side of the transport of a route. -/
def provisionBy (s : Session) (id : Text) (side : Side) (route : Route)
    (script : Transport → Endpoint → ClusterScript (Except Failure Unit × Transport)) :
    StepResult × Session :=
  match s.resolve route, named? s.clusters id with
  | .error e, _ => s.asked (.error e)
  | _, .error e => s.asked (.error e)
  | .ok (t, e), .ok c =>
    let o := c.run (script t e)
    let (result, s) := s.ran id o fun r => r.1.map fun _ => .nothing
    let events := (provisionEvents t side route.scope o.result.1).map fun event => (id, event)
    ({ result with events := result.events ++ events },
      s.setTransport route.transport o.result.2)

/-- The tunnel of a transport; anything else does not have its parts. -/
def tunnelOf (t : Transport) : Except Failure Tunnel :=
  match t with
  | .tunnel t => .ok t
  | .direct _ => .error (.fault .noSuchPart)

/-- The script that provisions one object of a side. -/
def partScript (t : Transport) (e : Endpoint) (side : Side) (part : PartKind) (scope : Value) :
    ClusterScript (Except Failure Unit) :=
  match t, part with
  | .tunnel t, .config => t.provisionConfig side scope e
  | .tunnel t, .secret => t.provisionSecret side scope e
  | .direct port, .config =>
    .done ((Tunnel.endConfig port .default side e).bind fun _ => .error (.fault .noSuchPart))
  | .direct _, .secret => .done (.error (.fault .noSuchPart))

/-- The name of one object of a side. -/
def partName (t : Tunnel) (side : Side) (part : PartKind) (scope : Value) : ObjectName :=
  match part with
  | .config => t.configMapKey side scope
  | .secret => t.secretKey side scope

/-- The script that reads one object of a side. -/
def readScript (t : Tunnel) (side : Side) (part : PartKind) (scope : Value) :
    ClusterScript (Except Failure Object) :=
  match part with
  | .config => t.readConfigMap side scope
  | .secret => t.readSecret side scope

/-- The script of a request, and how its reply answers a step. -/
def requestScript (q : Request) : ClusterScript (Except Failure Answer) :=
  .ask q fun reply => .done <|
    match q, reply with
    | .get _ _, r => r.map .object
    | .create _, r => r.map .object
    | .update _, r => r.map .object
    | .list _ _ _, r => r.map .objects

/-- Takes one step. -/
def step (s : Session) : Step → StepResult × Session
  | .addCluster id kubeconfig context =>
    let c : Cluster := ⟨.new kubeconfig context, .new⟩
    (quiet (.ok (.connection c.connection)), s.setCluster id c)
  | .changeServer id change => s.onServer id fun server => .ok (change.apply server)
  | .setFailure id m e => s.onServer id fun server => .ok (server.setFailure m e)
  | .put id r => s.onServer id (putResource r)
  | .remove id p => s.onServer id fun server =>
    .ok { server with store := server.store.remove p }
  | .dump id => s.asked ((named? s.clusters id).map fun c => .stored c.server.store.entries)
  | .request id q => s.onCluster id (requestScript q) fun a => a
  | .isConnected id =>
    s.asked ((named? s.clusters id).map fun c => .flag c.connection.isConnected)
  | .close id =>
    match named? s.clusters id with
    | .error e => s.asked (.error e)
    | .ok c => s.ran id (c.runCalls c.connection.close) fun r => r.map fun _ => .nothing
  | .addEndpoint id e =>
    (quiet (.ok .nothing), { s with endpoints := rename id e s.endpoints })
  | .setLabel id key v =>
    match named? s.endpoints id, key.unhashable? with
    | .error e, _ => s.asked (.error e)
    | .ok _, some typeName => s.asked (.error (.fault (.unhashable typeName)))
    | .ok e, none =>
      let e := { e with labels := Dict.put e.labels key v }
      (quiet (.ok .nothing), { s with endpoints := rename id e s.endpoints })
  | .addTunnel id settings => s.addTunnel id settings
  | .addDirect id port => (quiet (.ok .nothing), s.setTransport id (.direct port))
  | .provision id side route =>
    s.provisionBy id side route fun t e => t.provision side route.scope e
  | .provisionPart id side part route =>
    match s.resolve route with
    | .error e => s.asked (.error e)
    | .ok (t, e) => s.onCluster id (partScript t e side part route.scope) fun _ => .nothing
  | .readPart id side part route =>
    match (named? s.transports route.transport).bind tunnelOf with
    | .error e => s.asked (.error e)
    | .ok t => s.onCluster id (readScript t side part route.scope) .object
  | .partKey side part transport scope =>
    s.asked (((named? s.transports transport).bind tunnelOf).map fun t =>
      .text (partName t side part scope).text)
  | .applyConfigMap id r => s.onCluster id (VolumeTunnel.applyConfigMap r) fun _ => .nothing
  | .applySecret id r => s.onCluster id (createSecretOnce r) fun _ => .nothing
  | .podParts transport =>
    s.asked ((named? s.transports transport).map fun t =>
      .parts (t.parts .client) (t.parts .server))
  | .address transport endpoint =>
    s.asked ((s.resolve ⟨transport, endpoint, .none⟩).map fun (t, e) =>
      .address (Transfer.hostname t e) (Transfer.port t e))
  | .createServer destination missing route =>
    s.provisionBy destination .server route fun t e =>
      Transfer.createServer missing (Transfer.viaTransport route.scope e t)
  | .createClient source route =>
    s.provisionBy source .client route fun t e =>
      Transfer.createClient (Transfer.viaTransport route.scope e t)
  | .deleteSide side => (⟨.ok .nothing, [], [Transfer.deleteRecord side]⟩, s)
  | .podHealthy id pod => s.onCluster id (VolumeTunnel.podHealthy pod) .health
  | .podsHealthy id space labels =>
    s.onCluster id (VolumeTunnel.podsHealthy space labels) .health

end Session

end VolumeTunnel
