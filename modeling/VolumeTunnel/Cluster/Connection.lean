import VolumeTunnel.Cluster.Rejection

/-!
# Connections

A connection is made when the first request needs it, and again after it was closed or could not be
made. It goes to the cluster of its settings file and context if it has either, otherwise to the
cluster it runs in, otherwise to that of the default settings file. Each request is one call of the
cluster's programming interface.

* `Connection.ensure` : connects if there is no connection;
* `Connection.serve` : answers a request by calls;
* `Connection.close` : closes the connection, if the client can be closed.
-/

namespace VolumeTunnel

/-- How a client is closed. -/
inductive Closing where
  | plain
  | awaited
  | missing
deriving DecidableEq, Repr

/-- A client of the programming interface. -/
structure ApiClient where
  closing : Closing
deriving DecidableEq, Repr

/-- A call of the programming interface, or of what sets it up. -/
inductive Call where
  /-- Loads the settings of the cluster that this runs in. -/
  | loadInCluster
  /-- A client for a settings file and a context, or for the default ones. -/
  | newClient (settings : Option (Value × Value))
  /-- A client for the settings loaded before. -/
  | apiClient
  /-- The interface of a client to the core objects. -/
  | coreApi
  | read (kind : Kind) (key : ObjectName)
  | create (kind : Kind) (space : Value) (object : Object)
  | replace (kind : Kind) (key : ObjectName) (object : Object)
  | list (kind : Kind) (space : Value) (selector : Option Value)
  | close

namespace Call

/-- The answer to a call. -/
abbrev Reply : Call → Type
  | loadInCluster => Except Failure Unit
  | newClient _ => Except Failure ApiClient
  | apiClient => Except Failure ApiClient
  | coreApi => Except Failure Unit
  | read _ _ => Except Failure Object
  | create _ _ _ => Except Failure Object
  | replace _ _ _ => Except Failure Object
  | list _ _ _ => Except Failure (List Object)
  | close => Except Failure Unit

end Call

/-- A computation that makes calls. -/
abbrev CallScript (α : Type) := Script Call Call.Reply α

/-- A connection to a cluster, made or still to be made. -/
structure Connection where
  kubeconfig : Value
  context : Value
  client : Option ApiClient
  /-- Whether there is an interface to the core objects. -/
  hasCore : Bool

/-- Whether a loader found no settings. -/
def Failure.isNoClusterSettings : Failure → Bool
  | .noClusterSettings _ => true
  | _ => false

namespace Connection

/-- A connection that has not been made. -/
def new (kubeconfig context : Value) : Connection :=
  ⟨kubeconfig, context, none, false⟩

/-- Whether the connection is made. -/
def isConnected (c : Connection) : Bool :=
  c.client.isSome

/-- A client for the default settings file. -/
def defaultClient : CallScript (Except Failure ApiClient) :=
  .ask (.newClient none) .done

/-- A client for the cluster that this runs in; for the default settings file if there are no
settings for that. -/
def inClusterClient : CallScript (Except Failure ApiClient) :=
  .ask .loadInCluster fun
    | .error e => if e.isNoClusterSettings then defaultClient else .done (.error e)
    | .ok () => .ask .apiClient fun
      | .error e => if e.isNoClusterSettings then defaultClient else .done (.error e)
      | .ok client => .done (.ok client)

/-- The client that the settings of the connection call for. -/
def findClient (c : Connection) : CallScript (Except Failure ApiClient) :=
  if c.kubeconfig.truthy || c.context.truthy then
    .ask (.newClient (some (c.kubeconfig, c.context))) .done
  else inClusterClient

/-- The connection after a failure to connect, and the failure. -/
def failedBy (c : Connection) (e : Failure) : Except Failure Unit × Connection :=
  (.error (.connection e), { c with client := none })

/-- Connects if there is no connection. -/
def ensure (c : Connection) : CallScript (Except Failure Unit × Connection) :=
  if c.isConnected then .done (.ok (), c)
  else c.findClient.bind fun
    | .error e => .done (c.failedBy e)
    | .ok client => .ask .coreApi fun
      | .error e => .done (c.failedBy e)
      | .ok () => .done (.ok (), { c with client := some client, hasCore := true })

/-- What an object is called in messages: kind and name. -/
def objectText (kind : Value) (key : ObjectName) : Text :=
  kind.shown ++ .char ' ' :: key.text

/-- The kind of a resource as it is written and as requests know it, and its name. -/
def target (resource : Resource) : Except Failure (Value × Kind × Object × ObjectName) := do
  let kind ← resource.kindOf
  let known ← Kind.ofValue (.text kind)
  match resource with
  | .plain _ => .error (.fault .noSuchPart)
  | .object o => do
    let metadata ← o.metadata?
    pure (.text kind, known, o, metadata.objectName)

/-- The answer of a call, a rejection being read as the failure of what was to be done. -/
def readReply {α : Type} (what : Text) (r : Except Failure α) : Except Failure α :=
  r.mapError (Failure.readRejection what)

/-- Sends a request over a connection that is made. -/
def send : (q : Request) → CallScript q.Reply
  | .get kind key =>
    match Kind.ofValue kind with
    | .error e => .done (.error e)
    | .ok known => .ask (.read known key) fun r =>
      .done (readReply ("Failed to get " ++ objectText kind key) r)
  | .create resource =>
    match target resource with
    | .error e => .done (.error e)
    | .ok (kind, known, object, key) => .ask (.create known key.space object) fun
      | .ok stored => .tell (.debug ("[K8S] Created " ++ objectText kind key)) (.done (.ok stored))
      | .error e =>
        .done (.error (e.readRejection ("Failed to create " ++ objectText kind key)))
  | .update resource =>
    match target resource with
    | .error e => .done (.error e)
    | .ok (kind, known, object, key) => .ask (.replace known key object) fun
      | .ok stored => .tell (.debug ("[K8S] Updated " ++ objectText kind key)) (.done (.ok stored))
      | .error e =>
        .done (.error (e.readRejection ("Failed to update " ++ objectText kind key)))
  | .list kind space selector =>
    match Kind.ofValue kind with
    | .error e => .done (.error e)
    | .ok known =>
      let sent := if selector.truthy then some selector else none
      .ask (.list known space sent) fun r =>
        .done (readReply ("Failed to list " ++ kind.shown ++ " in " ++ space.shown) r)

/-- Answers a request, connecting first if there is no connection. -/
def serve (q : Request) (c : Connection) : CallScript (q.Reply × Connection) :=
  c.ensure.bind fun (r, c) =>
    match r with
    | .error e => .done (q.refuse e, c)
    | .ok () =>
      if c.hasCore then (send q).bind fun reply => .done (reply, c)
      else .done (q.refuse (.fault .notAttached), c)

/-- Closes the connection. A client that fails to close stays. -/
def close (c : Connection) : CallScript (Except Failure Unit × Connection) :=
  let closed : Connection := { c with client := none, hasCore := false }
  match c.client with
  | some ⟨.plain⟩ | some ⟨.awaited⟩ => .ask .close fun
    | .error e => .done (.error e, c)
    | .ok () => .done (.ok (), closed)
  | some ⟨.missing⟩ | none => .done (.ok (), closed)

end Connection

end VolumeTunnel
