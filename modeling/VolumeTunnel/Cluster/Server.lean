import VolumeTunnel.Cluster.Connection
import VolumeTunnel.Cluster.Store
import VolumeTunnel.Json.Printer

/-!
# Servers

A cluster as a connection meets it: settings that may or may not be found, a programming interface
whose calls may be made to fail, and a store. A call that does not fail acts on the store: an object
is created at a free place only, read and replaced only where there is one.

`Server.answer` is the answer to a call and the server after it.
-/

namespace VolumeTunnel

/-- What a call does to objects. -/
inductive Verb where
  | read
  | create
  | replace
  | list
deriving DecidableEq, Repr

/-- A kind of call about objects of one kind. -/
structure Method where
  verb : Verb
  kind : Kind
deriving DecidableEq, Repr

/-- A cluster as a connection meets it. -/
structure Server where
  /-- The failure to load the settings of the cluster that this runs in, if it fails. -/
  inCluster : Option Failure
  /-- The failure to make a client for a settings file, if it fails. -/
  newClient : Option Failure
  /-- The failure to make the interface to the core objects, if it fails. -/
  core : Option Failure
  closing : Closing
  /-- The failures of methods that fail. -/
  failures : List (Method × Failure)
  store : Store

namespace Server

/-- A server without objects that is not the one this runs in, and where nothing else fails. -/
def new : Server :=
  ⟨some (.noClusterSettings "Service host/port is not set."), none, none, .plain, [], .empty⟩

/-- Makes a method fail, or no longer fail. -/
def setFailure (s : Server) (m : Method) (e : Option Failure) : Server :=
  let others := s.failures.filter fun f => f.1 ≠ m
  { s with failures := others ++ (e.elim [] fun e => [(m, e)]) }

/-- The body of a rejection with the given reason. -/
def statusBody (reason : Text) : Value :=
  .text (Json.write (.object
    [("kind", .text "Status"), ("status", .text "Failure"), ("reason", .text reason)]))

/-- The rejection of an object whose place is taken. -/
def conflict : Failure :=
  .rejected ⟨.int 409, "Conflict", statusBody "AlreadyExists"⟩

/-- The rejection of a request for an object that is not there. -/
def absent : Failure :=
  .rejected ⟨.int 404, "Not Found", statusBody "NotFound"⟩

/-- The place of an object of a kind. -/
def place (kind : Kind) (key : ObjectName) : Place :=
  ⟨.text kind.name, key⟩

/-- Refuses a call whose method fails. -/
def check (s : Server) (verb : Verb) (kind : Kind) : Except Failure Unit :=
  match s.failures.find? fun f => f.1 = ⟨verb, kind⟩ with
  | some (_, e) => .error e
  | none => .ok ()

/-- The object at a place. -/
def readObject (s : Server) (kind : Kind) (key : ObjectName) : Except Failure Object := do
  s.check .read kind
  (place kind key).check
  match s.store.find? (place kind key) with
  | some o => pure o
  | none => .error absent

/-- The store with a new object. -/
def createObject (s : Server) (kind : Kind) (space : Value) (object : Object) :
    Except Failure Store := do
  s.check .create kind
  let metadata ← object.metadata?
  let p := place kind ⟨space, metadata.objectName.name⟩
  p.check
  match s.store.find? p with
  | some _ => .error conflict
  | none => pure (s.store.put p object)

/-- The store with an object replaced. -/
def replaceObject (s : Server) (kind : Kind) (key : ObjectName) (object : Object) :
    Except Failure Store := do
  s.check .replace kind
  (place kind key).check
  match s.store.find? (place kind key) with
  | some _ => pure (s.store.put (place kind key) object)
  | none => .error absent

/-- The objects that a selector accepts; only a text is a selector. -/
def listObjects (s : Server) (kind : Kind) (space : Value) (selector : Option Value) :
    Except Failure (List Object) := do
  s.check .list kind
  match selector with
  | none => pure (s.store.select (.text kind.name) space [])
  | some (.text t) => pure (s.store.select (.text kind.name) space (selectorTerms t))
  | some _ => .error (.fault .noSuchPart)

/-- The failure that there is, and otherwise a result. -/
def orFail {α : Type} (e : Option Failure) (a : α) : Except Failure α :=
  match e with
  | some e => .error e
  | none => .ok a

/-- The answer to a call, and the server after it. -/
def answer : (q : Call) → Server → q.Reply × Server
  | .loadInCluster, s => (orFail s.inCluster (), s)
  | .newClient _, s => (orFail s.newClient ⟨s.closing⟩, s)
  | .apiClient, s => (.ok ⟨s.closing⟩, s)
  | .coreApi, s => (orFail s.core (), s)
  | .read kind key, s => (s.readObject kind key, s)
  | .create kind space object, s =>
    match s.createObject kind space object with
    | .ok store => (.ok object, { s with store := store })
    | .error e => (.error e, s)
  | .replace kind key object, s =>
    match s.replaceObject kind key object with
    | .ok store => (.ok object, { s with store := store })
    | .error e => (.error e, s)
  | .list kind space selector, s => (s.listObjects kind space selector, s)
  | .close, s => (.ok (), s)

end Server

end VolumeTunnel
