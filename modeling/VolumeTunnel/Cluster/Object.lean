import VolumeTunnel.Cluster.Field
import VolumeTunnel.Cluster.Schema
import VolumeTunnel.Json.Basic

/-!
# Objects of a cluster

The parts of objects that a transfer works with: names and labels, data, and the readiness of the
containers of a pod. An object need not say its kind; then its model decides.

* `Object.make?` : an object of a model, if the model lets it hold what it is given;
* `Object.kindOf` : the kind that an object is handled as;
* `Object.document` : its JSON form, in which what is not set is left out.
-/

namespace VolumeTunnel

/-- The kinds of objects that requests can be about. -/
inductive Kind where
  | configMap
  | secret
  | pod
deriving DecidableEq, Repr

namespace Kind

/-- The name of a kind. -/
def name : Kind → Text
  | configMap => "ConfigMap"
  | secret => "Secret"
  | pod => "Pod"

/-- All kinds. -/
def all : List Kind := [configMap, secret, pod]

/-- The kind of a name. -/
def ofName? (name : Text) : Option Kind :=
  all.find? fun k => k.name = name

theorem ofName?_name (k : Kind) : ofName? k.name = some k := by
  cases k <;> decide

end Kind

/-- Labels, in insertion order. -/
abbrev Labels := TextMap Text

/-- How an object is named and labelled. -/
structure Metadata where
  space : Option Text
  name : Option Text
  labels : Option Labels

/-- The readiness of a container. -/
structure ContainerStatus where
  name : Text
  /-- Whether it is ready, if that is known. -/
  ready : Option Bool
  image : Text
  imageId : Text
  restarts : Nat

/-- The state of a pod. -/
structure PodStatus where
  containers : Option (List ContainerStatus)

/-- An object. Its model is the name of the type it was made as. -/
structure Object where
  model : Text
  version : Option Text
  kind : Option Text
  metadata : Option Metadata
  data : Option (TextMap Content)
  status : Option PodStatus

/-- What is handed over as an object: one, or any other value. -/
inductive Resource where
  | object (o : Object)
  | plain (v : Value)

namespace Metadata

/-- Metadata with the given parts. -/
def make? (space name : Value) (labels : Option Dict) : Except Failure Metadata := do
  pure ⟨← space.asText?, ← name.asText?, ← labels.mapM (Dict.asTextMap Value.asText)⟩

/-- The name that the metadata give. -/
def objectName (m : Metadata) : ObjectName :=
  ⟨.ofText? m.space, .ofText? m.name⟩

end Metadata

/-- The readiness of a container that has not been restarted. -/
def ContainerStatus.make? (name ready : Value) (image : Text) : Except Failure ContainerStatus := do
  pure ⟨← name.asText, some (← ready.asFlag), image, [], 0⟩

/-- The data of an object, read in the form that its model gives them. -/
def DataForm.read : DataForm → Dict → Except Failure (TextMap Content)
  | .texts => Dict.asTextMap fun v => v.asText.map .text
  | .contents => Dict.asTextMap Value.asContent

namespace Object

/-- Before the name of every model. -/
def modelVersion : Text := "V1"

/-- Refuses what is given without a place for it. -/
def checkPlace {α : Type} (place : Bool) (given : Option α) : Except Failure Unit :=
  if place || given.isNone then .ok () else fieldRefused

/-- The data of an object, if its model lets it have any. -/
def readData (form : Option DataForm) (data : Option Dict) :
    Except Failure (Option (TextMap Content)) := do
  checkPlace form.isSome data
  match form, data with
  | some form, some data => some <$> form.read data
  | _, _ => pure none

/-- An object of a model, if there is that model and objects of it can hold what is given. -/
def make? (model : Text) (kind : Value) (metadata : Option Metadata) (data : Option Dict)
    (status : Option PodStatus) : Except Failure Object :=
  match Schema.find? model with
  | none => .error (.fault .noSuchPart)
  | some schema => do
    if schema.demanding then fieldRefused
    let kind ← kind.asText?
    checkPlace schema.hasKind kind
    checkPlace schema.hasMetadata metadata
    let data ← readData schema.data data
    checkPlace (schema.state = some .ofPod) status
    pure ⟨model, none, kind, metadata, data, status⟩

/-- The kind that an object is handled as: its own if it says one, otherwise that of its model. -/
def kindOf (o : Object) : Except Failure Text :=
  match o.kind with
  | some (c :: t) => .ok (c :: t)
  | _ =>
    match Kind.ofName? o.model with
    | some k => .ok k.name
    | none => .error (.unsupportedObject (modelVersion ++ o.model))

/-- Whether objects of the model can have a state. -/
def canHaveStatus (o : Object) : Bool :=
  (Schema.find? o.model).any fun schema => schema.state.isSome

/-- The metadata, which have to be there. -/
def metadata? (o : Object) : Except Failure Metadata :=
  match o.metadata with
  | some m => .ok m
  | none => .error (.fault .noSuchPart)

/-- The labels of an object, none if it has no metadata. -/
def labels (o : Object) : Labels :=
  (o.metadata.bind (·.labels)).getD []

end Object

namespace Resource

/-- The kind that a resource is handled as. -/
def kindOf : Resource → Except Failure Text
  | object o => o.kindOf
  | plain v => .error (.unsupportedObject v.typeName)

/-- The metadata of a resource. -/
def metadata? : Resource → Except Failure Metadata
  | object o => o.metadata?
  | plain _ => .error (.fault .noSuchPart)

end Resource

/-! ## The JSON form -/

/-- A member for what is there. -/
def optionalMember {α : Type} (name : Text) (x : Option α) (document : α → Json) :
    List (Text × Json) :=
  x.elim [] fun a => [(name, document a)]

/-- The JSON form of an entry of data; bytes are written as a value is. -/
def Content.document : Content → Json
  | text t => .text t
  | bytes bs => .text (Value.bytes bs).shown

/-- The JSON form of metadata. -/
def Metadata.document (m : Metadata) : Json :=
  .object (optionalMember "namespace" m.space .text ++ optionalMember "name" m.name .text
    ++ optionalMember "labels" m.labels fun ls => .object (ls.map fun (k, v) => (k, .text v)))

/-- The JSON form of the readiness of a container. -/
def ContainerStatus.document (s : ContainerStatus) : Json :=
  let name : Text × Json := ("name", .text s.name)
  let others : List (Text × Json) :=
    [("image", .text s.image), ("imageID", .text s.imageId), ("restartCount", .int s.restarts)]
  .object (name :: optionalMember "ready" s.ready .bool ++ others)

/-- The JSON form of the state of a pod. -/
def PodStatus.document (s : PodStatus) : Json :=
  .object (optionalMember "containerStatuses" s.containers fun cs =>
    .array (cs.map ContainerStatus.document))

/-- The JSON form of an object. -/
def Object.document (o : Object) : Json :=
  .object (optionalMember "apiVersion" o.version .text ++ optionalMember "kind" o.kind .text
    ++ optionalMember "metadata" o.metadata Metadata.document
    ++ optionalMember "data" o.data (fun d => .object (d.map fun (k, c) => (k, c.document)))
    ++ optionalMember "status" o.status PodStatus.document)

end VolumeTunnel
