import VolumeTunnel.Cluster.Object

/-!
# Parts of pods

Containers and volumes as a tunnel adds them to the pods of a transfer. An image may be left out,
and so may the names of what a volume shows.

* `Container.document`, `Volume.document` : the JSON forms.
-/

namespace VolumeTunnel

/-- A volume in the file system of a container. -/
structure Mount where
  volume : Text
  path : Text
  /-- The one entry of the volume that is mounted; all of it if there is none. -/
  entry : Option Text

/-- A container with one open port. -/
structure Container where
  name : Text
  image : Option Text
  command : List Text
  portName : Text
  port : Int
  mounts : List Mount

/-- An entry of a secret and its path in a volume. -/
structure SecretItem where
  key : Text
  path : Text

/-- What a volume shows. -/
inductive VolumeSource where
  | configMap (name : Option Text)
  | secret (name : Option Text) (items : List SecretItem)

/-- A volume of a pod. -/
structure Volume where
  name : Text
  source : VolumeSource

/-- The containers and volumes for a pod. -/
structure PodParts where
  containers : List Container
  volumes : List Volume

/-- Nothing to add to a pod. -/
def PodParts.empty : PodParts := ⟨[], []⟩

/-- The JSON form of a mount. -/
def Mount.document (m : Mount) : Json :=
  let always : List (Text × Json) := [("name", .text m.volume), ("mountPath", .text m.path)]
  .object (always ++ optionalMember "subPath" m.entry .text)

/-- The JSON form of a container. -/
def Container.document (c : Container) : Json :=
  let port : Json := .object
    [("name", .text c.portName), ("protocol", .text "TCP"), ("containerPort", .int c.port)]
  let name : Text × Json := ("name", .text c.name)
  let others : List (Text × Json) :=
    [("command", .array (c.command.map .text)), ("ports", .array [port]),
     ("volumeMounts", .array (c.mounts.map Mount.document))]
  .object (name :: optionalMember "image" c.image .text ++ others)

/-- The JSON form of an item of a secret. -/
def SecretItem.document (i : SecretItem) : Json :=
  .object [("key", .text i.key), ("path", .text i.path)]

/-- The JSON form of what a volume shows, as a member. -/
def VolumeSource.member : VolumeSource → Text × Json
  | configMap name => ("configMap", .object (optionalMember "name" name .text))
  | secret name items =>
    ("secret", .object (optionalMember "secretName" name .text
      ++ optionalMember "items" (some items) fun is => .array (is.map SecretItem.document)))

/-- The JSON form of a volume. -/
def Volume.document (v : Volume) : Json :=
  .object [("name", .text v.name), v.source.member]

end VolumeTunnel
