import VolumeTunnel.Value.Show

/-!
# Names of objects

An object of a cluster is identified within its kind by a namespace and a name. Neither is checked
here: both may be any value until a cluster refuses them.

* `ObjectName.text` : namespace and name with a slash between;
* `ObjectName.same` : equal namespaces and equal names.
-/

namespace VolumeTunnel

/-- The namespace and the name of an object. -/
structure ObjectName where
  space : Value
  name : Value

namespace ObjectName

/-- The form in messages. -/
def text (n : ObjectName) : Text :=
  n.space.shown ++ .char '/' :: n.name.shown

/-- The form that names both parts. -/
def quoted (n : ObjectName) : Text :=
  "NamespacedName(namespace=" ++ n.space.quoted ++ ", name=" ++ n.name.quoted ++ ")"

/-- Equality of names. -/
def same (a b : ObjectName) : Bool :=
  a.space.same b.space && a.name.same b.name

end ObjectName

end VolumeTunnel
