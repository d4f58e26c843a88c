import VolumeTunnel.Value.Basic

/-!
# JSON documents

The documents that response bodies hold, and the value that each stands for. An object keeps its
members as they are written; as a value it is a dictionary, in which the last of several members
of one name counts.
-/

namespace VolumeTunnel

/-- A JSON document. -/
inductive Json where
  | null
  | bool (b : Bool)
  | int (i : Int)
  | real (d : Double)
  | text (t : Text)
  | array (items : List Json)
  | object (members : List (Text × Json))

namespace Json

instance : Inhabited Json := ⟨null⟩

mutual

/-- The value of a document. -/
def toValue : Json → Value
  | null => .none
  | bool b => .bool b
  | int i => .int i
  | real d => .float d
  | text t => .text t
  | array items => .list (itemValues items)
  | object members => .dict (Dict.ofEntries (memberEntries members))

/-- The values of the items of an array. -/
def itemValues : List Json → List Value
  | [] => []
  | j :: js => toValue j :: itemValues js

/-- The entries of the members of an object. -/
def memberEntries : List (Text × Json) → List (Value × Value)
  | [] => []
  | (name, j) :: ms => (.text name, toValue j) :: memberEntries ms

end

/-- The member of an object with the given name, the last if there are several. -/
def member? (name : Text) : Json → Option Json
  | object members => (members.reverse.find? fun m => m.1 = name).map (·.2)
  | _ => none

end Json

end VolumeTunnel
