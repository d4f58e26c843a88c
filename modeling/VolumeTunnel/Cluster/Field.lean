import VolumeTunnel.Failure.Basic
import VolumeTunnel.Text.Utf8

/-!
# Fields of objects

The objects of a cluster have fields of fixed types. A value is put into a field only if it is of
the type of that field, and is refused otherwise; a field that may be left out also takes the value
that is none.

* `Value.asText`, `Value.asNumber`, `Value.asFlag`, `Value.asContent` : the value for a field;
* `Dict.asTextMap` : the entries of a dictionary whose keys are texts.
-/

namespace VolumeTunnel

/-- A mapping from texts, in insertion order. -/
abbrev TextMap (α : Type) := List (Text × α)

namespace TextMap

variable {α : Type}

/-- Sets the entry of a text: in its place if it is there, last otherwise. -/
def put : TextMap α → Text → α → TextMap α
  | [], key, a => [(key, a)]
  | (k, b) :: m, key, a => if k = key then (k, a) :: m else (k, b) :: put m key a

/-- The mapping of a list of entries, of which the last one for a text counts. -/
def ofEntries (es : List (Text × α)) : TextMap α :=
  es.foldl (fun m e => put m e.1 e.2) []

end TextMap

/-- An entry of the data of an object. -/
inductive Content where
  | text (t : Text)
  | bytes (bs : List UInt8)

/-- The refusal of a value that is not of the type of its field. -/
def fieldRefused {α : Type} : Except Failure α :=
  .error (.fault .wrongValue)

namespace Value

/-- The value of a field that may be left out. -/
def ofText? : Option Text → Value
  | some t => text t
  | Option.none => none

/-- The value for a field of texts. -/
def asText : Value → Except Failure Text
  | text t => .ok t
  | _ => fieldRefused

/-- The value for a field of whole numbers; a truth value is none. -/
def asNumber : Value → Except Failure Int
  | int i => .ok i
  | _ => fieldRefused

/-- The value for a field of truth values. -/
def asFlag : Value → Except Failure Bool
  | bool b => .ok b
  | _ => fieldRefused

/-- The value for a field of texts or bytes. -/
def asContent : Value → Except Failure Content
  | text t => .ok (.text t)
  | bytes bs => .ok (.bytes bs)
  | _ => fieldRefused

/-- The value for a field of texts that may be left out. -/
def asText? : Value → Except Failure (Option Text)
  | none => .ok Option.none
  | v => v.asText.map some

/-- The value as a key of a field. Bytes are read as text. -/
def asKey : Value → Except Failure Text
  | text t => .ok t
  | bytes bs =>
    match Utf8.decode? bs with
    | some cs => .ok (Text.ofChars cs)
    | Option.none => fieldRefused
  | _ => fieldRefused

@[simp] theorem asText_text (t : Text) : asText (text t) = .ok t := rfl

end Value

/-- The dictionary for a field that maps texts, each entry being read for the type of the field. -/
def Dict.asTextMap {α : Type} (read : Value → Except Failure α) (d : Dict) :
    Except Failure (TextMap α) :=
  (d.mapM fun (e : Value × Value) => do pure (← e.1.asKey, ← read e.2)).map TextMap.ofEntries

end VolumeTunnel
