import VolumeTunnel.Base64
import VolumeTunnel.Yaml.Tag

/-!
# The values of scalars

`Scalar.value` gives the value of a text under a tag. A text that is not of the form that the tag
asks for is at fault.
-/

namespace VolumeTunnel.Yaml.Scalar

/-- The truth value that a word names, in any case. -/
def truth (t : Text) : Except Flaw Bool :=
  let word := Double.lowerAscii t
  match Tag.truthWords.find? fun w => w.1 = word with
  | some w => .ok w.2
  | none => .error (.fault .unlistedWord)

/-- The date or moment that a text names. -/
def timestamp (t : Text) : Except Flaw Value :=
  match Timestamp.ofText? (Tag.dropLineFeed t) with
  | some s => Number.orFault s.value?
  | none => .error (.fault .noSuchPart)

/-- The bytes that an ASCII text in base 64 names. -/
def bytes (t : Text) : Except Flaw Value :=
  if t.all (·.val < 128) then
    match Base64.decodeAround? t with
    | some bs => .ok (.bytes bs)
    | none => .error .malformed
  else .error .malformed

/-- The value of a text under a tag. -/
def value (tag : Tag) (t : Text) : Except Flaw Value :=
  match tag with
  | .null => .ok .none
  | .bool => (truth t).map .bool
  | .int => (Number.integer t).map .int
  | .float => (Number.real t).map .float
  | .binary => bytes t
  | .timestamp => timestamp t
  | .str => .ok (.text t)
  | _ => .error .malformed

end VolumeTunnel.Yaml.Scalar
