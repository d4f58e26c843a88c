import VolumeTunnel.Yaml.Number
import VolumeTunnel.Yaml.Timestamp

/-!
# Tags

A tag says what kind of value a node names. It is written with the node, or found from the text of
a plain scalar: `yes` is a truth value, `10` an integer, `~` no value.

* `Tag.ofName` : the tag with a name that has been written;
* `Tag.ofPlain` : the tag of a plain scalar.
-/

namespace VolumeTunnel.Yaml

/-- The kind of value that a node names. -/
inductive Tag where
  | null
  | bool
  | int
  | float
  | binary
  | timestamp
  /-- Pairs of a key and a value, in order. -/
  | pairs
  | set
  | str
  | seq
  | map
  /-- The key whose value is merged into the mapping. -/
  | merge
  /-- The key whose value stands for the mapping where a scalar is needed. -/
  | value
  /-- A kind that has no values. -/
  | unknown
deriving DecidableEq, Repr

namespace Tag

/-- What the names of the tags begin with. -/
def namespaceName : Text := "tag:yaml.org,2002:"

/-- The names of the tags in their namespace. Ordered mappings are pairs. -/
def names : List (Text × Tag) :=
  [("null", null), ("bool", bool), ("int", int), ("float", float), ("binary", binary),
   ("timestamp", timestamp), ("omap", pairs), ("pairs", pairs), ("set", set), ("str", str),
   ("seq", seq), ("map", map), ("merge", merge), ("value", value)]

/-- The tag with a name. -/
def ofName (name : Text) : Tag :=
  if name.startsWith namespaceName then
    let short := name.drop namespaceName.length
    ((names.find? fun e => e.1 = short).map (·.2)).getD unknown
  else unknown

/-- The words for truth values, in lower case. -/
def truthWords : List (Text × Bool) :=
  [("yes", true), ("no", false), ("true", true), ("false", false), ("on", true), ("off", false)]

/-- A word with its first letter in upper case. -/
def capitalized : Text → Text
  | .char c :: t => .char c.toUpper :: t
  | t => t

/-- A word in upper case. -/
def uppercase (t : Text) : Text :=
  t.map fun
    | .char c => .char c.toUpper
    | c => c

/-- Whether the text is a word in lower case, in upper case, or with a capital. -/
def isWord (t word : Text) : Bool :=
  t = word || t = capitalized word || t = uppercase word

/-- The words for no value. -/
def isNull (t : Text) : Bool :=
  t.isEmpty || t = "~" || isWord t "null"

/-- The text without the line feed at its end, if it is longer than that. -/
def dropLineFeed (t : Text) : Text :=
  match t.reverse with
  | .char '\n' :: c :: r => (c :: r).reverse
  | _ => t

/-- The tag of a plain scalar. A line feed after the text changes nothing. -/
def ofPlain (t : Text) : Tag :=
  let t := dropLineFeed t
  if truthWords.any fun w => isWord t w.1 then bool
  else if Number.isReal t then float
  else if Number.isInteger t then int
  else if t = "<<" then merge
  else if isNull t then null
  else if Timestamp.isPlain t then timestamp
  else if t = "=" then value
  else if t = "!" || t = "&" || t = "*" then unknown
  else str

end Tag

end VolumeTunnel.Yaml
