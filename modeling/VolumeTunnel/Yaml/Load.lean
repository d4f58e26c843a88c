import VolumeTunnel.Yaml.Document.Build
import VolumeTunnel.Yaml.Node.Parser

/-!
# Loading YAML

`Yaml.load` gives the only document of a source.
-/

namespace VolumeTunnel.Yaml

/-- The only document of a source; an empty text is one without a value. -/
def load (s : Source) : Except Flaw Document := do
  match ← Graph.ofTokens (Token.ofSource s) with
  | none => pure .empty
  | some (g, root) => Document.ofGraph g root

end VolumeTunnel.Yaml
