import VolumeTunnel.Cluster.Connection
import VolumeTunnel.Logging.Setup
import VolumeTunnel.Options
import VolumeTunnel.Yaml.Load

/-!
# Settings

The settings of a transfer: how its tunnel is built, which clusters it reaches, and what is logged.
They are loaded from a file that holds one mapping, and all have defaults, which also stand where
there is no file.

* `Settings.valueOf` : the value of a document, as settings are read from it;
* `Settings.ofDocument` : the settings of such a value;
* `Settings.load` : the settings of a file.
-/

namespace VolumeTunnel

/-- The settings of a transfer. -/
structure Settings where
  transport : Options
  image : Value
  kubeconfig : Value
  context : Value
  logLevel : Text

/-- What a path of a settings file leads to. -/
inductive SettingsFile where
  | missing
  | directory
  | contents (bytes : List UInt8)

namespace Settings

/-- The level of logging that is not chosen. -/
def defaultLogLevel : Text := levelName infoLevel

/-- The settings that nothing is chosen for. -/
def default : Settings :=
  ⟨Options.default, .none, .none, .none, defaultLogLevel⟩

/-- The keys of a document. -/
def knownKeys : List Text :=
  ["transport", "image", "kubeconfig", "context", "log_level"]

/-- Whether the key is one of those of a document. -/
def isKnown (key : Value) : Bool :=
  knownKeys.any fun t => key.same (.text t)

/-- The text that a key is. -/
def keyText? : Value → Option Text
  | .text t => some t
  | _ => none

/-- Refuses unknown keys, which must be texts to be named in order. -/
def checkKeys (path : Text) (document : Dict) : Except Failure Unit :=
  match (document.map (·.1)).filter fun key => !isKnown key with
  | [] => .ok ()
  | unknown =>
    match unknown.mapM keyText? with
    | none => .error (.fault .wrongType)
    | some keys => .error (.configuration (.unknownKeys path (keys.mergeSort Text.ble)))

/-- The options that a value chooses: those of a mapping; nothing that is false chooses any. -/
def transportOf (path : Text) (v : Value) : Except Failure Options :=
  match v.orElse (.dict []) with
  | .dict mapping => Options.ofMapping mapping
  | _ => .error (.configuration (.transportNotAMapping path))

/-- The level of logging that a value chooses, by its text. -/
def logLevelOf (v : Value) : Except Failure Text :=
  let v := v.orElse (.text defaultLogLevel)
  if v.isWritable then .ok v.shown else .error (.fault .wrongValue)

/-- The settings of a mapping. -/
def ofMapping (path : Text) (document : Dict) : Except Failure Settings := do
  checkKeys path document
  let transport ← transportOf path (Dict.valueD document (.text "transport"))
  let logLevel ← logLevelOf (Dict.valueD document (.text "log_level"))
  pure
    { transport := transport
      image := Dict.valueD document (.text "image")
      kubeconfig := Dict.valueD document (.text "kubeconfig")
      context := Dict.valueD document (.text "context")
      logLevel := logLevel }

/-- The settings of a document: the default ones for none, and otherwise those of a mapping. -/
def ofDocument (path : Text) : Value → Except Failure Settings
  | .none => .ok default
  | .dict document => ofMapping path document
  | v => .error (.configuration (.notAMapping path v.typeName))

/-- The value of a document. Every setting is seen from itself, and so is every option of the
transport. -/
def valueOf (d : Yaml.Document) : Value :=
  match d.entries? d.root with
  | none => d.value d.root
  | some es => .dict (es.map fun (key, item) =>
    (key, if key.same "transport" then d.opened item else d.value item))

/-- The settings of a source. -/
def ofSource (path : Text) (s : Yaml.Source) : Except Failure Settings :=
  match Yaml.load s with
  | .ok d => ofDocument path (valueOf d)
  | .error (.fault fault) => .error (.fault fault)
  | .error _ => .error (.configuration (.unparsable path))

/-- The settings of a file. -/
def load (path : Text) : SettingsFile → Except Failure Settings
  | .missing => .ok default
  | .directory => .error (.fault .isDirectory)
  | .contents bytes => ofSource path (.ofBytes bytes)

/-- A connection to the cluster that the settings name, not made yet. -/
def connection (s : Settings) : Connection :=
  .new s.kubeconfig s.context

/-- Sets up logging as the settings say, given what opening the file comes to. -/
def setUpLogging (s : Settings) (file : Value) (opening : Except Failure Destination)
    (l : LogState) : Except Failure Unit × LogState :=
  l.setup (.text s.logLevel) file opening

end Settings

end VolumeTunnel
