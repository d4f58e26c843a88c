import VolumeTunnel.Failure.Basic

/-!
# The registry of kinds

The server side of a transfer makes objects of several kinds. Each kind is registered with the
model of its objects before anything is sent to a cluster. A model may be missing from what is
installed; then nothing more is registered.

* `Registry.addAll` : registers kinds in turn, keeping those before a missing model;
* `Registry.serverSide` : the registry of everything that the server side makes.
-/

namespace VolumeTunnel

/-- The model of the objects of a kind. -/
inductive Model where
  /-- The type of a name. -/
  | type (name : Text)
  /-- Any other value. -/
  | value (v : Value)

/-- The kinds that are registered, each in its version, with their models. -/
structure Registry where
  entries : List ((Value × Value) × Model)

/-- A kind to be registered: version, kind, and the model if it is there. -/
structure Registration where
  version : Value
  kind : Value
  model : Option Model

namespace Registry

/-- No kinds. -/
def empty : Registry := ⟨[]⟩

/-- The number of kinds. -/
def size (r : Registry) : Nat := r.entries.length

/-- Whether an entry is that of a kind. -/
def isFor (version kind : Value) (entry : (Value × Value) × Model) : Bool :=
  entry.1.1.same version && entry.1.2.same kind

/-- Refuses a kind that cannot be a key. -/
def checkKey (version kind : Value) : Except Failure Unit :=
  match Value.unhashable? (.tuple [version, kind]) with
  | some typeName => .error (.fault (.unhashable typeName))
  | none => .ok ()

/-- The entries with the model of a kind set. -/
def putEntry (version kind : Value) (model : Model) :
    List ((Value × Value) × Model) → List ((Value × Value) × Model)
  | [] => [((version, kind), model)]
  | e :: es =>
    if isFor version kind e then (e.1, model) :: es else e :: putEntry version kind model es

/-- Registers a kind. -/
def add (r : Registry) (x : Registration) : Except Failure Registry := do
  match x.model with
  | none =>
    .error (.naming (.tuple [x.version, x.kind]) (.configuration (.noModel x.version x.kind)))
  | some model => do
    checkKey x.version x.kind
    pure ⟨putEntry x.version x.kind model r.entries⟩

/-- Registers kinds in turn. The kinds before one that cannot be registered stay. -/
def addAll (r : Registry) : List Registration → Except Failure Unit × Registry
  | [] => (.ok (), r)
  | x :: xs =>
    match r.add x with
    | .error e => (.error e, r)
    | .ok r => addAll r xs

/-- The model of a kind. -/
def model? (r : Registry) (version kind : Value) : Except Failure Model := do
  checkKey version kind
  match r.entries.find? (isFor version kind) with
  | some (_, model) => pure model
  | none => .error (.naming (.tuple [version, kind]) (.configuration (.notRegistered version kind)))

/-- Whether a kind is registered. -/
def recognizes (r : Registry) (version kind : Value) : Except Failure Bool := do
  checkKey version kind
  pure (r.entries.any (isFor version kind))

/-- The version of routes. -/
def routeVersion : Text := "route.openshift.io/v1"

/-- The kinds of a version; the model of each is named for it. -/
def typedKinds (missing : List Text) (version : Text) (kinds : List Text) : List Registration :=
  kinds.map fun kind =>
    let name : Text := "V1" ++ kind
    ⟨.text version, .text kind, if missing.contains name then none else some (.type name)⟩

/-- The core kinds, given the models that are missing. -/
def coreKinds (missing : List Text) : List Registration :=
  typedKinds missing "v1" ["ConfigMap", "Secret", "Pod", "Service"]

/-- The kinds of workloads, given the models that are missing. -/
def appKinds (missing : List Text) : List Registration :=
  typedKinds missing "apps/v1" ["Deployment", "StatefulSet"]

/-- Routes have no model of their own. -/
def routeKinds : List Registration :=
  [⟨.text routeVersion, "Route", some (.type "dict")⟩]

/-- The kinds of the server side, in the order in which they are registered. -/
def serverKinds (missing : List Text) : List Registration :=
  routeKinds ++ appKinds missing ++ coreKinds missing

/-- The registry of the server side. -/
def serverSide (missing : List Text) : Except Failure Registry :=
  match addAll empty (serverKinds missing) with
  | (.ok (), r) => .ok r
  | (.error e, _) => .error e

end Registry

end VolumeTunnel
