import VolumeTunnel.ObjectName

/-!
# Failures

Everything that can go wrong, by cause, and the text of each cause. A failure may gather several
others; its text is then made of theirs.

* `Problem.text`, `Fault.text`, `Failure.text` : the wording;
* `Failure.naming` : a failure whose text names a value, which not every value lets it do;
* `Failure.gather`, `Failure.gather?` : several failures reported together, nothing if there are
  none.
-/

namespace VolumeTunnel

/-- A setting that cannot be accepted. -/
inductive Problem where
  | stated (message : Text)
  | verifyLevel (level : Value)
  | unknownOption (key : Value)
  | flagNotBoolean (key : Value)
  | notAPort (role : Text) (port : Value)
  | emptyHostname
  | noModel (version kind : Value)
  | notRegistered (version kind : Value)
  | unparsable (path : Text)
  | notAMapping (path : Text) (found : Text)
  | unknownKeys (path : Text) (keys : List Text)
  | transportNotAMapping (path : Text)

/-- A use of a value or a file that it does not allow. -/
inductive Fault where
  /-- A value of a type that the operation does not take. -/
  | wrongType
  /-- A value of the named type as a key. -/
  | unhashable (typeName : Text)
  | wrongValue
  | tooLarge
  /-- A value with more parts inside one another than can be gone through. -/
  | tooDeep
  /-- A part that the value does not have. -/
  | noSuchPart
  | indexOutOfRange
  /-- A word that is not among those listed. -/
  | unlistedWord
  | malformedBytes
  /-- A lone surrogate where bytes are needed. -/
  | unencodable
  | noSuchFile
  | isDirectory
  | notADirectory
  | nameTooLong
  /-- A connection without an interface to the core objects. -/
  | notAttached
deriving DecidableEq, Repr

/-- The answer of a cluster that did not carry out a request. -/
structure Rejection where
  status : Value
  reason : Value
  body : Value

/-- Which failure of a request it is. -/
inductive RequestFailureKind where
  | notFound
  | alreadyExists
  | other (status : Value)

/-- A request that a cluster did not carry out. -/
structure RequestFailure where
  kind : RequestFailureKind
  message : Text
  reason : Value

/-- A pod that is not ready, and the container that it is about, if it is about one. -/
structure PodFailure where
  message : Text
  pod : ObjectName
  container : Value

/-- A failure, by its cause. -/
inductive Failure where
  | general (message : Text)
  | configuration (problem : Problem)
  | request (failure : RequestFailure)
  | pod (failure : PodFailure)
  /-- Several failures. The headline is their text at the time they were put together. -/
  | several (headline : Text) (parts : List Failure)
  /-- No connection to the cluster. -/
  | connection (cause : Failure)
  | rejected (rejection : Rejection)
  /-- A loader that found no settings for a connection. -/
  | noClusterSettings (message : Text)
  | unsupportedKind (kind : Value)
  | unsupportedObject (typeName : Text)
  | unknownLogLevel (name : Text)
  | invalid (message : Text)
  | runtime (message : Text)
  | fault (fault : Fault)

/-- The verification levels, from none to a pinned certificate of the peer. -/
def verifyLevels : List Text :=
  ["0", "1", "2", "3", "4"]

/-- The text of a problem. -/
def Problem.text : Problem → Text
  | stated message => message
  | verifyLevel level =>
    "invalid CA verify level " ++ level.quoted ++ ", expected one of "
      ++ Text.join ", " verifyLevels
  | unknownOption key => "unknown transport option " ++ key.quoted
  | flagNotBoolean key => "transport option " ++ key.quoted ++ " must be a boolean"
  | notAPort role port =>
    role ++ " must be a port number between 1 and 65535, got " ++ port.quoted
  | emptyHostname => "endpoint hostname must not be empty"
  | noModel version kind =>
    "no model available for " ++ version.shown ++ .char '/' :: kind.shown
  | notRegistered version kind =>
    version.shown ++ .char '/' :: kind.shown ++ " is not registered"
  | unparsable path => "Failed to parse " ++ path
  | notAMapping path found => path ++ " must contain a mapping, got " ++ found
  | unknownKeys path keys => "Unknown keys in " ++ path ++ ": " ++ Text.join ", " keys
  | transportNotAMapping path => "'transport' in " ++ path ++ " must be a mapping"

/-- The text of a fault. -/
def Fault.text : Fault → Text
  | wrongType => "value of the wrong type"
  | unhashable typeName => "unhashable type: '" ++ typeName ++ "'"
  | wrongValue => "value out of range"
  | tooLarge => "value too large"
  | tooDeep => "value too deep"
  | noSuchPart => "no such part"
  | indexOutOfRange => "index out of range"
  | unlistedWord => "word not listed"
  | malformedBytes => "malformed bytes"
  | unencodable => "text without bytes"
  | noSuchFile => "no such file"
  | isDirectory => "is a directory"
  | notADirectory => "not a directory"
  | nameTooLong => "name too long"
  | notAttached => "no interface to the core objects"

/-- Status, reason and body, a line each; an empty body is left out. -/
def Rejection.text (r : Rejection) : Text :=
  .char '(' :: r.status.shown ++ ")\nReason: " ++ r.reason.shown ++ "\n"
    ++ (if r.body.truthy then "HTTP response body: " ++ r.body.shown ++ "\n" else [])

/-- The status of a request that was not carried out. -/
def RequestFailure.status (e : RequestFailure) : Value :=
  match e.kind with
  | .notFound => .int 404
  | .alreadyExists => .int 409
  | .other status => status

/-- The text of several failures: that of the only one, or all in brackets. -/
def combine : List Text → Text
  | [t] => t
  | ts => .char '[' :: Text.join ", " ts ++ [.char ']']

namespace Failure

instance : Inhabited Failure := ⟨fault .wrongType⟩

mutual

/-- The text of a failure. -/
def text : Failure → Text
  | general message => message
  | configuration problem => problem.text
  | request e => e.message
  | pod e => e.message
  | several _ parts => combine (texts parts)
  | connection cause => "Failed to connect to Kubernetes cluster: " ++ text cause
  | rejected r => r.text
  | noClusterSettings message => message
  | unsupportedKind kind => "Unsupported resource kind: " ++ kind.shown
  | unsupportedObject typeName => "Unsupported object type: " ++ typeName
  | unknownLogLevel name => "Unknown log level: " ++ name
  | invalid message => message
  | runtime message => message
  | fault f => f.text

/-- The texts of failures, in order. -/
def texts : List Failure → List Text
  | [] => []
  | e :: es => text e :: texts es

end

/-- A failure that names a value. A value that has no written form cannot be named, and is itself
refused. -/
def naming (v : Value) (e : Failure) : Failure :=
  if v.isWritable then e else fault .wrongValue

theorem naming_of_isWritable {v : Value} (h : v.isWritable = true) (e : Failure) :
    naming v e = e :=
  if_pos h

theorem naming_of_not_isWritable {v : Value} (h : v.isWritable = false) (e : Failure) :
    naming v e = fault .wrongValue :=
  if_neg (by rw [h]; exact Bool.false_ne_true)

/-- Reports failures together. -/
def gather (parts : List Failure) : Failure :=
  several (combine (texts parts)) parts

/-- Reports the failures that there are together, in order; nothing if there are none. -/
def gather? (parts : List (Option Failure)) : Option Failure :=
  match parts.filterMap id with
  | [] => none
  | es => some (gather es)

/-- The failures that a failure gathers. -/
def parts : Failure → List Failure
  | several _ parts => parts
  | _ => []

/-- Adds a failure to those gathered; the headline stays. -/
def append : Failure → Failure → Failure
  | several headline parts, e => several headline (parts ++ [e])
  | other, _ => other

theorem texts_eq_map (es : List Failure) : texts es = es.map text := by
  induction es with
  | nil => rfl
  | cons e es ih => simp [texts, ih]

/-- What a computation with two steps went through. -/
theorem bind_eq_ok {α β : Type} {x : Except Failure α} {f : α → Except Failure β} {b : β} :
    (x >>= f) = .ok b ↔ ∃ a, x = .ok a ∧ f a = .ok b := by
  cases x <;> simp [bind, Except.bind]

/-- How a computation with two steps fails. -/
theorem bind_eq_error {α β : Type} {x : Except Failure α} {f : α → Except Failure β}
    {e : Failure} :
    (x >>= f) = .error e ↔ x = .error e ∨ ∃ a, x = .ok a ∧ f a = .error e := by
  cases x <;> simp [bind, Except.bind]

end Failure

/-- A pod that does not exist, given the text that says so. -/
def RequestFailure.missing (message : Text) : RequestFailure :=
  ⟨.notFound, message, "NotFound"⟩

/-- An object that is already there, given the text that says so. -/
def RequestFailure.taken (message : Text) : RequestFailure :=
  ⟨.alreadyExists, message, "AlreadyExists"⟩

end VolumeTunnel
