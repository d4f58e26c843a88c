import VolumeTunnel.Failure.Basic

/-!
# Transport options

How a tunnel verifies its peer, and the proxy it goes through. The verification level is one of
five, or left open; the proxy settings may be any values, an untrue one counting as not set.

* `Options.ofArguments` : options from named fields, only the level being checked;
* `Options.ofMapping` : options from a mapping of a settings file, in either spelling of the keys;
* `Options.quoted` : the written form, which leaves the password out.
-/

namespace VolumeTunnel

/-- The options shared by both ends of a tunnel. -/
structure Options where
  /-- The verification level, if one is chosen. -/
  level : Option (Fin 5)
  proxyUrl : Value
  proxyUsername : Value
  proxyPassword : Value
  noVerify : Value

namespace Options

/-- Nothing is chosen. -/
def default : Options :=
  ⟨none, "", "", "", .bool false⟩

instance : Inhabited Options := ⟨default⟩

/-- The text of a level. -/
def levelText (level : Fin 5) : Text :=
  Text.ofNat level.val

/-- The level of an option, in which the empty text leaves it open. -/
def level? : Value → Option (Option (Fin 5))
  | .text [] => some none
  | .text [.char c] =>
    if h : 48 ≤ c.toNat ∧ c.toNat - 48 < 5 then some (some ⟨c.toNat - 48, h.2⟩) else none
  | _ => none

/-- The level of an option as a value. -/
def levelValue (o : Options) : Value :=
  .text (o.level.elim [] levelText)

/-- The level used when none is chosen. -/
def defaultLevel : Fin 5 := 2

/-- The level in effect. -/
def resolvedLevel (o : Options) : Text :=
  levelText (o.level.getD defaultLevel)

/-- A field of the options. -/
inductive Field where
  | level
  | proxyUrl
  | proxyUsername
  | proxyPassword
  | noVerify
deriving DecidableEq, Repr

/-- The name of a field. -/
def Field.name : Field → Text
  | level => "ca_verify_level"
  | proxyUrl => "proxy_url"
  | proxyUsername => "proxy_username"
  | proxyPassword => "proxy_password"
  | noVerify => "no_verify_ca"

/-- The second spelling of a field. -/
def Field.camelName : Field → Text
  | level => "caVerifyLevel"
  | proxyUrl => "proxyURL"
  | proxyUsername => "proxyUsername"
  | proxyPassword => "proxyPassword"
  | noVerify => "noVerifyCA"

/-- All fields. -/
def Field.all : List Field :=
  [level, proxyUrl, proxyUsername, proxyPassword, noVerify]

/-- The field of a name. -/
def Field.ofName? : Value → Option Field
  | .text t => all.find? fun f => f.name = t
  | _ => none

/-- The field that a key spells in either way. -/
def Field.ofSpelling? : Value → Option Field
  | .text t => all.find? fun f => f.name = t ∨ f.camelName = t
  | _ => none

/-- The value of a field in these options. -/
def get (o : Options) : Field → Value
  | .level => o.levelValue
  | .proxyUrl => o.proxyUrl
  | .proxyUsername => o.proxyUsername
  | .proxyPassword => o.proxyPassword
  | .noVerify => o.noVerify

/-- The last value given for a field, and the default one if none is given. -/
def chosen (given : List (Field × Value)) (f : Field) : Value :=
  ((given.reverse.find? fun e => e.1 = f).map (·.2)).getD (default.get f)

/-- The options with the given fields; a level must be one of those allowed. -/
def ofFields (given : List (Field × Value)) : Except Failure Options :=
  match level? (chosen given .level) with
  | none =>
    .error (.naming (chosen given .level) (.configuration (.verifyLevel (chosen given .level))))
  | some level => .ok
      { level := level
        proxyUrl := chosen given .proxyUrl
        proxyUsername := chosen given .proxyUsername
        proxyPassword := chosen given .proxyPassword
        noVerify := chosen given .noVerify }

/-- The options with the fields of the given names. -/
def ofArguments (arguments : Dict) : Except Failure Options := do
  let given ← arguments.mapM fun (key, v) =>
    match Field.ofName? key with
    | none => .error (.fault .wrongType)
    | some f => .ok (f, v)
  ofFields given

/-- What an entry of a mapping gives to a field: a flag must be a boolean, and anything else is
taken by its text, nothing being the empty text. -/
def readEntry (key v : Value) : Except Failure (Field × Value) :=
  match Field.ofSpelling? key with
  | none => .error (.naming key (.configuration (.unknownOption key)))
  | some .noVerify =>
    match v with
    | .bool b => .ok (.noVerify, .bool b)
    | _ => .error (.configuration (.flagNotBoolean key))
  | some f =>
    match v with
    | .none => .ok (f, .text [])
    | v => if v.isWritable then .ok (f, .text v.shown) else .error (.fault .wrongValue)

/-- The options of a mapping. -/
def ofMapping (mapping : Dict) : Except Failure Options := do
  let given ← mapping.mapM fun (key, v) => readEntry key v
  ofFields given

/-- Equality of options, field by field. -/
def same (a b : Options) : Bool :=
  Field.all.all fun f => (a.get f).same (b.get f)

/-- The written form, without the password. -/
def quoted (o : Options) : Text :=
  let parts := [Field.level, .proxyUrl, .proxyUsername, .noVerify].map fun f =>
    f.name ++ .char '=' :: (o.get f).quoted
  "TransportOptions(" ++ Text.join ", " parts ++ ")"

end Options

end VolumeTunnel
