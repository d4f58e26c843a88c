import VolumeTunnel.Failure.Basic
import VolumeTunnel.Logging.Record
import VolumeTunnel.Text.Utf8

/-!
# Setting up logging

The package has one logger, and writes its records to a file or to the error stream by a handler of
its own. Setting up logging again replaces that handler and leaves those added by others alone. What
opening a file comes to is not for the logger to say : it is given with each call.

* `LogState.setup` : chooses a level, and then a destination. A level that is refused changes
  nothing; a file that cannot be opened leaves the new level and no handler of the package;
* `LogState.log` : writes a record that is severe enough, once for each handler of the package.
-/

namespace VolumeTunnel

/-- Where records are written. -/
inductive Destination where
  | stderr
  /-- A file, told from others by a name, however it was reached. -/
  | file (name : Text)
  /-- A device that keeps nothing of what is written to it. -/
  | device
deriving DecidableEq

/-- What a logger hands its records to. -/
inductive Handler where
  /-- The handler of the package. -/
  | own (destination : Destination)
  /-- A handler that others added; it writes nothing here. -/
  | foreign (id : Nat)
deriving DecidableEq

/-- The logger of the package, and what has been written. -/
structure LogState where
  level : Int
  handlers : List Handler
  /-- The files that were opened or were there, and what they hold. -/
  files : List (Text × Text)
  /-- What was handed to the error stream. -/
  stderr : Text

/-- The name of the logger of the package. -/
def loggerName : Text := "kubeferry"

namespace LogState

/-- Nothing is set up. -/
def new : LogState := ⟨0, [], [], []⟩

/-! ## Levels -/

/-- The capital letter of a code point, as far as it can occur in the name of a level. -/
def upper (c : CodePoint) : CodePoint :=
  match c with
  | .char c =>
    if c = Char.ofNat 0x131 then .char 'I'
    else if c = Char.ofNat 0x17F then .char 'S'
    else .char c.toUpper
  | c => c

/-- The level that a value chooses: a number itself, a text by its name in any case. Before it is
refused, a value of another type is compared with its text, which not every value has. -/
def levelOf? : Value → Except Failure Int
  | .int i => .ok i
  | .bool b => .ok (if b then 1 else 0)
  | .text name =>
    match levelOfName? (name.map upper) with
    | some level => .ok level
    | none => .error (.unknownLogLevel name)
  | v => .error (.naming v (.fault .wrongType))

/-- The level in effect for the logger of the package: its own, unless that is zero. -/
def effectiveLevel (s : LogState) : Int :=
  if s.level = 0 then warningLevel else s.level

/-! ## Destinations -/

/-- The destination that a value chooses: the error stream, if the value is not true, and otherwise
what opening the file comes to. -/
def destination (file : Value) (opening : Except Failure Destination) :
    Except Failure Destination :=
  if file.truthy then opening else .ok .stderr

/-- The files with one more, unless it is there. -/
def touch (name : Text) (files : List (Text × Text)) : List (Text × Text) :=
  if files.any fun f => f.1 = name then files else files ++ [(name, [])]

/-- The state after a destination is opened. -/
def opened (s : LogState) : Destination → LogState
  | .file name => { s with files := touch name s.files }
  | _ => s

/-! ## Setting up -/

/-- Whether a handler was added by others. -/
def isForeign : Handler → Bool
  | .own _ => false
  | .foreign _ => true

/-- Chooses a level and a destination, given what opening the file comes to. -/
def setup (level file : Value) (opening : Except Failure Destination) (s : LogState) :
    Except Failure Unit × LogState :=
  match levelOf? level with
  | .error e => (.error e, s)
  | .ok level =>
    let s := { s with level := level, handlers := s.handlers.filter isForeign }
    match destination file opening with
    | .error e => (.error e, s)
    | .ok d =>
      let s := s.opened d
      (.ok (), { s with handlers := s.handlers ++ [.own d] })

/-- Adds a handler made elsewhere. -/
def addForeign (id : Nat) (s : LogState) : LogState :=
  { s with handlers := s.handlers ++ [.foreign id] }

/-! ## Writing -/

/-- The line of a record: time, name of the level, message. -/
def line (time : Text) (r : Record) : Text :=
  let dash : Text := " - "
  time ++ dash ++ levelName r.level ++ dash ++ r.message ++ [.char '\n']

/-- What handing a line to a destination adds, and where. A line without bytes cannot be written to
a file or a device; that is reported on the error stream, and the line is lost. -/
def additions (report line : Text) : Destination → List (Destination × Text)
  | .stderr => [(.stderr, line)]
  | .file name => if Utf8.isEncodable line then [(.file name, line)] else [(.stderr, report)]
  | .device => if Utf8.isEncodable line then [] else [(.stderr, report)]

/-- Adds text at the end of a file. -/
def appendTo (name text : Text) (files : List (Text × Text)) : List (Text × Text) :=
  files.map fun f => if f.1 = name then (f.1, f.2 ++ text) else f

/-- Adds text at a destination. -/
def write (s : LogState) (w : Destination × Text) : LogState :=
  match w.1 with
  | .stderr => { s with stderr := s.stderr ++ w.2 }
  | .file name => { s with files := appendTo name w.2 (touch name s.files) }
  | .device => s

/-- Whether a logger is that of the package or below it. -/
def isOfPackage (logger : Text) : Bool :=
  logger = loggerName || logger.startsWith (loggerName ++ [.char '.'])

/-- The handlers that a logger hands its records to. -/
def handlersFor (s : LogState) (logger : Text) : List Handler :=
  if isOfPackage logger then s.handlers else []

/-- The level in effect for a logger. -/
def levelFor (s : LogState) (logger : Text) : Int :=
  if isOfPackage logger then s.effectiveLevel else warningLevel

/-- What a record of a logger leads to, given the report of a line that cannot be written. A record
that is severe enough must have a level with a name. Without any handler a warning, or anything more
severe, goes to the error stream by its message alone. -/
def writes (s : LogState) (time logger report : Text) (r : Record) :
    Except Failure (List (Destination × Text)) :=
  if r.level ≤ 0 ∨ r.level < s.levelFor logger then .ok []
  else if !hasLevelName r.level then .error (.fault .wrongValue)
  else match s.handlersFor logger with
    | [] => .ok (if r.level < warningLevel then [] else [(.stderr, r.message ++ [.char '\n'])])
    | handlers => .ok (handlers.flatMap fun
      | .own d => additions report (line time r) d
      | .foreign _ => [])

/-- Logs a record, giving what was written. -/
def log (time logger report : Text) (r : Record) (s : LogState) :
    Except Failure (List (Destination × Text)) × LogState :=
  match s.writes time logger report r with
  | .error e => (.error e, s)
  | .ok ws => (.ok ws, ws.foldl write s)

end LogState

end VolumeTunnel
