import VolumeTunnel.Text.Numeral

/-!
# Log records

A record is a message at a numeric level. Six levels have names, two of them a second one; any
other number is named by itself.

* `levelName` : the name of a level, and `hasLevelName` whether it has one;
* `levelOfName?` : the level of a name, in upper case.
-/

namespace VolumeTunnel

/-- The names of levels; where a level has several, its own name comes first. -/
def levelNames : List (Text × Int) :=
  [("CRITICAL", 50), ("FATAL", 50), ("ERROR", 40), ("WARNING", 30), ("WARN", 30), ("INFO", 20),
   ("DEBUG", 10), ("NOTSET", 0)]

/-- The name of a level. -/
def levelName (level : Int) : Text :=
  match levelNames.find? fun e => e.2 = level with
  | some (name, _) => name
  | none => "Level " ++ Text.ofInt level

/-- Whether a level has a name : all have but numbers that are too long to be written. -/
def hasLevelName (level : Int) : Bool :=
  Text.hasDecimalNumeral level.natAbs

/-- The level of a name. -/
def levelOfName? (name : Text) : Option Int :=
  (levelNames.find? fun e => e.1 = name).map (·.2)

/-- The level of records about details. -/
def debugLevel : Int := 10

/-- The level of records about what was done. -/
def infoLevel : Int := 20

/-- The level of warnings, also the one in effect where none is chosen. -/
def warningLevel : Int := 30

/-- A message at a level. -/
structure Record where
  level : Int
  message : Text
deriving DecidableEq

/-- A record about a detail. -/
def Record.debug (message : Text) : Record :=
  ⟨debugLevel, message⟩

/-- A record about what was done. -/
def Record.info (message : Text) : Record :=
  ⟨infoLevel, message⟩

/-- Level and message. -/
def Record.text (r : Record) : Text :=
  levelName r.level ++ .char ' ' :: r.message

end VolumeTunnel
