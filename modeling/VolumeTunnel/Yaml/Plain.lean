import VolumeTunnel.Yaml.Basic

/-!
# Plain scalars

Text without quotes. It goes on over spaces and line ends, which are folded, as long as words
follow that are indented enough. A colon that separates ends it, and so does a comment; inside
brackets a comma, a bracket or a question mark ends it too.

`Plain.read` is the text of a scalar, whether a line end was read after it, and what follows.
-/

namespace VolumeTunnel.Yaml.Plain

/-- Whether no word can go on here. -/
def stopsAt (inFlow : Bool) : Text → Bool
  | [] => true
  | c :: t =>
    isGap c
      || (c = .char ':'
        && (gapAt t || (inFlow && startsAs (isOneOf [',', '[', ']', '\x7b', '\x7d']) t)))
      || (inFlow && isOneOf [',', '?', '[', ']', '\x7b', '\x7d'] c)

/-- The longest word at the start, and what follows it. -/
def readWord (inFlow : Bool) : Text → Text × Text
  | [] => ([], [])
  | c :: t =>
    if stopsAt inFlow (c :: t) then ([], c :: t)
    else
      let (word, rest) := readWord inFlow t
      (c :: word, rest)

/-- Reads the line ends that follow one, with the spaces around them, from a column on. Gives them,
or `none` where a mark between documents begins a line, and the column reached. -/
def readBreaks (column : Nat) : Text → Option Text × Nat × Text
  | [] => (some [], column, [])
  | c :: t =>
    if column = 0 && isDocumentMark (c :: t) then (none, column, c :: t)
    else if isSpace c then readBreaks (column + 1) t
    else if isBreak c then
      let (bs, column, rest) := readBreaks 0 t
      (bs.map (breakText c :: ·), column, rest)
    else (some [], column, c :: t)

/-- What stands between two words. -/
structure Gap where
  /-- The text it becomes if the scalar goes on; empty if it cannot. -/
  between : Text
  /-- The column after it, if it holds a line end. -/
  column : Option Nat
  rest : Text

/-- Reads the spaces and line ends after a word. -/
def readGap (t : Text) : Gap :=
  let spaces := t.takeWhile isSpace
  match t.dropWhile isSpace with
  | [] => ⟨spaces, none, []⟩
  | c :: rest =>
    if isBreak c then
      let (others, column, rest) := readBreaks 0 rest
      ⟨others.elim [] (foldBreaks c), some column, rest⟩
    else ⟨spaces, none, c :: rest⟩

/-- Whether the scalar goes on after a gap. Outside brackets a word on a later line must not stand
left of column `width`. -/
def Gap.goesOn (inFlow : Bool) (width : Nat) (g : Gap) : Bool :=
  !g.between.isEmpty && !startsAs (isOneOf ['#']) g.rest && !stopsAt inFlow g.rest
    && (inFlow || g.column.all (width ≤ ·))

/-- Reads words as long as they go on. The fuel bounds their number. -/
def readWith (inFlow : Bool) (width : Nat) : Nat → Text → Text × Bool × Text
  | 0, t => ([], false, t)
  | fuel + 1, t =>
    let (word, rest) := readWord inFlow t
    let gap := readGap rest
    if gap.goesOn inFlow width then
      let (more, crossed, rest) := readWith inFlow width fuel gap.rest
      (word ++ gap.between ++ more, crossed, rest)
    else (word, gap.column.isSome, gap.rest)

/-- Reads a scalar whose first word is at the start. -/
def read (inFlow : Bool) (width : Nat) (t : Text) : Text × Bool × Text :=
  readWith inFlow width (t.length + 1) t

end VolumeTunnel.Yaml.Plain
