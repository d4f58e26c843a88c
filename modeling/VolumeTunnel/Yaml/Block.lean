import VolumeTunnel.Yaml.Basic

/-!
# Block scalars

Indented lines after `|`, which keeps their ends, or `>`, which folds them. A header may say how
far they are indented, and whether the last line ends are kept or stripped. Without the first the
lines before the text tell, and without the second one line end is kept.

`Block.read` gives the text of a scalar after its indicator, and what follows.
-/

namespace VolumeTunnel.Yaml.Block

/-- What becomes of the line ends after the last line. -/
inductive Ending where
  | strip
  | clip
  | keep
deriving DecidableEq, Repr

/-- Reads the sign for an ending. -/
def readEnding : Text → Option Ending × Text
  | .char '+' :: t => (some .keep, t)
  | .char '-' :: t => (some .strip, t)
  | t => (none, t)

/-- Reads a digit other than zero. -/
def readDepth : Text → Option Nat × Text
  | .char c :: t => if '1' ≤ c ∧ c ≤ '9' then (some (c.toNat - 48), t) else (none, .char c :: t)
  | t => (none, t)

/-- Reads the ending and the depth of the indentation, in either order. -/
def readIndicators (t : Text) : Ending × Option Nat × Text :=
  match readEnding t with
  | (some e, t) => (e, readDepth t)
  | (none, t) =>
    let (depth, t) := readDepth t
    if depth.isNone then (.clip, none, t)
    else
      let (e, t) := readEnding t
      (e.getD .clip, depth, t)

/-- Reads the header up to the line after it. -/
def readHeader (t : Text) : Except Flaw (Ending × Option Nat × Text) :=
  let (e, depth, t) := readIndicators t
  if spaceAt t then
    match lineEnd? t with
    | some t => .ok (e, depth, afterBreak t)
    | none => .error .malformed
  else .error .malformed

/-- Reads line ends, each with up to `indent` spaces after it, from a column on. Gives them and the
column reached. -/
def readBreaks (indent : Nat) (column : Nat) : Text → Text × Nat × Text
  | [] => ([], column, [])
  | c :: t =>
    if isSpace c && column < indent then readBreaks indent (column + 1) t
    else if isBreak c then
      let (bs, column, rest) := readBreaks indent 0 t
      (breakText c :: bs, column, rest)
    else ([], column, c :: t)

/-- Reads empty lines and the spaces before the first other one, from a column on. Gives their ends,
the greatest and the last number of spaces. -/
def readEmptyLines (column : Nat) : Text → Text × Nat × Nat × Text
  | [] => ([], column, column, [])
  | c :: t =>
    if isSpace c then readEmptyLines (column + 1) t
    else if isBreak c then
      let (bs, widest, last, rest) := readEmptyLines 0 t
      (breakText c :: bs, max column widest, last, rest)
    else ([], column, column, c :: t)

/-- What stands between two lines, the second of which begins with `next`. In a folded scalar a
single line feed becomes a space, unless one of the lines begins with a blank. -/
def between (folded : Bool) (line lineBreak breaks next : Text) : Text :=
  if folded && lineBreak = "\n" && !startsAs isSpaceOrTab line && !startsAs isSpaceOrTab next then
    if breaks.isEmpty then [.char ' '] else []
  else lineBreak

/-- Reads lines whose text begins at column `indent`. Gives the text up to the last of them, the end
of that line, and the ends of the empty lines after it. The fuel bounds the number of lines. -/
def readLines (folded : Bool) (indent : Nat) : Nat → Text → Text × Text × Text × Text
  | 0, t => ([], [], [], t)
  | fuel + 1, t =>
    let line := t.takeWhile fun c => !isBreak c
    let rest := t.dropWhile fun c => !isBreak c
    let lineBreak := breakAt rest
    let (breaks, column, rest) := readBreaks indent 0 (afterBreak rest)
    if column = indent && !rest.isEmpty then
      let (more, last, others, after) := readLines folded indent fuel rest
      (line ++ between folded line lineBreak breaks rest ++ breaks ++ more, last, others, after)
    else (line, lineBreak, breaks, rest)

/-- Reads a scalar after its indicator. Its lines may not stand left of column `width`, nor of the
first column. -/
def read (folded : Bool) (width : Nat) (t : Text) : Except Flaw (Text × Text) := do
  let (ending, depth, t) ← readHeader t
  let least := max width 1
  let (indent, breaks, column, t) : Nat × Text × Nat × Text := match depth with
    | some d =>
      let indent := least + d - 1
      (indent, readBreaks indent 0 t)
    | none =>
      let (breaks, widest, column, t) := readEmptyLines 0 t
      (max least widest, breaks, column, t)
  let (text, lineBreak, breaks, rest) :=
    if column = indent && !t.isEmpty then
      let (text, lineBreak, others, rest) := readLines folded indent (t.length + 1) t
      (breaks ++ text, lineBreak, others, rest)
    else ([], [], breaks, t)
  match ending with
  | .strip => pure (text, rest)
  | .clip => pure (text ++ lineBreak, rest)
  | .keep => pure (text ++ lineBreak ++ breaks, rest)

end VolumeTunnel.Yaml.Block
