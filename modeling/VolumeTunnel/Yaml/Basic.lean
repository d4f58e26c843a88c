import VolumeTunnel.Failure.Basic

/-!
# YAML documents: code points and places

Which code points a YAML document may hold, which of them separate, and the place reached in a
document. A place counts lines and columns, since indentation has a meaning. A line feed ends a
line, and so do the next line character and the line and paragraph separators; carriage returns
have become line feeds before.

* `foldBreaks` : what is left of line ends inside a scalar that runs over several lines;
* `Cursor` : a place, and `Cursor.moveTo` the one before the rest of what follows it.
-/

namespace VolumeTunnel.Yaml

/-- Why a document has no value. -/
inductive Flaw where
  /-- The text is no document, or the document does not name a value. -/
  | malformed
  /-- The text ends where it should go on. -/
  | unfinished
  /-- A scalar is not of the form that its tag asks for, or the text cannot be read. -/
  | fault (fault : Fault)
deriving DecidableEq, Repr

/-- The flaw of a text that should go on in another way. -/
def Flaw.before (rest : Text) : Flaw :=
  if rest.isEmpty then .unfinished else .malformed

/-- The text with line feeds for carriage returns, alone or before a line feed. -/
def withLineFeeds : Text → Text
  | [] => []
  | .char '\r' :: .char '\n' :: t => .char '\n' :: withLineFeeds t
  | .char '\r' :: t => .char '\n' :: withLineFeeds t
  | c :: t => c :: withLineFeeds t

/-- Whether a document may hold the code point: tabs, line ends, and what can be printed. -/
def isAllowed (c : CodePoint) : Bool :=
  let n := c.val
  n = 0x9 || n = 0xA || n = 0xD || (0x20 ≤ n && n ≤ 0x7E) || n = 0x85
    || (0xA0 ≤ n && n ≤ 0xD7FF) || (0xE000 ≤ n && n ≤ 0xFFFD) || 0x10000 ≤ n

/-- The mark that may begin a document to name its byte order. -/
def byteOrderMark : CodePoint :=
  .char '\ufeff'

/-- Whether the code point is one of the given characters. -/
def isOneOf (chars : List Char) : CodePoint → Bool
  | .char c => chars.contains c
  | .lone _ => false

/-- Whether the code point ends a line. -/
def isBreak (c : CodePoint) : Bool :=
  isOneOf ['\n', '\x85', '\u2028', '\u2029'] c

/-- Whether the code point is a space. -/
def isSpace (c : CodePoint) : Bool :=
  c = .char ' '

/-- Whether the code point is a space or a tab. -/
def isSpaceOrTab (c : CodePoint) : Bool :=
  isOneOf [' ', '\t'] c

/-- Whether the code point separates words. -/
def isGap (c : CodePoint) : Bool :=
  isSpaceOrTab c || isBreak c

/-- Whether the text has ended, or begins with a code point of a class. -/
def endsOr (p : CodePoint → Bool) : Text → Bool
  | [] => true
  | c :: _ => p c

/-- Whether the text begins with a code point of a class. -/
def startsAs (p : CodePoint → Bool) : Text → Bool
  | [] => false
  | c :: _ => p c

/-- Whether a word cannot go on here: the text ends or is separated. -/
def gapAt (t : Text) : Bool :=
  endsOr isGap t

/-- Whether the line ends here. -/
def lineEndsAt (t : Text) : Bool :=
  endsOr isBreak t

/-- Whether a word ends here with a space or with its line; a tab does not end it. -/
def spaceAt (t : Text) : Bool :=
  endsOr (fun c => isSpace c || isBreak c) t

/-- The end of a line that may hold only spaces and a comment from here on, and what follows. -/
def lineEnd? (t : Text) : Option Text :=
  let t := t.dropWhile isSpace
  let t := if startsAs (isOneOf ['#']) t then t.dropWhile fun c => !isBreak c else t
  if lineEndsAt t then some t else none

/-- Whether the text begins with three hyphens or three dots that stand alone. Where a line begins
so, it is a mark between documents. -/
def isDocumentMark (t : Text) : Bool :=
  (t.take 3 = "---" || t.take 3 = "...") && gapAt (t.drop 3)

/-- What a line end is read as: the two separators stay, others are a line feed. -/
def breakText (c : CodePoint) : CodePoint :=
  if isOneOf ['\u2028', '\u2029'] c then c else .char '\n'

/-- What is left of a line end and of those that follow it: a single line feed becomes a space, and
a line feed before others is dropped. -/
def foldBreaks (first : CodePoint) (others : Text) : Text :=
  if breakText first = .char '\n' then (if others.isEmpty then [.char ' '] else others)
  else breakText first :: others

/-- The text after the line end at its start; all of it if there is none. -/
def afterBreak : Text → Text
  | [] => []
  | c :: t => if isBreak c then t else c :: t

/-- The line end at the start of a text, as it is read. -/
def breakAt : Text → Text
  | [] => []
  | c :: _ => if isBreak c then [breakText c] else []

/-- A place in a document, with the text that follows. -/
structure Cursor where
  rest : Text
  /-- The number of code points before the place. -/
  index : Nat
  line : Nat
  column : Nat

namespace Cursor

/-- The place where a text begins. -/
def start (t : Text) : Cursor :=
  ⟨t, 0, 0, 0⟩

/-- The place after one code point. A byte order mark takes no column. -/
def next (p : Cursor) : Cursor :=
  match p.rest with
  | [] => p
  | c :: t =>
    if isBreak c then ⟨t, p.index + 1, p.line + 1, 0⟩
    else ⟨t, p.index + 1, p.line, if c = byteOrderMark then p.column else p.column + 1⟩

/-- The place after a number of code points. -/
def skip (p : Cursor) : Nat → Cursor
  | 0 => p
  | n + 1 => p.next.skip n

/-- The place at which `rest`, an ending of the text that follows, begins. -/
def moveTo (p : Cursor) (rest : Text) : Cursor :=
  p.skip (p.rest.length - rest.length)

end Cursor

end VolumeTunnel.Yaml
