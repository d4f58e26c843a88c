import VolumeTunnel.Text.Numeral
import VolumeTunnel.Text.Utf8
import VolumeTunnel.Yaml.Basic

/-!
# Tokens

The tokens of a document, and the reading of those that are words of their own: names of anchors,
tags and directives. Scalars are in files of their own.

* `Token.readName`, `Token.readTag`, `Directive.read` : the word after its indicator, and what
  follows it.
-/

namespace VolumeTunnel.Yaml

/-- A line that says how the document after it is to be read. -/
inductive Directive where
  /-- The version of the format. -/
  | version (major : Nat)
  /-- The beginning that the names of tags have for which a handle is written. -/
  | shorthand (handle beginning : Text)
  | unknown
deriving DecidableEq, Repr

/-- A part of a document. -/
inductive Token where
  | directive (d : Directive)
  | documentStart
  | documentEnd
  | streamEnd
  | blockSequenceStart
  | blockMappingStart
  | blockEnd
  | flowSequenceStart
  | flowSequenceEnd
  | flowMappingStart
  | flowMappingEnd
  | flowEntry
  | blockEntry
  | key
  | value
  | alias (name : Text)
  | anchor (name : Text)
  /-- A tag: the handle for its beginning, if it has one, and the rest of its name. -/
  | tag (handle : Option Text) (rest : Text)
  | scalar (text : Text) (plain : Bool)
  /-- From here on the text has no tokens. -/
  | bad (flaw : Flaw)
deriving DecidableEq, Repr

/-- Whether the code point is an ASCII letter or digit, a hyphen or an underscore. -/
def isNameChar : CodePoint → Bool
  | .char c => c.isAlphanum || c = '-' || c = '_'
  | .lone _ => false

/-- Whether the code point may stand in the name of a tag. -/
def isTagChar : CodePoint → Bool
  | .char c => c.isAlphanum || "-;/?:@&=+$,_.!~*\x27()[]".contains c
  | .lone _ => false

namespace Token

/-- Reads the name of an anchor. -/
def readName (t : Text) : Except Flaw (Text × Text) :=
  let name := t.takeWhile isNameChar
  let rest := t.dropWhile isNameChar
  let endsName (c : CodePoint) : Bool :=
    isGap c || isOneOf ['?', ':', ',', ']', '\x7d', '%', '@', '\x60'] c
  if !name.isEmpty && endsOr endsName rest then .ok (name, rest)
  else .error (.before rest)

/-- Reads the bytes of a tag's name. A percent sign and two hexadecimal digits are a byte. -/
def readTagBytes : Text → Except Flaw (List UInt8 × Text)
  | [] => .ok ([], [])
  | .char '%' :: a :: b :: t =>
    match a.hexDigit?, b.hexDigit? with
    | some a, some b =>
      (readTagBytes t).map fun (bs, rest) => (UInt8.ofNat (a * 16 + b) :: bs, rest)
    | _, _ => .error .malformed
  | .char '%' :: t => .error (if t.all (·.hexDigit?.isSome) then .unfinished else .malformed)
  | c :: t =>
    if isTagChar c then (readTagBytes t).map fun (bs, rest) => (UInt8.ofNat c.val :: bs, rest)
    else .ok ([], c :: t)

/-- Reads the name of a tag, which is not empty. -/
def readTagName (t : Text) : Except Flaw (Text × Text) := do
  let (bs, rest) ← readTagBytes t
  match Utf8.decode? bs with
  | none => .error .malformed
  | some [] => .error (.before rest)
  | some name => pure (Text.ofChars name, rest)

/-- Reads a handle: a mark alone, or a name between two marks. -/
def readHandle : Text → Except Flaw (Text × Text)
  | .char '!' :: t =>
    if startsAs isSpace t then .ok ("!", t)
    else match t.dropWhile isNameChar with
      | .char '!' :: rest => .ok (.char '!' :: t.takeWhile isNameChar ++ "!", rest)
      | rest => .error (.before rest)
  | t => .error (.before t)

/-- Reads a tag after its mark. It is a full name in angle brackets, nothing, or a name with a
handle, which is the mark alone if there is no second one in the word. -/
def readTag (t : Text) : Except Flaw (Token × Text) := do
  let (token, rest) ← match t with
    | .char '<' :: t => do
      let (name, rest) ← readTagName t
      match rest with
      | .char '>' :: rest => pure (tag none name, rest)
      | rest => .error (.before rest)
    | t =>
      if gapAt t then pure (tag none "!", t)
      else if (t.takeWhile fun c => !isSpace c && !isBreak c).contains (.char '!') then do
        let (handle, rest) ← readHandle (.char '!' :: t)
        let (name, rest) ← readTagName rest
        pure (tag (some handle) name, rest)
      else do
        let (name, rest) ← readTagName t
        pure (tag (some "!") name, rest)
  if spaceAt rest then pure (token, rest) else .error .malformed

end Token

namespace Directive

/-- Reads the digits of a version number. -/
def readNumber (t : Text) : Except Flaw (Nat × Text) :=
  let ds := t.takeWhile CodePoint.isDigit
  if ds.isEmpty then .error (.before t)
  else if Text.maxDecimalDigits < ds.length then .error (.fault .wrongValue)
  else .ok (Text.digitsValue ds, t.dropWhile CodePoint.isDigit)

/-- Reads a version: two numbers with a point between them. -/
def readVersion (t : Text) : Except Flaw (Directive × Text) := do
  let (major, t) ← readNumber (t.dropWhile isSpace)
  match t with
  | .char '.' :: t => do
    let (_, t) ← readNumber t
    if spaceAt t then pure (version major, t) else .error .malformed
  | t => .error (.before t)

/-- Reads a handle and the beginning of names that it stands for. -/
def readShorthand (t : Text) : Except Flaw (Directive × Text) := do
  let (handle, t) ← Token.readHandle (t.dropWhile isSpace)
  if startsAs isSpace t then do
    let (beginning, t) ← Token.readTagName (t.dropWhile isSpace)
    if spaceAt t then pure (shorthand handle beginning, t) else .error .malformed
  else .error (.before t)

/-- Reads a directive after its sign, up to the end of its line. -/
def read (t : Text) : Except Flaw (Directive × Text) := do
  let name := t.takeWhile isNameChar
  let t := t.dropWhile isNameChar
  if name.isEmpty || !spaceAt t then .error (.before t)
  else
    let (d, t) ←
      if name = "YAML" then readVersion t
      else if name = "TAG" then readShorthand t
      else pure (unknown, t.dropWhile fun c => !isBreak c)
    match lineEnd? t with
    | some t => pure (d, afterBreak t)
    | none => .error .malformed

end Directive

end VolumeTunnel.Yaml
