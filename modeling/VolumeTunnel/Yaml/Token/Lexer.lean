import VolumeTunnel.Yaml.Block
import VolumeTunnel.Yaml.Plain
import VolumeTunnel.Yaml.Quoted
import VolumeTunnel.Yaml.Source
import VolumeTunnel.Yaml.Token.Basic

/-!
# The tokens of a document

A document is read token by token. Indentation begins and ends block collections, and brackets flow
collections. Whether a scalar is a key is only known at the colon after it, so the place of a
possible key is kept for each depth of brackets, and the tokens that make it a key are put in front
of it then. A possible key stays one for a single line and 1024 code points.

`Token.ofSource` gives the tokens of a document. Where it cannot be read on they end with a bad one;
a possible key that is not decided by then, and all after it, are left out.
-/

namespace VolumeTunnel.Yaml

/-- The place of a token that may turn out to begin a key. -/
structure PossibleKey where
  /-- The number of tokens before it. -/
  number : Nat
  /-- Whether nothing else may stand here. -/
  required : Bool
  index : Nat
  line : Nat
  column : Nat

/-- A document read up to a place. -/
structure Lexer where
  cursor : Cursor
  /-- The first column at which the text of the innermost block collection may go on; zero outside
  of all collections. -/
  width : Nat
  /-- The widths around it, the nearest first. -/
  outerWidths : List Nat
  /-- Whether a key may begin here. -/
  keyAllowed : Bool
  /-- The possible key inside the innermost brackets. -/
  possibleKey : Option PossibleKey
  /-- The possible keys around the brackets, the nearest first. -/
  outerKeys : List (Option PossibleKey)
  /-- The tokens so far, the last first. -/
  tokens : List Token

namespace Lexer

/-- Nothing read yet. -/
def start (t : Text) : Lexer :=
  ⟨.start t, 0, [], true, none, [], []⟩

/-- Whether the place is inside brackets. -/
def inFlow (l : Lexer) : Bool :=
  !l.outerKeys.isEmpty

/-- Goes on to the place at which `rest` begins. -/
def moveTo (l : Lexer) (rest : Text) : Lexer :=
  { l with cursor := l.cursor.moveTo rest }

/-- Adds a token. -/
def push (l : Lexer) (token : Token) : Lexer :=
  { l with tokens := token :: l.tokens }

/-- Adds tokens after the first `number` ones. -/
def insert (l : Lexer) (number : Nat) (tokens : List Token) : Lexer :=
  let after := l.tokens.length - number
  { l with tokens := l.tokens.take after ++ tokens.reverse ++ l.tokens.drop after }

/-- Whether a key may begin here or not. -/
def allowKey (l : Lexer) (allowed : Bool) : Lexer :=
  { l with keyAllowed := allowed }

/-- Whether a possible key is still one at the place reached. -/
def isLive (l : Lexer) (k : PossibleKey) : Bool :=
  k.line = l.cursor.line && l.cursor.index - k.index ≤ 1024

/-- Drops a possible key that is none anymore; a required one must not be dropped. -/
def refresh (l : Lexer) : Option PossibleKey → Except Flaw (Option PossibleKey)
  | none => .ok none
  | some k =>
    if l.isLive k then .ok (some k)
    else if k.required then .error .malformed
    else .ok none

/-- Drops the possible keys that are none anymore. -/
def dropStale (l : Lexer) : Except Flaw Lexer := do
  let possibleKey ← l.refresh l.possibleKey
  let outerKeys ← l.outerKeys.mapM l.refresh
  pure { l with possibleKey, outerKeys }

/-- Gives up the possible key, which must not be required. -/
def dropKey (l : Lexer) : Except Flaw Lexer :=
  match l.possibleKey with
  | some ⟨_, true, _, _, _⟩ => .error .malformed
  | _ => .ok { l with possibleKey := none }

/-- Keeps the place as that of a possible key, if a key may begin here. -/
def saveKey (l : Lexer) : Except Flaw Lexer :=
  if l.keyAllowed then do
    let l ← l.dropKey
    let p := l.cursor
    let required := !l.inFlow && l.width = p.column + 1
    pure { l with possibleKey := some ⟨l.tokens.length, required, p.index, p.line, p.column⟩ }
  else .ok l

/-- Ends block collections, the innermost first, as long as their width is above `most`. -/
def closeAbove (most : Nat) : Nat → List Nat → List Token → Nat × List Nat × List Token
  | width, [], tokens => (width, [], tokens)
  | width, outer :: widths, tokens =>
    if most < width then closeAbove most outer widths (.blockEnd :: tokens)
    else (width, outer :: widths, tokens)

/-- Ends the block collections whose width is above `most`. Brackets keep them open. -/
def unwind (l : Lexer) (most : Nat) : Lexer :=
  if l.inFlow then l
  else
    let (width, outerWidths, tokens) := closeAbove most l.width l.outerWidths l.tokens
    { l with width, outerWidths, tokens }

/-- Whether a block collection begins at a column: it is right of the innermost one. -/
def opensAt (l : Lexer) (column : Nat) : Bool :=
  l.width ≤ column

/-- Makes a column that of the innermost block collection. -/
def indent (l : Lexer) (column : Nat) : Lexer :=
  { l with width := column + 1, outerWidths := l.width :: l.outerWidths }

/-- Begins a block collection here, unless the innermost one is here. -/
def openBlock (l : Lexer) (token : Token) : Lexer :=
  if l.opensAt l.cursor.column then (l.push token).indent l.cursor.column else l

/-- Reads spaces, comments and line ends. Tells whether there was a line end. -/
def skipGap (inComment : Bool) : Text → Bool × Text
  | [] => (false, [])
  | c :: t =>
    if isBreak c then (true, (skipGap false t).2)
    else if inComment then skipGap true t
    else if isSpace c then skipGap false t
    else if c = .char '#' then skipGap true t
    else (false, c :: t)

/-- Goes on to the next token. A line end outside brackets allows a key. -/
def toToken (l : Lexer) : Lexer :=
  let t := l.cursor.rest
  let t := if l.cursor.index = 0 && startsAs (· = byteOrderMark) t then t.drop 1 else t
  let (crossed, rest) := skipGap false t
  (l.moveTo rest).allowKey (l.keyAllowed || (crossed && !l.inFlow))

/-- Ends what ends before the token that is next. -/
def endBefore (l : Lexer) : Except Flaw Lexer := do
  let l ← l.dropStale
  pure (l.unwind (l.cursor.column + 1))

/-- Ends all block collections. No key may begin after a mark between documents in its line. -/
def endBlocks (l : Lexer) : Except Flaw Lexer := do
  let l ← (l.unwind 0).dropKey
  pure (l.allowKey false)

/-- Reads a directive after its sign. -/
def readDirective (l : Lexer) (t : Text) : Except Flaw Lexer := do
  let l ← l.endBlocks
  let (d, rest) ← Directive.read t
  pure ((l.moveTo rest).push (.directive d))

/-- Reads a mark between documents. -/
def readMark (l : Lexer) (token : Token) : Except Flaw Lexer := do
  let l ← l.endBlocks
  pure ((l.moveTo (l.cursor.rest.drop 3)).push token)

/-- Reads an opening bracket. -/
def readOpening (l : Lexer) (token : Token) (t : Text) : Except Flaw Lexer := do
  let l ← l.saveKey
  let l := { l with possibleKey := none, outerKeys := l.possibleKey :: l.outerKeys }
  pure (((l.allowKey true).moveTo t).push token)

/-- Reads a closing bracket. -/
def readClosing (l : Lexer) (token : Token) (t : Text) : Except Flaw Lexer := do
  let l ← l.dropKey
  match l.outerKeys with
  | [] => .error .malformed
  | possibleKey :: outerKeys =>
    let l := { l with possibleKey, outerKeys }
    pure (((l.allowKey false).moveTo t).push token)

/-- Reads a comma inside brackets. -/
def readComma (l : Lexer) (t : Text) : Except Flaw Lexer := do
  let l ← l.dropKey
  pure (((l.allowKey true).moveTo t).push .flowEntry)

/-- Reads the indicator of an item, a key or a value that stands alone. Outside of brackets it may
begin a block collection. -/
def readIndicator (l : Lexer) (collection token : Token) (t : Text) : Except Flaw Lexer := do
  if !l.inFlow && !l.keyAllowed then .error .malformed
  else
    let l := if l.inFlow then l else l.openBlock collection
    let l ← l.dropKey
    let allowed := !l.inFlow || token = .blockEntry
    pure (((l.allowKey allowed).moveTo t).push token)

/-- Reads a colon. It makes a key of a possible one. -/
def readColon (l : Lexer) (t : Text) : Except Flaw Lexer :=
  match l.possibleKey with
  | none => l.readIndicator .blockMappingStart .value t
  | some k =>
    let opens := !l.inFlow && l.opensAt k.column
    let l := l.insert k.number (if opens then [.blockMappingStart, .key] else [.key])
    let l := if opens then l.indent k.column else l
    .ok ((({ l with possibleKey := none }.allowKey false).moveTo t).push .value)

/-- Reads a word that may be a key or a part of one. -/
def readWord (l : Lexer) (word : Except Flaw (Token × Text)) : Except Flaw Lexer := do
  let l ← l.saveKey
  let (token, rest) ← word
  pure (((l.allowKey false).moveTo rest).push token)

/-- Reads a scalar in quotes, after the first of them. -/
def readQuoted (l : Lexer) (double : Bool) (t : Text) : Except Flaw Lexer :=
  l.readWord ((Quoted.read double t).map fun (s, rest) => (.scalar s false, rest))

/-- Reads a plain scalar. A line end after it allows a key. -/
def readPlain (l : Lexer) : Except Flaw Lexer := do
  let l ← l.saveKey
  let (s, crossed, rest) := Plain.read l.inFlow l.width l.cursor.rest
  pure (((l.allowKey crossed).moveTo rest).push (.scalar s true))

/-- Reads a block scalar after its indicator. -/
def readBlock (l : Lexer) (folded : Bool) (t : Text) : Except Flaw Lexer := do
  let l ← l.dropKey
  let (s, rest) ← Block.read folded l.width t
  pure (((l.allowKey true).moveTo rest).push (.scalar s false))

/-- Whether the code point begins no plain scalar, wherever it stands. -/
def isReserved (c : CodePoint) : Bool :=
  isGap c || isOneOf ['-', '?', ':', ',', '[', ']', '\x7b', '\x7d', '#', '&', '*', '!', '|', '>',
    '\x27', '\x22', '%', '@', '\x60'] c

/-- Whether a plain scalar begins with `c` before `t`. -/
def startsPlain (inFlow : Bool) (c : CodePoint) (t : Text) : Bool :=
  !isReserved c || (!gapAt t && (c = .char '-' || (!inFlow && isOneOf ['?', ':'] c)))

/-- Reads the token that begins with `c` before `t`. -/
def readToken (l : Lexer) (c : CodePoint) (t : Text) : Except Flaw Lexer :=
  let lineStart := l.cursor.column = 0
  let plain := if startsPlain l.inFlow c t then l.readPlain else .error .malformed
  if lineStart && isDocumentMark (c :: t) then
    l.readMark (if c = .char '-' then .documentStart else .documentEnd)
  else match c with
    | .char '%' => if lineStart then l.readDirective t else plain
    | .char '[' => l.readOpening .flowSequenceStart t
    | .char '\x7b' => l.readOpening .flowMappingStart t
    | .char ']' => l.readClosing .flowSequenceEnd t
    | .char '\x7d' => l.readClosing .flowMappingEnd t
    | .char ',' => l.readComma t
    | .char '-' => if gapAt t then l.readIndicator .blockSequenceStart .blockEntry t else plain
    | .char '?' =>
      if l.inFlow || gapAt t then l.readIndicator .blockMappingStart .key t else plain
    | .char ':' => if l.inFlow || gapAt t then l.readColon t else plain
    | .char '*' => l.readWord ((Token.readName t).map fun (name, rest) => (.alias name, rest))
    | .char '&' => l.readWord ((Token.readName t).map fun (name, rest) => (.anchor name, rest))
    | .char '!' => l.readWord (Token.readTag t)
    | .char '|' => if l.inFlow then plain else l.readBlock false t
    | .char '>' => if l.inFlow then plain else l.readBlock true t
    | .char '\x27' => l.readQuoted false t
    | .char '\x22' => l.readQuoted true t
    | _ => plain

/-- The tokens up to a flaw. The parser asks for no more tokens than it needs, so those from the
first undecided key on do not come before the flaw. -/
def cut (l : Lexer) (flaw : Flaw) : List Token :=
  let keys := (l.possibleKey :: l.outerKeys).filterMap id
  let known := ((keys.filter l.isLive).map (·.number)).foldl min l.tokens.length
  l.tokens.reverse.take known ++ [.bad flaw]

/-- The flaw of a text that ends where it should go on, given what stops its reading there. -/
def unfinishedAt (stop : Option Flaw) : Flaw → Flaw
  | .unfinished => stop.getD .malformed
  | flaw => flaw

/-- Looks at the next `n` code points. Where the reading stops, they have to come before. -/
def lookAhead (stop : Option Flaw) (n : Nat) (l : Lexer) : Except Flaw Unit :=
  match stop with
  | none => .ok ()
  | some flaw => if (l.cursor.rest.drop (n - 1)).isEmpty then .error flaw else .ok ()

/-- How many code points tell whether a mark between documents begins a line here. -/
def markWidth (l : Lexer) : Nat :=
  if l.cursor.column ≠ 0 then 3 - l.cursor.column
  else if l.cursor.rest.take 3 = "---" || l.cursor.rest.take 3 = "..." then 4
  else 3

/-- How many code points tell which token is next. -/
def tokenWidth (l : Lexer) : Nat :=
  if l.cursor.column = 0 && startsAs (isOneOf ['-', '.']) l.cursor.rest then l.markWidth else 2

/-- How many code points tell that a token begun in a line has ended here. -/
def endWidth (l : Lexer) (line : Nat) : Nat :=
  if l.cursor.line ≠ line then l.markWidth
  else if startsAs (isOneOf [':']) l.cursor.rest then 2
  else 1

/-- Reads one more token; at the end there is none. -/
def step (stop : Option Flaw) (l : Lexer) : Except Flaw (Option Lexer) := do
  let p := l.toToken
  p.lookAhead stop 1
  let p ← p.endBefore
  p.lookAhead stop p.tokenWidth
  match p.cursor.rest with
  | [] => pure none
  | c :: t =>
    let next ← (p.readToken c t).mapError (unfinishedAt stop)
    next.lookAhead stop (next.endWidth p.cursor.line)
    pure (some next)

/-- The tokens up to the end, after those so far. -/
def finish (l : Lexer) : List Token :=
  match l.toToken.endBefore >>= endBlocks with
  | .error flaw => l.cut flaw
  | .ok p => (p.push .streamEnd).tokens.reverse

/-- All tokens from a place on, after those so far. The fuel bounds their number. -/
def run (stop : Option Flaw) : Nat → Lexer → List Token
  | 0, l => l.cut .malformed
  | fuel + 1, l =>
    match l.step stop with
    | .error flaw => l.cut flaw
    | .ok none => l.finish
    | .ok (some next) => run stop fuel next

end Lexer

/-- The tokens of a source. -/
def Token.ofSource (s : Source) : List Token :=
  Lexer.run s.stop (s.text.length + 1) (.start s.text)

end VolumeTunnel.Yaml
