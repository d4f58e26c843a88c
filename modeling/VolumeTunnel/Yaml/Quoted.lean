import VolumeTunnel.Text.Numeral
import VolumeTunnel.Yaml.Basic

/-!
# Quoted scalars

Text between single or double quotes. Between single quotes a quote is written twice and all else
stands for itself. Between double quotes a backslash begins an escape. In both, the line ends that
the text runs over are folded, with the blanks around them.

`Quoted.read` gives the text of a scalar after its opening quote, and what follows the closing one.
-/

namespace VolumeTunnel.Yaml.Quoted

/-- The code point that a backslash and a letter stand for. -/
def simpleEscape? : Char → Option Char
  | '0' => some '\x00'
  | 'a' => some '\x07'
  | 'b' => some '\x08'
  | 't' => some '\t'
  | '\t' => some '\t'
  | 'n' => some '\n'
  | 'v' => some '\x0b'
  | 'f' => some '\x0c'
  | 'r' => some '\r'
  | 'e' => some '\x1b'
  | ' ' => some ' '
  | '\x22' => some '\x22'
  | '\\' => some '\\'
  | '/' => some '/'
  | 'N' => some '\x85'
  | '_' => some '\xa0'
  | 'L' => some '\u2028'
  | 'P' => some '\u2029'
  | _ => none

/-- How many hexadecimal digits follow a backslash and a letter. -/
def escapeWidth? : Char → Option Nat
  | 'x' => some 2
  | 'u' => some 4
  | 'U' => some 8
  | _ => none

/-- The code point with a number. -/
def codePoint (n : Nat) : Except Flaw CodePoint :=
  if Nat.pow 2 31 ≤ n then .error (.fault .tooLarge)
  else match CodePoint.ofNat? n with
    | some c => .ok c
    | none => .error (.fault .wrongValue)

/-- The number of `count` hexadecimal digits at the start of a text. -/
def hexNumber (count : Nat) (t : Text) : Except Flaw Nat :=
  match (t.take count).mapM CodePoint.hexDigit? with
  | some ds => if ds.length = count then .ok (Text.natValue 16 ds) else .error .unfinished
  | none => .error .malformed

/-- Reads the line ends that follow one, with the blanks around them; no mark between documents may
begin a line. `atStart` tells whether a line begins here. -/
def readBreaks (atStart : Bool) : Text → Except Flaw (Text × Text)
  | [] => .ok ([], [])
  | c :: t =>
    if atStart && isDocumentMark (c :: t) then .error .malformed
    else if isSpaceOrTab c then readBreaks false t
    else if isBreak c then (readBreaks true t).map fun (bs, rest) => (breakText c :: bs, rest)
    else .ok ([], c :: t)

/-- Reads the escape after a backslash: what it stands for, and what follows it. -/
def readEscape : Text → Except Flaw (Text × Text)
  | .char c :: t =>
    match simpleEscape? c, escapeWidth? c with
    | some d, _ => .ok ([.char d], t)
    | none, some width => do
      let c ← codePoint (← hexNumber width t)
      pure ([c], t.drop width)
    | none, none => if isBreak (.char c) then readBreaks true t else .error .malformed
  | t => .error (.before t)

/-- Reads up to the closing quote. The fuel bounds the number of code points. -/
def readWith (double : Bool) : Nat → Text → Except Flaw (Text × Text)
  | 0, _ => .error .malformed
  | _ + 1, [] => .error .unfinished
  | fuel + 1, c :: t =>
    let go (part rest : Text) : Except Flaw (Text × Text) :=
      (readWith double fuel rest).map fun (s, rest) => (part ++ s, rest)
    if c = .char '\x22' && double then .ok ([], t)
    else if c = .char '\x27' && !double then
      match t with
      | .char '\x27' :: t => go [.char '\x27'] t
      | _ => .ok ([], t)
    else if c = .char '\\' && double then do
      let (part, rest) ← readEscape t
      go part rest
    else if isGap c then
      match (c :: t).dropWhile isSpaceOrTab with
      | [] => .error .unfinished
      | b :: rest =>
        if isBreak b then do
          let (others, rest) ← readBreaks true rest
          go (foldBreaks b others) rest
        else go [c] t
    else go [c] t

/-- Reads up to the closing quote. -/
def read (double : Bool) (t : Text) : Except Flaw (Text × Text) :=
  readWith double (t.length + 1) t

end VolumeTunnel.Yaml.Quoted
