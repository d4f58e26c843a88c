import VolumeTunnel.Text.Utf8
import VolumeTunnel.Yaml.Basic

/-!
# The text of a document

A document is read in pieces, each only when its beginning is needed. A piece that holds a code
point that no document may hold stops the reading there, and so do bytes that are no text. Flaws of
what comes before are met first.

* `Source.ofText`, `Source.ofBytes` : what can be read of a text and of the bytes of a file;
* `Source.ofText_eq` : a text that a document may hold can be read to its end.
-/

namespace VolumeTunnel.Yaml

/-- The text of a document as far as it can be read. -/
structure Source where
  text : Text
  /-- What stops the reading after the text, if it is not at its end there. -/
  stop : Option Flaw

namespace Source

/-- The number of code points that are asked for at a time. -/
def portion : Nat := 4096

/-- The number of code points of the first piece; a later one is a single portion. -/
def firstPiece : Nat := 2 * portion

/-- The first code point of the piece that holds the one with a number. -/
def pieceStart (n : Nat) : Nat :=
  if n < firstPiece then 0 else n / portion * portion

/-- What can be read of a text. -/
def ofText (t : Text) : Source :=
  match t.findIdx? fun c => !isAllowed c with
  | none => ⟨t, none⟩
  | some n => ⟨t.take (pieceStart n), some .malformed⟩

theorem ofText_eq {t : Text} (h : t.all isAllowed) : ofText t = ⟨t, none⟩ := by
  have h : t.findIdx? (fun c => !isAllowed c) = none := by
    simpa [List.findIdx?_eq_none_iff] using h
  simp [ofText, h]

/-! ## Bytes -/

/-- The number of bytes that become text at a time. -/
def byteBlock : Nat := 8192

/-- The first characters, whose bytes are no more than `most`. -/
def takeBytes : Nat → List Char → List Char
  | _, [] => []
  | most, c :: cs =>
    let width := (Utf8.encodeChar c).length
    if width ≤ most then c :: takeBytes (most - width) cs else []

/-- The characters without a carriage return at the end, which waits for what follows it. -/
def withoutLastReturn (cs : List Char) : List Char :=
  if cs.getLast? = some '\r' then cs.dropLast else cs

/-- The text that is there before the block in which a character is seen not to go on, given the
characters before it and the bytes from it on. At the end of the bytes that is seen last. -/
def textBefore (good : List Char) (bad : List UInt8) : Text :=
  let width := Utf8.brokenWidth bad
  let seen := good.foldr (fun c n => (Utf8.encodeChar c).length + n) width
  let read := if width = bad.length then good else takeBytes (seen / byteBlock * byteBlock) good
  withLineFeeds (Text.ofChars (withoutLastReturn read))

/-- What can be read of bytes. -/
def ofBytes (bytes : List UInt8) : Source :=
  match Utf8.splitGood bytes with
  | (good, []) => ofText (withLineFeeds (Text.ofChars good))
  | (good, bad) =>
    let t := textBefore good bad
    let s := ofText (t.take (pieceStart t.length))
    { s with stop := s.stop.or (some (.fault .malformedBytes)) }

end Source

end VolumeTunnel.Yaml
