/-!
# Why a JSON text is refused

A JSON reader stops at the first fault it meets. The fault is one of a fixed set of lexical and
structural causes, or a sentence from the typed layer above the reader (a missing field, a value
of the wrong kind). It is placed at a line and a column, both counted the way the reader counts
them: lines from one, columns as the number of bytes after the last line feed. A sentence from
the typed layer starts without a place and gets the reader's position when the value it concerns
is closed.

Main definitions:
* `JsonFault`, `JsonFault.text`.
* `JsonError`, `JsonError.render`.
* `placeOf`: the line and column of a byte offset.
-/

namespace SourceAudit.Json

/-- A cause for refusing a JSON text. -/
inductive JsonFault where
  | eofInList
  | eofInObject
  | eofInString
  | eofInValue
  | expectedColon
  | expectedListCommaOrEnd
  | expectedObjectCommaOrEnd
  | expectedIdent
  | expectedValue
  | invalidEscape
  | invalidNumber
  | numberOutOfRange
  | controlCharacter
  | keyMustBeString
  | loneSurrogate
  | trailingComma
  | trailingCharacters
  | unexpectedEndOfHexEscape
  | message (text : String)
  deriving Repr, BEq, DecidableEq, Inhabited

/-- The words for a fault. -/
def JsonFault.text : JsonFault → String
  | .eofInList => "EOF while parsing a list"
  | .eofInObject => "EOF while parsing an object"
  | .eofInString => "EOF while parsing a string"
  | .eofInValue => "EOF while parsing a value"
  | .expectedColon => "expected `:`"
  | .expectedListCommaOrEnd => "expected `,` or `]`"
  | .expectedObjectCommaOrEnd => "expected `,` or `\x7d`"
  | .expectedIdent => "expected ident"
  | .expectedValue => "expected value"
  | .invalidEscape => "invalid escape"
  | .invalidNumber => "invalid number"
  | .numberOutOfRange => "number out of range"
  | .controlCharacter => "control character (\\u0000-\\u001F) found while parsing a string"
  | .keyMustBeString => "key must be a string"
  | .loneSurrogate => "lone leading surrogate in hex escape"
  | .trailingComma => "trailing comma"
  | .trailingCharacters => "trailing characters"
  | .unexpectedEndOfHexEscape => "unexpected end of hex escape"
  | .message text => text

/-- A fault with its place; line `0` means not placed yet. -/
structure JsonError where
  fault : JsonFault
  line : Nat := 0
  column : Nat := 0
  deriving Repr, BEq, DecidableEq, Inhabited

/-- The fault, then its place when it has one. -/
def JsonError.render (e : JsonError) : String :=
  if e.line == 0 then e.fault.text
  else e.fault.text ++ " at line " ++ toString e.line ++ " column " ++ toString e.column

/-- The line and column of the byte offset `i`: one more than the line feeds before it, and the
bytes between the last of them and `i`. -/
def placeOf (bytes : ByteArray) (i : Nat) : Nat × Nat :=
  let before := (bytes.extract 0 i).toList
  let feeds := before.filter (· == 10)
  let lineStart := match before.reverse.findIdx? (· == 10) with
    | some k => before.length - k
    | none => 0
  (1 + feeds.length, before.length - lineStart)

example : placeOf "ab\ncd".toUTF8 4 = (2, 1) := by decide +kernel

end SourceAudit.Json
