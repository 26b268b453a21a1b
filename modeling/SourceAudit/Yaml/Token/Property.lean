import SourceAudit.Yaml.Token.Lexer
/-!
# Reading anchors, tags and directives

* An **anchor** `&name` or **alias** `*name` has a non-empty name of letters, digits, `_` and
  `-`, followed by a blank, a break, the end or one of `?:,]}%@` and the backquote.
* A **tag** is verbatim `!<uri>`, a shorthand `!handle!suffix` with a named handle, or
  `!suffix` with the primary handle `!`; `!` alone is the non-specific tag. A `%` in a URI is
  an escaped byte, and the escaped bytes of one character must form a UTF-8 sequence.
* A **directive** is `%YAML major.minor` or `%TAG handle prefix`, alone on its line but for a
  comment; other directive names are refused.

Main definitions:
* `Lexer.scanAnchor`, `Lexer.scanTag`, `Lexer.scanDirective`.
-/

namespace SourceAudit.Yaml

namespace Lexer

/-- The characters that may follow an anchor or alias name. -/
def afterName : List Char := ['?', ':', ',', ']', '}', '%', '@', '`']

/-- **Reads an anchor**, or an alias when `isAlias`. -/
def scanAnchor (s : Lexer) (isAlias : Bool) : Except Problem (Lexer × Token) :=
  let start := s.mark
  let (s, name) := s.skip.readWhile isWordChar ""
  if name.isEmpty || !(isBlankEnd s.peek || afterName.contains s.peek) then
    throw (s.problemIn (if isAlias then "while scanning an alias" else "while scanning an anchor")
      start "did not find expected alphabetic or numeric character")
  else pure (s, { kind := if isAlias then .alias name else .anchor name, start, stop := s.mark })

/-- The punctuation allowed in a tag URI besides letters, digits, `_` and `-`. -/
def uriPunctuation : List Char :=
  [';', '/', '?', ':', '@', '&', '=', '+', '$', '.', '%', '!', '~', '*', '\'', '(', ')']

/-- A character of a tag URI; inside `!<...>` also `,`, `[` and `]`. -/
def isUriChar (verbatim : Bool) (c : Char) : Bool :=
  isWordChar c || uriPunctuation.contains c || (verbatim && [',', '[', ']'].contains c)

/-- The UTF-8 length announced by a leading byte, `0` for a byte that cannot lead. -/
def utf8Width (b : Nat) : Nat :=
  if b / 128 == 0 then 1
  else if b / 32 == 6 then 2
  else if b / 16 == 14 then 3
  else if b / 8 == 30 then 4
  else 0

/-- Reads the `%HH` escapes of one character of a URI: the first byte says how many follow. -/
def uriEscapes (context : String) (start : Mark) : Nat → Nat → Lexer → List UInt8 →
    Except Problem (Lexer × List UInt8)
  | 0, _, s, acc => pure (s, acc)
  | fuel + 1, width, s, acc => do
    let octet := if s.peek == '%' then
        (hexValue (s.peek 1)).bind fun h => (hexValue (s.peek 2)).map fun l => h * 16 + l
      else none
    match octet with
    | none => throw (s.problemIn context start "did not find URI escaped octet")
    | some b =>
      let width ←
        if width == 0 then
          if utf8Width b == 0 then throw (s.problemIn context start "found an incorrect leading UTF-8 octet")
          else pure (utf8Width b)
        else if b / 64 != 2 then throw (s.problemIn context start "found an incorrect trailing UTF-8 octet")
        else pure width
      let s := s.skipN 3
      let acc := acc ++ [b.toUInt8]
      if width - 1 == 0 then pure (s, acc) else uriEscapes context start fuel (width - 1) s acc

/-- Reads a tag URI after `head` (a handle that turned out to be part of the URI, whose
leading `!` is dropped). An empty URI is an error. -/
def scanTagUri (verbatim directive : Bool) (head : String) (start : Mark) (s : Lexer) :
    Except Problem (Lexer × List UInt8) :=
  go (s.remaining + 1) s ((head.drop 1).toString.toUTF8.toList) head.length
where
  context : String := if directive then "while parsing a %TAG directive" else "while parsing a tag"
  go : Nat → Lexer → List UInt8 → Nat → Except Problem (Lexer × List UInt8)
    | 0, s, acc, _ => pure (s, acc)
    | n + 1, s, acc, length =>
      if isUriChar verbatim s.peek && !isEnd s.peek then
        if s.peek == '%' then do
          let (s, acc) ← uriEscapes context start 4 0 s acc
          go n s acc (length + 1)
        else go n s.skip (acc ++ s.peek.toString.toUTF8.toList) (length + 1)
      else if length == 0 then throw (s.problemIn context start "did not find expected tag URI")
      else pure (s, acc)

/-- Reads a tag handle: `!`, then letters and digits, then `!` if present. In a `%TAG`
directive the handle must be `!` or end in `!`. -/
def scanTagHandle (directive : Bool) (start : Mark) (s : Lexer) : Except Problem (Lexer × String) :=
  if s.peek != '!' then
    throw (s.problemIn (if directive then "while scanning a tag directive" else "while scanning a tag")
      start "did not find expected '!'")
  else
    let (s, handle) := s.skip.readWhile isWordChar "!"
    if s.peek == '!' then pure (s.skip, handle.push '!')
    else if directive && handle != "!" then
      throw (s.problemIn "while parsing a tag directive" start "did not find expected '!'")
    else pure (s, handle)

/-- **Reads a tag**, giving its handle and suffix. -/
def scanTag (s : Lexer) : Except Problem (Lexer × Token) := do
  let start := s.mark
  let (s, handle, suffix) ←
    if s.peek 1 == '<' then do
      let (s, suffix) ← scanTagUri true false "" start (s.skipN 2)
      if s.peek != '>' then
        throw (s.problemIn "while scanning a tag" start "did not find the expected '>'")
      pure (s.skip, "", suffix)
    else do
      let (s, handle) ← scanTagHandle false start s
      if 2 ≤ handle.length && handle.startsWith "!" && handle.endsWith "!" then
        let (s, suffix) ← scanTagUri false false "" start s
        pure (s, handle, suffix)
      else
        let (s, suffix) ← scanTagUri false false handle start s
        if suffix.isEmpty then pure (s, "", "!".toUTF8.toList) else pure (s, "!", suffix)
  if !isBlankEnd s.peek && (s.flowLevel == 0 || s.peek != ',') then
    throw (s.problemIn "while scanning a tag" start "did not find expected whitespace or line break")
  pure (s, { kind := .tag handle suffix, start, stop := s.mark })

/-- Reads a version number of at most nine digits. -/
def versionNumber (start : Mark) (s : Lexer) : Except Problem (Lexer × Nat) :=
  go 10 s 0 0
where
  go : Nat → Lexer → Nat → Nat → Except Problem (Lexer × Nat)
    | 0, s, value, _ => pure (s, value)
    | n + 1, s, value, length =>
      if s.peek.isDigit then
        if 9 ≤ length then
          throw (s.problemIn "while scanning a %YAML directive" start "found extremely long version number")
        else go n s.skip (value * 10 + (s.peek.toNat - '0'.toNat)) (length + 1)
      else if length == 0 then
        throw (s.problemIn "while scanning a %YAML directive" start "did not find expected version number")
      else pure (s, value)

/-- **Reads a directive line.** -/
def scanDirective (s : Lexer) : Except Problem (Lexer × Token) := do
  let start := s.mark
  let (s, name) := s.skip.readWhile isWordChar ""
  if name.isEmpty then
    throw (s.problemIn "while scanning a directive" start "could not find expected directive name")
  if !isBlankEnd s.peek then
    throw (s.problemIn "while scanning a directive" start "found unexpected non-alphabetical character")
  let (s, kind) ←
    if name == "YAML" then do
      let (s, major) ← versionNumber start (s.skipWhile isBlank)
      if s.peek != '.' then
        throw (s.problemIn "while scanning a %YAML directive" start
          "did not find expected digit or '.' character")
      let (s, minor) ← versionNumber start s.skip
      pure (s, TokenKind.versionDirective major minor)
    else if name == "TAG" then do
      let (s, handle) ← scanTagHandle true start (s.skipWhile isBlank)
      if !isBlank s.peek then
        throw (s.problemIn "while scanning a %TAG directive" start "did not find expected whitespace")
      let (s, pfx) ← scanTagUri true true "" start (s.skipWhile isBlank)
      if !isBlankEnd s.peek then
        throw (s.problemIn "while scanning a %TAG directive" start
          "did not find expected whitespace or line break")
      pure (s, TokenKind.tagDirective handle pfx)
    else throw (s.problemIn "while scanning a directive" start "found unknown directive name")
  let stop := s.mark
  let s := (s.skipWhile isBlank).skipComment
  if !isBreakEnd s.peek then
    throw (s.problemIn "while scanning a directive" start "did not find expected comment or line break")
  pure (s.skipLine, { kind, start, stop })

end Lexer

end SourceAudit.Yaml
