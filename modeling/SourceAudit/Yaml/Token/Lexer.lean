import SourceAudit.Yaml.Token
/-!
# The lexer's state

Cutting a YAML text into tokens needs more than a position. The lexer also keeps

* the queue of tokens cut but not yet taken, and how many were taken;
* the flow level (how many `[` and `{` are open) and the stack of block indentation levels;
* whether a simple key may start here, and per flow level the **possible simple key**: the
  place where the last token that could be a key began. When a `:` follows on the same line
  and within 1024 characters, a `key` token is inserted there, and a `blockMappingStart`
  before it when the key opens a deeper indentation. A possible key is **required** when it
  stands at the current indentation in block context: losing it is an error.

The text is a character array; reading past its end gives NUL, which a YAML text cannot
contain (the reader refuses control characters first).

Main definitions:
* `Lexer`, `Lexer.peek`, `Lexer.skip`, `Lexer.skipLine`, `Lexer.readLine`.
* `Lexer.staleKeys`, `Lexer.saveKey`, `Lexer.removeKey`: the possible simple keys.
* `Lexer.rollIndent`, `Lexer.unrollIndent`: opening and closing block levels.
-/

namespace SourceAudit.Yaml

/-- A line break: carriage return, line feed, next line, line or paragraph separator. -/
def isBreak (c : Char) : Bool :=
  c == '\r' || c == '\n' || c == '\x85' || c == '\u2028' || c == '\u2029'

/-- A space or a tab. -/
def isBlank (c : Char) : Bool := c == ' ' || c == '\t'

/-- The end of the text. -/
def isEnd (c : Char) : Bool := c == '\x00'

/-- A blank, a line break or the end. -/
def isBlankEnd (c : Char) : Bool := isBlank c || isBreak c || isEnd c

/-- A line break or the end. -/
def isBreakEnd (c : Char) : Bool := isBreak c || isEnd c

/-- A character of an anchor name or tag handle: ASCII letters, digits, `_` and `-`. -/
def isWordChar (c : Char) : Bool := c.isAlphanum || c == '_' || c == '-'

/-- The value of a hex digit. -/
def hexValue (c : Char) : Option Nat :=
  if '0' ≤ c && c ≤ '9' then some (c.toNat - '0'.toNat)
  else if 'a' ≤ c && c ≤ 'f' then some (c.toNat - 'a'.toNat + 10)
  else if 'A' ≤ c && c ≤ 'F' then some (c.toNat - 'A'.toNat + 10)
  else none

/-- A place where a simple key may have begun. -/
structure SimpleKey where
  possible : Bool := false
  required : Bool := false
  tokenNumber : Nat := 0
  mark : Mark := {}
  deriving Repr, Inhabited

/-- The state of cutting a text into tokens. -/
structure Lexer where
  text : Array Char
  mark : Mark := {}
  queue : List Token := []
  /-- Tokens already taken off the queue. -/
  taken : Nat := 0
  started : Bool := false
  flowLevel : Nat := 0
  indent : Int := -1
  indents : List Int := []
  keyAllowed : Bool := false
  /-- The possible simple keys, innermost flow level first. -/
  keys : List SimpleKey := []
  deriving Inhabited

namespace Lexer

/-- The character `k` places ahead. -/
def peek (s : Lexer) (k : Nat := 0) : Char := s.text.getD (s.mark.index + k) '\x00'

/-- Characters left to read. -/
def remaining (s : Lexer) : Nat := s.text.size - s.mark.index

/-- Steps over one character of the line. -/
def skip (s : Lexer) : Lexer :=
  { s with mark := { s.mark with index := s.mark.index + 1, column := s.mark.column + 1 } }

/-- Steps over `n` characters of the line. -/
def skipN (s : Lexer) : Nat → Lexer
  | 0 => s
  | n + 1 => (s.skip).skipN n

/-- The next line starts `width` characters on. -/
def newLine (s : Lexer) (width : Nat) : Lexer :=
  { s with mark := { index := s.mark.index + width, line := s.mark.line + 1, column := 0 } }

/-- Steps over a line break, a carriage return and line feed counting as one. -/
def skipLine (s : Lexer) : Lexer :=
  if s.peek == '\r' && s.peek 1 == '\n' then s.newLine 2
  else if isBreak s.peek then s.newLine 1
  else s

/-- Steps over a line break, adding it to `acc`: the three ASCII and next-line breaks become
a line feed, the two separators stay. -/
def readLine (s : Lexer) (acc : String) : Lexer × String :=
  let c := s.peek
  if c == '\r' && s.peek 1 == '\n' then (s.newLine 2, acc.push '\n')
  else if c == '\r' || c == '\n' || c == '\x85' then (s.newLine 1, acc.push '\n')
  else if c == '\u2028' || c == '\u2029' then (s.newLine 1, acc.push c)
  else (s, acc)

/-- Steps over one character, adding it to `acc`. -/
def read (s : Lexer) (acc : String) : Lexer × String := (s.skip, acc.push s.peek)

/-- Steps over characters while they satisfy `p`. -/
def skipWhile (p : Char → Bool) (s : Lexer) : Lexer := go (s.remaining + 1) s
where
  go : Nat → Lexer → Lexer
    | 0, s => s
    | n + 1, s => if p s.peek && !isEnd s.peek then go n s.skip else s

/-- Reads characters into `acc` while they satisfy `p`. -/
def readWhile (p : Char → Bool) (s : Lexer) (acc : String) : Lexer × String :=
  go (s.remaining + 1) s acc
where
  go : Nat → Lexer → String → Lexer × String
    | 0, s, acc => (s, acc)
    | n + 1, s, acc => if p s.peek && !isEnd s.peek then go n s.skip (acc.push s.peek) else (s, acc)

/-- Steps over a comment, up to the line break. -/
def skipComment (s : Lexer) : Lexer :=
  if s.peek == '#' then s.skipWhile (fun c => !isBreakEnd c) else s

/-- The next three characters are `c` and a blank, break or the end follows, at column 0:
a document marker. -/
def atMarker (s : Lexer) (c : Char) : Bool :=
  s.mark.column == 0 && s.peek == c && s.peek 1 == c && s.peek 2 == c && isBlankEnd (s.peek 3)

/-- The next three characters make a document marker. -/
def atDocumentMarker (s : Lexer) : Bool := s.atMarker '-' || s.atMarker '.'

/-- Adds a token at the end of the queue. -/
def enqueue (s : Lexer) (t : Token) : Lexer := { s with queue := s.queue ++ [t] }

/-- Inserts a token before the `i`-th queued one. -/
def insertAt (s : Lexer) (i : Nat) (t : Token) : Lexer :=
  { s with queue := s.queue.take i ++ t :: s.queue.drop i }

/-- A problem at the lexer's mark, met while reading what began at `contextMark`. -/
def problemIn (s : Lexer) (context : String) (contextMark : Mark) (problem : String) :
    Problem :=
  { problem, problemMark := s.mark, context := some context, contextMark }

/-- A problem at the lexer's mark with no context. -/
def problemHere (s : Lexer) (problem : String) : Problem :=
  { problem, problemMark := s.mark, contextMark := s.mark }

/-- The problem of a required simple key that can no longer be one. -/
def lostKey (s : Lexer) (k : SimpleKey) : Problem :=
  s.problemIn "while scanning a simple key" k.mark "could not find expected ':'"

/-- Drops the possible keys that can no longer be keys: those on an earlier line or more
than 1024 characters back. Losing a required one is an error. The outermost level is
checked first. -/
def staleKeys (s : Lexer) : Except Problem Lexer := do
  let keys ← s.keys.reverse.mapM fun k =>
    if k.possible && (k.mark.line < s.mark.line || k.mark.index + 1024 < s.mark.index) then
      if k.required then throw (s.lostKey k) else pure { k with possible := false }
    else pure k
  pure { s with keys := keys.reverse }

/-- Forgets the possible key of the current flow level; a required one is an error. -/
def removeKey (s : Lexer) : Except Problem Lexer :=
  match s.keys with
  | k :: rest =>
    if k.possible && k.required then throw (s.lostKey k)
    else pure { s with keys := { k with possible := false } :: rest }
  | [] => pure s

/-- Records that a simple key may begin here, when one may. -/
def saveKey (s : Lexer) : Except Problem Lexer :=
  if s.keyAllowed then do
    let key : SimpleKey :=
      { possible := true, required := s.flowLevel == 0 && s.indent == (s.mark.column : Int)
        tokenNumber := s.taken + s.queue.length, mark := s.mark }
    let s ← s.removeKey
    pure { s with keys := key :: s.keys.drop 1 }
  else pure s

/-- Opens a flow level, with no possible key of its own yet. -/
def increaseFlow (s : Lexer) : Lexer :=
  { s with keys := {} :: s.keys, flowLevel := s.flowLevel + 1 }

/-- Closes a flow level. -/
def decreaseFlow (s : Lexer) : Lexer :=
  if s.flowLevel == 0 then s
  else { s with keys := s.keys.drop 1, flowLevel := s.flowLevel - 1 }

/-- In block context, opens an indentation level at `column` if it is deeper than the current
one, with a token of `kind`: at the end of the queue, or before the token numbered `number`. -/
def rollIndent (s : Lexer) (column : Int) (number : Option Nat) (kind : TokenKind)
    (m : Mark) : Lexer :=
  if s.flowLevel != 0 || column ≤ s.indent then s
  else
    let s := { s with indents := s.indent :: s.indents, indent := column }
    match number with
    | none => s.enqueue (Token.at kind m)
    | some n => s.insertAt (n - s.taken) (Token.at kind m)

/-- In block context, closes every indentation level deeper than `column`, each with a
`blockEnd`. -/
def unrollIndent (s : Lexer) (column : Int) : Lexer :=
  if s.flowLevel != 0 then s else go s.indents s
where
  go : List Int → Lexer → Lexer
    | [], s => s
    | i :: rest, s =>
      if column < s.indent then
        go rest { s.enqueue (Token.at .blockEnd s.mark) with indent := i, indents := rest }
      else s

end Lexer

end SourceAudit.Yaml
