import SourceAudit.Yaml.Token.Scalar
import SourceAudit.Yaml.Token.Property
/-!
# Fetching tokens

Tokens are cut on demand. `Lexer.fetchNext` skips blanks, comments and line breaks (a tab
only where it cannot be indentation: in flow context or where no simple key may start),
drops stale simple keys, closes the block levels the new column leaves, and cuts the one token
that the next character starts.

A token at the head of the queue is not final while a possible simple key points at it, since
a later `:` would insert a `key` before it. `Lexer.fetchMore` therefore fetches until the
head is final; a text whose head can never become final is read to the point where that is
decided, and an error met on the way is the error of taking that token.

Main definitions:
* `Lexer.ofText`: refuses control characters and drops a leading byte order mark.
* `Lexer.fetchNext`, `Lexer.fetchMore`, `Lexer.take`.
-/

namespace SourceAudit.Yaml

/-- A character a YAML text may hold: tab, line feed, carriage return, printable ASCII, next
line, and the code points from U+00A0 on but for U+FFFE and U+FFFF. -/
def isAllowed (c : Char) : Bool :=
  let n := c.toNat
  n == 0x09 || n == 0x0A || n == 0x0D || (0x20 ≤ n && n ≤ 0x7E) || n == 0x85 ||
  (0xA0 ≤ n && n ≤ 0xD7FF) || (0xE000 ≤ n && n ≤ 0xFFFD) || 0x10000 ≤ n

namespace Lexer

/-- **A lexer at the start of a text.** A leading byte order mark is dropped; a control
character anywhere is refused, at its byte offset. -/
def ofText (t : String) : Except Problem Lexer :=
  let cs := t.toList
  let (bomBytes, cs) := match cs with
    | '\uFEFF' :: rest => (3, rest)
    | _ => (0, cs)
  let rec firstRefused : List Char → Nat → Option Nat
    | [], _ => none
    | c :: rest, off => if isAllowed c then firstRefused rest (off + c.utf8Size) else some off
  match firstRefused cs bomBytes with
  | some off => throw { problem := "control characters are not allowed", offset := off }
  | none => pure { text := cs.toArray }

/-- Cuts a token of one character. -/
def single (s : Lexer) (kind : TokenKind) : Lexer :=
  let start := s.mark
  let s := s.skip
  s.enqueue { kind, start, stop := s.mark }

/-- Skips to the start of the next token. -/
def skipToToken (s : Lexer) : Lexer := go (s.remaining + 1) s
where
  go : Nat → Lexer → Lexer
    | 0, s => s
    | n + 1, s =>
      let s := if s.mark.column == 0 && s.peek == '\uFEFF' then s.skip else s
      let tabs := s.flowLevel != 0 || !s.keyAllowed
      let s := (s.skipWhile (fun c => c == ' ' || (tabs && c == '\t'))).skipComment
      if isBreak s.peek then
        let s := s.skipLine
        go n (if s.flowLevel == 0 then { s with keyAllowed := true } else s)
      else s

/-- The stream's start. -/
def fetchStreamStart (s : Lexer) : Lexer :=
  { s with indent := -1, keys := {} :: s.keys, keyAllowed := true, started := true }.enqueue
    (Token.at .streamStart s.mark)

/-- The stream's end, on a line of its own. -/
def fetchStreamEnd (s : Lexer) : Except Problem Lexer := do
  let s := if s.mark.column != 0 then
    { s with mark := { s.mark with column := 0, line := s.mark.line + 1 } } else s
  let s ← (s.unrollIndent (-1)).removeKey
  pure ({ s with keyAllowed := false }.enqueue (Token.at .streamEnd s.mark))

/-- A directive, which closes every block level. -/
def fetchDirective (s : Lexer) : Except Problem Lexer := do
  let s ← (s.unrollIndent (-1)).removeKey
  let (s, t) ← scanDirective { s with keyAllowed := false }
  pure (s.enqueue t)

/-- A document marker, which closes every block level. -/
def fetchMarker (s : Lexer) (kind : TokenKind) : Except Problem Lexer := do
  let s ← (s.unrollIndent (-1)).removeKey
  let start := s.mark
  let s := { s with keyAllowed := false }.skipN 3
  pure (s.enqueue { kind, start, stop := s.mark })

/-- `[` or `{`: may be a simple key, and a simple key may follow. -/
def fetchFlowStart (s : Lexer) (kind : TokenKind) : Except Problem Lexer := do
  let s ← s.saveKey
  pure ({ s.increaseFlow with keyAllowed := true }.single kind)

/-- `]` or `}`. -/
def fetchFlowEnd (s : Lexer) (kind : TokenKind) : Except Problem Lexer := do
  let s ← s.removeKey
  pure ({ s.decreaseFlow with keyAllowed := false }.single kind)

/-- `,` in flow context. -/
def fetchFlowEntry (s : Lexer) : Except Problem Lexer := do
  let s ← s.removeKey
  pure ({ s with keyAllowed := true }.single .flowEntry)

/-- `-` followed by a blank: a block sequence entry, which may open a block sequence. -/
def fetchBlockEntry (s : Lexer) : Except Problem Lexer := do
  let s ← if s.flowLevel == 0 then
      if !s.keyAllowed then
        throw (s.problemHere "block sequence entries are not allowed in this context")
      else pure (s.rollIndent s.mark.column none .blockSequenceStart s.mark)
    else pure s
  let s ← s.removeKey
  pure ({ s with keyAllowed := true }.single .blockEntry)

/-- `?`: an explicit key, which may open a block mapping. -/
def fetchKey (s : Lexer) : Except Problem Lexer := do
  let s ← if s.flowLevel == 0 then
      if !s.keyAllowed then
        throw (s.problemHere "mapping keys are not allowed in this context")
      else pure (s.rollIndent s.mark.column none .blockMappingStart s.mark)
    else pure s
  let s ← s.removeKey
  pure ({ s with keyAllowed := s.flowLevel == 0 }.single .key)

/-- `:`: a value. After a possible simple key, a `key` token is inserted where that key began,
with a `blockMappingStart` before it when it opens a deeper block level. -/
def fetchValue (s : Lexer) : Except Problem Lexer :=
  match s.keys with
  | k :: rest =>
    if k.possible then
      let s := s.insertAt (k.tokenNumber - s.taken) (Token.at .key k.mark)
      let s := s.rollIndent k.mark.column (some k.tokenNumber) .blockMappingStart k.mark
      pure ({ s with keys := { k with possible := false } :: rest, keyAllowed := false }.single .value)
    else complex s
  | [] => complex s
where
  complex (s : Lexer) : Except Problem Lexer := do
    let s ← if s.flowLevel == 0 then
        if !s.keyAllowed then
          throw (s.problemHere "mapping values are not allowed in this context")
        else pure (s.rollIndent s.mark.column none .blockMappingStart s.mark)
      else pure s
    pure ({ s with keyAllowed := s.flowLevel == 0 }.single .value)

/-- An anchor or alias, which may be a simple key. -/
def fetchAnchor (s : Lexer) (isAlias : Bool) : Except Problem Lexer := do
  let s ← s.saveKey
  let (s, t) ← scanAnchor { s with keyAllowed := false } isAlias
  pure (s.enqueue t)

/-- A tag, which may be a simple key. -/
def fetchTag (s : Lexer) : Except Problem Lexer := do
  let s ← s.saveKey
  let (s, t) ← scanTag { s with keyAllowed := false }
  pure (s.enqueue t)

/-- A block scalar; a simple key may follow it. -/
def fetchBlockScalar (s : Lexer) (literal : Bool) : Except Problem Lexer := do
  let s ← s.removeKey
  let (s, t) ← scanBlock { s with keyAllowed := true } literal
  pure (s.enqueue t)

/-- A quoted scalar, which may be a simple key. -/
def fetchQuoted (s : Lexer) (single : Bool) : Except Problem Lexer := do
  let s ← s.saveKey
  let (s, t) ← scanQuoted { s with keyAllowed := false } single
  pure (s.enqueue t)

/-- A plain scalar, which may be a simple key. -/
def fetchPlain (s : Lexer) : Except Problem Lexer := do
  let s ← s.saveKey
  let (s, t) ← scanPlain { s with keyAllowed := false }
  pure (s.enqueue t)

/-- The characters that cannot start a plain scalar (some of them only in some places). -/
def indicators : List Char :=
  ['-', '?', ':', ',', '[', ']', '{', '}', '#', '&', '*', '!', '|', '>', '\'', '"', '%', '@', '`']

/-- **Cuts the next token** onto the queue. -/
def fetchNext (s : Lexer) : Except Problem Lexer := do
  if !s.started then return s.fetchStreamStart
  let s ← s.skipToToken.staleKeys
  let s := s.unrollIndent s.mark.column
  let c := s.peek
  let flow := s.flowLevel != 0
  if isEnd c then s.fetchStreamEnd
  else if s.mark.column == 0 && c == '%' then s.fetchDirective
  else if s.atMarker '-' then s.fetchMarker .documentStart
  else if s.atMarker '.' then s.fetchMarker .documentEnd
  else if c == '[' then s.fetchFlowStart .flowSequenceStart
  else if c == '{' then s.fetchFlowStart .flowMappingStart
  else if c == ']' then s.fetchFlowEnd .flowSequenceEnd
  else if c == '}' then s.fetchFlowEnd .flowMappingEnd
  else if c == ',' then s.fetchFlowEntry
  else if c == '-' && isBlankEnd (s.peek 1) then s.fetchBlockEntry
  else if c == '?' && (flow || isBlankEnd (s.peek 1)) then s.fetchKey
  else if c == ':' && (flow || isBlankEnd (s.peek 1)) then s.fetchValue
  else if c == '*' then s.fetchAnchor true
  else if c == '&' then s.fetchAnchor false
  else if c == '!' then s.fetchTag
  else if c == '|' && !flow then s.fetchBlockScalar true
  else if c == '>' && !flow then s.fetchBlockScalar false
  else if c == '\'' then s.fetchQuoted true
  else if c == '"' then s.fetchQuoted false
  else if !(isBlankEnd c || indicators.contains c) || (c == '-' && !isBlank (s.peek 1)) ||
      (!flow && (c == '?' || c == ':') && !isBlankEnd (s.peek 1)) then s.fetchPlain
  else throw (s.problemIn "while scanning for the next token" s.mark
    "found character that cannot start any token")

/-- The head of the queue cannot change any more: no possible simple key points at it. -/
def headFinal (s : Lexer) : Bool :=
  !s.queue.isEmpty && !s.keys.any fun k => k.possible && k.tokenNumber == s.taken

/-- **Fetches until the head of the queue is final.** -/
def fetchMore (s : Lexer) : Except Problem Lexer := go (s.remaining + 8) s
where
  go : Nat → Lexer → Except Problem Lexer
    | 0, s => pure s
    | n + 1, s => do
      if s.queue.isEmpty then go n (← s.fetchNext)
      else
        let s ← s.staleKeys
        if s.headFinal then pure s else go n (← s.fetchNext)

/-- Takes the head token off the queue. -/
def take (s : Lexer) : Lexer := { s with queue := s.queue.drop 1, taken := s.taken + 1 }

end Lexer

end SourceAudit.Yaml
