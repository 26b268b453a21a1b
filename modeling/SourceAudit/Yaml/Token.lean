import SourceAudit.Yaml.Mark
/-!
# Tokens of a YAML text

The scanner cuts a YAML text into tokens: the stream's ends, directives, document markers,
the indicators that open and close block and flow collections, entries, keys and values,
anchors, aliases, tags and scalars. Block collections have no visible opening; the scanner
inserts their opening tokens and a `blockEnd` for each indentation level left.

A tag is kept as bytes, because an escape such as `%C3` in it stands for a byte, and the
bytes need not spell valid text.

Main definitions:
* `ScalarStyle`, `TokenKind`, `Token`.
-/

namespace SourceAudit.Yaml

/-- How a scalar is written. -/
inductive ScalarStyle where
  | plain
  | singleQuoted
  | doubleQuoted
  | literal
  | folded
  deriving Repr, BEq, DecidableEq, Inhabited

/-- The kinds of token, with what each carries. -/
inductive TokenKind where
  | streamStart
  | streamEnd
  | versionDirective (major minor : Nat)
  | tagDirective (handle : String) (pfx : List UInt8)
  | documentStart
  | documentEnd
  | blockSequenceStart
  | blockMappingStart
  | blockEnd
  | flowSequenceStart
  | flowSequenceEnd
  | flowMappingStart
  | flowMappingEnd
  | blockEntry
  | flowEntry
  | key
  | value
  | alias (name : String)
  | anchor (name : String)
  | tag (handle : String) (suffix : List UInt8)
  | scalar (text : String) (style : ScalarStyle)
  deriving Repr, BEq, Inhabited

/-- A token with the marks where it starts and ends. -/
structure Token where
  kind : TokenKind
  start : Mark
  stop : Mark
  deriving Repr, BEq, Inhabited

/-- A token of no width at a mark. -/
def Token.at (kind : TokenKind) (m : Mark) : Token := { kind, start := m, stop := m }

/-- The token is the stream's end. -/
def Token.isStreamEnd (t : Token) : Bool :=
  match t.kind with
  | .streamEnd => true
  | _ => false

end SourceAudit.Yaml
