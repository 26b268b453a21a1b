import SourceAudit.Yaml.Token.Lexer
/-!
# Reading scalars

The three ways to write a scalar, each read into its text.

* **Plain**: up to `: `, ` #`, a document marker, a line indented no deeper than the
  enclosing block, and in flow context up to `,`, `[`, `]`, `{` and `}`. A `:` before one of
  `,?[]{}` in flow context is refused.
* **Quoted**: between `'` (where `''` is a quote) or `"` (with backslash escapes, including
  `\xHH`, `\uHHHH`, `\UHHHHHHHH` and an escaped line break, which joins two lines).
* **Block**: `|` keeps line breaks, `>` folds them; an optional chomping indicator (`+` keeps
  all trailing breaks, `-` none) and indentation digit follow the indicator.

Plain and quoted scalars **fold** their line breaks: a single break between two lines becomes
a space, and a run of `n + 1` breaks becomes `n` of them; blanks around breaks are dropped,
blanks within a line kept.

Main definitions:
* `Folding`, `Folding.place`.
* `Lexer.scanPlain`, `Lexer.scanQuoted`, `Lexer.scanBlock`.
-/

namespace SourceAudit.Yaml

/-- The text of a scalar being read, with the blanks and breaks read since its last character
not yet placed. -/
structure Folding where
  text : String := ""
  leadingBreak : String := ""
  trailingBreaks : String := ""
  whitespaces : String := ""
  /-- A line break has been read since the last character. -/
  leadingBlanks : Bool := false
  deriving Inhabited

/-- Places the pending blanks and breaks into the text: after a line feed, the breaks that
follow it, or one space if none follow; after another break, all breaks; with no break, the
blanks themselves. -/
def Folding.place (f : Folding) : Folding :=
  if f.leadingBlanks then
    if f.leadingBreak.startsWith "\n" then
      if f.trailingBreaks.isEmpty then { f with text := f.text.push ' ', leadingBreak := "" }
      else { f with text := f.text ++ f.trailingBreaks, trailingBreaks := "", leadingBreak := "" }
    else
      { f with text := f.text ++ f.leadingBreak ++ f.trailingBreaks, leadingBreak := ""
               trailingBreaks := "" }
  else { f with text := f.text ++ f.whitespaces, whitespaces := "" }

namespace Lexer

/-- Reads a run of blanks and line breaks into the pending parts of a folding. The blanks of
a line are kept until its first break; after one, blanks are dropped and further breaks
collected. With `tabGuard = some (start, indent)`, a tab left of `indent` after a break is
an error (plain scalars). -/
def foldBlanks (tabGuard : Option (Mark × Int)) : Nat → Lexer → Folding →
    Except Problem (Lexer × Folding)
  | 0, s, f => pure (s, f)
  | n + 1, s, f =>
    let c := s.peek
    if isBlank c then
      match tabGuard with
      | some (start, indent) =>
        if f.leadingBlanks && (s.mark.column : Int) < indent && c == '\t' then
          throw (s.problemIn "while scanning a plain scalar" start
            "found a tab character that violates indentation")
        else if f.leadingBlanks then foldBlanks tabGuard n s.skip f
        else
          let (s, ws) := s.read f.whitespaces
          foldBlanks tabGuard n s { f with whitespaces := ws }
      | none =>
        if f.leadingBlanks then foldBlanks tabGuard n s.skip f
        else
          let (s, ws) := s.read f.whitespaces
          foldBlanks tabGuard n s { f with whitespaces := ws }
    else if isBreak c then
      if f.leadingBlanks then
        let (s, tb) := s.readLine f.trailingBreaks
        foldBlanks tabGuard n s { f with trailingBreaks := tb }
      else
        let (s, lb) := s.readLine f.leadingBreak
        foldBlanks tabGuard n s { f with whitespaces := "", leadingBreak := lb, leadingBlanks := true }
    else pure (s, f)

/-- The characters that end a plain scalar in flow context. -/
def flowEnders : List Char := [',', '[', ']', '{', '}']

/-- The characters after which a `:` in a flow-context plain scalar is refused. -/
def refusedAfterColon : List Char := [',', '?', '[', ']', '{', '}']

/-- Reads the non-blank characters of one line of a plain scalar, placing what is pending
before the first of them; returns the mark after the last character read. -/
def plainWord (start : Mark) : Nat → Lexer → Folding → Mark →
    Except Problem (Lexer × Folding × Mark)
  | 0, s, f, stop => pure (s, f, stop)
  | n + 1, s, f, stop =>
    let c := s.peek
    if isBlankEnd c then pure (s, f, stop)
    else if s.flowLevel != 0 && c == ':' && refusedAfterColon.contains (s.peek 1) then
      throw (s.problemIn "while scanning a plain scalar" start "found unexpected ':'")
    else if (c == ':' && isBlankEnd (s.peek 1)) || (s.flowLevel != 0 && flowEnders.contains c) then
      pure (s, f, stop)
    else
      let f := if f.leadingBlanks || !f.whitespaces.isEmpty then
        { f.place with leadingBlanks := false } else f
      let (s, text) := s.read f.text
      plainWord start n s { f with text } s.mark

/-- Reads the lines of a plain scalar. -/
def plainLines (start : Mark) (indent : Int) : Nat → Lexer → Folding → Mark →
    Except Problem (Lexer × Folding × Mark)
  | 0, s, f, stop => pure (s, f, stop)
  | n + 1, s, f, stop =>
    if s.atDocumentMarker || s.peek == '#' then pure (s, f, stop)
    else do
      let (s, f, stop) ← plainWord start (s.remaining + 1) s f stop
      if !(isBlank s.peek || isBreak s.peek) then pure (s, f, stop)
      else
        let (s, f) ← foldBlanks (some (start, indent)) (s.remaining + 1) s f
        if s.flowLevel == 0 && (s.mark.column : Int) < indent then pure (s, f, stop)
        else plainLines start indent n s f stop

/-- **Reads a plain scalar.** A line break inside it lets a simple key start after it. -/
def scanPlain (s : Lexer) : Except Problem (Lexer × Token) := do
  let start := s.mark
  let (s, f, stop) ← plainLines start (s.indent + 1) (s.remaining + 1) s {} start
  let s := if f.leadingBlanks then { s with keyAllowed := true } else s
  pure (s, { kind := .scalar f.text .plain, start, stop })

/-- The character a one-letter escape stands for. -/
def simpleEscape : Char → Option Char
  | '0' => some '\x00'
  | 'a' => some '\x07'
  | 'b' => some '\x08'
  | 't' => some '\t'
  | '\t' => some '\t'
  | 'n' => some '\n'
  | 'v' => some '\x0B'
  | 'f' => some '\x0C'
  | 'r' => some '\r'
  | 'e' => some '\x1B'
  | ' ' => some ' '
  | '"' => some '"'
  | '/' => some '/'
  | '\'' => some '\''
  | '\\' => some '\\'
  | 'N' => some '\x85'
  | '_' => some '\xA0'
  | 'L' => some '\u2028'
  | 'P' => some '\u2029'
  | _ => none

/-- The number of hex digits a code escape takes. -/
def codeEscapeWidth : Char → Option Nat
  | 'x' => some 2
  | 'u' => some 4
  | 'U' => some 8
  | _ => none

/-- Reads the escape at the lexer's backslash into `acc`. -/
def escape (start : Mark) (s : Lexer) (acc : String) : Except Problem (Lexer × String) :=
  let e := s.peek 1
  match simpleEscape e with
  | some c => pure (s.skipN 2, acc.push c)
  | none =>
    match codeEscapeWidth e with
    | none => throw (s.problemIn "while parsing a quoted scalar" start "found unknown escape character")
    | some w =>
      let s := s.skipN 2
      let digits := (List.range w).map fun k => hexValue (s.peek k)
      if digits.any Option.isNone then
        throw (s.problemIn "while parsing a quoted scalar" start
          "did not find expected hexdecimal number")
      else
        let v := digits.foldl (fun a d => a * 16 + d.getD 0) 0
        if (0xD800 ≤ v && v ≤ 0xDFFF) || 0x10FFFF < v then
          throw (s.problemIn "while parsing a quoted scalar" start
            "found invalid Unicode character escape code")
        else pure (s.skipN w, acc.push (Char.ofNat v))

/-- Reads the non-blank characters of one line of a quoted scalar, up to a blank, a break,
the closing quote or an escaped line break. -/
def quotedWord (single : Bool) (start : Mark) : Nat → Lexer → Folding →
    Except Problem (Lexer × Folding)
  | 0, s, f => pure (s, f)
  | n + 1, s, f =>
    let c := s.peek
    if isBlankEnd c then pure (s, f)
    else if single && c == '\'' && s.peek 1 == '\'' then
      quotedWord single start n (s.skipN 2) { f with text := f.text.push '\'' }
    else if c == (if single then '\'' else '"') then pure (s, f)
    else if !single && c == '\\' && isBreak (s.peek 1) then
      pure (s.skip.skipLine, { f with leadingBlanks := true })
    else if !single && c == '\\' then do
      let (s, text) ← escape start s f.text
      quotedWord single start n s { f with text }
    else
      let (s, text) := s.read f.text
      quotedWord single start n s { f with text }

/-- Reads the lines of a quoted scalar up to its closing quote. -/
def quotedLines (single : Bool) (start : Mark) : Nat → Lexer → Folding →
    Except Problem (Lexer × Folding)
  | 0, s, f => pure (s, f)
  | n + 1, s, f => do
    if s.atDocumentMarker then
      throw (s.problemIn "while scanning a quoted scalar" start "found unexpected document indicator")
    if isEnd s.peek then
      throw (s.problemIn "while scanning a quoted scalar" start "found unexpected end of stream")
    let (s, f) ← quotedWord single start (s.remaining + 1) s { f with leadingBlanks := false }
    if s.peek == (if single then '\'' else '"') then pure (s, f)
    else
      let (s, f) ← foldBlanks none (s.remaining + 1) s f
      quotedLines single start n s f.place

/-- **Reads a quoted scalar**, single-quoted when `single`. -/
def scanQuoted (s : Lexer) (single : Bool) : Except Problem (Lexer × Token) := do
  let start := s.mark
  let (s, f) ← quotedLines single start (s.remaining + 2) s.skip {}
  let s := s.skip
  pure (s, { kind := .scalar f.text (if single then .singleQuoted else .doubleQuoted), start
             stop := s.mark })

/-- The value of a decimal digit. -/
def digitValue (c : Char) : Option Nat :=
  if '0' ≤ c && c ≤ '9' then some (c.toNat - '0'.toNat) else none

/-- Steps over spaces left of the indentation; all of them while it is not known (`0`). -/
def skipIndentSpaces (indent : Int) : Nat → Lexer → Lexer
  | 0, s => s
  | n + 1, s =>
    if (indent == 0 || (s.mark.column : Int) < indent) && s.peek == ' ' then
      skipIndentSpaces indent n s.skip
    else s

/-- Reads the indentation and empty lines before a block scalar's next line, collecting the
breaks. With `indent = 0` the indentation is not known yet: it becomes the deepest column
reached, at least one more than the enclosing block and at least 1. Returns the indentation
and the mark after the last break. -/
def blockBreaks (start : Mark) (indent : Int) : Nat → Lexer → String → Int → Mark →
    Except Problem (Lexer × Int × String × Mark)
  | 0, s, breaks, _, stop => pure (s, indent, breaks, stop)
  | n + 1, s, breaks, maxIndent, stop => do
    let s := skipIndentSpaces indent (s.remaining + 1) s
    let maxIndent := max maxIndent (s.mark.column : Int)
    if (indent == 0 || (s.mark.column : Int) < indent) && s.peek == '\t' then
      throw (s.problemIn "while scanning a block scalar" start
        "found a tab character where an indentation space is expected")
    if !isBreak s.peek then
      let found := if indent != 0 then indent else max (max maxIndent (s.indent + 1)) 1
      pure (s, found, breaks, stop)
    else
      let (s, breaks) := s.readLine breaks
      blockBreaks start indent n s breaks maxIndent s.mark

/-- The text of a block scalar being read. -/
structure BlockText where
  text : String := ""
  leadingBreak : String := ""
  trailingBreaks : String := ""
  leadingBlank : Bool := false

/-- Reads the lines of a block scalar at indentation `indent`; a folded scalar joins two
lines that neither start with a blank by a space. -/
def blockLines (start : Mark) (literal : Bool) (indent : Int) : Nat → Lexer → BlockText → Mark →
    Except Problem (Lexer × BlockText × Mark)
  | 0, s, b, stop => pure (s, b, stop)
  | n + 1, s, b, stop =>
    if (s.mark.column : Int) != indent || isEnd s.peek then pure (s, b, stop)
    else do
      let trailingBlank := isBlank s.peek
      let text :=
        if !literal && b.leadingBreak.startsWith "\n" && !b.leadingBlank && !trailingBlank then
          if b.trailingBreaks.isEmpty then b.text.push ' ' else b.text
        else b.text ++ b.leadingBreak
      let text := text ++ b.trailingBreaks
      let leadingBlank := isBlank s.peek
      let (s, text) := s.readWhile (fun c => !isBreakEnd c) text
      let (s, leadingBreak) := s.readLine ""
      let (s, _, trailingBreaks, stop) ← blockBreaks start indent (s.remaining + 1) s "" 0 stop
      blockLines start literal indent n s { text, leadingBreak, trailingBreaks, leadingBlank } stop

/-- Reads a block scalar's chomping and indentation indicators, in either order. -/
def blockIndicators (start : Mark) (s : Lexer) : Except Problem (Lexer × Int × Nat) := do
  let zero := s.problemIn "while scanning a block scalar" start
    "found an indentation indicator equal to 0"
  let chompOf (c : Char) : Int := if c == '+' then 1 else -1
  if s.peek == '+' || s.peek == '-' then
    let chomping := chompOf s.peek
    let s := s.skip
    match digitValue s.peek with
    | some 0 => throw { zero with problemMark := s.mark }
    | some d => pure (s.skip, chomping, d)
    | none => pure (s, chomping, 0)
  else
    match digitValue s.peek with
    | some 0 => throw zero
    | some d =>
      let s := s.skip
      if s.peek == '+' || s.peek == '-' then pure (s.skip, chompOf s.peek, d)
      else pure (s, 0, d)
    | none => pure (s, 0, 0)

/-- **Reads a block scalar**, literal (`|`) when `literal`, folded (`>`) otherwise. -/
def scanBlock (s : Lexer) (literal : Bool) : Except Problem (Lexer × Token) := do
  let start := s.mark
  let (s, chomping, increment) ← blockIndicators start s.skip
  let s := (s.skipWhile isBlank).skipComment
  if !isBreakEnd s.peek then
    throw (s.problemIn "while scanning a block scalar" start
      "did not find expected comment or line break")
  let s := s.skipLine
  let indent : Int :=
    if increment == 0 then 0
    else if 0 ≤ s.indent then s.indent + increment else increment
  let (s, indent, trailingBreaks, stop) ← blockBreaks start indent (s.remaining + 1) s "" 0 s.mark
  let (s, b, stop) ← blockLines start literal indent (s.remaining + 1) s { trailingBreaks } stop
  let text := if chomping != -1 then b.text ++ b.leadingBreak else b.text
  let text := if chomping == 1 then text ++ b.trailingBreaks else text
  pure (s, { kind := .scalar text (if literal then .literal else .folded), start, stop })

end Lexer

end SourceAudit.Yaml
