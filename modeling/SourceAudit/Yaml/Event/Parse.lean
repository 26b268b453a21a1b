import SourceAudit.Yaml.Event
import SourceAudit.Yaml.Token.Fetch
/-!
# From tokens to events

The grammar of a YAML stream as a state machine over tokens: each call of `EventReader.next`
takes tokens and gives one event. The reader keeps the state to return to after a node (a
stack), the marks where open collections began (for messages), and the tag directives of the
current document, to which `!` and `!!` (`tag:yaml.org,2002:`) are added when not declared.

A node is an alias, or optional properties (anchor and tag, in either order) followed by a
scalar, a collection, or nothing, which gives an empty scalar when some property was given. A
missing value, key or entry gives an empty plain scalar at a nearby mark.

Main definitions:
* `ReadState`, `EventReader`.
* `EventReader.ofText`, `EventReader.next`.
-/

namespace SourceAudit.Yaml

/-- Where the grammar stands between two events. -/
inductive ReadState where
  | streamStart
  | implicitDocumentStart
  | documentStart
  | documentContent
  | documentEnd
  | blockNode
  | blockNodeOrIndentlessSequence
  | flowNode
  | blockSequenceFirstEntry
  | blockSequenceEntry
  | indentlessSequenceEntry
  | blockMappingFirstKey
  | blockMappingKey
  | blockMappingValue
  | flowSequenceFirstEntry
  | flowSequenceEntry
  | flowSequenceEntryMappingKey
  | flowSequenceEntryMappingValue
  | flowSequenceEntryMappingEnd
  | flowMappingFirstKey
  | flowMappingKey
  | flowMappingValue
  | flowMappingEmptyValue
  | finished
  deriving Repr, BEq, DecidableEq, Inhabited

/-- The state of reading events from a text. -/
structure EventReader where
  lexer : Lexer
  state : ReadState := .streamStart
  states : List ReadState := []
  marks : List Mark := []
  /-- The tag handles of the current document with their prefixes. -/
  tagDirectives : List (String × List UInt8) := []
  deriving Inhabited

namespace EventReader

/-- A step of reading: it may take tokens and fail with a problem. -/
abbrev Step := StateT EventReader (Except Problem)

/-- The next token, fetched until it is final. -/
def peek : Step Token := do
  let r ← get
  let l ← r.lexer.fetchMore
  set { r with lexer := l }
  match l.queue.head? with
  | some t => pure t
  | none => throw { problem := "did not find expected token", problemMark := l.mark }

/-- Takes the next token. -/
def skip : Step Unit := modify fun r => { r with lexer := r.lexer.take }

/-- Remembers the state to return to. -/
def pushState (st : ReadState) : Step Unit := modify fun r => { r with states := st :: r.states }

/-- Returns to the remembered state. -/
def popState : Step Unit := modify fun r =>
  { r with state := r.states.headD .finished, states := r.states.drop 1 }

/-- Moves to a state. -/
def goTo (st : ReadState) : Step Unit := modify fun r => { r with state := st }

/-- Remembers where a collection began. -/
def pushMark (m : Mark) : Step Unit := modify fun r => { r with marks := m :: r.marks }

/-- Forgets where the innermost collection began, giving it. -/
def popMark : Step Mark := do
  let r ← get
  set { r with marks := r.marks.drop 1 }
  pure (r.marks.headD {})

/-- A problem with no context. -/
def fail (problem : String) (m : Mark) : Step α := throw { problem, problemMark := m }

/-- A problem met inside the construct that began at `contextMark`. -/
def failIn (context : String) (contextMark : Mark) (problem : String) (m : Mark) : Step α :=
  throw { problem, problemMark := m, context := some context, contextMark }

/-- The token is a directive. -/
def isDirective (t : Token) : Bool :=
  match t.kind with
  | .versionDirective .. | .tagDirective .. => true
  | _ => false

/-- The token kind is one of the punctuation kinds named by `p`. -/
def kindIs (p : TokenKind → Bool) (t : Token) : Bool := p t.kind

/-- The handles every document has unless it declares them. -/
def defaultTags : List (String × List UInt8) :=
  [("!", "!".toUTF8.toList), ("!!", "tag:yaml.org,2002:".toUTF8.toList)]

/-- Reads the directives before a document, then adds the default handles. -/
def directives (fuel : Nat) : Step Unit := go fuel false
where
  go : Nat → Bool → Step Unit
    | 0, _ => finish
    | n + 1, seenVersion => do
      let t ← peek
      match t.kind with
      | .versionDirective major minor =>
        if seenVersion then fail "found duplicate %YAML directive" t.start
        else if major != 1 || (minor != 1 && minor != 2) then
          fail "found incompatible YAML document" t.start
        else do skip; go n true
      | .tagDirective handle pfx => do
        let r ← get
        if r.tagDirectives.any (·.1 == handle) then fail "found duplicate %TAG directive" t.start
        else do
          set { r with tagDirectives := r.tagDirectives ++ [(handle, pfx)] }
          skip
          go n seenVersion
      | _ => finish
  finish : Step Unit := modify fun r =>
    { r with tagDirectives := r.tagDirectives ++
        defaultTags.filter fun d => !r.tagDirectives.any (·.1 == d.1) }

/-- Takes the `...` markers before a document. -/
def skipDocumentEnds : Nat → Step Token
  | 0 => peek
  | n + 1 => do
    let t ← peek
    match t.kind with
    | .documentEnd => do skip; skipDocumentEnds n
    | _ => pure t

/-- The fuel for loops over tokens: more than the tokens left. -/
def fuel : Step Nat := do
  let r ← get
  pure (2 * r.lexer.remaining + r.lexer.queue.length + 8)

/-- The start of a document, or the end of the stream. -/
def documentStart (isImplicit : Bool) : Step Event := do
  let t ← if isImplicit then peek else skipDocumentEnds (← fuel)
  let opensExplicitly := isDirective t ||
    match t.kind with
    | .documentStart | .streamEnd => true
    | _ => false
  if isImplicit && !opensExplicitly then
    directives (← fuel)
    pushState .documentEnd
    goTo .blockNode
    pure ⟨.documentStart true, t.start⟩
  else if !t.isStreamEnd then
    directives (← fuel)
    let t2 ← peek
    match t2.kind with
    | .documentStart =>
      pushState .documentEnd
      goTo .documentContent
      skip
      pure ⟨.documentStart false, t.start⟩
    | _ => fail "did not find expected <document start>" t2.start
  else
    goTo .finished
    skip
    pure ⟨.streamEnd, t.start⟩

/-- The content of an explicit document, which may be empty. -/
def documentContent (node : Step Event) : Step Event := do
  let t ← peek
  let ends := isDirective t ||
    match t.kind with
    | .documentStart | .documentEnd | .streamEnd => true
    | _ => false
  if ends then do popState; pure (Event.empty t.start) else node

/-- The end of a document, explicit with `...`. -/
def documentEnd : Step Event := do
  let t ← peek
  let isImplicit ← match t.kind with
    | .documentEnd => do skip; pure false
    | _ => pure true
  modify fun r => { r with tagDirectives := [] }
  goTo .documentStart
  pure ⟨.documentEnd isImplicit, t.start⟩

/-- The tag a handle and suffix stand for in the current document. -/
def resolveTag (handle : String) (suffix : List UInt8) : Step (Option (List UInt8)) := do
  if handle.isEmpty then return some suffix
  let r ← get
  pure ((r.tagDirectives.find? (·.1 == handle)).map fun d => d.2 ++ suffix)

/-- **A node**: an alias, or properties followed by content. In block context a block
collection may follow; with `indentless`, so may a `-` entry at the same indentation. -/
def node (block indentless : Bool) : Step Event := do
  let t ← peek
  match t.kind with
  | .alias name => do popState; skip; pure ⟨.alias name, t.start⟩
  | _ =>
    let start := t.start
    let (anchor, tagged, t) ← match t.kind with
      | .anchor a => do
        skip
        let t ← peek
        match t.kind with
        | .tag h sfx => do skip; pure (some a, some (h, sfx, t.start), ← peek)
        | _ => pure (some a, none, t)
      | .tag h sfx => do
        skip
        let t2 ← peek
        match t2.kind with
        | .anchor a => do skip; pure (some a, some (h, sfx, t.start), ← peek)
        | _ => pure (none, some (h, sfx, t.start), t2)
      | _ => pure (none, none, t)
    let tag ← match tagged with
      | none => pure none
      | some (h, sfx, tagMark) => do
        match ← resolveTag h sfx with
        | some tag => pure (some tag)
        | none => failIn "while parsing a node" start "found undefined tag handle" tagMark
    match t.kind with
    | .blockEntry =>
      if indentless then do
        goTo .indentlessSequenceEntry
        pure ⟨.sequenceStart anchor tag, start⟩
      else content block anchor tag start t
    | _ => content block anchor tag start t
where
  content (block : Bool) (anchor : Option String) (tag : Option (List UInt8)) (start : Mark)
      (t : Token) : Step Event :=
    match t.kind with
    | .scalar text style => do popState; skip; pure ⟨.scalar anchor tag text style, start⟩
    | .flowSequenceStart => do goTo .flowSequenceFirstEntry; pure ⟨.sequenceStart anchor tag, start⟩
    | .flowMappingStart => do goTo .flowMappingFirstKey; pure ⟨.mappingStart anchor tag, start⟩
    | .blockSequenceStart =>
      if block then do goTo .blockSequenceFirstEntry; pure ⟨.sequenceStart anchor tag, start⟩
      else missing block anchor tag start t
    | .blockMappingStart =>
      if block then do goTo .blockMappingFirstKey; pure ⟨.mappingStart anchor tag, start⟩
      else missing block anchor tag start t
    | _ => missing block anchor tag start t
  missing (block : Bool) (anchor : Option String) (tag : Option (List UInt8)) (start : Mark)
      (t : Token) : Step Event :=
    if anchor.isSome || tag.isSome then do
      popState
      pure ⟨.scalar anchor tag "" .plain, start⟩
    else
      failIn (if block then "while parsing a block node" else "while parsing a flow node") start
        "did not find expected node content" t.start

/-- Takes the opening token of a collection, remembering where it began. -/
def openCollection : Step Unit := do
  let t ← peek
  pushMark t.start
  skip

/-- An entry of a block sequence. -/
def blockSequenceEntry (first : Bool) : Step Event := do
  if first then openCollection
  let t ← peek
  match t.kind with
  | .blockEntry => do
    skip
    let t2 ← peek
    match t2.kind with
    | .blockEntry | .blockEnd => do goTo .blockSequenceEntry; pure (Event.empty t.stop)
    | _ => do pushState .blockSequenceEntry; node true false
  | .blockEnd => do popState; let _ ← popMark; skip; pure ⟨.sequenceEnd, t.start⟩
  | _ => failIn "while parsing a block collection" (← popMark) "did not find expected '-' indicator" t.start

/-- An entry of a sequence written at its parent mapping's indentation. -/
def indentlessSequenceEntry : Step Event := do
  let t ← peek
  match t.kind with
  | .blockEntry => do
    skip
    let t2 ← peek
    match t2.kind with
    | .blockEntry | .key | .value | .blockEnd => do
      goTo .indentlessSequenceEntry
      pure (Event.empty t.stop)
    | _ => do pushState .indentlessSequenceEntry; node true false
  | _ => do popState; pure ⟨.sequenceEnd, t.start⟩

/-- A key of a block mapping. -/
def blockMappingKey (first : Bool) : Step Event := do
  if first then openCollection
  let t ← peek
  match t.kind with
  | .key => do
    skip
    let t2 ← peek
    match t2.kind with
    | .key | .value | .blockEnd => do goTo .blockMappingValue; pure (Event.empty t.stop)
    | _ => do pushState .blockMappingValue; node true true
  | .blockEnd => do popState; let _ ← popMark; skip; pure ⟨.mappingEnd, t.start⟩
  | _ => failIn "while parsing a block mapping" (← popMark) "did not find expected key" t.start

/-- A value of a block mapping. -/
def blockMappingValue : Step Event := do
  let t ← peek
  match t.kind with
  | .value => do
    skip
    let t2 ← peek
    match t2.kind with
    | .key | .value | .blockEnd => do goTo .blockMappingKey; pure (Event.empty t.stop)
    | _ => do pushState .blockMappingKey; node true true
  | _ => do goTo .blockMappingKey; pure (Event.empty t.start)

/-- An entry of a flow sequence; a `?` entry is a one-pair mapping. -/
def flowSequenceEntry (first : Bool) : Step Event := do
  if first then openCollection
  let t ← peek
  let close (t : Token) : Step Event := do
    popState
    let _ ← popMark
    skip
    pure ⟨.sequenceEnd, t.start⟩
  match t.kind with
  | .flowSequenceEnd => close t
  | _ => do
    let t ← if first then pure t else
      match t.kind with
      | .flowEntry => do skip; peek
      | _ => failIn "while parsing a flow sequence" (← popMark) "did not find expected ',' or ']'" t.start
    match t.kind with
    | .key => do
      goTo .flowSequenceEntryMappingKey
      skip
      pure ⟨.mappingStart none none, t.start⟩
    | .flowSequenceEnd => close t
    | _ => do pushState .flowSequenceEntry; node false false

/-- The key of a one-pair mapping in a flow sequence. -/
def flowSequenceEntryMappingKey : Step Event := do
  let t ← peek
  match t.kind with
  | .value | .flowEntry | .flowSequenceEnd => do
    skip
    goTo .flowSequenceEntryMappingValue
    pure (Event.empty t.stop)
  | _ => do pushState .flowSequenceEntryMappingValue; node false false

/-- The value of a one-pair mapping in a flow sequence. -/
def flowSequenceEntryMappingValue : Step Event := do
  let t ← peek
  match t.kind with
  | .value => do
    skip
    let t2 ← peek
    match t2.kind with
    | .flowEntry | .flowSequenceEnd => do
      goTo .flowSequenceEntryMappingEnd
      pure (Event.empty t2.start)
    | _ => do pushState .flowSequenceEntryMappingEnd; node false false
  | _ => do goTo .flowSequenceEntryMappingEnd; pure (Event.empty t.start)

/-- The end of a one-pair mapping in a flow sequence. -/
def flowSequenceEntryMappingEnd : Step Event := do
  let t ← peek
  goTo .flowSequenceEntry
  pure ⟨.mappingEnd, t.start⟩

/-- A key of a flow mapping; a key without `:` has an empty value. -/
def flowMappingKey (first : Bool) : Step Event := do
  if first then openCollection
  let t ← peek
  let close (t : Token) : Step Event := do
    popState
    let _ ← popMark
    skip
    pure ⟨.mappingEnd, t.start⟩
  match t.kind with
  | .flowMappingEnd => close t
  | _ => do
    let t ← if first then pure t else
      match t.kind with
      | .flowEntry => do skip; peek
      | _ => failIn "while parsing a flow mapping" (← popMark) "did not find expected ',' or '\x7d'" t.start
    match t.kind with
    | .key => do
      skip
      let t2 ← peek
      match t2.kind with
      | .value | .flowEntry | .flowMappingEnd => do
        goTo .flowMappingValue
        pure (Event.empty t2.start)
      | _ => do pushState .flowMappingValue; node false false
    | .flowMappingEnd => close t
    | _ => do pushState .flowMappingEmptyValue; node false false

/-- A value of a flow mapping; `isEmpty` after a key written without `:`. -/
def flowMappingValue (isEmpty : Bool) : Step Event := do
  let t ← peek
  if isEmpty then
    goTo .flowMappingKey
    return Event.empty t.start
  match t.kind with
  | .value => do
    skip
    let t2 ← peek
    match t2.kind with
    | .flowEntry | .flowMappingEnd => do goTo .flowMappingKey; pure (Event.empty t2.start)
    | _ => do pushState .flowMappingKey; node false false
  | _ => do goTo .flowMappingKey; pure (Event.empty t.start)

/-- The start of the stream. -/
def streamStart : Step Event := do
  let t ← peek
  match t.kind with
  | .streamStart => do goTo .implicitDocumentStart; skip; pure ⟨.streamStart, t.start⟩
  | _ => fail "did not find expected <stream-start>" t.start

/-- One event from the current state. -/
def step : Step Event := do
  match (← get).state with
  | .streamStart => streamStart
  | .implicitDocumentStart => documentStart true
  | .documentStart => documentStart false
  | .documentContent => documentContent (node true false)
  | .documentEnd => documentEnd
  | .blockNode => node true false
  | .blockNodeOrIndentlessSequence => node true true
  | .flowNode => node false false
  | .blockSequenceFirstEntry => blockSequenceEntry true
  | .blockSequenceEntry => blockSequenceEntry false
  | .indentlessSequenceEntry => indentlessSequenceEntry
  | .blockMappingFirstKey => blockMappingKey true
  | .blockMappingKey => blockMappingKey false
  | .blockMappingValue => blockMappingValue
  | .flowSequenceFirstEntry => flowSequenceEntry true
  | .flowSequenceEntry => flowSequenceEntry false
  | .flowSequenceEntryMappingKey => flowSequenceEntryMappingKey
  | .flowSequenceEntryMappingValue => flowSequenceEntryMappingValue
  | .flowSequenceEntryMappingEnd => flowSequenceEntryMappingEnd
  | .flowMappingFirstKey => flowMappingKey true
  | .flowMappingKey => flowMappingKey false
  | .flowMappingValue => flowMappingValue false
  | .flowMappingEmptyValue => flowMappingValue true
  | .finished => pure ⟨.streamEnd, (← get).lexer.mark⟩

/-- A reader at the start of a text; a control character in it is refused at once. -/
def ofText (t : String) : Except Problem EventReader := do
  pure { lexer := ← Lexer.ofText t }

/-- **The next event** and the reader after it. -/
def next (r : EventReader) : Except Problem (Event × EventReader) := step.run r

end EventReader

end SourceAudit.Yaml
