import SourceAudit.Yaml.Document
import SourceAudit.Yaml.Reading
/-!
# Decoding values from a document

A value is decoded by walking the document's items from a position. An alias continues at
the item its anchor reached and then returns to just after the alias; more jumps than a
hundred per item is refused. Running out of items is the document's error when it has one.

A decoding error carries the **path** to the value (`passes[0]`, `output_dir`) and the mark
of its first item, both set by the innermost value that failed. It is shown as
`path: message at line L column C`, without the path at the root and without the position at
the very start.

Main definitions:
* `Path`, `DecodeError`, `DecodeError.render`.
* `Decoder`: the walk, with `next`, `peek` and `jump`.
* `Decoder.skipValue`, `Decoder.text`, `Decoder.bool`, `Decoder.variant`, `Decoder.sequence`,
  `Decoder.record`: the shapes a value can be read as.
-/

namespace SourceAudit.Yaml

/-- Where a value sits in the document. -/
inductive Path where
  | root
  | seq (parent : Path) (index : Nat)
  | map (parent : Path) (key : String)
  | alias (parent : Path)
  | unknown (parent : Path)
  deriving Repr, Inhabited

/-- A path as a message shows it: `.` at the root, `a.b[2]` below. -/
def Path.render : Path → String
  | .root => "."
  | .seq p i => p.render ++ "[" ++ toString i ++ "]"
  | .map p k => (match p with | .root => "" | _ => p.render ++ ".") ++ k
  | .alias p => p.render
  | .unknown p => (match p with | .root => "" | _ => p.render ++ ".") ++ "?"

/-- Why a value could not be decoded. -/
inductive DecodeError where
  | message (text : String) (place : Option (Mark × Path))
  | endOfStream
  | moreThanOneDocument
  | repetitionLimit
  | load (e : LoadError)
  deriving Repr, Inhabited

/-- A position suffix: ` at line L column C`, or nothing at the very start. -/
def atMark (m : Mark) : String := if m.isStart then "" else " at " ++ m.render

/-- The message of a decoding error. -/
def DecodeError.render : DecodeError → String
  | .message t none => t
  | .message t (some (m, p)) =>
    let path := p.render
    (if path == "." then "" else path ++ ": ") ++ t ++ atMark m
  | .endOfStream => "EOF while parsing a value"
  | .moreThanOneDocument =>
    "deserializing from YAML containing more than one document is not supported"
  | .repetitionLimit => "repetition limit exceeded"
  | .load (.problem p) => p.render
  | .load (.unknownAnchor m) => "unknown anchor" ++ atMark m

/-- Gives a placeless message the place of the value being decoded. -/
def DecodeError.place (e : DecodeError) (m : Mark) (p : Path) : DecodeError :=
  match e with
  | .message t none => .message t (some (m, p))
  | e => e

/-- The walk over a document: the position and the jumps made so far. -/
abbrev Decoder := ReaderT Document (StateT (Nat × Nat) (Except DecodeError))

namespace Decoder

/-- Fails with a message that takes its place from the enclosing value. -/
def fail (text : String) : Decoder α := throw (.message text none)

/-- Runs a decoder, placing its placeless errors at the value's mark and path. -/
def placed (m : Mark) (p : Path) (d : Decoder α) : Decoder α :=
  tryCatch d fun e => throw (e.place m p)

/-- The item at the position, or the reason there is none. -/
def peek : Decoder (Item × Mark) := do
  let doc ← read
  let (pos, _) ← get
  match doc.items[pos]? with
  | some x => pure x
  | none => throw (match doc.error with
    | some e => .load e
    | none => .endOfStream)

/-- Takes the item at the position. -/
def next : Decoder (Item × Mark) := do
  let x ← peek
  modify fun (pos, jumps) => (pos + 1, jumps)
  pure x

/-- Decodes at the item anchor `id` reached, then returns to the current position. -/
def jump (id : Nat) (d : Decoder α) : Decoder α := do
  let doc ← read
  let (pos, jumps) ← get
  if doc.items.size * 100 < jumps + 1 then throw .repetitionLimit
  match doc.anchorItem id with
  | none => throw .endOfStream
  | some target =>
    set (target, jumps + 1)
    let v ← d
    modify fun (_, jumps) => (pos, jumps)
    pure v

/-- Takes the next item, following aliases to the item they reach; `k` continues from
there. -/
def follow (k : Item → Mark → Decoder α) : Nat → Decoder α
  | 0 => throw .endOfStream
  | n + 1 => do
    let (item, m) ← next
    match item with
    | .alias id => jump id (follow k n)
    | item => k item m

/-- Follows aliases with enough fuel for any chain in the document. -/
def followAll (k : Item → Mark → Decoder α) : Decoder α := do
  follow k ((← read).items.size + 1)

/-- Skips one value, whatever it is: aliases and scalars are one item, collections run to
their end. -/
def skipValue : Decoder Unit := do
  go ((← read).items.size + 1) 0
where
  go : Nat → Nat → Decoder Unit
    | 0, _ => pure ()
    | n + 1, depth => do
      let (item, _) ← next
      let depth := match item with
        | .sequenceStart _ | .mappingStart _ => depth + 1
        | .sequenceEnd | .mappingEnd => depth - 1
        | _ => depth
      if depth == 0 then pure () else go n depth

/-- The description of an item that is not what was wanted. -/
def mismatch (item : Item) (expected : String) : DecodeError :=
  match item with
  | .scalar tag text style => .message ((Reading.ofScalar tag style text).mismatch expected) none
  | .sequenceStart _ => .message ("invalid type: sequence, expected " ++ expected) none
  | .mappingStart _ => .message ("invalid type: map, expected " ++ expected) none
  | _ => .endOfStream

/-- **Any scalar's text**; a collection is a type error described by `expected`. -/
def text (expected : String) (p : Path) : Decoder String :=
  followAll fun item m => placed m p do
    match item with
    | .scalar _ t _ => pure t
    | item => throw (mismatch item expected)

/-- **A boolean**: a scalar that reads as one. -/
def bool (p : Path) : Decoder Bool :=
  followAll fun item m => placed m p do
    match item with
    | .scalar tag t style =>
      match Reading.ofScalar tag style t with
      | .bool b => pure b
      | r => fail (r.mismatch "a boolean")
    | item => throw (mismatch item "a boolean")

/-- The message for a variant name that is not one of `names`. -/
def unknownVariant (v : String) (names : List String) : String :=
  let quoted := names.map fun n => "`" ++ n ++ "`"
  let expected := match quoted with
    | [] => "there are no variants"
    | [a] => "expected " ++ a
    | [a, b] => "expected " ++ a ++ " or " ++ b
    | qs => "expected one of " ++ ", ".intercalate qs
  "unknown variant `" ++ v ++ "`, " ++ expected

/-- The name a local tag gives: the tag without its `!`, or `!` itself. -/
def localTagName (tag : Option (List UInt8)) : Option String :=
  match tag with
  | some (33 :: rest) =>
    String.fromUTF8? ⟨(if rest.isEmpty then [33] else rest).toArray⟩
  | _ => none

/-- **A unit variant among `names`**, named by a scalar, or by a local tag on a scalar whose
own value is then empty or null. -/
def variant (names : List String) (p : Path) : Decoder String :=
  followAll fun item m => placed m p do
    let known (v : String) : Decoder String :=
      if names.contains v then pure v else fail (unknownVariant v names)
    match item with
    | .scalar tag t style =>
      match localTagName tag with
      | some v => do
        let v ← known v
        if style == .plain && (t.isEmpty || isNull t) then pure v
        else fail ((Reading.ofScalar tag style t).mismatch "unit")
      | none => known t
    | .sequenceStart tag | .mappingStart tag =>
      match localTagName tag with
      | some v => do
        let _ ← known v
        throw (mismatch item "unit")
      | none => throw (.message ((match item with
          | .sequenceStart _ => "invalid type: sequence, "
          | _ => "invalid type: map, ") ++ "expected a YAML tag starting with '!'") none)
    | _ => throw .endOfStream

/-- The item is an empty plain scalar or void: an empty collection. -/
def isEmptyValue : Item → Bool
  | .scalar _ t style => t.isEmpty && style == .plain
  | .void => true
  | _ => false

/-- The elements of a sequence from the position to its end. -/
def elements (element : Path → Decoder α) (p : Path) : Nat → Nat → Array α → Decoder (Array α)
  | 0, _, acc => pure acc
  | n + 1, i, acc => do
    let (item, _) ← peek
    match item with
    | .sequenceEnd | .void => do let _ ← next; pure acc
    | _ => do
      let v ← element (.seq p i)
      elements element p n (i + 1) (acc.push v)

/-- **A sequence**: its elements; an empty plain scalar is an empty sequence. -/
def sequence (element : Path → Decoder α) (p : Path) : Decoder (Array α) :=
  followAll fun item m => placed m p do
    match item with
    | .sequenceStart _ => elements element p ((← read).items.size + 1) 0 #[]
    | item =>
      if isEmptyValue item then pure #[] else throw (mismatch item "a sequence")

/-- The entries of a mapping from the position to its end: each key is a scalar's text,
given to `entry` with the path of its value (unknown for a key reached through an alias). -/
def entries (entry : σ → String → Path → Decoder σ) (p : Path) : Nat → σ → Decoder σ
  | 0, acc => pure acc
  | n + 1, acc => do
    let (item, _) ← peek
    match item with
    | .mappingEnd | .void => do let _ ← next; pure acc
    | _ => do
      let key ← text "field identifier" p
      let valuePath := match item with
        | .scalar .. => Path.map p key
        | _ => Path.unknown p
      let acc ← entry acc key valuePath
      entries entry p n acc

/-- **A record**: the entries of a mapping folded into `init`; an empty plain scalar or void
gives `init` itself. `expected` names the record in type errors. -/
def record (expected : String) (init : σ) (entry : σ → String → Path → Decoder σ) (p : Path) :
    Decoder σ :=
  followAll fun item m => placed m p do
    match item with
    | .mappingStart _ => entries entry p ((← read).items.size + 1) init
    | item => if isEmptyValue item then pure init else throw (mismatch item expected)

/-- **Decodes the first document of a text**: a decoding error comes first, then the
document's own error, then a second document. -/
def run (d : Path → Decoder α) (t : String) : Except DecodeError α :=
  let (doc, more) := Document.ofText t
  match StateT.run (ReaderT.run (d .root) doc) (0, 0) with
  | .error e => .error e
  | .ok (v, _) =>
    match doc.error with
    | some e => .error (.load e)
    | none => if more then .error .moreThanOneDocument else .ok v

end Decoder

end SourceAudit.Yaml
