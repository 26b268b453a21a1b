import SourceAudit.Yaml.Event.Parse
/-!
# The first document of a stream

Reading a value from YAML text looks at the first document only. Its events are collected
up to the document's end, each anchor numbered and each alias replaced by the number of the
anchor it names. A stream without any document reads as one **void** item.

Anchors are numbered by how many distinct names were seen before, so a name defined again
takes the next free number while that number may later be given to a new name as well; the
item an alias reaches is the last one recorded under its number.

If the text is not YAML, or an alias names no anchor, the items up to that point are kept
with the error: reading a value fails with it only when it runs out of items.

Main definitions:
* `Item`, `LoadError`, `Document`.
* `Document.ofText`: the first document and whether another one follows.
-/

namespace SourceAudit.Yaml

/-- An event of a loaded document. -/
inductive Item where
  | alias (id : Nat)
  | scalar (tag : Option (List UInt8)) (text : String) (style : ScalarStyle)
  | sequenceStart (tag : Option (List UInt8))
  | sequenceEnd
  | mappingStart (tag : Option (List UInt8))
  | mappingEnd
  | void
  deriving Repr, BEq, Inhabited

/-- Why a document's items stop early. -/
inductive LoadError where
  | problem (p : Problem)
  | unknownAnchor (m : Mark)
  deriving Repr, BEq, Inhabited

/-- The items of a document, each with its mark, and the error that cut them short. -/
structure Document where
  items : Array (Item × Mark) := #[]
  error : Option LoadError := none
  /-- Anchor numbers with the index of their item; a later entry wins. -/
  anchors : List (Nat × Nat) := []
  deriving Inhabited

/-- The index of the item an anchor number reaches. -/
def Document.anchorItem (d : Document) (id : Nat) : Option Nat :=
  (d.anchors.find? (·.1 == id)).map (·.2)

/-- What collecting a document leads to. -/
inductive Loaded where
  /-- The document ended and the stream may go on. -/
  | ended (d : Document) (rest : EventReader)
  /-- The document is all there is: the stream ended or an error stopped it. -/
  | last (d : Document)
  /-- The stream ended before another document. -/
  | none

/-- Records an anchor on the item about to be added. -/
def recordAnchor (d : Document) (names : List (String × Nat)) (anchor : Option String) :
    Document × List (String × Nat) :=
  match anchor with
  | none => (d, names)
  | some a =>
    let id := names.length
    let names := if names.any (·.1 == a) then names.map fun p => if p.1 == a then (a, id) else p
      else names ++ [(a, id)]
    ({ d with anchors := (id, d.items.size) :: d.anchors }, names)

/-- Collects one document's items. -/
def collect (first : Bool) : Nat → EventReader → Document → List (String × Nat) → Loaded
  | 0, _, d, _ => .last d
  | n + 1, r, d, names =>
    match r.next with
    | .error p => .last { d with error := some (.problem p) }
    | .ok (e, r) =>
      let push (item : Item) (d : Document) : Document := { d with items := d.items.push (item, e.start) }
      match e.kind with
      | .streamStart | .documentStart _ => collect first n r d names
      | .streamEnd =>
        if first then .last (if d.items.isEmpty then push .void d else d) else .none
      | .documentEnd _ => .ended d r
      | .alias a =>
        match names.find? (·.1 == a) with
        | some (_, id) => collect first n r (push (.alias id) d) names
        | none => .last { d with error := some (.unknownAnchor e.start) }
      | .scalar anchor tag text style =>
        let (d, names) := recordAnchor d names anchor
        collect first n r (push (.scalar tag text style) d) names
      | .sequenceStart anchor tag =>
        let (d, names) := recordAnchor d names anchor
        collect first n r (push (.sequenceStart tag) d) names
      | .sequenceEnd => collect first n r (push .sequenceEnd d) names
      | .mappingStart anchor tag =>
        let (d, names) := recordAnchor d names anchor
        collect first n r (push (.mappingStart tag) d) names
      | .mappingEnd => collect first n r (push .mappingEnd d) names

/-- **The first document of a text**, and whether the text holds more than that document. -/
def Document.ofText (t : String) : Document × Bool :=
  match EventReader.ofText t with
  | .error p => ({ error := some (.problem p) }, false)
  | .ok r =>
    let fuel := 4 * t.length + 16
    match collect true fuel r {} [] with
    | .last d => (d, false)
    | .none => ({}, false)
    | .ended d rest =>
      let more := match rest.next with
        | .ok (e, _) => e.kind != .streamEnd
        | .error _ => true
      (d, more)

end SourceAudit.Yaml
