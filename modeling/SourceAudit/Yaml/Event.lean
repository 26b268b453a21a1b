import SourceAudit.Yaml.Token
/-!
# Events of a YAML stream

A YAML stream read in order is a list of events: the stream's and each document's start and
end, the start and end of every sequence and mapping, every scalar, and every alias. A node's
anchor and resolved tag ride on the event that starts it. Each event carries the mark where it
starts; for a node that is where its first property (anchor or tag) stands.

Main definitions:
* `EventKind`, `Event`.
-/

namespace SourceAudit.Yaml

/-- The kinds of event, with what each carries. -/
inductive EventKind where
  | streamStart
  | streamEnd
  | documentStart (isImplicit : Bool)
  | documentEnd (isImplicit : Bool)
  | alias (name : String)
  | scalar (anchor : Option String) (tag : Option (List UInt8)) (text : String) (style : ScalarStyle)
  | sequenceStart (anchor : Option String) (tag : Option (List UInt8))
  | sequenceEnd
  | mappingStart (anchor : Option String) (tag : Option (List UInt8))
  | mappingEnd
  deriving Repr, BEq, Inhabited

/-- An event with the mark where it starts. -/
structure Event where
  kind : EventKind
  start : Mark
  deriving Repr, BEq, Inhabited

/-- The empty plain scalar that stands for a missing node. -/
def Event.empty (m : Mark) : Event := ⟨.scalar none none "" .plain, m⟩

end SourceAudit.Yaml
