/-!
# Positions in a YAML text and the problems found there

A **mark** is a position in the text: the count of characters before it, its line and its
column, both counted from zero. A **problem** is what the reader, scanner or parser reports
when the text is not YAML: what went wrong and where, and optionally the construct being read
(the context) and where that construct began.

A problem is shown as its text, then ` at line L column C` (one-based) unless it is at the very
start, where a reader problem shows its byte offset instead; then the context, with its own
position when that differs from the problem's and is not the start.

Main definitions:
* `Mark`, `Mark.render`.
* `Problem`, `Problem.render`.
-/

namespace SourceAudit.Yaml

/-- A position in a YAML text. -/
structure Mark where
  index : Nat := 0
  line : Nat := 0
  column : Nat := 0
  deriving Repr, BEq, DecidableEq, Inhabited

/-- The mark is the first character of the text. -/
def Mark.isStart (m : Mark) : Bool := m.line == 0 && m.column == 0

/-- A mark as a message shows it, one-based. -/
def Mark.render (m : Mark) : String :=
  if m.isStart then s!"position {m.index}"
  else s!"line {m.line + 1} column {m.column + 1}"

/-- What went wrong while reading a YAML text. -/
structure Problem where
  problem : String
  problemMark : Mark := {}
  context : Option String := none
  contextMark : Mark := {}
  /-- The byte offset a reader problem is reported at. -/
  offset : Nat := 0
  deriving Repr, BEq, Inhabited

/-- The message of a problem. -/
def Problem.render (p : Problem) : String :=
  let place :=
    if !p.problemMark.isStart then " at " ++ p.problemMark.render
    else if p.offset != 0 then s!" at position {p.offset}"
    else ""
  let context := match p.context with
    | none => ""
    | some c =>
      let sameSpot := p.contextMark.line == p.problemMark.line &&
        p.contextMark.column == p.problemMark.column
      ", " ++ c ++ (if !p.contextMark.isStart && !sameSpot then " at " ++ p.contextMark.render else "")
  p.problem ++ place ++ context

example : (Problem.mk "found character that cannot start any token" {}
    (some "while scanning for the next token") {} 0).render =
    "found character that cannot start any token, while scanning for the next token" := by
  decide

end SourceAudit.Yaml
