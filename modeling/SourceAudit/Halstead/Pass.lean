import SourceAudit.Halstead.Tally
import SourceAudit.Ast.Query
import SourceAudit.Ast.Walk
import SourceAudit.Report.Sheet
/-!
# The metrics pass

A function **qualifies** when it is a user-provided, non-builtin definition with a written
prototype. The pass is a visitor of the declaration walk: each dispatched function that
qualifies gets its row written to the report at once, unless the `skip` policy drops a
degenerate row. The pass answers with the number of rows the report gained.

Main definitions:
* `qualifies`, `rowOf?`.
* `collectRows`: the rows of a unit, over `Outline.functions`.
* `visit`, **`run`**: the pass over a unit, writing into a report.
-/

namespace SourceAudit.Halstead

/-- A user-provided, non-builtin definition with a written prototype. -/
def qualifies (f : Function) : Bool :=
  f.hasPrototype && f.userProvided && f.body.isSome && !f.builtin

/-- The row of one function, unless it does not qualify or the policy drops it. -/
def rowOf? (policy : DegeneratePolicy) (f : Function) : Option Row :=
  if qualifies f then
    let row := (Tally.ofBody (f.body.getD [])).finish f
    if policy == .skip && row.derived.degenerate then none else some row
  else none

/-- The rows for every qualifying function of a unit, in the order of `Outline.functions`. -/
def collectRows (u : Outline) (policy : DegeneratePolicy) : List Row :=
  u.functions.filterMap (rowOf? policy)

/-- The pass as a visitor: a dispatched function's row, if it has one, is written. -/
def visit (policy : DegeneratePolicy) (s : Sheet.Sink) : Visit → Sheet.Sink
  | .function f =>
    match rowOf? policy f with
    | some row => s.write row.fields
    | none => s
  | .record _ _ => s

/-- **The metrics pass** over a unit: the report after the walk, and the number of rows the
walk wrote to it. -/
def run (u : Outline) (policy : DegeneratePolicy) (sink : Sheet.Sink) : Sheet.Sink × Nat :=
  let after := u.traverse (visit policy) sink
  (after, after.rows - sink.rows)

end SourceAudit.Halstead
