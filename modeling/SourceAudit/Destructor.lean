import SourceAudit.Ast.Query
import SourceAudit.Ast.Walk
import SourceAudit.Report.Sheet
/-!
# Base classes whose destructor is not virtual

Deleting a derived object through a pointer to a base whose destructor is not virtual runs
only the base destructor. Each defined, non-empty record that the declaration walk reaches is
inspected once; for each of its bases, in order, that names a non-empty record of the unit:

* the base declares no destructor: a finding at the base specifier;
* the base's destructor is neither declared nor inherited virtual: a finding at that
  destructor.

With `publicOnly`, only public bases are inspected. Deeper ancestors are covered when the
intermediate records are inspected themselves, so a base shared by several derived records is
reported once for each.

Main definitions:
* `Finding`, `FindingKind.message`.
* `inspect`: the findings of one record.
* `findings`: those of a unit, in walk order.
* `visit`, **`run`**: the pass over a unit, writing each finding to a report as its record
  is reached.
-/

namespace SourceAudit.Destructor

/-- Why a base is reported. -/
inductive FindingKind where
  | nonVirtual
  | undeclared
  deriving Repr, BEq, DecidableEq, Inhabited

/-- The report text of a finding kind. -/
def FindingKind.message : FindingKind → String
  | nonVirtual => "FOUND BASE-CLASS DESTRUCTOR NOT VIRTUAL"
  | undeclared => "NO USER-DECLARED DESTRUCTOR FOUND IN BASE CLASS"

/-- A finding: the rendered location and its kind. -/
structure Finding where
  location : String
  kind : FindingKind
  deriving Repr, BEq, DecidableEq, Inhabited

/-- The report fields of a finding. -/
def Finding.fields (f : Finding) : List String := [f.location, f.kind.message]

/-- The column names of the findings report. -/
def header : List String := ["Location", "Message"]

/-- The finding for one base of an inspected record, if any. -/
def inspectBase (u : Outline) (publicOnly : Bool) (b : Base) : Option Finding :=
  if publicOnly && b.access != .pub then none
  else
    match u.resolve b with
    | none => none
    | some j =>
      if u.isEmptyRecord j then none
      else
        match u.record? j with
        | none => none
        | some base =>
          match base.destructor with
          | none => some ⟨u.renderLocation b.loc, .undeclared⟩
          | some d =>
            if u.hasVirtualDestructor j then none
            else some ⟨u.renderLocation d.loc, .nonVirtual⟩

/-- The findings of record `id`: none unless it is defined and not empty. -/
def inspect (u : Outline) (publicOnly : Bool) (id : Nat) (r : Record) : List Finding :=
  if !r.hasDefinition || u.isEmptyRecord id then []
  else r.bases.filterMap (inspectBase u publicOnly)

/-- **The findings of a unit**, over the records in walk order. -/
def findings (u : Outline) (publicOnly : Bool) : List Finding :=
  u.visits.flatMap fun
    | .record id r => inspect u publicOnly id r
    | .function _ => []

/-- The pass as a visitor: a dispatched record's findings are written, in order. -/
def visit (u : Outline) (publicOnly : Bool) (s : Sheet.Sink) : Visit → Sheet.Sink
  | .record id r => (inspect u publicOnly id r).foldl (fun s f => s.write f.fields) s
  | .function _ => s

/-- **The destructor pass** over a unit: the report after the walk, and the number of findings
the walk wrote to it. -/
def run (u : Outline) (publicOnly : Bool) (sink : Sheet.Sink) : Sheet.Sink × Nat :=
  let after := u.traverse (visit u publicOnly) sink
  (after, after.rows - sink.rows)

end SourceAudit.Destructor
