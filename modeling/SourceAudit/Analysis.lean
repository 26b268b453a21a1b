import SourceAudit.Halstead.Pass
import SourceAudit.Destructor
import SourceAudit.Report.Sheet
import SourceAudit.Pass
/-!
# Both reports of one unit

The metrics report and the findings report of a unit, as report text, with their row
counts.

Main definitions:
* `Options`: the degenerate-row policy and whether only public bases are inspected.
* `Reports.of`.
-/

namespace SourceAudit

/-- How a unit is analysed. -/
structure Options where
  policy : Halstead.DegeneratePolicy := .sentinel
  publicOnly : Bool := false
  deriving Repr, Inhabited

/-- The report text of the metrics pass, with the count of rows it wrote. -/
def Outline.metricsReport (u : Outline) (policy : Halstead.DegeneratePolicy) : String × Nat :=
  let (sink, written) := Halstead.run u policy (Sheet.Sink.start Halstead.header)
  (sink.text, written)

/-- The report text of the destructor pass, with the count of findings it wrote. -/
def Outline.findingsReport (u : Outline) (publicOnly : Bool) : String × Nat :=
  let (sink, written) := Destructor.run u publicOnly (Sheet.Sink.start Destructor.header)
  (sink.text, written)

/-- The report of one pass over a unit. -/
def Outline.report (u : Outline) (o : Options) : Pass → String × Nat
  | .halstead => u.metricsReport o.policy
  | .cwe1087 => u.findingsReport o.publicOnly

end SourceAudit
