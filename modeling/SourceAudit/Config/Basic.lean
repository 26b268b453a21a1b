import SourceAudit.Pass
import SourceAudit.Halstead.Counts
/-!
# Run configuration

What a run is told to do: where the reports go, which passes run and in what order, what to
do with degenerate Halstead rows, whether the destructor check looks at public bases only,
and which sources to leave out (glob patterns). Every setting has a default: the current
directory, both passes, the sentinel policy, all bases, nothing left out.

Main definitions:
* `Config`, `Config.default`.
-/

namespace SourceAudit

/-- The settings of a run. -/
structure Config where
  outputDir : String := "."
  passes : List Pass := Pass.all
  degenerate : Halstead.DegeneratePolicy := .sentinel
  publicBasesOnly : Bool := false
  excludedPaths : List String := []
  deriving Repr, Inhabited

/-- The default settings. -/
def Config.default : Config := {}

end SourceAudit
