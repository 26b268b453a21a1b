import SourceAudit.FileSystem.Basic
import SourceAudit.Pass
import SourceAudit.Halstead.Counts
import SourceAudit.Destructor
import SourceAudit.Report.Sheet
import SourceAudit.Text.Lines
import SourceAudit.Text.Blank
/-!
# Merging per-unit reports

For each pass, the per-unit reports in a directory (the regular files whose name ends with the
pass's suffix, in name order) are merged into `<project>-<pass>.csv` in that directory: the
pass's header once, then the rows of every input, where the rows of a report are its lines
after the first that are not blank. A report without rows is skipped, and deleted on request.
A pass without any per-unit report gets no merged file.

Main definitions:
* `Pass.header`.
* `CombinedReport`, `CombineSummary`.
* `reportRows`, `combineReports`.
-/

namespace SourceAudit

/-- The header of a pass's reports. -/
def Pass.header : Pass → List String
  | .halstead => Halstead.header
  | .cwe1087 => Destructor.header

/-- One merged report. -/
structure CombinedReport where
  pass : Pass
  path : String
  /-- Per-unit reports that gave at least one row. -/
  inputs : Nat
  /-- Per-unit reports without rows. -/
  skipped : Nat
  rows : Nat
  deriving Repr, Inhabited

/-- Everything a merge wrote and removed. -/
structure CombineSummary where
  reports : List CombinedReport := []
  removed : List String := []
  deriving Repr, Inhabited

/-- The rows of a report: its lines after the first that are not blank. -/
def reportRows (content : String) : List String :=
  (Text.lines content).drop 1 |>.filter fun l => !Text.isBlankText l

/-- The per-unit reports of a pass in a directory, as paths below it, in name order. -/
def unitReports (fs : FileSystem) (dir : String) (pass : Pass) : Except IoError (List String) := do
  let entries ← fs.list dir
  let names := entries.filterMap fun (n, e) =>
    match e with
    | .file _ => if n.endsWith pass.suffix then some n else none
    | .dir => none
  pure ((names.mergeSort fun a b => decide (a ≤ b)).map (Path.join dir))

/-- Merges the inputs of one pass into `out`, removing empty ones on request. -/
def mergeInputs (removeEmpty : Bool) (out : String) (pass : Pass) :
    List String → FileSystem × CombinedReport × List String × List String →
    Except IoError (FileSystem × CombinedReport × List String × List String)
  | [], acc => pure acc
  | input :: more, (fs, report, removed, lines) => do
    let rows := reportRows (← fs.read input)
    if rows.isEmpty then
      let (fs, removed) ← if removeEmpty then do pure (← fs.remove input, removed ++ [input])
        else pure (fs, removed)
      mergeInputs removeEmpty out pass more (fs, { report with skipped := report.skipped + 1 }, removed, lines)
    else
      mergeInputs removeEmpty out pass more
        (fs, { report with inputs := report.inputs + 1, rows := report.rows + rows.length },
          removed, lines ++ rows)

/-- Merges the per-unit reports of one pass in `dir` into `<project>-<pass>.csv`. -/
def combinePass (dir project : String) (removeEmpty : Bool) (fs : FileSystem)
    (summary : CombineSummary) (pass : Pass) : Except IoError (FileSystem × CombineSummary) := do
  let inputs ← unitReports fs dir pass
  if inputs.isEmpty then pure (fs, summary)
  else
    let out := Path.join dir (project ++ "-" ++ pass.name ++ ".csv")
    let fs ← fs.write out ""
    let start : CombinedReport := { pass, path := out, inputs := 0, skipped := 0, rows := 0 }
    let (fs, report, removed, lines) ← mergeInputs removeEmpty out pass inputs (fs, start, [], [])
    let fs ← fs.write out (String.join ((Sheet.line pass.header :: lines).map (· ++ "\n")))
    pure (fs, { reports := summary.reports ++ [report], removed := summary.removed ++ removed })

/-- **Merges the per-unit reports in `dir`** for each pass in turn: the tree after the merge,
and what it wrote, or the error that stopped it. A pass that fails leaves the tree as the
passes before it left it. -/
def combineReports (fs : FileSystem) (dir project : String) (passes : List Pass)
    (removeEmpty : Bool) : FileSystem × Except IoError CombineSummary :=
  go passes fs {}
where
  go : List Pass → FileSystem → CombineSummary → FileSystem × Except IoError CombineSummary
    | [], fs, summary => (fs, .ok summary)
    | pass :: more, fs, summary =>
      match combinePass dir project removeEmpty fs summary pass with
      | .ok (fs, summary) => go more fs summary
      | .error e => (fs, .error e)

end SourceAudit
