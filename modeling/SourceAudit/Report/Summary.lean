import SourceAudit.Batch.Run
import SourceAudit.Report.Combine
import SourceAudit.Json.Print
/-!
# What a run tells its user

After `analyze`, the outcome is shown either as text for a terminal or as indented JSON; after
`combine`, likewise for the merged reports.

The text of an analysis lists the report directory and the passes, then one line per unit (a
tick, the path, each pass with its row count, and a note when the parse recovered from syntax
errors; or a cross, the path and the error), then the totals: whether every unit succeeded,
the number of units and of failed ones, and the rows of each pass (functions for the metrics,
findings for the destructor check).

The JSON of an analysis holds the version, the report directory, the passes and the units;
a unit holds its path and status, then its reports and the parse note, or the error.

Main definitions:
* `BatchOutcome.pretty`, `BatchOutcome.toJson`.
* `CombineSummary.pretty`, `CombineSummary.toJson`.
-/

namespace SourceAudit

/-- What the rows of a pass count. -/
def Pass.rowNoun : Pass → String
  | .halstead => "functions"
  | .cwe1087 => "findings"

end SourceAudit

namespace SourceAudit.Batch

open Json

/-- The line of one unit. -/
def UnitOutcome.line (u : UnitOutcome) : String :=
  match u.status with
  | .ok passes parseErrors =>
    "  ✓ " ++ u.path ++ String.join (passes.map fun o => "  " ++ o.pass.name ++ ": " ++ toString o.rows) ++
      (if parseErrors then "  (syntax errors)" else "") ++ "\n"
  | .failed message => "  ✗ " ++ u.path ++ "  " ++ message ++ "\n"

/-- The totals line of a run. -/
def BatchOutcome.totals (b : BatchOutcome) : String :=
  let failed := b.failedCount
  (if failed == 0 then "  ✓ OK" else "  ✗ FAILED") ++ "  " ++ toString b.units.length ++ " units" ++
    (if failed > 0 then ", " ++ toString failed ++ " failed" else "") ++
    String.join (b.passes.map fun p => "  " ++ toString (b.totalRows p) ++ " " ++ p.rowNoun) ++ "\n"

/-- **The text summary of a run.** -/
def BatchOutcome.pretty (b : BatchOutcome) : String :=
  "\n  astpass v" ++ b.version ++ "\n\n" ++
    "  Reports:  " ++ b.outputDir ++ "\n" ++
    "  Passes:   " ++ ", ".intercalate (b.passes.map (·.name)) ++ "\n\n" ++
    String.join (b.units.map (·.line)) ++ "\n" ++ b.totals ++ "\n"

/-- A unit's report as JSON. -/
def PassOutput.toJson (o : PassOutput) : JsonValue :=
  .obj [("pass", .str o.pass.name), ("report", .str o.report), ("rows", .nat o.rows)]

/-- A unit as JSON: its path, then its status with what belongs to it. -/
def UnitOutcome.toJson (u : UnitOutcome) : JsonValue :=
  match u.status with
  | .ok passes parseErrors =>
    .obj [("path", .str u.path), ("status", .str "ok"), ("passes", .arr (passes.map (·.toJson))),
      ("parse_errors", .bool parseErrors)]
  | .failed message => .obj [("path", .str u.path), ("status", .str "failed"), ("message", .str message)]

/-- **A run as JSON.** -/
def BatchOutcome.toJson (b : BatchOutcome) : JsonValue :=
  .obj [("version", .str b.version), ("output_dir", .str b.outputDir),
    ("passes", .arr (b.passes.map fun p => .str p.name)), ("units", .arr (b.units.map (·.toJson)))]

end SourceAudit.Batch

namespace SourceAudit

open Json

/-- **The text summary of a merge.** -/
def CombineSummary.pretty (s : CombineSummary) : String :=
  if s.reports.isEmpty then "  no per-unit reports found\n"
  else
    String.join (s.reports.map fun r =>
      "  ✓ " ++ r.path ++ "  " ++ toString r.rows ++ " rows from " ++ toString r.inputs ++
        " reports (" ++ toString r.skipped ++ " empty)\n") ++
    String.join (s.removed.map fun p => "  removed " ++ p ++ "\n")

/-- A merged report as JSON. -/
def CombinedReport.toJson (r : CombinedReport) : JsonValue :=
  .obj [("pass", .str r.pass.name), ("path", .str r.path), ("inputs", .nat r.inputs),
    ("skipped", .nat r.skipped), ("rows", .nat r.rows)]

/-- **A merge as JSON.** -/
def CombineSummary.toJson (s : CombineSummary) : JsonValue :=
  .obj [("reports", .arr (s.reports.map (·.toJson))), ("removed", .arr (s.removed.map .str))]

end SourceAudit
