import SourceAudit.Path.Basic
import SourceAudit.Pass
/-!
# Where a unit's report is written

A unit's report for a pass is named after the unit's path: the extension is dropped, one
leading `./` is removed, every `/` and `\` becomes `_`, and the pass's suffix is added, so units
in different directories can share one output directory (`src/shapes.cpp` gives
`src_shapes_cwe1087_metrics.csv`).

Main definitions:
* `Report.fileName`, `Report.filePath`.
-/

namespace SourceAudit.Report

/-- A separator of path parts becomes `_`. -/
def flattenChar (c : Char) : Char := if c == '/' || c == '\\' then '_' else c

/-- Removes one leading `./`. -/
def dropCurrentPrefix (s : String) : String :=
  match s.toList with
  | '.' :: '/' :: rest => String.ofList rest
  | _ => s

/-- The file name of the report `pass` writes for the unit at `source`. -/
def fileName (source : String) (pass : Pass) : String :=
  String.ofList ((dropCurrentPrefix (Path.dropExtension source)).toList.map flattenChar) ++
    pass.suffix

/-- The report's path inside `outputDir`. -/
def filePath (outputDir source : String) (pass : Pass) : String :=
  Path.join outputDir (fileName source pass)

end SourceAudit.Report
