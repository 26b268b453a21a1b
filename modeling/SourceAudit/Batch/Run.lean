import SourceAudit.Batch.Collect
import SourceAudit.Ast.OfSource
import SourceAudit.Analysis
import SourceAudit.Config.Basic
import SourceAudit.Report.Naming
/-!
# Running the passes over the units

A run takes its units one after another. A unit's dialect comes from its extension; its text is
read and parsed (a syntax error does not stop it: the unit records that its parse recovered);
then each configured pass writes its report, in pass order, into the report directory, which is
made first with its ancestors. A unit fails with the first of these steps that fails, and the
reports it wrote before stay; the run goes on with the next unit. Two units whose reports have
one name write the same file, the later one last.

Main definitions:
* `PassOutput`, `UnitStatus`, `UnitOutcome`, `BatchOutcome`.
* `analyzeUnit`: one unit's reports and outcome.
* `runUnits`: every unit in order, and the run's outcome.
-/

namespace SourceAudit.Batch

/-- The report one pass wrote for a unit, with its row count. -/
structure PassOutput where
  pass : Pass
  report : String
  rows : Nat
  deriving Repr, BEq, Inhabited

/-- How a unit ended: its reports and whether its parse recovered, or why it failed. -/
inductive UnitStatus where
  | ok (passes : List PassOutput) (parseErrors : Bool)
  | failed (message : String)
  deriving Repr, BEq, Inhabited

/-- A unit's path and how it ended. -/
structure UnitOutcome where
  path : String
  status : UnitStatus
  deriving Repr, BEq, Inhabited

/-- The unit ended with its reports written. -/
def UnitOutcome.isOk (u : UnitOutcome) : Bool :=
  match u.status with
  | .ok .. => true
  | .failed _ => false

/-- The rows a pass wrote for the unit. -/
def UnitOutcome.rows (u : UnitOutcome) (pass : Pass) : Nat :=
  match u.status with
  | .ok passes _ => ((passes.filter (·.pass == pass)).map (·.rows)).foldr (· + ·) 0
  | .failed _ => 0

/-- What a whole run did. -/
structure BatchOutcome where
  version : String := "0.1.0"
  outputDir : String
  passes : List Pass
  units : List UnitOutcome
  deriving Repr, Inhabited

/-- The number of units that failed. -/
def BatchOutcome.failedCount (b : BatchOutcome) : Nat := (b.units.filter (!·.isOk)).length

/-- No unit failed. -/
def BatchOutcome.succeeded (b : BatchOutcome) : Bool := b.failedCount == 0

/-- The rows a pass wrote over all units. -/
def BatchOutcome.totalRows (b : BatchOutcome) (pass : Pass) : Nat :=
  (b.units.map (·.rows pass)).foldr (· + ·) 0

/-- Opens a report for writing: its directory and the ancestors are made, then the file is
created empty. -/
def openReport (fs : FileSystem) (report : String) : Except AnalysisError FileSystem := do
  let opened : Except IoError FileSystem := do
    let fs ← match FileSystem.parentText report with
      | some dir => if dir.isEmpty then pure fs else fs.createDirAll dir
      | none => pure fs
    fs.write report ""
  opened.mapError fun e => .sinkOpen report e.render

/-- Writes every configured pass's report of an outline, in order; the reports written before
a failure stay. -/
def writeReports (config : Config) (source : String) (u : Outline) :
    FileSystem → List Pass → FileSystem × Except AnalysisError (List PassOutput)
  | fs, [] => (fs, .ok [])
  | fs, pass :: rest =>
    let report := Report.filePath config.outputDir source pass
    match openReport fs report with
    | .error e => (fs, .error e)
    | .ok fs =>
      let options : Options := ⟨config.degenerate, config.publicBasesOnly⟩
      let (text, rows) := u.report options pass
      let fs := match fs.write report text with
        | .ok fs => fs
        | .error _ => fs
      match writeReports config source u fs rest with
      | (fs, .ok outs) => (fs, .ok (⟨pass, report, rows⟩ :: outs))
      | (fs, .error e) => (fs, .error e)

/-- **Analyses one unit**: reads, parses and writes its reports. -/
def analyzeUnit (config : Config) (fs : FileSystem) (path : String) :
    FileSystem × UnitOutcome :=
  let ext := (Path.extension? path).getD ""
  match Syntax.Dialect.ofExtension? ext with
  | none => (fs, ⟨path, .failed (AnalysisError.unsupportedExtension ext).message⟩)
  | some dialect =>
    match fs.read path with
    | .error e => (fs, ⟨path, .failed (AnalysisError.read path e.render).message⟩)
    | .ok text =>
      let u := Outline.ofSource path dialect text.toUTF8
      match writeReports config path u fs config.passes with
      | (fs, .ok outs) => (fs, ⟨path, .ok outs u.hasParseErrors⟩)
      | (fs, .error e) => (fs, ⟨path, .failed e.message⟩)

/-- **Runs every unit in order**, each seeing the reports of those before it. -/
def runUnits (config : Config) (fs : FileSystem) (files : List String) :
    FileSystem × BatchOutcome :=
  let step (acc : FileSystem × List UnitOutcome) (path : String) :=
    let (fs, done) := acc
    let (fs, u) := analyzeUnit config fs path
    (fs, done ++ [u])
  let (fs, units) := files.foldl step (fs, [])
  (fs, { outputDir := config.outputDir, passes := config.passes, units := units })

end SourceAudit.Batch
