import SourceAudit.Cli.Parse
import SourceAudit.Batch.Job
import SourceAudit.Report.Summary
import SourceAudit.Config.Template
import SourceAudit.Text.Quoted
import SourceAudit.Text.Blank
/-!
# Running a command line

The command line is read (`readProgram`), then the command runs on the tree:

* `analyze` checks the output format, loads the configuration (the one named, else the first
  of `./astpass.yaml` and `./.astpass.yaml` that is a file, else the defaults), lets the
  options override it, checks it, adds the sources of the compilation database to the paths,
  refuses an empty input, collects the units (no unit is only a warning), runs them and prints
  the summary; it ends with 1 when a unit failed.
* `combine` checks the format, the project name and the directory, then merges the reports of
  the passes asked for (all by default) and prints what it wrote.
* `init` refuses to overwrite a file unless forced, makes the file's directory, writes the
  starting configuration and says what to do next.

A refused command line ends with 2, its message on the error stream; help and the version
are printed on the output stream and end with 0, except the program's help shown because
nothing was given, which is an error. Every other error of a command ends with 2 and prints
`Error: ` and its message.

Main definitions:
* `Outcome`.
* `AnalyzeRequest`, `CombineRequest`, `InitRequest`, `Request`, `Request.ofReading`.
* `runAnalyze`, `runCombine`, `runInit`, `runProgram`.
-/

namespace SourceAudit.Cli

open Batch

/-- What a run of the program did: its exit code, what it printed on each stream, and the
tree it left. -/
structure Outcome where
  exitCode : Nat
  stdout : String
  stderr : String
  fs : FileSystem
  deriving Inhabited

/-- Ends with exit code 2 and an error message. -/
def failWith (fs : FileSystem) (message : String) : Outcome := ⟨2, "", "Error: " ++ message ++ "\n", fs⟩

/-- What `analyze` was asked to do. -/
structure AnalyzeRequest where
  paths : List String
  config : Option String
  passes : List Pass
  outputDir : Option String
  compileCommands : Option String
  degenerate : Option Halstead.DegeneratePolicy
  publicBasesOnly : Bool
  format : String
  deriving Repr, Inhabited

/-- What `combine` was asked to do. -/
structure CombineRequest where
  dir : String
  project : String
  passes : List Pass
  removeEmpty : Bool
  format : String
  deriving Repr, Inhabited

/-- What `init` was asked to do. -/
structure InitRequest where
  output : String
  force : Bool
  deriving Repr, Inhabited

/-- A command with what it was given. -/
inductive Request where
  | analyze (a : AnalyzeRequest)
  | combine (c : CombineRequest)
  | init (i : InitRequest)
  deriving Repr, Inhabited

/-- The value an argument took, if it was given. -/
def Reading.value? (r : Reading) (id : String) : Option String := (r.values id).head?

/-- The passes an argument named. -/
def Reading.passes (r : Reading) (id : String) : List Pass := (r.values id).filterMap Pass.ofText?

/-- **The request a command's reading makes.** -/
def Request.ofReading (c : Command) (r : Reading) : Request :=
  let format := (r.value? "format").getD "pretty"
  if c.name == combineCommand.name then
    .combine ⟨(r.value? "dir").getD "", (r.value? "project").getD "", r.passes "passes",
      r.has "remove_empty", format⟩
  else if c.name == initCommand.name then
    .init ⟨(r.value? "output").getD "astpass.yaml", r.has "force"⟩
  else
    .analyze ⟨r.values "paths", r.value? "config", r.passes "passes", r.value? "output_dir",
      r.value? "compile_commands", (r.value? "degenerate").bind Halstead.DegeneratePolicy.ofText?,
      r.has "public_bases_only", format⟩

/-- The complaint about an output format other than `pretty` and `json`. -/
def formatProblem (format : String) : Option String :=
  if format == "pretty" || format == "json" then none
  else some ("invalid format " ++ Text.quote format ++ ", must be 'pretty' or 'json'")

/-- The configuration files looked for when none is named, in order. -/
def configNames : List String := ["./astpass.yaml", "./.astpass.yaml"]

/-- **Loads the configuration**: the file named, else the first of `configNames` that is a
file, else the defaults. -/
def loadConfig (fs : FileSystem) (named : Option String) : Except String Config :=
  match named.orElse fun _ => configNames.find? fs.isFile with
  | none => pure Config.default
  | some p =>
    let fail (e : String) : String := "cannot load config " ++ p ++ ": " ++ e
    match fs.read p with
    | .error e => throw (fail e.render)
    | .ok text => (Config.ofYaml text).mapError fun e => fail e.render

/-- The configuration with the command line's overrides. -/
def AnalyzeRequest.override (a : AnalyzeRequest) (c : Config) : Config :=
  let c := if a.passes.isEmpty then c else { c with passes := a.passes }
  let c := match a.outputDir with
    | some d => { c with outputDir := d }
    | none => c
  let c := match a.degenerate with
    | some p => { c with degenerate := p }
    | none => c
  if a.publicBasesOnly then { c with publicBasesOnly := true } else c

/-- The outcome a run reached, whether it stopped early or not. -/
def outcomeOf : Except Outcome Outcome → Outcome
  | .ok o | .error o => o

/-- **Runs `analyze`.** -/
def runAnalyze (a : AnalyzeRequest) (fs : FileSystem) : Outcome :=
  outcomeOf do
    if let some m := formatProblem a.format then throw (failWith fs m)
    let c ← (loadConfig fs a.config).mapError (failWith fs)
    let c := a.override c
    if let some p := c.problem? then throw (failWith fs ("invalid config: " ++ p))
    let more ← match a.compileCommands with
      | none => pure []
      | some db => (Build.databaseSources fs db).mapError (failWith fs)
    let inputs := a.paths ++ more
    if inputs.isEmpty then throw (failWith fs "no input, pass source paths or --compile-commands")
    let globs ← c.exclusions.mapError (failWith fs)
    let files ← (collectFiles fs globs inputs).mapError (failWith fs)
    if files.isEmpty then throw ⟨0, "", "Warning: no files to analyze\n", fs⟩
    let (fs, outcome) := runUnits c fs files
    let text := if a.format == "json" then outcome.toJson.pretty ++ "\n" else outcome.pretty
    pure ⟨if outcome.succeeded then 0 else 1, text, "", fs⟩

/-- **Runs `combine`.** -/
def runCombine (q : CombineRequest) (fs : FileSystem) : Outcome :=
  outcomeOf do
    if let some m := formatProblem q.format then throw (failWith fs m)
    if Text.isBlankText q.project then throw (failWith fs "--project must not be empty")
    if !fs.isDir q.dir then throw (failWith fs ("not a directory: " ++ q.dir))
    let passes := if q.passes.isEmpty then Pass.all else q.passes
    match combineReports fs q.dir q.project passes q.removeEmpty with
    | (fs, .error e) => throw (failWith fs e.render)
    | (fs, .ok summary) =>
      let text := if q.format == "json" then summary.toJson.pretty ++ "\n" else summary.pretty
      pure ⟨0, text, "", fs⟩

/-- The directory `init` makes for its file: the file's parent, unless that is empty or `.`. -/
def initDirectory (output : String) : Option String :=
  match FileSystem.parentText output with
  | some p => if p.isEmpty || p == "." then none else some p
  | none => none

/-- What `init` prints after writing its file. -/
def initMessage (output : String) : String :=
  "Created " ++ output ++ "\n\nNext steps:\n  1. Edit " ++ output ++
    " to choose passes and the output directory\n  2. Run: astpass analyze src --config " ++
    output ++ "\n"

/-- **Runs `init`.** -/
def runInit (i : InitRequest) (fs : FileSystem) : Outcome :=
  outcomeOf do
    if (fs.stat i.output).toOption.isSome && !i.force then
      throw ⟨2, "", "Error: file already exists: " ++ i.output ++
        "\nRemove it, pass --force, or use --output to specify a different path\n", fs⟩
    let made := match initDirectory i.output with
      | some d => fs.createDirAll d
      | none => pure fs
    let fs ← made.mapError fun e => failWith fs ("failed to create directory: " ++ e.render)
    let fs ← (fs.write i.output configTemplate).mapError fun e =>
      failWith fs ("failed to write config: " ++ e.render)
    pure ⟨0, initMessage i.output, "", fs⟩

/-- **Runs the program** on its arguments (without the program's name) and a tree. -/
def runProgram (args : List String) (fs : FileSystem) : Outcome :=
  match readProgram {} args with
  | .error (.refused f) => ⟨2, "", f.render, fs⟩
  | .error (.shown text) => ⟨0, text, "", fs⟩
  | .error (.helpOnEmpty text) => ⟨2, "", text, fs⟩
  | .ok (c, r) =>
    match Request.ofReading c r with
    | .analyze a => runAnalyze a fs
    | .combine q => runCombine q fs
    | .init i => runInit i fs

end SourceAudit.Cli
