import SourceAudit.Batch.Run
import SourceAudit.Build.Database
import SourceAudit.Config.Load
import SourceAudit.Config.Validate
/-!
# A batch job from start to end

A job is a configuration text (none means every default), an optional report directory that
overrides the configuration's, input paths, and an optional compilation database. It runs in
six steps, and each of the first four stops the job with its own kind of error: the
configuration is read, then its report directory is overridden and it is checked, then the
database's sources are added after the inputs, then the exclusion globs are compiled and the
units collected; last the units are run.

Main definitions:
* `Job`, `JobError`.
* `Job.run`: the collected units, the outcome and the tree the run leaves.
-/

namespace SourceAudit.Batch

/-- What a batch job is asked to do. -/
structure Job where
  config : Option String := none
  outputDir : Option String := none
  inputs : List String := ["."]
  compileCommands : Option String := none
  deriving Repr, Inhabited

/-- The step that stopped a job, with its message. -/
inductive JobError where
  | configParse (message : String)
  | configInvalid (message : String)
  | compileCommands (message : String)
  | collectFiles (message : String)
  deriving Repr, BEq, DecidableEq, Inhabited

/-- The message of the error. -/
def JobError.message : JobError → String
  | .configParse m | .configInvalid m | .compileCommands m | .collectFiles m => m

/-- The configuration of a job, overridden and checked. -/
def Job.settings (j : Job) : Except JobError Config := do
  let c ← match j.config with
    | none => pure Config.default
    | some text => (Config.ofYaml text).mapError fun e => .configParse e.render
  let c := match j.outputDir with
    | some d => { c with outputDir := d }
    | none => c
  match c.problem? with
  | some p => throw (.configInvalid p)
  | none => pure c

/-- **Runs a job** on a tree: the units in order, the outcome, and the tree after the run. -/
def Job.run (j : Job) (fs : FileSystem) :
    Except JobError (List String × BatchOutcome × FileSystem) := do
  let c ← j.settings
  let inputs ← match j.compileCommands with
    | none => pure j.inputs
    | some db => do
      let more ← (Build.databaseSources fs db).mapError JobError.compileCommands
      pure (j.inputs ++ more)
  let globs ← c.exclusions.mapError JobError.configInvalid
  let files ← (collectFiles fs globs inputs).mapError JobError.collectFiles
  let (fs, outcome) := runUnits c fs files
  pure (files, outcome, fs)

end SourceAudit.Batch
