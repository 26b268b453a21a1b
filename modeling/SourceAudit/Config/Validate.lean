import SourceAudit.Config.Basic
import SourceAudit.Glob.Match
import SourceAudit.Text.Quoted
/-!
# Checking a configuration

A configuration is refused, with the first of these that applies, when it names no pass, names
a pass twice, has an empty report directory, or leaves out sources by a pattern that is not a
glob.

Main definitions:
* `Config.firstRepeat`: the first pass named a second time.
* `Config.problem?`: why the configuration is refused, if it is.
* `Config.exclusions`: the exclusion globs.
-/

namespace SourceAudit

/-- The first element that repeats an earlier one. -/
def firstRepeat [BEq α] : List α → List α → Option α
  | _, [] => none
  | seen, x :: rest => if seen.contains x then some x else firstRepeat (seen ++ [x]) rest

/-- The first pass named a second time. -/
def Config.firstRepeat (c : Config) : Option Pass := SourceAudit.firstRepeat [] c.passes

/-- The exclusion globs, or the first pattern that is not one with its error. -/
def Config.exclusions (c : Config) : Except String (List Glob) :=
  c.excludedPaths.mapM fun p =>
    match Glob.ofText p with
    | .ok g => .ok g
    | .error e => .error ("invalid excluded_paths pattern " ++ Text.quote p ++ ": " ++ e.render)

/-- **Why a configuration is refused**, if it is. -/
def Config.problem? (c : Config) : Option String :=
  if c.passes.isEmpty then some "no passes configured, expected at least one of: halstead, cwe-1087"
  else match c.firstRepeat with
    | some p => some ("pass " ++ p.name ++ " listed more than once")
    | none =>
      if c.outputDir.isEmpty then some "output_dir must not be empty"
      else match c.exclusions with
        | .error m => some m
        | .ok _ => none

end SourceAudit
