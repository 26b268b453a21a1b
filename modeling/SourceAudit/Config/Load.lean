import SourceAudit.Config.Basic
import SourceAudit.Yaml.Decode
import SourceAudit.Text.Blank
/-!
# Reading a configuration from YAML

A configuration file is a YAML mapping with the optional keys `output_dir` (any scalar's
text), `passes` (a sequence of `halstead` and `cwe-1087`), `degenerate_metrics` (`sentinel`
or `skip`), `public_bases_only` (a boolean) and `excluded_paths` (a sequence of texts). Other
keys are ignored; a key given twice is refused. A blank file, an empty document and a stream
without documents all give the defaults; an empty value gives an empty sequence.

Main definitions:
* `ConfigFields`: the settings given so far.
* `Config.ofYaml`: the configuration a text gives, or the decoding error.
-/

namespace SourceAudit

open Yaml

/-- The settings a configuration text has given so far. -/
structure ConfigFields where
  outputDir : Option String := none
  passes : Option (List Pass) := none
  degenerate : Option Halstead.DegeneratePolicy := none
  publicBasesOnly : Option Bool := none
  excludedPaths : Option (List String) := none
  deriving Inhabited

/-- The given settings over the defaults. -/
def ConfigFields.toConfig (f : ConfigFields) : Config :=
  { outputDir := f.outputDir.getD ".", passes := f.passes.getD Pass.all
    degenerate := f.degenerate.getD .sentinel, publicBasesOnly := f.publicBasesOnly.getD false
    excludedPaths := f.excludedPaths.getD [] }

/-- The pass a variant name stands for. -/
def passOfName (s : String) : Pass := if s == "halstead" then .halstead else .cwe1087

/-- The policy a variant name stands for. -/
def policyOfName (s : String) : Halstead.DegeneratePolicy :=
  if s == "skip" then .skip else .sentinel

/-- Refuses a key given twice. -/
def once (seen : Bool) (key : String) : Decoder Unit :=
  if seen then Decoder.fail ("duplicate field `" ++ key ++ "`") else pure ()

/-- Reads the value of one key of a configuration mapping. -/
def ConfigFields.entry (f : ConfigFields) (key : String) (p : Path) : Decoder ConfigFields :=
  match key with
  | "output_dir" => do
    once f.outputDir.isSome key
    pure { f with outputDir := some (← Decoder.text "path string" p) }
  | "passes" => do
    once f.passes.isSome key
    let names ← Decoder.sequence (Decoder.variant (Pass.all.map Pass.name)) p
    pure { f with passes := some (names.toList.map passOfName) }
  | "degenerate_metrics" => do
    once f.degenerate.isSome key
    pure { f with degenerate := some (policyOfName (← Decoder.variant ["sentinel", "skip"] p)) }
  | "public_bases_only" => do
    once f.publicBasesOnly.isSome key
    pure { f with publicBasesOnly := some (← Decoder.bool p) }
  | "excluded_paths" => do
    once f.excludedPaths.isSome key
    pure { f with excludedPaths := some (← Decoder.sequence (Decoder.text "a string") p).toList }
  | _ => do Decoder.skipValue; pure f

/-- **The configuration a text gives.** -/
def Config.ofYaml (t : String) : Except DecodeError Config :=
  if Text.isBlankText t then pure Config.default
  else (Decoder.run (Decoder.record "struct Config" {} ConfigFields.entry) t).map
    ConfigFields.toConfig

end SourceAudit
