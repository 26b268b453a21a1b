import SourceAudit.Pass
import SourceAudit.Halstead.Counts
/-!
# The command line's grammar

The program takes an optional count of `-v`, then one command: `analyze` (also `run`),
`combine`, `init`, or `help`. Each command has named options, some of which take a value, and
positional arguments. An option is written `--long`, `--long=value`, `--long value`, `-s`,
`-svalue`, `-s=value` or `-s value`; several short flags may share one dash.

Each option says how it may be used (`Action`): a flag at most once, a counted flag any number
of times, one value at most once, or one value per use any number of times. A value is checked
as soon as it is taken (`ValueKind.check`): a path must not be empty, and a pass or a policy
must name one.

Main definitions:
* `ValueKind`, `Action`, `Opt`, `Positional`, `Command`.
* `Opt.display`, `Positional.display`: how an argument is named in messages.
* `analyzeCommand`, `combineCommand`, `initCommand`, `helpCommand`, `programCommand`.
-/

namespace SourceAudit.Cli

/-- What a value must be. -/
inductive ValueKind where
  | path
  | text
  | pass
  | policy
  deriving Repr, BEq, DecidableEq, Inhabited

/-- Why a value is refused: it is empty where one is required, or it names nothing. -/
inductive ValueProblem where
  | missing
  | invalid (reason : String)
  deriving Repr, BEq, DecidableEq, Inhabited

/-- **Checks a value** of a kind. -/
def ValueKind.check : ValueKind → String → Option ValueProblem
  | .path, v => if v.isEmpty then some .missing else none
  | .text, _ => none
  | .pass, v => if (Pass.ofText? v).isSome then none else some (.invalid (Pass.unknownMessage v))
  | .policy, v =>
    if (Halstead.DegeneratePolicy.ofText? v).isSome then none
    else some (.invalid (Halstead.DegeneratePolicy.unknownMessage v))

/-- How an option may be used. -/
inductive Action where
  | flag
  | count
  | single (kind : ValueKind)
  | many (kind : ValueKind)
  | help
  | version
  deriving Repr, BEq, DecidableEq, Inhabited

/-- The option takes a value after it. -/
def Action.takesValue : Action → Bool
  | .single _ | .many _ => true
  | _ => false

/-- A named option. -/
structure Opt where
  id : String
  short : Option Char := none
  long : String
  action : Action
  valueName : String := ""
  about : String
  default : Option String := none
  required : Bool := false
  order : Nat := 999
  deriving Repr, Inhabited

/-- A positional argument. -/
structure Positional where
  id : String
  valueName : String
  about : String
  required : Bool := false
  many : Bool := false
  kind : ValueKind := .path
  deriving Repr, Inhabited

/-- A command: its word, the words before it in usage lines, its description, its other
words, its options (in the order they were declared) and its positional arguments. -/
structure Command where
  name : String
  usageName : String
  about : String
  aliases : List String := []
  options : List Opt := []
  positionals : List Positional := []
  deriving Repr, Inhabited

/-- **How an option is named in messages**: its long form, then its value. -/
def Opt.display (o : Opt) : String :=
  "--" ++ o.long ++
    if o.action.takesValue then " <" ++ o.valueName ++ ">"
    else if o.action == .count then "..." else ""

/-- How a positional argument is named: in angle brackets when required, else in square
ones, with `...` when it repeats. -/
def Positional.shown (p : Positional) (required : Bool) : String :=
  (if required then "<" ++ p.valueName ++ ">" else "[" ++ p.valueName ++ "]") ++
    if p.many then "..." else ""

/-- **How a positional argument is named in messages.** -/
def Positional.display (p : Positional) : String := p.shown p.required

/-- The key an option is listed by: its place, then its short letter (lower case first) or its
long form. -/
def Opt.sortKey (o : Opt) : Nat × String :=
  (o.order, match o.short with
    | some c => String.ofList [c.toLower, if c.isLower then '0' else '1']
    | none => o.long)

/-- The option named by a long form. -/
def Command.findLong (c : Command) (long : String) : Option Opt :=
  c.options.find? (·.long == long)

/-- The option named by a short letter. -/
def Command.findShort (c : Command) (s : Char) : Option Opt :=
  c.options.find? (·.short == some s)

/-- The argument with an identifier, named for messages. -/
def Command.displayOf (c : Command) (id : String) : Option String :=
  match c.options.find? (·.id == id) with
  | some o => some o.display
  | none => (c.positionals.find? (·.id == id)).map (·.display)

/-- The counted verbosity flag, accepted by every command but `help`. -/
def verboseOpt : Opt where
  id := "verbose"
  short := some 'v'
  long := "verbose"
  action := .count
  about := "Increase log verbosity (-v info, -vv debug, -vvv trace)"
  order := 0

/-- The flag that prints a command's help. -/
def helpOpt : Opt where
  id := "help"
  short := some 'h'
  long := "help"
  action := .help
  about := "Print help"

/-- The flag that prints the program's version. -/
def versionOpt : Opt where
  id := "version"
  short := some 'V'
  long := "version"
  action := .version
  about := "Print version"

/-- The report format option. -/
def formatOpt (order : Nat) : Opt where
  id := "format"
  short := some 'f'
  long := "format"
  action := .single .text
  valueName := "FORMAT"
  about := "Output format: pretty or json"
  default := some "pretty"
  order := order

/-- The passes option of a command. -/
def passOpt (about : String) : Opt where
  id := "passes"
  short := some 'p'
  long := "pass"
  action := .many .pass
  valueName := "PASSES"
  about := about
  order := 1

/-- A path option. -/
def pathOpt (id : String) (short : Option Char) (long valueName about : String) (order : Nat) :
    Opt where
  id := id
  short := short
  long := long
  action := .single .path
  valueName := valueName
  about := about
  order := order

/-- A flag used at most once. -/
def flagOpt (id long about : String) (order : Nat) : Opt where
  id := id
  long := long
  action := .flag
  about := about
  order := order

/-- The policy option of `analyze`. -/
def degenerateOpt : Opt where
  id := "degenerate"
  long := "degenerate"
  action := .single .policy
  valueName := "DEGENERATE"
  about := "Degenerate metrics policy: sentinel or skip"
  order := 4

/-- The project option of `combine`. -/
def projectOpt : Opt where
  id := "project"
  long := "project"
  action := .single .text
  valueName := "PROJECT"
  about := "Project name used for the combined file names"
  required := true
  order := 0

/-- The output option of `init`. -/
def outputOpt : Opt where
  id := "output"
  short := some 'o'
  long := "output"
  action := .single .path
  valueName := "OUTPUT"
  about := "Output file path"
  default := some "astpass.yaml"
  order := 0

/-- The sources of `analyze`. -/
def pathsArg : Positional where
  id := "paths"
  valueName := "PATHS"
  about := "Source files or directories to analyze"
  many := true

/-- The report directory of `combine`. -/
def dirArg : Positional where
  id := "dir"
  valueName := "DIR"
  about := "Directory holding the per-unit reports"
  required := true

/-- The commands whose help `help` prints. -/
def subcommandArg : Positional where
  id := "subcommand"
  valueName := "COMMAND"
  about := "Print help for the subcommand(s)"
  many := true
  kind := .text

/-- **The `analyze` command.** -/
def analyzeCommand : Command where
  name := "analyze"
  usageName := "astpass analyze"
  about := "Run the analysis passes over source files"
  aliases := ["run"]
  positionals := [pathsArg]
  options := [
    pathOpt "config" (some 'c') "config" "CONFIG"
      "Path to config YAML file (default: auto-discover)" 0,
    passOpt "Pass to run, repeatable: halstead, cwe-1087 (default: from config)",
    pathOpt "output_dir" (some 'o') "output-dir" "OUTPUT_DIR"
      "Directory the per-unit reports are written to" 2,
    pathOpt "compile_commands" none "compile-commands" "COMPILE_COMMANDS"
      "Analyze the files listed in a compile_commands.json" 3,
    degenerateOpt,
    flagOpt "public_bases_only" "public-bases-only" "Ignore protected and private base classes" 5,
    formatOpt 6, verboseOpt, helpOpt]

/-- **The `combine` command.** -/
def combineCommand : Command where
  name := "combine"
  usageName := "astpass combine"
  about := "Merge per-unit reports into one report per pass"
  positionals := [dirArg]
  options := [projectOpt, passOpt "Pass to combine, repeatable (default: all)",
    flagOpt "remove_empty" "remove-empty" "Delete per-unit reports that hold no rows" 2,
    formatOpt 3, verboseOpt, helpOpt]

/-- **The `init` command.** -/
def initCommand : Command where
  name := "init"
  usageName := "astpass init"
  about := "Write a default astpass.yaml"
  options := [outputOpt, flagOpt "force" "force" "Overwrite an existing file" 1, verboseOpt,
    helpOpt]

/-- **The `help` command**: the help of the commands it names. -/
def helpCommand : Command where
  name := "help"
  usageName := "astpass help"
  about := "Print this message or the help of the given subcommand(s)"
  positionals := [subcommandArg]

/-- The commands, in the order they are listed. -/
def commands : List Command := [analyzeCommand, combineCommand, initCommand, helpCommand]

/-- **The program itself**, as a command whose arguments come before a command word. -/
def programCommand : Command where
  name := "astpass"
  usageName := "astpass"
  about := "AST passes for C and C++ - Halstead metrics and base-class destructor checks"
  options := [verboseOpt, helpOpt, versionOpt]

/-- The program's version line. -/
def versionText : String := "astpass 0.1.0\n"

/-- The command a word names, by its name or another of its words. -/
def findCommand (word : String) : Option Command :=
  commands.find? fun c => c.name == word || c.aliases.contains word

/-- Every word that names a command, each command's name before its other words. -/
def commandWords : List String := commands.flatMap fun c => c.name :: c.aliases

end SourceAudit.Cli
