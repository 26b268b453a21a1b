import SourceAudit.Cli.Spec
/-!
# Usage lines and help text

A command's usage line names the command, `[OPTIONS]` when it has an option that is neither
required nor `--help`/`--version`, its required options, its positional arguments (required ones
in angle brackets, others in square ones) and, for the program itself, `<COMMAND>`. A usage line
shown after an error that involved some arguments (`smartUsage`) leaves `[OPTIONS]` out and
names the required options, then the arguments that were used, each once, then the positional
arguments, a used one as if it were required.

A help text is the command's description, its usage line, then up to three sections
(`Commands:`, `Arguments:`, `Options:`), each entry on a line of its own: two spaces, the
entry's name, then its description aligned two columns after the longest name of the section.
Options are listed by `Opt.sortKey`. In a section where the names take more than 40 of the 100
columns and some description would not fit beside them, every description goes on the next
line instead, indented by ten spaces.

Main definitions:
* `Command.helpUsage`, `Command.smartUsage`.
* `Command.helpText`.
-/

namespace SourceAudit.Cli

/-- A run of spaces. -/
def spaces (n : Nat) : String := String.ofList (List.replicate n ' ')

/-- The help line of an option before its description: its short form (or four spaces), its
long form and its value. -/
def Opt.spec (o : Opt) : String :=
  (match o.short with
    | some c => "-" ++ c.toString ++ ", "
    | none => "    ") ++ o.display

/-- The note after an option's description: its default value. -/
def Opt.note (o : Opt) : String :=
  match o.default with
  | some d => "[default: " ++ d ++ "]"
  | none => ""

/-- A description followed by its note, if any. -/
def withNote (about note : String) : String :=
  if note.isEmpty then about else about ++ " " ++ note

/-- The command is a group of commands: its usage ends in `<COMMAND>`. -/
def Command.hasCommands (c : Command) : Bool := c.name == programCommand.name

/-- **The usage line of a command** when nothing was used. -/
def Command.helpUsage (c : Command) : String :=
  let tag := c.options.any fun o =>
    !o.required && o.action != .help && o.action != .version
  let words := [c.usageName] ++ (if tag then ["[OPTIONS]"] else []) ++
    (c.options.filter (·.required)).map (·.display) ++ c.positionals.map (·.display) ++
    (if c.hasCommands then ["<COMMAND>"] else [])
  " ".intercalate words

/-- Appends the words not yet present, keeping the first of each. -/
def appendNew (acc : List String) (words : List String) : List String :=
  words.foldl (fun acc w => if acc.contains w then acc else acc ++ [w]) acc

/-- **The usage line of a command after an error**, given the arguments that were used. -/
def Command.smartUsage (c : Command) (used : List String) : String :=
  let required := (c.options.filter (·.required)).map (·.display)
  let named := used.filterMap fun id => (c.options.find? (·.id == id)).map (·.display)
  let options := appendNew [] (required ++ named)
  let positionals := c.positionals.map fun p => p.shown (p.required || used.contains p.id)
  " ".intercalate ([c.usageName] ++ options ++ positionals ++
    (if c.hasCommands then ["<COMMAND>"] else []))

/-- The usage line of an error: after an error that involved no argument, the plain one. -/
def Command.usageAfter (c : Command) (used : List String) : String :=
  if used.isEmpty then c.helpUsage else c.smartUsage used

/-- The widest of some names, and at least two. -/
def widest (names : List String) : Nat := names.foldl (fun m s => max m s.length) 2

/-- **A section goes on two lines per entry**: its names take `taken` of the 100 columns, more
than 40, and some description is wider than what is left. -/
def nextLineSection (taken : Nat) (widths : List Nat) : Bool :=
  taken ≤ 100 && 40 < taken && widths.any (100 - taken < ·)

/-- The entries of a section: each name with its description and the description's note. The
width a description needs is its own and its note's, without the space between them. -/
def sectionLines (entries : List (String × String × String)) (longest taken : Nat) :
    List String :=
  let twoLines := nextLineSection taken (entries.map fun (_, a, n) => a.length + n.length)
  entries.map fun (name, a, n) =>
    if twoLines then "  " ++ name ++ "\n" ++ spaces 10 ++ withNote a n
    else "  " ++ name ++ spaces (longest + 2 - name.length) ++ withNote a n

/-- The options of a command in the order they are listed. -/
def Command.listedOptions (c : Command) : List Opt :=
  c.options.mergeSort fun a b => decide (a.sortKey.1 < b.sortKey.1) ||
    (a.sortKey.1 == b.sortKey.1 && decide (a.sortKey.2 ≤ b.sortKey.2))

/-- The `Options:` section. -/
def optionSection (os : List Opt) : List String :=
  let longest := widest (os.map (·.spec))
  sectionLines (os.map fun o => (o.spec, o.about, o.note)) longest (longest + 4)

/-- The `Arguments:` section. -/
def argumentSection (ps : List Positional) : List String :=
  let longest := widest (ps.map (·.display))
  sectionLines (ps.map fun p => (p.display, p.about, "")) longest (longest + 4)

/-- The note after a command's description: its other words. -/
def Command.note (c : Command) : String :=
  if c.aliases.isEmpty then "" else "[aliases: " ++ ", ".intercalate c.aliases ++ "]"

/-- The `Commands:` section. -/
def commandSection (cs : List Command) : List String :=
  let longest := widest (cs.map (·.name))
  sectionLines (cs.map fun c => (c.name, c.about, c.note)) longest (longest + 4)

/-- **The help text of a command.** -/
def Command.helpText (c : Command) : String :=
  let subs := if c.hasCommands then [("Commands:", commandSection commands)] else []
  let args := if c.positionals.isEmpty then [] else [("Arguments:", argumentSection c.positionals)]
  let opts := if c.options.isEmpty then [] else [("Options:", optionSection c.listedOptions)]
  let sections := (subs ++ args ++ opts).map fun (title, lines) => title ++ "\n" ++ "\n".intercalate lines
  c.about ++ "\n\nUsage: " ++ c.helpUsage ++ "\n\n" ++ "\n\n".intercalate sections ++ "\n"

example : combineCommand.helpUsage = "astpass combine [OPTIONS] --project <PROJECT> <DIR>" := by
  decide +kernel

example : combineCommand.smartUsage ["project"] = "astpass combine --project <PROJECT> <DIR>" := by
  decide +kernel

end SourceAudit.Cli
