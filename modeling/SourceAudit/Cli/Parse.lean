import SourceAudit.Cli.Help
import SourceAudit.Cli.Suggest
/-!
# Reading a command line

The words after the program's name are read left to right. The program's own flags come
first, up to a command word; `help` prints the help of the commands named after it, and any
other command reads the rest. Within a command:

* `--` ends the options: every later word is a positional value.
* `--name`, `--name=value`: a long option. An option that takes a value and has none attached
  takes the next word that is not itself an option.
* `-abc`: short flags, one after another; an option that takes a value takes the rest of the
  word (less a leading `=`) or, if nothing is left, the next word.
* Any other word is the value of the option waiting for one, or a positional value.

A value is taken, and checked, when the next argument starts or the words end: an option still
waiting for its value at that point has none, and is refused. After the last word, each
required argument must have been given.

A refused command line is reported the way `ArgFailure.render` says, with a usage line that,
after most errors, names the arguments already given (`Command.usageAfter`). An unknown long
option is answered with the most similar long option of the command, if any is similar enough
(`similarWords`), and otherwise, for the program's own options, with a command further on the
line that has such an option.

Main definitions:
* `ArgError`, `ArgFailure`, `ArgFailure.render`, `Early`.
* `Reading`, `Reading.settle`, `Reading.resolve`.
* `readWords`, `readProgram`.
-/

namespace SourceAudit.Cli

/-- What is wrong with a command line. -/
inductive ArgError where
  | unexpectedArgument (arg : String) (similar : Option String) (tips : List String)
  | unrecognizedCommand (word : String) (similar : List String)
  | needlessSeparator (word : String)
  | missingRequired (names : List String)
  | missingCommand (names : List String)
  | valueRequired (arg : String)
  | invalidValue (value arg reason : String)
  | usedTwice (arg : String)
  | unexpectedValue (value arg : String)
  deriving Repr, BEq, Inhabited

/-- A word in single quotes. -/
def quoted (s : String) : String := "'" ++ s ++ "'"

/-- The first line (or lines) of an error's message. -/
def ArgError.headline : ArgError → String
  | .unexpectedArgument a _ _ => "unexpected argument " ++ quoted a ++ " found"
  | .unrecognizedCommand w _ | .needlessSeparator w => "unrecognized subcommand " ++ quoted w
  | .missingRequired names =>
    "the following required arguments were not provided:" ++ String.join (names.map ("\n  " ++ ·))
  | .missingCommand names =>
    quoted programCommand.name ++ " requires a subcommand but one was not provided\n  [subcommands: " ++
      ", ".intercalate names ++ "]"
  | .valueRequired a => "a value is required for " ++ quoted a ++ " but none was supplied"
  | .invalidValue v a reason => "invalid value " ++ quoted v ++ " for " ++ quoted a ++ ": " ++ reason
  | .usedTwice a => "the argument " ++ quoted a ++ " cannot be used multiple times"
  | .unexpectedValue v a =>
    "unexpected value " ++ quoted v ++ " for " ++ quoted a ++ " found; no more were expected"

/-- The tips below the headline, each on a line of its own: a similar argument or command
after a blank line, then the other tips, also after a blank line when no similar name came
before them. -/
def ArgError.tips : ArgError → String
  | .unexpectedArgument _ similar tips =>
    let first := match similar with
      | some s => "\n\n  tip: a similar argument exists: " ++ quoted s
      | none => ""
    let rest := if tips.isEmpty then ""
      else (if similar.isSome then "" else "\n") ++ String.join (tips.map ("\n  tip: " ++ ·))
    first ++ rest
  | .unrecognizedCommand _ [] => ""
  | .unrecognizedCommand _ [s] => "\n\n  tip: a similar subcommand exists: " ++ quoted s
  | .unrecognizedCommand _ similar =>
    "\n\n  tip: some similar subcommands exist: " ++ ", ".intercalate (similar.map quoted)
  | .needlessSeparator w =>
    "\n\n  tip: subcommand " ++ quoted w ++ " exists; to use it, remove the " ++ quoted "--" ++
      " before it"
  | _ => ""

/-- A refused command line: the error, the usage line shown with it, and whether the message
ends by pointing at `--help` (every command but `help` has that flag). -/
structure ArgFailure where
  error : ArgError
  usage : Option String
  hint : Bool
  deriving Repr, Inhabited

/-- **The message of a refused command line.** -/
def ArgFailure.render (f : ArgFailure) : String :=
  "error: " ++ f.error.headline ++ f.error.tips ++
    (match f.usage with
      | some u => "\n\nUsage: " ++ u
      | none => "") ++
    if f.hint then "\n\nFor more information, try " ++ quoted "--help" ++ ".\n" else "\n"

/-- How reading ended before a command could run: refused, with a help or version text to
print, or with the program's help because nothing at all was given. -/
inductive Early where
  | refused (f : ArgFailure)
  | shown (text : String)
  | helpOnEmpty (text : String)
  deriving Repr, Inhabited

/-- Refuses with an error and a usage line. -/
def refuse (e : ArgError) (usage : Option String) : Early := .refused ⟨e, usage, true⟩

/-- An argument and the values it took. -/
structure Taken where
  id : String
  values : List String
  deriving Repr, BEq, Inhabited

/-- Where reading a command's words stands: the arguments taken, in the order they were
first taken; the argument whose values are being gathered; whether that argument is an option
still waiting for its value; the next positional argument; and whether `--` was seen. -/
structure Reading where
  taken : List Taken := []
  pending : Option (String × List String) := none
  expecting : Bool := false
  position : Nat := 0
  separated : Bool := false
  deriving Repr, Inhabited

namespace Reading

/-- The argument was taken. -/
def has (r : Reading) (id : String) : Bool := r.taken.any (·.id == id)

/-- The values an argument took. -/
def values (r : Reading) (id : String) : List String :=
  ((r.taken.find? (·.id == id)).map (·.values)).getD []

/-- Forgets an argument. -/
def forget (r : Reading) (id : String) : Reading := { r with taken := r.taken.filter (·.id != id) }

/-- Starts taking an argument: it is added last unless it was taken before. -/
def start (r : Reading) (id : String) : Reading :=
  if r.has id then r else { r with taken := r.taken ++ [⟨id, []⟩] }

/-- Adds values to an argument already taken. -/
def push (r : Reading) (id : String) (vs : List String) : Reading :=
  { r with taken := r.taken.map fun t => if t.id == id then { t with values := t.values ++ vs } else t }

/-- Adds a word to the values being gathered. -/
def gather (r : Reading) (w : String) : Reading :=
  { r with pending := r.pending.map (fun (id, vs) => (id, vs ++ [w])), expecting := false }

end Reading

/-- The argument is required. -/
def Command.isRequired (c : Command) (id : String) : Bool :=
  c.options.any (fun o => o.id == id && o.required) || c.positionals.any (fun p => p.id == id && p.required)

/-- The arguments taken that count as used in a usage line: those that are not required. -/
def Command.usedIn (c : Command) (r : Reading) : List String :=
  (r.taken.map (·.id)).filter (!c.isRequired ·)

/-- The first value that a kind refuses, as an error about the argument named `arg`. -/
def checkValues (kind : ValueKind) (arg : String) : List String → Option ArgError
  | [] => none
  | v :: vs =>
    match kind.check v with
    | some .missing => some (.valueRequired arg)
    | some (.invalid reason) => some (.invalidValue v arg reason)
    | none => checkValues kind arg vs

/-- Takes values of an argument that holds one value or many: none is refused; a second use of
a one-value argument is refused and forgets the first; otherwise the argument is taken, then
its values are checked. -/
def takeValues (c : Command) (r : Reading) (id arg : String) (kind : ValueKind) (many : Bool)
    (vals : List String) : Reading × Option Early :=
  if vals.isEmpty then (r, some (refuse (.valueRequired arg) none))
  else if !many && r.has id then (r.forget id, some (refuse (.usedTwice arg) (some c.helpUsage)))
  else
    let r := r.start id
    match checkValues kind arg vals with
    | some e => (r, some (refuse e none))
    | none => (r.push id vals, none)

/-- **Takes an argument with its values**, as its action says: the reading after, and how
reading ends if the argument stops it. -/
def Reading.settle (c : Command) (r : Reading) (id : String) (vals : List String) :
    Reading × Option Early :=
  match c.options.find? (·.id == id) with
  | some o =>
    match o.action with
    | .help => (r, some (.shown c.helpText))
    | .version => (r, some (.shown versionText))
    | .flag =>
      if r.has id then (r.forget id, some (refuse (.usedTwice o.display) (some c.helpUsage)))
      else ((r.start id).push id ["true"], none)
    | .count => ((r.forget id).start id, none)
    | .single k => takeValues c r id o.display k false vals
    | .many k => takeValues c r id o.display k true vals
  | none =>
    match c.positionals.find? (·.id == id) with
    | some p => takeValues c r id p.display p.kind p.many vals
    | none => (r, none)

/-- **Takes the argument whose values were being gathered**, if any. -/
def Reading.resolve (c : Command) (r : Reading) : Reading × Option Early :=
  match r.pending with
  | none => (r, none)
  | some (id, vals) => Reading.settle c { r with pending := none, expecting := false } id vals

/-- A reading that may have stopped, as a result. -/
def settled : Reading × Option Early → Except Early Reading
  | (r, none) => .ok r
  | (_, some e) => .error e

/-- Takes the gathered argument, then an argument with its values. -/
def react (c : Command) (r : Reading) (id : String) (vals : List String) : Except Early Reading := do
  let r ← settled (r.resolve c)
  settled (r.settle c id vals)

/-- Takes the gathered argument, then waits for the value of an option. -/
def awaitValue (c : Command) (r : Reading) (id : String) : Except Early Reading := do
  let r ← settled (r.resolve c)
  pure { r with pending := some (id, []), expecting := true }

/-- The first place of a word in a list. -/
def placeOf (w : String) : List String → Option Nat
  | [] => none
  | x :: xs => if x == w then some 0 else (placeOf w xs).map (· + 1)

/-- The command further on the line with a long option similar to `name`: the one named
first, with its most similar option. -/
def commandHint (name : String) (rest : List String) : Option (String × String) :=
  let found := commands.filterMap fun cmd =>
    match (similarWords name (cmd.options.map (·.long))).getLast? with
    | none => none
    | some cand => (placeOf cmd.name rest).map fun i => (i, cmd.name, cand)
  let best := found.foldl (fun acc x =>
    match acc with
    | none => some x
    | some y => if x.1 < y.1 then some x else some y) none
  best.map (·.2)

/-- **Refuses an unknown long option**, after taking the gathered argument (whatever comes of
it). A similar option of the command counts as used in the usage line. -/
def unknownLong (c : Command) (r : Reading) (name : String) (rest : List String) : Early :=
  let r := (r.resolve c).1
  let arg := "--" ++ name
  match (similarWords name (c.options.map (·.long))).getLast? with
  | some cand =>
    let r := match c.findLong cand with
      | some o => r.start o.id
      | none => r
    refuse (.unexpectedArgument arg (some ("--" ++ cand)) []) (some (c.usageAfter (c.usedIn r)))
  | none =>
    let hint := if c.hasCommands then commandHint name rest else none
    let tips := match hint with
      | some (cmd, cand) => [quoted (cmd ++ " --" ++ cand) ++ " exists"]
      | none =>
        if !r.separated && !c.positionals.isEmpty then
          ["to pass " ++ quoted arg ++ " as a value, use " ++ quoted ("-- " ++ arg)]
        else []
    refuse (.unexpectedArgument arg none tips) (some (c.usageAfter (c.usedIn r)))

/-- Reads a long option, `body` being the word without its two dashes. -/
def readLong (c : Command) (r : Reading) (body : List Char) (rest : List String) :
    Except Early Reading :=
  let name := String.ofList (body.takeWhile (· != '='))
  let value := match body.dropWhile (· != '=') with
    | [] => none
    | _ :: v => some (String.ofList v)
  match c.findLong name with
  | some o =>
    if o.action.takesValue then
      match value with
      | some v => react c r o.id [v]
      | none => awaitValue c r o.id
    else
      match value with
      | some v =>
        throw (refuse (.unexpectedValue v o.display) (some (c.usageAfter (c.usedIn r ++ [o.id]))))
      | none => react c r o.id []
  | none => throw (unknownLong c r name rest)

/-- Reads a word of short flags, `chars` being the letters still to read. -/
def readShort (c : Command) (r : Reading) : List Char → Except Early Reading
  | [] => pure r
  | ch :: more =>
    match c.findShort ch with
    | some o =>
      if o.action.takesValue then
        match more with
        | [] => awaitValue c r o.id
        | '=' :: v => react c r o.id [String.ofList v]
        | v => react c r o.id [String.ofList v]
      else do
        let r ← react c r o.id []
        readShort c r more
    | none =>
      let arg := "-" ++ ch.toString
      let tips := if !r.separated && !c.positionals.isEmpty then
          ["to pass " ++ quoted arg ++ " as a value, use " ++ quoted ("-- " ++ arg)]
        else []
      throw (refuse (.unexpectedArgument arg none tips) (some c.helpUsage))

/-- Reads a positional value: it becomes the next positional argument's, or, when there is
none left, the word is refused (for the program itself, as an unknown command). -/
def readPositional (c : Command) (r : Reading) (w : String) : Except Early Reading :=
  match c.positionals[r.position]? with
  | some p => do
    let r ← settled (r.resolve c)
    let r := { r with pending := some (p.id, [w]), expecting := false }
    pure (if p.many then r else { r with position := r.position + 1 })
  | none =>
    if c.hasCommands then
      if r.separated && (findCommand w).isSome then
        throw (refuse (.needlessSeparator w) (some c.helpUsage))
      else throw (refuse (.unrecognizedCommand w (similarWords w commandWords)) (some c.helpUsage))
    else throw (refuse (.unexpectedArgument w none []) (some c.helpUsage))

/-- **Reads one word** of a command's arguments; `rest` are the words after it. -/
def readWord (c : Command) (r : Reading) (w : String) (rest : List String) :
    Except Early Reading :=
  if r.separated then readPositional c r w
  else
    match w.toList with
    | ['-', '-'] => pure { r with separated := true }
    | '-' :: '-' :: body => readLong c r body rest
    | '-' :: ch :: more => readShort c { r with expecting := false } (ch :: more)
    | _ => if r.expecting then pure (r.gather w) else readPositional c r w

/-- **Reads a command's words** to the end, then takes what is still gathered. -/
def readWords (c : Command) (r : Reading) : List String → Except Early Reading
  | [] => settled (r.resolve c)
  | w :: rest => do readWords c (← readWord c r w rest) rest

/-- The required arguments not given, with their names. -/
def Command.missing (c : Command) (r : Reading) : List (String × String) :=
  (c.options.filter fun o => o.required && !r.has o.id).map (fun o => (o.id, o.display)) ++
    (c.positionals.filter fun p => p.required && !r.has p.id).map (fun p => (p.id, p.shown true))

/-- **Reads a command's words** and checks that every required argument was given. -/
def readCommand (c : Command) (words : List String) : Except Early Reading := do
  let r ← readWords c {} words
  match c.missing r with
  | [] => pure r
  | ms =>
    throw (refuse (.missingRequired (ms.map (·.2)))
      (some (c.usageAfter (c.usedIn r ++ ms.map (·.1)))))

/-- The commands below a command. -/
def Command.children (c : Command) : List Command := if c.hasCommands then commands else []

/-- The help of the command reached by following the words, each naming a command below the
one before. -/
def helpFor (c : Command) : List String → Early
  | [] => .shown c.helpText
  | w :: ws =>
    match c.children.find? (fun d => d.name == w || d.aliases.contains w) with
    | some d => helpFor d ws
    | none =>
      let hint := c.options.any (·.action == .help) || c.hasCommands
      .refused ⟨.unrecognizedCommand w [], some c.helpUsage, hint⟩

/-- **Reads the program's words** up to a command word, then the command's: the command with
what it was given. -/
def readProgram (r : Reading) : List String → Except Early (Command × Reading)
  | [] => do
    let r ← settled (r.resolve programCommand)
    if r.taken.isEmpty then throw (.helpOnEmpty programCommand.helpText)
    else throw (refuse (.missingCommand commandWords) (some programCommand.helpUsage))
  | w :: rest =>
    match (if r.separated then none else findCommand w) with
    | some c =>
      if c.name == helpCommand.name then throw (helpFor programCommand rest)
      else do pure (c, ← readCommand c rest)
    | none => do readProgram (← readWord programCommand r w rest) rest

end SourceAudit.Cli
