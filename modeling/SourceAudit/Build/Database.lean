import SourceAudit.Json.Value
import SourceAudit.FileSystem.Basic
/-!
# Compilation databases

A compilation database is a JSON array of commands, each naming the directory it runs in and
the source file it compiles; other members are skipped. A command may also be written as a
two-item array, directory first. A relative file is taken below its directory.

The database is read strictly: a missing or repeated `directory` or `file`, a value of the wrong
kind, or anything after the array is refused. A sentence about a command (missing or repeated
member, wrong length) is placed where the command closes; the reader's own faults are placed
where they are met.

Main definitions:
* `CompileCommand`, `CompileCommand.source`.
* `readDatabase`: the commands of a database text.
* `databaseSources`: the source files a database file names, or why it cannot be used.
-/

namespace SourceAudit.Build

open Json

/-- One entry of a compilation database. -/
structure CompileCommand where
  directory : String
  file : String
  deriving Repr, BEq, DecidableEq, Inhabited

/-- The source file a command compiles: its file, below its directory when relative. -/
def CompileCommand.source (c : CompileCommand) : String := Path.join c.directory c.file

/-- A member name of a command. -/
inductive Member where
  | directory
  | file
  | other
  deriving Repr, BEq, DecidableEq, Inhabited

/-- The bytes as text. -/
def textOfBytes (bytes : Array UInt8) : String := (String.fromUTF8? ⟨bytes⟩).getD ""

/-- Closes a value: the closing step runs even after the body failed, and the body's fault
wins. -/
def closing {α : Type} (body : JsonRead α) (close : JsonRead Unit) : JsonRead α := do
  let r ← attempt body
  let c ← attempt close
  match r, c with
  | .ok v, .ok () => pure v
  | .error e, _ => throw e
  | .ok _, .error e => throw e

/-- Reads a path written as a string. -/
def readPathText : JsonRead String := placed do
  match ← skipSpace with
  | none => failAhead .eofInValue
  | some 34 => do
    eat
    pure (textOfBytes (← readString))
  | some _ => unexpected "path string"

/-- The next member name of an object, after `{` or after a member; `none` at its end. -/
def nextMember (first : Bool) : JsonRead (Option Member) := do
  let ahead ← match ← skipSpace with
    | some 125 => return none
    | some 44 => if first then pure (some 44) else do eat; skipSpace
    | some b => if first then pure (some b) else failAhead .expectedObjectCommaOrEnd
    | none => failAhead .eofInObject
  match ahead with
  | some 34 => do
    eat
    let name := textOfBytes (← readString)
    pure (some (if name == "directory" then .directory else if name == "file" then .file
      else .other))
  | some 125 => failAhead .trailingComma
  | some _ => failAhead .keyMustBeString
  | none => failAhead .eofInValue

/-- Takes the colon after a member name. -/
def memberColon : JsonRead Unit := do
  match ← skipSpace with
  | some 58 => eat
  | some _ => failAhead .expectedColon
  | none => failAhead .eofInObject

/-- Takes the brace that closes an object. -/
def endObject : JsonRead Unit := do
  match ← skipSpace with
  | some 125 => eat
  | some 44 => failAhead .trailingComma
  | some _ => failAhead .trailingCharacters
  | none => failAhead .eofInObject

/-- Whether an item follows in an array, after `[` or after an item. -/
def nextItem (first : Bool) : JsonRead Bool := do
  let ahead ← match ← skipSpace with
    | some 93 => return false
    | some 44 => if first then pure (some 44) else do eat; skipSpace
    | some b => if first then pure (some b) else failAhead .expectedListCommaOrEnd
    | none => failAhead .eofInList
  match ahead with
  | some 93 => failAhead .trailingComma
  | some _ => pure true
  | none => failAhead .eofInValue

/-- Takes the bracket that closes an array; more items there are refused. -/
def endArray : JsonRead Unit := do
  match ← skipSpace with
  | some 93 => eat
  | some 44 => do
    eat
    match ← skipSpace with
    | some 93 => failAhead .trailingComma
    | _ => failAhead .trailingCharacters
  | some _ => failAhead .trailingCharacters
  | none => failAhead .eofInList

/-- Reads the members of a command object, each of the two at most once. -/
def commandMembers : Nat → Bool → Option String → Option String → JsonRead CompileCommand
  | 0, _, _, _ => refuse "missing field `directory`"
  | fuel + 1, first, dir, file => do
    match ← nextMember first with
    | none =>
      match dir, file with
      | some d, some f => pure ⟨d, f⟩
      | none, _ => refuse "missing field `directory`"
      | _, none => refuse "missing field `file`"
    | some .directory =>
      if dir.isSome then refuse "duplicate field `directory`"
      else do
        memberColon
        let d ← readPathText
        commandMembers fuel false (some d) file
    | some .file =>
      if file.isSome then refuse "duplicate field `file`"
      else do
        memberColon
        let f ← readPathText
        commandMembers fuel false dir (some f)
    | some .other => do
      memberColon
      skipValue fuel
      commandMembers fuel false dir file

/-- The length sentence for a command array with too few items. -/
def shortCommand (n : Nat) : String :=
  "invalid length " ++ toString n ++ ", expected struct CompileCommand with 2 elements"

/-- Reads a command written as an array: directory, then file. -/
def commandItems : JsonRead CompileCommand := do
  if !(← nextItem true) then refuse (shortCommand 0)
  else
    let d ← readPathText
    if !(← nextItem false) then refuse (shortCommand 1)
    else
      let f ← readPathText
      pure ⟨d, f⟩

/-- **Reads one command.** -/
def readCommand (fuel : Nat) : JsonRead CompileCommand := placed do
  match ← skipSpace with
  | none => failAhead .eofInValue
  | some 91 => do
    eat
    closing commandItems endArray
  | some 123 => do
    eat
    closing (commandMembers fuel true none none) endObject
  | some _ => unexpected "struct CompileCommand"

/-- Reads the commands of the database array. -/
def commandList (fuel : Nat) : Nat → Bool → List CompileCommand → JsonRead (List CompileCommand)
  | 0, _, acc => pure acc.reverse
  | n + 1, first, acc => do
    if ← nextItem first then
      let c ← readCommand fuel
      commandList fuel n false (c :: acc)
    else pure acc.reverse

/-- **Reads a database text**: one array of commands and nothing after it. -/
def readDatabase : JsonRead (List CompileCommand) := do
  let fuel := (← get).bytes.size + 2
  let cs ← placed do
    match ← skipSpace with
    | none => failAhead .eofInValue
    | some 91 => do
      eat
      closing (commandList fuel fuel true []) endArray
    | some _ => unexpected "a sequence"
  match ← skipSpace with
  | some _ => failAhead .trailingCharacters
  | none => pure cs

/-- **The source files a database file names**, in order, or why it cannot be read. -/
def databaseSources (fs : FileSystem) (path : String) : Except String (List String) := do
  let text ← (fs.read path).mapError fun e => "cannot read " ++ path ++ ": " ++ e.render
  match readDatabase.runOn text with
  | .ok cs => pure (cs.map (·.source))
  | .error e => throw ("invalid compilation database " ++ path ++ ": " ++ e.render)

example : (match readDatabase.runOn "[\x7b\"file\": \"a.c\"\x7d]" with
    | .error e => e.render
    | .ok _ => "") = "missing field `directory` at line 1 column 16" := by decide +kernel

end SourceAudit.Build
