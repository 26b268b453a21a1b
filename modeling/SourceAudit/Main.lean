import SourceAudit.Cli.Run
/-!
# The program

The program reads the tree below the working directory, runs the command line on it
(`Cli.runProgram`), writes back what the run changed (new directories, new or changed files,
removed files), prints what the run printed and ends with its exit code.
-/

open SourceAudit

/-- A file's text; bytes that are not UTF-8 become replacement characters. -/
def textOfFile (bytes : ByteArray) : String :=
  match String.fromUTF8? bytes with
  | some s => s
  | none => String.ofList (bytes.toList.map fun b => if b < 128 then Char.ofNat b.toNat else '�')

/-- Reads the directories and files below `dir`, with paths relative to the working
directory, into `acc`. -/
partial def readTree (dir : String) (acc : List String × List (String × String)) :
    IO (List String × List (String × String)) := do
  let entries ← ((← IO.currentDir) / dir).readDir
  let step (acc : List String × List (String × String)) (e : IO.FS.DirEntry) :
      IO (List String × List (String × String)) := do
    let (dirs, files) := acc
    let rel := if dir.isEmpty then e.fileName else dir ++ "/" ++ e.fileName
    if ← e.path.isDir then readTree rel (dirs ++ [rel], files)
    else
      let bytes ← IO.FS.readBinFile e.path
      pure (dirs, files ++ [(rel, textOfFile bytes)])
  entries.toList.foldlM step acc

/-- Writes back what changed between two trees. -/
def writeBack (before after : FileSystem) : IO Unit := do
  let old := before.files
  for (p, e) in after.entries do
    if let .dir := e then IO.FS.createDirAll ("/".intercalate p)
  for (p, c) in after.files do
    if !old.contains (p, c) then IO.FS.writeFile p c
  for (p, _) in old do
    if !(after.files.any (·.1 == p)) then IO.FS.removeFile p

/-- Runs the program. -/
def main (args : List String) : IO UInt32 := do
  let (dirs, files) ← readTree "" ([], [])
  match FileSystem.seed dirs files with
  | .error e =>
    IO.eprintln ("Error: " ++ e.render)
    pure 2
  | .ok fs =>
    let o := Cli.runProgram args fs
    writeBack fs o.fs
    IO.print o.stdout
    IO.eprint o.stderr
    pure (UInt32.ofNat o.exitCode)
