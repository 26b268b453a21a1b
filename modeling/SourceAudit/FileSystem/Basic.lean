import SourceAudit.Path.Basic
/-!
# A directory tree in memory

The files a run reads and writes, as a map from paths (lists of names below the working
directory) to entries: a file with its text, or a directory. The working directory itself is
a directory.

A path text is resolved part by part, as the operating system does: every part after the first
requires what precedes it to be a directory (so `file/x` and `file/` fail with "not a
directory", and `missing/x` with "no such file"); `.` and empty parts stay, `..` goes up. The
operations fail the way the system calls do:

* reading a directory is "is a directory", reading or removing a missing file "no such file";
* creating a file where a directory is is "is a directory";
* making a directory where anything is is "file exists";
* making all directories of a path (`createDirAll`) makes each missing ancestor first, and
  accepts a path that is already a directory.

Main definitions:
* `IoError`, `IoError.render`.
* `Entry`, `FileSystem`, `FileSystem.resolve`.
* `FileSystem.read`, `FileSystem.write`, `FileSystem.mkdir`, `FileSystem.createDirAll`,
  `FileSystem.remove`, `FileSystem.list`, `FileSystem.files`.
-/

namespace SourceAudit

/-- Why a file operation failed. -/
inductive IoError where
  | notFound
  | notADirectory
  | isADirectory
  | alreadyExists
  deriving Repr, BEq, DecidableEq, Inhabited

/-- The system's words for an error, with its number. -/
def IoError.render : IoError → String
  | .notFound => "No such file or directory (os error 2)"
  | .notADirectory => "Not a directory (os error 20)"
  | .isADirectory => "Is a directory (os error 21)"
  | .alreadyExists => "File exists (os error 17)"

/-- What a path holds. -/
inductive Entry where
  | file (content : String)
  | dir
  deriving Repr, BEq, Inhabited

/-- A directory tree: each path below the working directory with its entry. -/
structure FileSystem where
  entries : List (List String × Entry) := []
  deriving Inhabited

namespace FileSystem

/-- The entry at a resolved path; the working directory is a directory. -/
def find? (fs : FileSystem) (p : List String) : Option Entry :=
  if p.isEmpty then some .dir else (fs.entries.find? (·.1 == p)).map (·.2)

/-- Resolves the parts of a path from `cur`: each part requires a directory before it. -/
def resolveParts (fs : FileSystem) (cur : List String) : List String → Except IoError (List String)
  | [] => pure cur
  | part :: rest =>
    match fs.find? cur with
    | none => throw .notFound
    | some (.file _) => throw .notADirectory
    | some .dir =>
      if part == "" || part == "." then fs.resolveParts cur rest
      else if part == ".." then fs.resolveParts cur.dropLast rest
      else fs.resolveParts (cur ++ [part]) rest

/-- **Resolves a path text** to the names it reaches. The empty path and absolute paths reach
nothing here. -/
def resolve (fs : FileSystem) (path : String) : Except IoError (List String) :=
  if path.isEmpty || path.startsWith "/" then throw .notFound
  else fs.resolveParts [] ((path.toList.splitOn '/').map String.ofList)

/-- The entry a path text reaches. -/
def stat (fs : FileSystem) (path : String) : Except IoError Entry := do
  match fs.find? (← fs.resolve path) with
  | some e => pure e
  | none => throw .notFound

/-- The path is a file. -/
def isFile (fs : FileSystem) (path : String) : Bool :=
  match fs.stat path with
  | .ok (.file _) => true
  | _ => false

/-- The path is a directory. -/
def isDir (fs : FileSystem) (path : String) : Bool :=
  match fs.stat path with
  | .ok .dir => true
  | _ => false

/-- Sets the entry at a resolved path. -/
def set (fs : FileSystem) (p : List String) (e : Entry) : FileSystem :=
  if fs.entries.any (·.1 == p) then
    { entries := fs.entries.map fun (q, old) => if q == p then (q, e) else (q, old) }
  else { entries := fs.entries ++ [(p, e)] }

/-- **Reads a file.** -/
def read (fs : FileSystem) (path : String) : Except IoError String := do
  match ← fs.stat path with
  | .file c => pure c
  | .dir => throw .isADirectory

/-- **Creates or truncates a file** with the given text; its directory must exist. -/
def write (fs : FileSystem) (path : String) (content : String) : Except IoError FileSystem := do
  let p ← fs.resolve path
  match fs.find? p with
  | some .dir => throw .isADirectory
  | _ => pure (fs.set p (.file content))

/-- **Makes a directory**; its parent must exist and the path must be free. -/
def mkdir (fs : FileSystem) (path : String) : Except IoError FileSystem := do
  let p ← fs.resolve path
  match fs.find? p with
  | some _ => throw .alreadyExists
  | none => pure (fs.set p .dir)

/-- The text of a path without its last component, as components: `none` for a path with no
component to drop, or whose last is the root. -/
def parentText (path : String) : Option String :=
  match (Path.components path).reverse with
  | [] | Path.Component.root :: _ => none
  | _ :: rest =>
    let parts := rest.reverse.map fun
      | .root => ""
      | .current => "."
      | .parent => ".."
      | .name bs => Path.textOf bs
    match parts with
    | [""] => some "/"
    | "" :: more => some ("/" ++ "/".intercalate more)
    | ps => some ("/".intercalate ps)

/-- Makes a directory, accepting one that is already there. -/
def mkdirOrDir (fs : FileSystem) (path : String) : Except IoError FileSystem :=
  match fs.mkdir path with
  | .ok fs => .ok fs
  | .error e => if fs.isDir path then .ok fs else .error e

/-- **Makes a directory and every missing ancestor.** -/
def createDirAll (fs : FileSystem) (path : String) : Except IoError FileSystem :=
  go (path.length + 1) fs path
where
  go : Nat → FileSystem → String → Except IoError FileSystem
    | 0, fs, _ => pure fs
    | n + 1, fs, path =>
      if path.isEmpty then pure fs
      else match fs.mkdir path with
        | .ok fs => pure fs
        | .error .notFound => do
          let fs ← match parentText path with
            | some q => go n fs q
            | none => throw IoError.notFound
          fs.mkdirOrDir path
        | .error e => if fs.isDir path then pure fs else throw e

/-- **Removes a file.** -/
def remove (fs : FileSystem) (path : String) : Except IoError FileSystem := do
  let p ← fs.resolve path
  match fs.find? p with
  | none => throw .notFound
  | some .dir => throw .isADirectory
  | some (.file _) => pure { entries := fs.entries.filter (·.1 != p) }

/-- **The entries directly in a directory**, each name with its entry. -/
def list (fs : FileSystem) (path : String) : Except IoError (List (String × Entry)) := do
  let p ← fs.resolve path
  match fs.find? p with
  | none => throw .notFound
  | some (.file _) => throw .notADirectory
  | some .dir =>
    pure (fs.entries.filterMap fun (q, e) =>
      if q.length == p.length + 1 && q.take p.length == p then q.getLast?.map (·, e) else none)

/-- **Every file** with its `/`-joined path and text. -/
def files (fs : FileSystem) : List (String × String) :=
  fs.entries.filterMap fun (p, e) =>
    match e with
    | .file c => some ("/".intercalate p, c)
    | .dir => none

/-- **A tree made from directories and files**: each directory with its ancestors, then each
file with the directories it needs. -/
def seed (dirs : List String) (files : List (String × String)) : Except IoError FileSystem := do
  let place (fs : FileSystem) (file : String × String) : Except IoError FileSystem := do
    let fs ← match parentText file.1 with
      | some q => fs.createDirAll q
      | none => pure fs
    fs.write file.1 file.2
  let fs ← dirs.foldlM (fun fs d => fs.createDirAll d) {}
  files.foldlM place fs

/-- The files of the tree, sorted by path, leaving out those of `given` whose text is still
what was given. -/
def filesBesides (fs : FileSystem) (given : List (String × String)) : List (String × String) :=
  let kept := given.filterMap fun (path, content) =>
    match fs.resolve path with
    | .ok p => some ("/".intercalate p, content)
    | .error _ => none
  let all := fs.files.filter fun f => !kept.contains f
  all.mergeSort fun a b => decide (a.1 ≤ b.1)

end FileSystem

end SourceAudit
