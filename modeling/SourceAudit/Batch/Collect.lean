import SourceAudit.FileSystem.Basic
import SourceAudit.Glob.Match
import SourceAudit.Syntax.Dialect
/-!
# Finding the units of a run

The inputs of a run are paths. A file is a unit whatever its extension (so that an unsupported
one is reported as a failed unit); a directory is searched below for files with a supported
extension, not entering directories whose name starts with a dot or is `vendor`,
`node_modules` or `third_party` (the directory given is always entered); anything else is an
error. A unit that an exclusion glob matches, on its path as written, is left out.

Units are kept in path order, where paths compare component by component (a leading `.` first,
then `..`, then names by their bytes), so `a/./b`, `a//b` and `a/b/` are one path, and the
first spelling met is kept.

Main definitions:
* `comparePaths`, `insertPath`.
* `walkFiles`: the files below a directory that a search visits.
* `collectFiles`: the units of a run, in order.
-/

namespace SourceAudit.Batch

open SourceAudit.Path

/-- The place of a component kind in path order. -/
def Component.rank : Component → Nat
  | .root => 0
  | .current => 1
  | .parent => 2
  | .name _ => 3

/-- Byte strings in dictionary order. -/
def compareBytes : List UInt8 → List UInt8 → Ordering
  | [], [] => .eq
  | [], _ :: _ => .lt
  | _ :: _, [] => .gt
  | a :: as, b :: bs => if a < b then .lt else if b < a then .gt else compareBytes as bs

/-- Components in path order. -/
def compareComponent (a b : Component) : Ordering :=
  match a, b with
  | .name x, .name y => compareBytes x y
  | _, _ => compare (Component.rank a) (Component.rank b)

/-- Component lists in dictionary order. -/
def compareComponents : List Component → List Component → Ordering
  | [], [] => .eq
  | [], _ :: _ => .lt
  | _ :: _, [] => .gt
  | a :: as, b :: bs =>
    match compareComponent a b with
    | .eq => compareComponents as bs
    | o => o

/-- **Paths in path order**, component by component. -/
def comparePaths (a b : String) : Ordering := compareComponents (components a) (components b)

/-- **Inserts a path** into a list in path order; an equal path already there stays. -/
def insertPath (p : String) : List String → List String
  | [] => [p]
  | q :: rest =>
    match comparePaths p q with
    | .lt => p :: q :: rest
    | .eq => q :: rest
    | .gt => q :: insertPath p rest

/-- Directory names a search does not enter. -/
def skippedNames : List String := ["vendor", "node_modules", "third_party"]

/-- A search enters the directory with this name. -/
def entered (name : String) : Bool := !name.startsWith "." && !skippedNames.contains name

/-- **The files below a directory** that a search visits, each as the directory's path joined
with the names below it. -/
def walkFiles (fs : FileSystem) : Nat → String → List String
  | 0, _ => []
  | fuel + 1, dir =>
    match fs.list dir with
    | .error _ => []
    | .ok entries => entries.flatMap fun (name, e) =>
      match e with
      | .file _ => [Path.join dir name]
      | .dir => if entered name then walkFiles fs fuel (Path.join dir name) else []

/-- Some dialect reads the path's extension. -/
def isSupported (p : String) : Bool :=
  match Path.extension? p with
  | some e => (Syntax.Dialect.ofExtension? e).isSome
  | none => false

/-- **The units of a run**, in path order, or the first input that is neither a file nor a
directory. -/
def collectFiles (fs : FileSystem) (excluded : List Glob) (inputs : List String) :
    Except String (List String) :=
  let isExcluded (p : String) : Bool := excluded.any (·.matches p)
  let add (set : List String) (p : String) : List String :=
    if isExcluded p then set else insertPath p set
  let step (set : List String) (input : String) : Except String (List String) :=
    if fs.isFile input then pure (add set input)
    else if !fs.isDir input then throw ("cannot access path " ++ input)
    else pure (((walkFiles fs (fs.entries.length + 1) input).filter isSupported).foldl add set)
  inputs.foldlM step []

example : comparePaths "./b" "a" = .lt := by decide +kernel
example : comparePaths "a/./b" "a//b/" = .eq := by decide +kernel

end SourceAudit.Batch
