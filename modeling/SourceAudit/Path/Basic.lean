/-!
# Slash-separated paths

A path is text; `/` separates its parts, and no other character does (a backslash is an
ordinary character). Reading a path into **components**: a leading `/` is the root, a leading
`.` part is the current directory, `..` is the parent directory, and every other non-empty part
is a name; empty parts and `.` parts after the first are dropped, so `a//b/./` and `a/b` have
the same components.

* The **file name** is the last component when it is a name (`..`, `.`, `/` and the empty path
  have none).
* A file name splits at its last dot into a **stem** and an **extension**, except `..` and a
  name whose only dot is its first character (`.hidden`), which are all stem.
* **Dropping the extension** cuts the extension's bytes off the end of the path, then cuts the
  path just after the stem of what is left: `a.` becomes `a`, `x.tar.gz` becomes `x.tar`,
  `dir/sub/` becomes `dir/sub`, and `..c` becomes `..`.
* **Joining** a relative path to a directory puts a `/` between them unless the directory is
  empty or already ends in one; an absolute path replaces the directory.

The work is done on the UTF-8 bytes, as cuts fall between bytes.

Main definitions:
* `Path.Component`, `Path.components`.
* `Path.fileName?`, `Path.stem?`, `Path.extension?`, `Path.dropExtension`, `Path.join`.
-/

namespace SourceAudit.Path

/-- The byte of `/`. -/
def slash : UInt8 := 47

/-- The byte of `.`. -/
def dot : UInt8 := 46

/-- A part of a path. -/
inductive Component where
  | root
  | current
  | parent
  | name (bytes : List UInt8)
  deriving Repr, BEq, DecidableEq, Inhabited

/-- The maximal runs of bytes other than `/`, each with the offset where it starts. -/
def parts (bs : List UInt8) : List (Nat × List UInt8) :=
  let step (acc : Nat × List (Nat × List UInt8) × Option (Nat × List UInt8)) (b : UInt8) :=
    let (i, done, cur) := acc
    if b == slash then
      match cur with
      | some (s, run) => (i + 1, (s, run.reverse) :: done, none)
      | none => (i + 1, done, none)
    else
      match cur with
      | some (s, run) => (i + 1, done, some (s, b :: run))
      | none => (i + 1, done, some (i, [b]))
  let (_, done, cur) := bs.foldl step (0, [], none)
  (match cur with
    | some (s, run) => (s, run.reverse) :: done
    | none => done).reverse

/-- The component a part stands for after the first position: `.` is dropped. -/
def partComponent (p : List UInt8) : Option Component :=
  if p == [dot] then none
  else if p == [dot, dot] then some .parent
  else some (.name p)

/-- The components of a path given as bytes. -/
def componentsOf (bs : List UInt8) : List Component :=
  let rooted := bs.head? == some slash
  let leadCurrent := !rooted &&
    match bs with
    | [b] => b == dot
    | b :: c :: _ => b == dot && c == slash
    | [] => false
  (if rooted then [Component.root] else []) ++ (if leadCurrent then [Component.current] else []) ++
    (parts bs).filterMap fun p => partComponent p.2

/-- The components of a path. -/
def components (p : String) : List Component := componentsOf p.toUTF8.toList

/-- The last name part of a path with its offset, when the last component is a name. -/
def fileNameSpan (bs : List UInt8) : Option (Nat × List UInt8) :=
  match ((parts bs).filter fun p => p.2 != [dot]).getLast? with
  | some (s, p) => if p == [dot, dot] then none else some (s, p)
  | none => none

/-- The stem and extension of a file name: split at the last dot, except `..` and a name whose
last dot is its first byte, which are all stem. -/
def splitAtDot (name : List UInt8) : Option (List UInt8) × Option (List UInt8) :=
  if name == [dot, dot] then (some name, none)
  else
    match (name.reverse.findIdx? (· == dot)) with
    | none => (none, some name)
    | some k =>
      let before := name.take (name.length - 1 - k)
      let after := name.drop (name.length - k)
      if before.isEmpty then (some name, none) else (some before, some after)

/-- The stem of a file name. -/
def stemOf (name : List UInt8) : List UInt8 :=
  match splitAtDot name with
  | (some b, _) => b
  | (none, a) => a.getD []

/-- The extension of a file name, if it has one. -/
def extensionOf (name : List UInt8) : Option (List UInt8) :=
  match splitAtDot name with
  | (some _, a) => a
  | (none, _) => none

/-- Reads bytes that are known to be UTF-8 back as text. -/
def textOf (bs : List UInt8) : String := (String.fromUTF8? ⟨bs.toArray⟩).getD ""

/-- The file name of a path. -/
def fileName? (p : String) : Option String :=
  (fileNameSpan p.toUTF8.toList).map fun s => textOf s.2

/-- The stem of a path's file name. -/
def stem? (p : String) : Option String :=
  (fileNameSpan p.toUTF8.toList).map fun s => textOf (stemOf s.2)

/-- The extension of a path's file name. -/
def extension? (p : String) : Option String :=
  (fileNameSpan p.toUTF8.toList).bind fun s => (extensionOf s.2).map textOf

/-- Cuts a path given as bytes just after the stem of its file name; a path without a file
name is left alone. -/
def cutAfterStem (bs : List UInt8) : List UInt8 :=
  match fileNameSpan bs with
  | some (s, name) => bs.take (s + (stemOf name).length)
  | none => bs

/-- The path without the extension of its file name. -/
def dropExtension (p : String) : String :=
  let bs := p.toUTF8.toList
  let trimmed := match (fileNameSpan bs).bind fun s => extensionOf s.2 with
    | some e => bs.take (bs.length - e.length)
    | none => bs
  textOf (cutAfterStem trimmed)

/-- A path below a directory; an absolute path stands for itself. -/
def join (dir p : String) : String :=
  if p.startsWith "/" then p
  else if dir.isEmpty || dir.endsWith "/" then dir ++ p
  else dir ++ "/" ++ p

example : dropExtension "..c" = ".." := by decide +kernel
example : dropExtension "a..c" = "a." := by decide +kernel
example : dropExtension "dir/sub/" = "dir/sub" := by decide +kernel

end SourceAudit.Path
