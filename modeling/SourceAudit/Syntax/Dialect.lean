/-!
# Dialects and file extensions

A source file is read as C or as C++, chosen by its extension alone: `c` and `h` are C;
`cpp`, `cc`, `cxx`, `hpp`, `hh` and `hxx` are C++. The match is exact, so `C`, `.c` and the
empty extension name no dialect.

Main definitions:
* `Dialect`, `Dialect.ofExtension?`, `Dialect.extensions`.
-/

namespace SourceAudit.Syntax

/-- The language a source file is written in. -/
inductive Dialect where
  | c
  | cpp
  deriving Repr, BEq, DecidableEq, Inhabited

namespace Dialect

/-- The extensions read in this dialect. -/
def extensions : Dialect → List String
  | c => ["c", "h"]
  | cpp => ["cpp", "cc", "cxx", "hpp", "hh", "hxx"]

/-- The dialect a file extension (without its dot) selects. -/
def ofExtension? (ext : String) : Option Dialect :=
  [c, cpp].find? fun d => d.extensions.contains ext

/-- Every extension some dialect reads. -/
def supportedExtensions : List String := c.extensions ++ cpp.extensions

/-- The dialect is C++. -/
def isCpp : Dialect → Bool
  | c => false
  | cpp => true

end Dialect

end SourceAudit.Syntax
