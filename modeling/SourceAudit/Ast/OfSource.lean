import SourceAudit.Ast.OfTree
import SourceAudit.Syntax.Grammar
import SourceAudit.Error
/-!
# Reading a source file into the declaration model

A file is parsed in the dialect its extension selects and its tree lowered; an extension that
no dialect reads is an error. Syntax errors do not stop the analysis: the parse recovers, and
the outline records that it had to.

Main definitions:
* `Outline.ofSource`, `Outline.ofFile?`.
-/

namespace SourceAudit

open Syntax

/-- The outline of a source text read in a dialect. -/
def Outline.ofSource (path : String) (dialect : Dialect) (src : ByteArray) : Outline :=
  Outline.ofTree path src dialect (parseSource src dialect.isCpp)

/-- The outline of a file with extension `ext`, or why there is none. -/
def Outline.ofFile? (ext path : String) (src : ByteArray) : Except AnalysisError Outline :=
  match Dialect.ofExtension? ext with
  | some d => .ok (Outline.ofSource path d src)
  | none => .error (.unsupportedExtension ext)

end SourceAudit
