import SourceAudit.Text.Quoted
/-!
# Why the analysis of a file stops

Five causes end the analysis of one file: its report cannot be opened or written, the file
cannot be read, no dialect reads its extension, or it cannot be parsed. Each carries the path
and, for the failures of the file system, the system's own description of the cause.

Main definitions:
* `AnalysisError`, `AnalysisError.message`.
-/

namespace SourceAudit

/-- A cause that ends the analysis of one file. -/
inductive AnalysisError where
  | sinkOpen (path : String) (cause : String)
  | sinkWrite (path : String) (cause : String)
  | read (path : String) (cause : String)
  | unsupportedExtension (ext : String)
  | parse (path : String) (message : String)
  deriving Repr, BEq, DecidableEq, Inhabited

namespace AnalysisError

/-- The sentence that describes the failure; an extension is shown quoted. -/
def message : AnalysisError → String
  | sinkOpen path cause => s!"cannot open report {path}: {cause}"
  | sinkWrite path cause => s!"cannot write report {path}: {cause}"
  | read path cause => s!"cannot read {path}: {cause}"
  | unsupportedExtension ext => "no frontend for file extension " ++ Text.quote ext
  | parse path message => s!"failed to parse {path}: {message}"

end AnalysisError

end SourceAudit
