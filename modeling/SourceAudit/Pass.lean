import SourceAudit.Text.Caseless
import SourceAudit.Text.Quoted
/-!
# The analyses a run can make

Two passes: the Halstead metrics of each function, and the check of base-class destructors
(CWE-1087). Each has a name used in configuration and outcomes, and a report file suffix.
A pass is read from text ignoring case; the destructor check answers to `cwe-1087`,
`cwe1087` and `virtual-destructor`.

Main definitions:
* `Pass`, `Pass.name`, `Pass.suffix`.
* `Pass.ofText?`, `Pass.unknownMessage`.
-/

namespace SourceAudit

/-- An analysis pass. -/
inductive Pass where
  | halstead
  | cwe1087
  deriving Repr, BEq, DecidableEq, Inhabited

namespace Pass

/-- The name in configuration files and outcomes. -/
def name : Pass → String
  | halstead => "halstead"
  | cwe1087 => "cwe-1087"

/-- The ending of a unit's report file name. -/
def suffix : Pass → String
  | halstead => "_halstead_metrics.csv"
  | cwe1087 => "_cwe1087_metrics.csv"

/-- Both passes, in their usual order. -/
def all : List Pass := [halstead, cwe1087]

/-- Reads a pass name, ignoring case. -/
def ofText? (s : String) : Option Pass :=
  if Text.caselessEq s "halstead" then some .halstead
  else if Text.caselessEq s "cwe-1087" || Text.caselessEq s "cwe1087" ||
      Text.caselessEq s "virtual-destructor" then some .cwe1087
  else none

/-- The complaint about a text that names no pass. -/
def unknownMessage (s : String) : String :=
  "unknown pass " ++ Text.quote s ++ ", must be 'halstead' or 'cwe-1087'"

end Pass

end SourceAudit
