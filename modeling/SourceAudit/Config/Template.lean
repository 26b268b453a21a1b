/-!
# The starting configuration

The file `init` writes: every key with its default value, each explained by a comment.
-/

namespace SourceAudit

/-- The lines of the starting configuration. -/
def templateLines : List String := [
  "# astpass configuration",
  "#",
  "# Every key is optional; the values below are the defaults.",
  "",
  "# Directory the per-file CSV reports are written to.",
  "output_dir: \".\"",
  "",
  "# Passes to run on every translation unit:",
  "#   halstead  - per-function operator/operand metrics",
  "#   cwe-1087  - base classes whose destructor is not virtual",
  "passes:",
  "  - halstead",
  "  - cwe-1087",
  "",
  "# Functions whose derived metrics are not finite (empty bodies):",
  "#   sentinel  - write the row with non-finite values as \"nan\"",
  "#   skip      - write no row",
  "degenerate_metrics: sentinel",
  "",
  "# Only inspect public base specifiers in the cwe-1087 pass.",
  "public_bases_only: false",
  "",
  "# Glob patterns for sources to leave out.",
  "excluded_paths:",
  "  - \"**/third_party/**\"",
  "  - \"**/build/**\""]

/-- **The starting configuration**, each line ended by a line feed. -/
def configTemplate : String := String.join (templateLines.map (· ++ "\n"))

end SourceAudit
