/-!
# Report text

A report is a header line followed by one line per row; the fields of a line are joined by
a comma and a space, and every line ends with a newline. Fields are not quoted, so a field
holding the separator or a newline shows as more fields or more lines.

A report is written through a **sink**: it is opened with its header line, each row written
appends a line and counts one row, and a pass reads the count before and after to learn how
many rows it wrote.

Main definitions:
* `Sheet.line`, `Sheet.text`.
* `Sheet.Sink`, `Sink.start`, `Sink.write`.
-/

namespace SourceAudit.Sheet

/-- The fields of one line, joined by `", "`. -/
def line (fields : List String) : String := ", ".intercalate fields

/-- A header and rows, each line ended by a newline. -/
def text (header : List String) (rows : List (List String)) : String :=
  String.join ((header :: rows).map fun fs => line fs ++ "\n")

/-- A report being written: the text so far and the number of rows after the header. -/
structure Sink where
  text : String
  rows : Nat
  deriving Repr, Inhabited

namespace Sink

/-- A new report holding only its header line. -/
def start (header : List String) : Sink := ⟨line header ++ "\n", 0⟩

/-- Writes one row. -/
def write (s : Sink) (fields : List String) : Sink := ⟨s.text ++ line fields ++ "\n", s.rows + 1⟩

end Sink

end SourceAudit.Sheet
