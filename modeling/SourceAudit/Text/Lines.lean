/-!
# Lines of a text

A text read line by line: each line ends at a line feed, which is not part of it, and a
carriage return just before that line feed is dropped too. A last line without a line feed
counts when it is not empty, and keeps a carriage return it ends with.

Main definitions:
* `Text.lines`.
-/

namespace SourceAudit.Text

/-- Drops one carriage return at the end. -/
def dropReturn (s : String) : String :=
  if s.endsWith "\r" then (s.dropEnd 1).toString else s

/-- **The lines of a text.** -/
def lines (s : String) : List String :=
  let pieces := (s.toList.splitOn '\n').map String.ofList
  let ended := pieces.dropLast.map dropReturn
  match pieces.getLast? with
  | some last => if last.isEmpty then ended else ended ++ [last]
  | none => ended

end SourceAudit.Text
