/-!
# Blank characters

The characters with the Unicode `White_Space` property, and trimming by them. A line is blank
when nothing but such characters remains after trimming.

Main definitions:
* `isBlank`: membership in the `White_Space` set (25 code points).
* `trimBlank`, `isBlankText`, `words`, `collapseBlanks`.
-/

namespace SourceAudit.Text

/-- A character with the Unicode `White_Space` property: the ASCII tab to carriage return and
space, next line, no-break space, ogham space, the spaces U+2000 to U+200A, the line and
paragraph separators, the narrow and medium mathematical spaces and the ideographic space. -/
def isBlank (c : Char) : Bool :=
  let n := c.toNat
  (9 ≤ n && n ≤ 13) || n == 32 || n == 0x85 || n == 0xA0 || n == 0x1680 ||
  (0x2000 ≤ n && n ≤ 0x200A) || n == 0x2028 || n == 0x2029 || n == 0x202F ||
  n == 0x205F || n == 0x3000

example : isBlank ' ' ∧ isBlank '\u3000' ∧ !isBlank 'a' := by decide

/-- Drops blank characters at both ends. -/
def trimBlank (s : String) : String :=
  String.ofList ((s.toList.dropWhile isBlank).reverse.dropWhile isBlank).reverse

/-- Nothing but blank characters. -/
def isBlankText (s : String) : Bool :=
  s.toList.all isBlank

/-- The maximal runs of non-blank characters, in order. -/
def words (s : String) : List String :=
  let step (acc : List String × List Char) (c : Char) : List String × List Char :=
    if isBlank c then
      if acc.2.isEmpty then acc else (String.ofList acc.2.reverse :: acc.1, [])
    else (acc.1, c :: acc.2)
  let (done, cur) := s.toList.foldl step ([], [])
  (if cur.isEmpty then done else String.ofList cur.reverse :: done).reverse

/-- The words of a text joined by single spaces. -/
def collapseBlanks (s : String) : String := " ".intercalate (words s)

end SourceAudit.Text
