/-!
# Qualified names

A C++ name such as `n::Outer::Inner` is a list of segments joined by `::`; a leading `::`
names the global scope. Segments are found left to right, each `::` ending one, so `a:::b`
splits into `a` and `:b`; the last segment is the text after the last `::`.

Main definitions:
* `Qualified.segments`, `Qualified.lastSegment`, `Qualified.hasSeparator`,
  `Qualified.stripRoot?`, `Qualified.join`.
-/

namespace SourceAudit.Text.Qualified

/-- Splits characters at each `::`, left to right. -/
def splitChars : List Char → List Char → List String
  | ':' :: ':' :: rest, cur => String.ofList cur.reverse :: splitChars rest []
  | c :: rest, cur => splitChars rest (c :: cur)
  | [], cur => [String.ofList cur.reverse]

/-- The segments of a name, left to right; a name without `::` is one segment. -/
def segments (s : String) : List String := splitChars s.toList []

/-- Reads characters backwards up to the first `::` met. -/
def tailChars : List Char → List Char → List Char
  | ':' :: ':' :: _, acc => acc
  | c :: rest, acc => tailChars rest (c :: acc)
  | [], acc => acc

/-- The text after the last `::`, or the whole name when it has none. -/
def lastSegment (s : String) : String := String.ofList (tailChars s.toList.reverse [])

/-- The characters contain `::`. -/
def hasSeparatorChars : List Char → Bool
  | ':' :: ':' :: _ => true
  | _ :: rest => hasSeparatorChars rest
  | [] => false

/-- The name contains `::`. -/
def hasSeparator (s : String) : Bool := hasSeparatorChars s.toList

/-- The name without its leading `::`, if it starts with one. -/
def stripRoot? (s : String) : Option String :=
  match s.toList with
  | ':' :: ':' :: rest => some (String.ofList rest)
  | _ => none

/-- Segments joined by `::`. -/
def join (parts : List String) : String := "::".intercalate parts

example : segments "a:::b" = ["a", ":b"] := by decide
example : lastSegment "a:::b" = "b" := by decide
example : lastSegment "::" = "" := by decide

end SourceAudit.Text.Qualified
