/-!
# Writing JSON text

A JSON value is written either on one line or indented: in the indented form every member of
an object and every item of an array starts a line of its own, two spaces deeper than its
container, a key is followed by `": "`, and an empty object or array stays `{}` or `[]`.
Strings escape the quote, the backslash, and every byte below `0x20`: the usual short forms
for backspace, form feed, line feed, carriage return and tab, `\u00xx` (lower-case hex) for
the others. All other characters are written as they are.

Main definitions:
* `JsonValue`.
* `escapeJson`, `quoteJson`.
* `JsonValue.pretty`: the indented text.
-/

namespace SourceAudit.Json

/-- A JSON value whose numbers are naturals. -/
inductive JsonValue where
  | null
  | bool (b : Bool)
  | nat (n : Nat)
  | str (s : String)
  | arr (items : List JsonValue)
  | obj (members : List (String × JsonValue))
  deriving Repr, Inhabited

/-- The two lower-case hex digits of a byte. -/
def hexByte (n : Nat) : String :=
  let digit (d : Nat) : Char := "0123456789abcdef".toList.getD d '0'
  String.ofList [digit (n / 16 % 16), digit (n % 16)]

/-- A character as it is written inside a JSON string. -/
def escapeJson (c : Char) : String :=
  if c == '"' then "\\\""
  else if c == '\\' then "\\\\"
  else if c == '\n' then "\\n"
  else if c == '\r' then "\\r"
  else if c == '\t' then "\\t"
  else if c.toNat == 8 then "\\b"
  else if c.toNat == 12 then "\\f"
  else if c.toNat < 32 then "\\u00" ++ hexByte c.toNat
  else c.toString

/-- **A string as a JSON string**, quoted. -/
def quoteJson (s : String) : String := "\"" ++ String.join (s.toList.map escapeJson) ++ "\""

/-- The spaces that indent a line at a depth. -/
def indentAt (depth : Nat) : String := String.ofList (List.replicate (2 * depth) ' ')

mutual

/-- The indented text of a value whose first line is already indented to `depth`. -/
def JsonValue.prettyAt (depth : Nat) : JsonValue → String
  | .null => "null"
  | .bool b => if b then "true" else "false"
  | .nat n => toString n
  | .str s => quoteJson s
  | .arr [] => "[]"
  | .arr items => "[\n" ++ prettyItems (depth + 1) items ++ "\n" ++ indentAt depth ++ "]"
  | .obj [] => "\x7b\x7d"
  | .obj members => "\x7b\n" ++ prettyMembers (depth + 1) members ++ "\n" ++ indentAt depth ++ "\x7d"

/-- The items of an array, one per line. -/
def prettyItems (depth : Nat) : List JsonValue → String
  | [] => ""
  | [v] => indentAt depth ++ v.prettyAt depth
  | v :: rest => indentAt depth ++ v.prettyAt depth ++ ",\n" ++ prettyItems depth rest

/-- The members of an object, one per line. -/
def prettyMembers (depth : Nat) : List (String × JsonValue) → String
  | [] => ""
  | [(k, v)] => indentAt depth ++ quoteJson k ++ ": " ++ v.prettyAt depth
  | (k, v) :: rest =>
    indentAt depth ++ quoteJson k ++ ": " ++ v.prettyAt depth ++ ",\n" ++ prettyMembers depth rest

end

/-- **The indented text of a value.** -/
def JsonValue.pretty (v : JsonValue) : String := v.prettyAt 0

example : (JsonValue.obj [("a", .arr [.nat 1, .bool true]), ("b", .arr [])]).pretty =
    "\x7b\n  \"a\": [\n    1,\n    true\n  ],\n  \"b\": []\n\x7d" := by decide +kernel

end SourceAudit.Json
