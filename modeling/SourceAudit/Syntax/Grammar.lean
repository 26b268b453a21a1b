import SourceAudit.Syntax.Reader
import SourceAudit.Syntax.Words
/-!
# A grammar of C and C++

A backtracking recursive-descent parser that builds concrete syntax trees in the shape of the
usual tree grammar for C and C++: the node kinds and field names of that grammar, binary
operators by precedence climbing with its precedences, and its resolution of the language's
ambiguities:

* a block item that reads as a declaration is one, except a call written `f(x);`;
* a parenthesized name before an operand is a cast only when no operator can follow it;
* a unary operator binds a following `++` or `--` to itself (`-a++` increments `-a`), while
  `*`, `&`, casts and `sizeof` leave it to their operand (`*p++` increments `p`);
* a number directly after a sign in operand position takes the sign (`-1` is one literal).

Every parser takes a fuel argument that each nested call lowers by one, so that all of them are
total; `Grammar.fuelFor` is far more than any parse needs.

Errors are recovered locally, in the ways the tree grammar's parser recovers from the common
ones: a missing operand before a token that ends an expression becomes a missing identifier
(unless too many operators wait for it), a missing `;` before `}` and a missing `}` at the
end of input are inserted, bad characters inside an expression split it, and an item that
cannot be read is skipped a token at a time into an `ERROR` node, or to the end of the input
when it opens a bracket that is never closed.

Main definitions:
* `Declares`, `Place`.
* `Grammar.expression`, `Grammar.statement`, `Grammar.items`.
-/

namespace SourceAudit.Syntax

/-- What a declarator declares, which decides the kind of its name. -/
inductive Declares where
  | object
  | member
  | typeName
  deriving BEq, Repr, Inhabited

/-- The leaf kind of a declared name. -/
def Declares.nameKind : Declares → String
  | .object => "identifier"
  | .member => "field_identifier"
  | .typeName => "type_identifier"

/-- Where a list of items stands: a file (or a namespace or linkage body), a block, a class
body, or the statements after one `case` label. -/
inductive Place where
  | file
  | block
  | members
  | caseBody
  deriving BEq, Repr, Inhabited

namespace Grammar
open Reader

/-- Where the next token starts. -/
def here : Reader Point := do pure (← peek).start

/-- Consumes the next token as a leaf of the given kind. -/
def take (kind : String) (named : Bool := true) (field : Option String := none) :
    Reader Tree := do
  let t ← advance
  pure (leafOf t kind named field)

/-- Consumes the next token as an anonymous leaf if its text is `s`, and fails otherwise. -/
def expect (s : String) (field : Option String := none) : Reader Tree := do
  if (← atText s) then
    let t ← advance
    pure (leafOf t s false field)
  else fail

/-- The anonymous leaf of `s` if `s` comes next, else nothing. -/
def accept (s : String) : Reader (List Tree) := do
  if (← atText s) then
    let t ← advance
    pure [leafOf t s false]
  else pure []

/-- A word that can stand for a name in this dialect. -/
def isNameToken (cpp : Bool) (t : Token) : Bool :=
  t.kind == .word && !Words.isReserved cpp t.text

/-- The word right after a `::` names a built-in type (`std::size_t`). Only a name can stand
after `::`, so there the word is a name, not the keyword. -/
def afterScopeBuiltin : Reader Bool := do
  let t ← peek
  match ← previous? with
  | some p => pure (p.kind == .punct && p.text == "::" && t.kind == .word &&
      Words.primitiveTypes.contains t.text)
  | none => pure false

/-- The next token is a name. -/
def atName : Reader Bool := do
  pure (isNameToken (← isCpp) (← peek) || (← afterScopeBuiltin))

/-- The token `k` places ahead is a name. -/
def atNameAt (k : Nat) : Reader Bool := do pure (isNameToken (← isCpp) (← peekAt k))

/-- Consumes a name as a leaf of the given kind. -/
def nameLeaf (kind : String) (field : Option String := none) : Reader Tree := do
  if (← atName) then take kind true field else fail

/-- The next token is punctuation with text `s`. -/
def atPunct (s : String) : Reader Bool := do
  let t ← peek
  pure (t.kind == .punct && t.text == s)

/-- The token `k` places ahead is punctuation with text `s`. -/
def atPunctAt (k : Nat) (s : String) : Reader Bool := do
  let t ← peekAt k
  pure (t.kind == .punct && t.text == s)

/-- The next token is the word `s`. -/
def atWordText (s : String) : Reader Bool := do
  let t ← peek
  pure (t.kind == .word && t.text == s)

/-- The token `k` places ahead is the word `s`. -/
def atWordTextAt (k : Nat) (s : String) : Reader Bool := do
  let t ← peekAt k
  pure (t.kind == .word && t.text == s)

/-- A missing leaf just after the previous token. -/
def missing (kind : String) (named : Bool) (field : Option String := none) : Reader Tree := do
  match ← previous? with
  | some t => pure (missingAfter t kind named field)
  | none =>
    let p ← here
    pure (.node kind named field p p.byte true [])

/-- The operator at the current position and how many tokens it spans: in C++ two adjacent
`>` make a shift, and a `>` directly before `>=` makes a shift assignment. -/
def peekOperator : Reader (String × Nat) := do
  let t ← peek
  if t.kind != .punct && t.kind != .word then return ("", 0)
  if t.text == ">" && (← isCpp) then
    let u ← peekAt 1
    if u.kind == .punct && u.start.byte == t.stop then
      if u.text == ">" then return (">>", 2)
      if u.text == ">=" then return (">>=", 2)
  return (t.text, 1)

/-- Consumes an operator of `width` tokens as one anonymous leaf. -/
def takeOperator (op : String) (width : Nat) (field : Option String) : Reader Tree := do
  let t ← advance
  if width == 2 then
    let u ← advance
    pure (.node op false field t.start u.stop false [])
  else pure (leafOf t op false field)

/-- A sign directly followed by a number. -/
def atSignedNumber : Reader Bool := do
  let t ← peek
  let u ← peekAt 1
  pure (t.kind == .punct && (t.text == "-" || t.text == "+") && u.kind == .number &&
    u.start.byte == t.stop)

/-- Consumes a sign and the number after it as one number literal. -/
def signedNumber : Reader Tree := do
  let t ← advance
  let u ← advance
  pure (.node "number_literal" true none t.start u.stop false [])

/-- A token skipped in recovery, as a leaf. -/
def skippedLeaf (t : Token) : Tree :=
  match t.kind with
  | .word => leafOf t "identifier" true
  | .number => leafOf t "number_literal" true
  | .string => leafOf t "string_literal" true
  | .rawString => leafOf t "raw_string_literal" true
  | .char => leafOf t "char_literal" true
  | _ => leafOf t t.text false

/-- Consumes the next token as a skipped leaf. -/
def skipOne : Reader Tree := do pure (skippedLeaf (← advance))

/-- Consumes a run of bad tokens. -/
def skipBad : Nat → Reader (List Tree)
  | 0 => pure []
  | k + 1 => do
    if (← atKind .bad) then
      let t ← skipOne
      let rest ← skipBad k
      pure (t :: rest)
    else pure []

/-- Consumes every token up to the end of the input. -/
def skipToEnd : Nat → Reader (List Tree)
  | 0 => pure []
  | k + 1 => do
    if (← atKind .eof) then pure []
    else
      let t ← skipOne
      let rest ← skipToEnd k
      pure (t :: rest)

/-- Consumes up to `k` tokens. -/
def skipMany : Nat → Reader (List Tree)
  | 0 => pure []
  | k + 1 => do
    if (← atKind .eof) then pure []
    else
      let t ← skipOne
      let rest ← skipMany k
      pure (t :: rest)

/-- Consumes tokens up to and including the first `;` outside brackets, or to the end. -/
def skipPastSemicolon : Nat → Nat → Reader (List Tree)
  | 0, _ => pure []
  | k + 1, depth => do
    let t ← peek
    if t.kind == .eof then return []
    let _ ← advance
    let leaf := skippedLeaf t
    if t.kind == .punct && t.text == ";" && depth == 0 then return [leaf]
    let depth :=
      if t.kind == .punct && (t.text == "(" || t.text == "[" || t.text == "\x7b") then depth + 1
      else if t.kind == .punct && (t.text == ")" || t.text == "]" || t.text == "\x7d") then depth - 1
      else depth
    let rest ← skipPastSemicolon k depth
    pure (leaf :: rest)

/-- Tokens skipped up to the first token outside brackets that `stop` accepts, without
passing a closing bracket of an enclosing pair or a `;` or the end. -/
def skipUntil (stop : Token → Bool) : Nat → Nat → Reader (List Tree)
  | 0, _ => pure []
  | k + 1, depth => do
    let t ← peek
    if t.kind == .eof then return []
    let opens := t.kind == .punct && (t.text == "(" || t.text == "[" || t.text == "\x7b")
    let closes := t.kind == .punct && (t.text == ")" || t.text == "]" || t.text == "\x7d")
    if depth == 0 && (stop t || closes || (t.kind == .punct && t.text == ";")) then return []
    let _ ← advance
    let depth := if opens then depth + 1 else if closes then depth - 1 else depth
    let rest ← skipUntil stop k depth
    pure (skippedLeaf t :: rest)

/-- Whether some `(` or `[` at or after position `i`, or the `<` after a `template`, is still
open at the end of the input. -/
def opensUnclosed (tokens : Array Token) (i : Nat) : Bool :=
  let step (acc : List String × Option Token) (t : Token) : List String × Option Token :=
    let (stack, prev) := acc
    let afterTemplate := match prev with
      | some p => p.kind == .word && p.text == "template"
      | none => false
    let stack :=
      if t.kind != .punct then stack
      else if t.text == "(" || t.text == "[" || t.text == "\x7b" then t.text :: stack
      else if t.text == "<" && afterTemplate then "<" :: stack
      else
        let closer := match t.text with
          | ")" => some "("
          | "]" => some "["
          | "\x7d" => some "\x7b"
          | ">" => some "<"
          | _ => none
        match closer, stack with
        | some c, top :: rest => if c == top then rest else stack
        | _, _ => stack
    (stack, some t)
  let (stack, _) := (tokens.extract i tokens.size).foldl step ([], none)
  stack.any fun s => s == "(" || s == "[" || s == "<"

/-- Whether a `...` stands at the top level of the brackets that start at position `i`, before
they close. A fold expression needs one there, so where there is none the parser does not try
to read a fold, which would read the inner expression twice at every level of parentheses. -/
def dotsBeforeClose (tokens : Array Token) (i : Nat) : Bool :=
  go (tokens.size - i) i 0
where
  /-- Scans from position `j` at bracket depth `depth`, for at most `fuel` tokens. -/
  go : Nat → Nat → Nat → Bool
    | 0, _, _ => false
    | fuel + 1, j, depth =>
      match tokens[j]? with
      | none => false
      | some t =>
        if t.kind != .punct then go fuel (j + 1) depth
        else if t.text == "(" || t.text == "[" || t.text == "\x7b" then go fuel (j + 1) (depth + 1)
        else if t.text == ")" || t.text == "]" || t.text == "\x7d" then
          if depth == 0 then false else go fuel (j + 1) (depth - 1)
        else if t.text == "..." && depth == 0 then true
        else go fuel (j + 1) depth

/-- Whether the `<` at position `i` has a `>` that closes it before the statement ends, counting
angle brackets only outside parentheses, square brackets and braces (a `<` or `>` right after
`operator` names an operator and does not count). Template arguments end on such a `>`, since
an argument stops before any comparison or shift outside brackets; so where there is none the
parser does not try to read template arguments, which would read the rest of a chain of
comparisons once more at every `<`. -/
def anglesClose (tokens : Array Token) (i : Nat) : Bool :=
  go (tokens.size - i) (i + 1) 0 1
where
  /-- The token before position `j` is the word `operator`. -/
  afterOperator (j : Nat) : Bool :=
    match tokens[j - 1]? with
    | some p => j > 0 && p.kind == .word && p.text == "operator"
    | none => false
  /-- Scans from position `j` at bracket depth `depth` with `angles` angle brackets open, for at
  most `fuel` tokens. -/
  go : Nat → Nat → Nat → Nat → Bool
    | 0, _, _, _ => false
    | fuel + 1, j, depth, angles =>
      match tokens[j]? with
      | none => false
      | some t =>
        if t.kind != .punct then go fuel (j + 1) depth angles
        else if t.text == "(" || t.text == "[" || t.text == "\x7b" then
          go fuel (j + 1) (depth + 1) angles
        else if t.text == ")" || t.text == "]" || t.text == "\x7d" then
          if depth == 0 then false else go fuel (j + 1) (depth - 1) angles
        else if depth > 0 || afterOperator j then go fuel (j + 1) depth angles
        else if t.text == ";" then false
        else if t.text == "<" then go fuel (j + 1) depth (angles + 1)
        else if t.text == ">" then
          if angles ≤ 1 then true else go fuel (j + 1) depth (angles - 1)
        else go fuel (j + 1) depth angles

/-- The position of the `)` that closes the `(` at position `i`, if the brackets between them
are balanced. -/
def closingParen (tokens : Array Token) (i : Nat) : Option Nat :=
  go (tokens.size - i) (i + 1) 0
where
  /-- Scans from position `j` at bracket depth `depth`, for at most `fuel` tokens. -/
  go : Nat → Nat → Nat → Option Nat
    | 0, _, _ => none
    | fuel + 1, j, depth =>
      match tokens[j]? with
      | none => none
      | some t =>
        if t.kind != .punct then go fuel (j + 1) depth
        else if t.text == "(" || t.text == "[" || t.text == "\x7b" then go fuel (j + 1) (depth + 1)
        else if t.text == ")" || t.text == "]" || t.text == "\x7d" then
          if depth > 0 then go fuel (j + 1) (depth - 1)
          else if t.text == ")" then some j
          else none
        else go fuel (j + 1) depth

/-- The token can follow the parentheses of a cast: it starts an operand, or a braced list. -/
def canFollowCast (cpp : Bool) (t : Token) : Bool :=
  t.kind != .eof && (t.kind != .punct ||
    ["-", "+", "!", "~", "*", "&", "++", "--", "(", "\x7b"].contains t.text ||
    (cpp && (t.text == "[" || t.text == "::")))

/-- Whether the parentheses at position `i` can be those of a cast or a compound literal. A
type between balanced parentheses ends at the `)` that closes them, so the token after that one
has to start an operand or a braced list. -/
def castable (tokens : Array Token) (cpp : Bool) (i : Nat) : Bool :=
  match closingParen tokens i with
  | some j => match tokens[j + 1]? with
    | some t => canFollowCast cpp t
    | none => false
  | none => false

/-- The next token ends an expression. -/
def atExpressionEnd : Reader Bool := do
  let t ← peek
  pure (t.kind == .eof || (t.kind == .punct &&
    [";", ")", "]", "\x7d", ",", ":"].contains t.text))

/-- Directives that end the items of a conditional group. -/
def isGroupEnd (t : Token) : Bool :=
  t.kind == .directive &&
    ["else", "elif", "endif", "elifdef", "elifndef"].contains t.text

/-- Words that start a statement. -/
def statementWords (cpp : Bool) : List String :=
  ["if", "while", "do", "for", "switch", "case", "default", "return", "break", "continue",
   "goto"] ++ (if cpp then ["try", "throw", "co_return", "co_yield"] else [])

/-- In C, the number of tokens from a record defined in a block to the `{` of a function body
inside it, when that body starts with a statement keyword. A function body cannot stand in a
C record, and the tree grammar's parser gives up on the record there: it skips these tokens
and reads the function's statements as statements of the block. -/
def recordWithFunction? (tokens : Array Token) (i : Nat) : Option Nat :=
  let isPunct (t : Token) (s : String) : Bool := t.kind == .punct && t.text == s
  match (tokens.extract i tokens.size).toList with
  | kw :: rest =>
    if !(kw.kind == .word && (kw.text == "struct" || kw.text == "union")) then none
    else
      let (named, rest) := match rest with
        | nm :: more => if nm.kind == .word then (1, more) else (0, rest)
        | [] => (0, [])
      match rest with
      | o :: body => if isPunct o "\x7b" then scan body 1 false (named + 2) else none
      | [] => none
  | [] => none
where
  /-- Scans a record body at brace depth `depth`; `afterParen` says the token before was `)`,
  `count` is the number of tokens read so far. -/
  scan : List Token → Nat → Bool → Nat → Option Nat
    | [], _, _, _ => none
    | t :: more, depth, afterParen, count =>
      if t.kind == .punct && t.text == "\x7b" then
        if afterParen then
          match more with
          | s :: _ =>
            if s.kind == .word && (statementWords false).contains s.text then some (count + 1)
            else none
          | [] => none
        else scan more (depth + 1) false (count + 1)
      else if t.kind == .punct && t.text == "\x7d" then
        if depth ≤ 1 then none else scan more (depth - 1) false (count + 1)
      else scan more depth (t.kind == .punct && t.text == ")") (count + 1)

/-- Words that start an attribute specifier. -/
def attributeWords : List String := ["__attribute__", "__attribute"]

/-- Words of an alignment query. -/
def alignofWords : List String := ["alignof", "_Alignof", "__alignof__", "__alignof", "_alignof"]

/-- Words that start an inline assembly expression. -/
def asmWords : List String := ["asm", "__asm__", "__asm"]

/-- Qualifiers of an inline assembly expression, between its keyword and its `(`. -/
def asmQualifiers : Nat → Reader (List Tree)
  | 0 => pure []
  | n + 1 => do
    let t ← peek
    if t.kind == .word && ["volatile", "__volatile__", "inline", "goto"].contains t.text then
      let w ← take t.text false
      let rest ← asmQualifiers n
      pure (mkNode "gnu_asm_qualifier" [w] t.start :: rest)
    else pure []

/-- Whether a declarator chain declares a function: a function declarator whose inner
declarator is not parenthesized, possibly under pointers and references. -/
def declaresFunction : Nat → Tree → Bool
  | 0, _ => false
  | k + 1, t =>
    match t.kind with
    | "function_declarator" =>
      match t.field? "declarator" with
      | some inner => inner.kind != "parenthesized_declarator"
      | none => false
    | "pointer_declarator" | "reference_declarator" | "attributed_declarator" =>
      match t.field? "declarator" with
      | some inner => declaresFunction k inner
      | none => match t.namedChildren.getLast? with
        | some inner => declaresFunction k inner
        | none => false
    | _ => false

/-- Whether a declarator's outermost form is a function declarator (possibly under pointers),
as a definition needs. -/
def hasFunctionShape : Nat → Tree → Bool
  | 0, _ => false
  | k + 1, t =>
    match t.kind with
    | "function_declarator" => true
    | "pointer_declarator" | "reference_declarator" | "attributed_declarator" =>
      match t.namedChildren.getLast? with
      | some inner => hasFunctionShape k inner
      | none => false
    | _ => false

/-- The leaf kinds that a type specifier of a declaration can be when it is only a name. -/
def isNameType (t : Tree) : Bool :=
  ["type_identifier", "qualified_identifier", "template_type"].contains t.kind

/-- A type that is certainly a type: anything but a bare (possibly scoped) name. -/
def isPlainType (t : Tree) : Bool := !isNameType t

/-- The type child of a list of declaration specifiers. -/
def typeOf (specs : List Tree) : Option Tree := specs.find? (·.field == some "type")

/-- K&R parameters: every parameter is a bare type name without a declarator. -/
def oldStyleParameters (params : Tree) : Option (List Tree) :=
  let items := params.namedChildren
  if items.isEmpty then none
  else
    let names := items.filterMap fun p =>
      if p.kind == "parameter_declaration" && p.namedChildren.length == 1 then
        match p.namedChildren.head? with
        | some ty =>
          if ty.kind == "type_identifier" then
            some (.node "identifier" true none ty.start ty.stop false [])
          else none
        | none => none
      else none
    if names.length == items.length then
      -- keep the punctuation and put the names in place of the parameters
      let rec swap : List Tree → List Tree → List Tree
        | [], _ => []
        | c :: cs, ns =>
          if c.named then
            match ns with
            | n :: rest => n :: swap cs rest
            | [] => c :: swap cs []
          else c :: swap cs ns
      some (swap params.children names)
    else none

/-- Replaces the parameters of the innermost function declarator of a chain. -/
def withParameters (newParams : List Tree) : Nat → Tree → Tree
  | 0, t => t
  | k + 1, t =>
    match t with
    | .node kind named field s e m cs =>
      if kind == "function_declarator" then
        .node kind named field s e m (cs.map fun c =>
          if c.field == some "parameters" then
            match c with
            | .node k n f s' e' m' _ => .node k n f s' e' m' newParams
          else c)
      else .node kind named field s e m (cs.map fun c =>
        if c.field == some "declarator" || c.kind == "function_declarator" then
          withParameters newParams k c else c)

/-- The parameter list of the outermost function declarator of a chain. -/
def parametersOf : Nat → Tree → Option Tree
  | 0, _ => none
  | k + 1, t =>
    if t.kind == "function_declarator" then t.field? "parameters"
    else match t.namedChildren.getLast? with
      | some inner => parametersOf k inner
      | none => none

/-- Fuel enough for parsing `n` tokens: every nested call consumes a token or is one of a
bounded number of calls at the same token. -/
def fuelFor (n : Nat) : Nat := 64 * (n + 16)

/-- A closing brace, or a missing one at the end of the input. -/
def closeBrace : Reader Tree := do
  if (← atPunct "\x7d") then take "\x7d" false
  else if (← atKind .eof) then missing "\x7d" false
  else fail

/-- The `;` that ends a statement: missing before `}` or the end of the input; tokens that
cannot continue the statement are first skipped into an error. -/
def statementEnd : Reader (List Tree) := do
  if (← atPunct ";") then return [← take ";" false]
  if (← atPunct "\x7d") || (← atKind .eof) then return [← missing ";" false]
  let start ← here
  let skipped ← skipUntil (fun _ => false) (← read).tokens.size 0
  if skipped.isEmpty then fail
  let err := errorNode skipped start
  if (← atPunct ";") then return [err, ← take ";" false]
  if (← atPunct "\x7d") || (← atKind .eof) then return [err, ← missing ";" false]
  fail

/-- `= default;` or `= delete;` after a function declarator, and `= 0;` too when `pure` (for a
constructor, destructor or conversion, which have no type; a typed method's `= 0` is a
member's default value). -/
def methodClause (pure0 : Bool) : Reader Tree := do
  let eq ← expect "="
  let t ← peek
  let (kind, w) ← if t.kind == .word && t.text == "default" then
      pure ("default_method_clause", ← take "default" false)
    else if t.kind == .word && t.text == "delete" then
      pure ("delete_method_clause", ← take "delete" false)
    else if pure0 && t.kind == .number && t.text == "0" then
      pure ("pure_virtual_clause", ← take "0" false)
    else fail
  let semi ← expect ";"
  pure (mkNode kind [eq, w, semi] eq.start)

/-- The newline that ends a directive line, if the input does not end first. -/
def lineEnd : Reader (List Tree) := do
  if (← atKind .lineEnd) then return [← take "\n" false]
  pure []

/-- The tokens of a directive's condition, up to the end of its line. -/
def conditionTokens : Nat → Reader (List Tree)
  | 0 => pure []
  | k + 1 => do
    let t ← peek
    if t.kind == .lineEnd || t.kind == .eof || t.kind == .directive then return []
    let leaf ← skipOne
    let rest ← conditionTokens k
    pure (leaf :: rest)

mutual

/-- An operand of a directive's condition: a number or character, `defined`, a name or the
call of a macro, a prefix operator over an operand, or a parenthesized condition. -/
def preprocOperand : Nat → Reader Tree
  | 0 => fail
  | n + 1 => do
    let t ← peek
    if (← atSignedNumber) then signedNumber
    else if t.kind == .number then take "number_literal"
    else if t.kind == .char then take "char_literal"
    else if t.kind == .word && t.text == "defined" then
      let kw ← take "defined" false
      if (← atPunct "(") then
        let o ← expect "("
        let name ← take "identifier"
        let c ← expect ")"
        pure (mkNode "preproc_defined" [kw, o, name, c] kw.start)
      else if (← atWord) then
        let name ← take "identifier"
        pure (mkNode "preproc_defined" [kw, name] kw.start)
      else fail
    else if t.kind == .word then
      let name ← take "identifier" true (some "function")
      if (← atPunct "(") then
        let args ← preprocArguments n
        pure (mkNode "call_expression" [name, args] name.start)
      else pure (name.withField none)
    else if t.kind == .punct && ["!", "~", "-", "+"].contains t.text then
      -- a prefix operator binds tighter than every binary one
      let op ← take t.text false (some "operator")
      let arg ← preprocOperand n
      pure (mkNode "unary_expression" [op, arg.withField (some "argument")] op.start)
    else if (← atPunct "(") then
      let o ← expect "("
      let e ← preprocExpression n
      let c ← expect ")"
      pure (mkNode "parenthesized_expression" [o, e, c] o.start)
    else fail
termination_by structural fuel => fuel

/-- Binary operators after a left operand, by precedence climbing over the C operators. -/
def preprocClimb : Nat → Int → Tree → Reader Tree
  | 0, _, lhs => pure lhs
  | n + 1, minPrec, lhs => do
    let (op, width) ← peekOperator
    match Words.binaryPrecedence false op with
    | some p =>
      if p < minPrec then pure lhs
      else
        let operator ← takeOperator op width (some "operator")
        let first ← preprocOperand n
        let rhs ← preprocClimb n (p + 1) first
        preprocClimb n minPrec (mkNode "binary_expression"
          [lhs.withField (some "left"), operator, rhs.withField (some "right")] lhs.start)
    | none => pure lhs
termination_by structural fuel _ _ => fuel

/-- A condition of a directive. -/
def preprocExpression : Nat → Reader Tree
  | 0 => fail
  | n + 1 => do
    let first ← preprocOperand n
    preprocClimb n 0 first
termination_by structural fuel => fuel

/-- The arguments of a macro call: conditions separated by commas, in parentheses. -/
def preprocArguments : Nat → Reader Tree
  | 0 => fail
  | n + 1 => do
    let o ← expect "("
    let items ← if (← atPunct ")") then pure [] else do
      let first ← preprocExpression n
      let rest ← preprocArgumentTail n
      pure (first :: rest)
    let c ← expect ")"
    pure (mkNode "argument_list" ([o] ++ items ++ [c]) o.start (some "arguments"))
termination_by structural fuel => fuel

/-- Further arguments of a macro call, each after a comma. -/
def preprocArgumentTail : Nat → Reader (List Tree)
  | 0 => fail
  | n + 1 => do
    if (← atPunct ",") then
      let c ← expect ","
      let e ← preprocExpression n
      let rest ← preprocArgumentTail n
      pure (c :: e :: rest)
    else pure []
termination_by structural fuel => fuel

end

/-- A directive's condition. One that does not read as a condition up to the end of its line
is kept as its tokens. -/
def preprocCondition : Reader Tree := do
  let start ← here
  let fuel := 4 * (← read).tokens.size + 8
  let whole : Reader Tree := do
    let e ← preprocExpression fuel
    if (← atKind .lineEnd) || (← atKind .eof) then pure e else fail
  match ← attempt whole with
  | some e => pure (e.withField (some "condition"))
  | none =>
    let cs ← conditionTokens (← read).tokens.size
    pure (mkNode "preproc_expression" cs start (some "condition"))

/-- Whether the items read as a declaration are better read as an expression statement: a
declaration of a bare type name whose declarator is parenthesized, as in `f(x);`. -/
def expressionShaped (ds : List Tree) : Bool :=
  match ds with
  | [d] =>
    d.kind == "declaration" &&
    d.children.all (fun c => c.field == some "type" || c.field == some "declarator" ||
      !c.named) &&
    (match d.field? "type", d.field? "declarator" with
      | some ty, some dc => isNameType ty && dc.kind == "parenthesized_declarator"
      | _, _ => false)
  | _ => false

/-- `#endif`, or a missing one at the end of the input. -/
def endifDirective : Reader Tree := do
  let d ← peek
  if d.kind == .directive && d.text == "endif" then take "#endif" false
  else if d.kind == .eof then missing "#endif" false
  else fail

/-- A string literal, raw or not, as a leaf. -/
def stringPiece : Reader Tree := do
  let t ← peek
  if t.kind == .string then take "string_literal"
  else if t.kind == .rawString then take "raw_string_literal"
  else fail

/-- Access specifiers and `virtual` before a base. -/
def baseSpecifiers : Nat → Reader (List Tree)
  | 0 => pure []
  | k + 1 => do
    let t ← peek
    if t.kind == .word && ["public", "private", "protected"].contains t.text then
      let w ← take t.text false
      let rest ← baseSpecifiers k
      pure (mkNode "access_specifier" [w] t.start :: rest)
    else if t.kind == .word && t.text == "virtual" then
      let w ← take "virtual" false
      let rest ← baseSpecifiers k
      pure (w :: rest)
    else pure []

mutual

-- Expressions

/-- **An expression**, assignments included; bad characters inside it split it into an
`ERROR` node that holds the pieces. -/
def expression : Nat → Reader Tree
  | 0 => fail
  | n + 1 => do
    let (e, _) ← expressionAbove n Words.assignmentPrecedence 0
    badTail n e
termination_by structural fuel => fuel

/-- After an expression: bad characters, then the rest of the expression, all in an error. -/
def badTail : Nat → Tree → Reader Tree
  | 0, e => pure e
  | n + 1, e => do
    if (← atKind .bad) then
      let bads ← skipBad (← read).tokens.size
      match ← attempt (expressionAbove n Words.assignmentPrecedence 0) with
      | some (next, _) => badTail n (errorNode ([e] ++ bads ++ [next]) e.start)
      | none => pure (errorNode ([e] ++ bads) e.start)
    else pure e
termination_by structural fuel _ => fuel

/-- An expression or a comma expression, which nests to the right. -/
def commaExpression : Nat → Reader Tree
  | 0 => fail
  | n + 1 => do
    let e ← expression n
    if (← atPunct ",") then
      let c ← expect ","
      let rest ← commaExpression n
      pure (mkNode "comma_expression"
        [e.withField (some "left"), c, rest.withField (some "right")] e.start)
    else pure e
termination_by structural fuel => fuel

/-- An expression whose operators all bind at least `minPrec`; `depth` counts the binary
operators that wait for it as their right operand. The flag says that an operator was left
unread because its operand is missing. -/
def expressionAbove : Nat → Int → Nat → Reader (Tree × Bool)
  | 0, _, _ => fail
  | n + 1, minPrec, depth => do
    let lhs ← unary n true
    climb n minPrec depth lhs
termination_by structural fuel _ _ => fuel

/-- Binary, conditional and assignment operators after a left operand. -/
def climb : Nat → Int → Nat → Tree → Reader (Tree × Bool)
  | 0, _, _, _ => fail
  | n + 1, minPrec, depth, lhs => do
    let cpp ← isCpp
    let (op, width) ← peekOperator
    match Words.binaryPrecedence cpp op with
    | some p =>
      if p < minPrec then pure (lhs, false)
      else
        let start ← mark
        let operator ← takeOperator op width (some "operator")
        match ← rightOperand n (p + 1) (depth + 1) with
        | some (rhs, stopped) =>
          let e := mkNode "binary_expression"
            [lhs.withField (some "left"), operator, rhs.withField (some "right")] lhs.start
          if stopped then pure (e, true) else climb n minPrec depth e
        | none =>
          reset start
          pure (lhs, true)
    | none =>
      if op == "?" && Words.conditionalPrecedence ≥ minPrec then
        conditional n minPrec depth lhs
      else if (Words.assignmentOperators cpp).contains op &&
          Words.assignmentPrecedence ≥ minPrec then
        let start ← mark
        let operator ← takeOperator op width (some "operator")
        match ← attempt (assignedValue n (depth + 1)) with
        | some (rhs, stopped) =>
          let e := mkNode "assignment_expression"
            [lhs.withField (some "left"), operator, rhs.withField (some "right")] lhs.start
          if stopped then pure (e, true) else climb n minPrec depth e
        | none =>
          reset start
          pure (lhs, true)
      else pure (lhs, false)
termination_by structural fuel _ _ _ => fuel

/-- The right operand of a binary operator. When it is absent before a token that ends an
expression, a missing identifier stands in, provided at most two operators wait for it (more
pending reductions than the parser's recovery follows). -/
def rightOperand : Nat → Int → Nat → Reader (Option (Tree × Bool))
  | 0, _, _ => fail
  | n + 1, minPrec, depth => do
    match ← attempt (expressionAbove n minPrec depth) with
    | some r => pure (some r)
    | none =>
      if depth ≤ 2 && (← atExpressionEnd) then
        let m ← missing "identifier" true
        pure (some (m, false))
      else pure none
termination_by structural fuel _ _ => fuel

/-- The value assigned: an expression, or in C++ a braced list. -/
def assignedValue : Nat → Nat → Reader (Tree × Bool)
  | 0, _ => fail
  | n + 1, depth => do
    if (← isCpp) && (← atPunct "\x7b") then
      let l ← initializerList n
      pure (l, false)
    else expressionAbove n Words.assignmentPrecedence depth
termination_by structural fuel _ => fuel

/-- `c ? a : b` and `c ?: b` after the condition. A consequence that cannot be read is skipped
a token at a time into an error until one can. -/
def conditional : Nat → Int → Nat → Tree → Reader (Tree × Bool)
  | 0, _, _, _ => fail
  | n + 1, minPrec, depth, lhs => do
    let q ← expect "?"
    let (skipped, consequence) ← consequenceAfter n
    let colon ← expect ":"
    let (alt, stopped) ← expressionAbove n Words.conditionalPrecedence (depth + 1)
    let err := if skipped.isEmpty then [] else [errorNode skipped q.start]
    let cs := [lhs.withField (some "condition"), q] ++ err ++
      (consequence.map (·.withField (some "consequence"))).toList ++
      [colon, alt.withField (some "alternative")]
    let e := mkNode "conditional_expression" cs lhs.start
    if stopped then pure (e, true) else climb n minPrec depth e
termination_by structural fuel _ _ _ => fuel

/-- The consequence of a conditional, after any tokens that had to be skipped to read it. -/
def consequenceAfter : Nat → Reader (List Tree × Option Tree)
  | 0 => fail
  | n + 1 => do
    if (← atPunct ":") then return ([], none)
    let readOne : Reader Tree := do
      let c ← commaExpression n
      if (← atPunct ":") then pure c else fail
    match ← attempt readOne with
    | some c => pure ([], some c)
    | none =>
      let t ← peek
      if t.kind == .eof || (t.kind == .punct && (t.text == ";" || t.text == "\x7d")) then fail
      let leaf ← skipOne
      let (more, c) ← consequenceAfter n
      pure (leaf :: more, c)
termination_by structural fuel => fuel

/-- A prefix expression. `updates` says whether a trailing `++` or `--` may attach at this
level: not directly under a unary operator, which binds as tightly and groups to the left. -/
def unary : Nat → Bool → Reader Tree
  | 0, _ => fail
  | n + 1, updates => do
    let t ← peek
    let cpp ← isCpp
    let isOp := t.kind == .punct || t.kind == .word
    if (← atSignedNumber) then
      let lit ← signedNumber
      trailers n updates lit
    else if isOp && (Words.unaryOperators cpp).contains t.text then
      let op ← take t.text false (some "operator")
      let arg ← unary n false
      let e := mkNode "unary_expression" [op, arg.withField (some "argument")] t.start
      if updates then trailingUpdates n e else pure e
    else if t.kind == .punct && (t.text == "*" || t.text == "&") then
      let op ← take t.text false (some "operator")
      let arg ← unary n true
      pure (mkNode "pointer_expression" [op, arg.withField (some "argument")] t.start)
    else if t.kind == .punct && (t.text == "++" || t.text == "--") then
      let op ← take t.text false (some "operator")
      let arg ← unary n true
      pure (mkNode "update_expression" [op, arg.withField (some "argument")] t.start)
    else if t.kind == .word && t.text == "sizeof" then sizeofExpression n
    else if t.kind == .word && asmWords.contains t.text then gnuAsm n
    else if t.kind == .word && t.text == "_Generic" then genericExpression n
    else if cpp && t.kind == .word && t.text == "requires" then requiresExpression n
    else if t.kind == .word && alignofWords.contains t.text then
      let kw ← take t.text false
      let o ← expect "("
      let ty ← typeDescriptor n
      let c ← expect ")"
      pure (mkNode "alignof_expression" [kw, o, ty.withField (some "type"), c] t.start)
    else if t.kind == .word && t.text == "offsetof" then
      let kw ← take "offsetof" false
      let o ← expect "("
      let ty ← typeDescriptor n
      let comma ← expect ","
      let member ← take "field_identifier" true (some "member")
      let c ← expect ")"
      pure (mkNode "offsetof_expression" [kw, o, ty.withField (some "type"), comma, member, c]
        t.start)
    else if cpp && (t.text == "new" ||
        (t.text == "::" && (← atWordTextAt 1 "new"))) then newExpression n
    else if cpp && (t.text == "delete" ||
        (t.text == "::" && (← atWordTextAt 1 "delete"))) then deleteExpression n
    else if cpp && t.kind == .word && t.text == "co_await" then
      let kw ← take "co_await" false (some "operator")
      let arg ← unary n true
      pure (mkNode "co_await_expression" [kw, arg.withField (some "argument")] t.start)
    else if cpp && t.kind == .word && t.text == "operator" then
      -- the keyword cannot start an expression, so it is read as a plain name
      let kw ← advance
      trailers n updates (leafOf kw "identifier" true)
    else if t.kind == .punct && t.text == "(" then parenthesizedOrCast n updates
    else
      let p ← primary n
      trailers n updates p
termination_by structural fuel _ => fuel

/-- Trailing `++` and `--` after an expression. -/
def trailingUpdates : Nat → Tree → Reader Tree
  | 0, e => pure e
  | n + 1, e => do
    if (← atPunct "++") || (← atPunct "--") then
      let t ← peek
      let op ← take t.text false (some "operator")
      trailingUpdates n (mkNode "update_expression" [e.withField (some "argument"), op] e.start)
    else pure e
termination_by structural fuel _ => fuel

/-- Inline assembly: the keyword, its qualifiers, and in parentheses the assembly text and up
to four lists after colons (outputs, inputs, clobbered registers, goto labels). -/
def gnuAsm : Nat → Reader Tree
  | 0 => fail
  | n + 1 => do
    let t ← peek
    let kw ← take t.text false
    let quals ← asmQualifiers 8
    let o ← expect "("
    let u ← peek
    if u.kind != .string then fail
    let code ← stringLiterals n
    let lists ← asmLists n 0
    let c ← expect ")"
    pure (mkNode "gnu_asm_expression"
      ([kw] ++ quals ++ [o, code.withField (some "assembly_code")] ++ lists ++ [c]) t.start)
termination_by structural fuel => fuel

/-- The lists of an inline assembly expression from list `k` on (0 outputs, 1 inputs,
2 clobbers, 3 goto labels), each after a colon. -/
def asmLists : Nat → Nat → Reader (List Tree)
  | 0, _ => pure []
  | n + 1, k => do
    if k > 3 || !(← atPunct ":") then return []
    let colon ← take ":" false
    let items ← asmItems n k
    let (kind, field) := match k with
      | 0 => ("gnu_asm_output_operand_list", "output_operands")
      | 1 => ("gnu_asm_input_operand_list", "input_operands")
      | 2 => ("gnu_asm_clobber_list", "clobbers")
      | _ => ("gnu_asm_goto_list", "goto_labels")
    let rest ← asmLists n (k + 1)
    pure (mkNode kind (colon :: items) colon.start (some field) :: rest)
termination_by structural fuel _ => fuel

/-- The items of inline assembly list `k`, separated by commas: operands
(`[name] "constraint" (value)`), register strings or labels. -/
def asmItems : Nat → Nat → Reader (List Tree)
  | 0, _ => pure []
  | n + 1, k => do
    let t ← peek
    let item ← if k ≤ 1 then
        if !(t.kind == .string || (t.kind == .punct && t.text == "[")) then return []
        let sym ← if t.kind == .punct then
            let o ← take "[" false
            let id ← take "identifier" true (some "symbol")
            let c ← expect "]"
            pure [o, id, c]
          else pure []
        let con := (← stringPiece).withField (some "constraint")
        let o ← expect "("
        let v ← expression n
        let c ← expect ")"
        pure (mkNode (if k == 0 then "gnu_asm_output_operand" else "gnu_asm_input_operand")
          (sym ++ [con, o, v.withField (some "value"), c]) t.start (some "operand"))
      else if k == 2 then
        if t.kind != .string then return []
        pure ((← stringLiterals n).withField (some "register"))
      else
        if !(← atName) then return []
        take "identifier" true (some "label")
    if (← atPunct ",") then
      let c ← take "," false
      let rest ← asmItems n k
      pure (item :: c :: rest)
    else pure [item]
termination_by structural fuel _ => fuel

/-- `_Generic(value, type: result, ..., default: result)`. -/
def genericExpression : Nat → Reader Tree
  | 0 => fail
  | n + 1 => do
    let kw ← take "_Generic" false
    let o ← expect "("
    let v ← expression n
    let c ← expect ","
    let assocs ← genericAssociations n
    let close ← expect ")"
    pure (mkNode "generic_expression" ([kw, o, v, c] ++ assocs ++ [close]) kw.start)
termination_by structural fuel => fuel

/-- The associations of a generic selection, separated by commas: a type or `default`, a
colon and an expression. -/
def genericAssociations : Nat → Reader (List Tree)
  | 0 => fail
  | n + 1 => do
    let key ← if (← atWordText "default") then take "default" false else typeDescriptor n
    let colon ← expect ":"
    let v ← expression n
    if (← atPunct ",") then
      let c ← take "," false
      let rest ← genericAssociations n
      pure (key :: colon :: v :: c :: rest)
    else pure [key, colon, v]
termination_by structural fuel => fuel

/-- `sizeof x`, `sizeof(type)` and in C++ `sizeof...(pack)`. -/
def sizeofExpression : Nat → Reader Tree
  | 0 => fail
  | n + 1 => do
    let kw ← take "sizeof" false
    if (← isCpp) && (← atPunct "...") then
      let dots ← take "..." false
      let o ← expect "("
      let v ← nameLeaf "identifier" (some "value")
      let c ← expect ")"
      return mkNode "sizeof_expression" [kw, dots, o, v, c] kw.start
    let asType : Reader Tree := do
      let o ← expect "("
      let ty ← typeDescriptor n
      let c ← expect ")"
      if (← atPunct "\x7b") then fail
      pure (mkNode "sizeof_expression" [kw, o, ty.withField (some "type"), c] kw.start)
    match ← attempt asType with
    | some e => pure e
    | none =>
      let v ← unary n true
      pure (mkNode "sizeof_expression" [kw, v.withField (some "value")] kw.start)
termination_by structural fuel => fuel

/-- `new` in C++: placement, type, array sizes and initializer. -/
def newExpression : Nat → Reader Tree
  | 0 => fail
  | n + 1 => do
    let start ← here
    let scope ← accept "::"
    let kw ← take "new" false
    let placement ← if (← atPunct "(") then
        match ← attempt (argumentList n) with
        | some a =>
          -- `new (T)` is a parenthesized type, not a placement
          pure [a.withField (some "placement")]
        | none => pure []
      else pure []
    let ty ← typeSpecifier n
    let decl ← if (← atPunct "[") then pure [(← newDeclarator n).withField (some "declarator")]
      else pure []
    let args ← if (← atPunct "(") then pure [(← argumentList n).withField (some "arguments")]
      else if (← atPunct "\x7b") then pure [(← initializerList n).withField (some "arguments")]
      else pure []
    pure (mkNode "new_expression" (scope ++ [kw] ++ placement ++ [ty.withField (some "type")] ++
      decl ++ args) start)
termination_by structural fuel => fuel

/-- The array sizes of a `new` expression. -/
def newDeclarator : Nat → Reader Tree
  | 0 => fail
  | n + 1 => do
    let o ← expect "["
    let len ← expression n
    let c ← expect "]"
    let more ← if (← atPunct "[") then pure [← newDeclarator n] else pure []
    pure (mkNode "new_declarator" ([o, len.withField (some "length"), c] ++ more) o.start)
termination_by structural fuel => fuel

/-- `delete` and `delete[]` in C++. -/
def deleteExpression : Nat → Reader Tree
  | 0 => fail
  | n + 1 => do
    let start ← here
    let scope ← accept "::"
    let kw ← take "delete" false
    let brackets ← if (← atPunct "[") && (← atPunctAt 1 "]") then
        let o ← take "[" false
        let c ← take "]" false
        pure [o, c]
      else pure []
    let arg ← unary n true
    pure (mkNode "delete_expression" (scope ++ [kw] ++ brackets ++ [arg]) start)
termination_by structural fuel => fuel

/-- A parenthesized expression, a cast, or a compound literal. -/
def parenthesizedOrCast : Nat → Bool → Reader Tree
  | 0, _ => fail
  | n + 1, updates => do
    let start ← mark
    let castHead : Reader (Tree × Tree × Tree) := do
      let o ← expect "("
      let ty ← typeDescriptor n
      let c ← expect ")"
      pure (o, ty, c)
    if !castable (← read).tokens (← isCpp) start then return ← parenthesized n updates
    match ← attempt castHead with
    | some (o, ty, c) =>
      let t ← peek
      if t.kind == .punct && t.text == "\x7b" then
        let v ← initializerList n
        let e := mkNode "compound_literal_expression"
          [o, ty.withField (some "type"), c, v.withField (some "value")] o.start
        trailers n updates e
      else
        let bare := match ty.field? "type" with
          | some inner => isNameType inner && ty.namedChildren.length == 1
          | none => false
        -- a bare name in parentheses is a cast only before a token that starts an operand
        -- and cannot continue an expression
        let operandStart := t.kind == .word || t.kind == .number || t.kind == .string ||
          t.kind == .rawString || t.kind == .char ||
          (t.kind == .punct && (t.text == "!" || t.text == "~"))
        if bare && !operandStart then
          reset start
          parenthesized n updates
        else
          match ← attempt (unary n true) with
          | some v =>
            pure (mkNode "cast_expression"
              [o, ty.withField (some "type"), c, v.withField (some "value")] o.start)
          | none =>
            reset start
            parenthesized n updates
    | none => parenthesized n updates
termination_by structural fuel _ => fuel

/-- `( expression )`, or a statement expression `({ ... })`. -/
def parenthesized : Nat → Bool → Reader Tree
  | 0, _ => fail
  | n + 1, updates => do
    let o ← expect "("
    let cpp ← isCpp
    let isFold (op : String) : Bool :=
      (Words.binaryPrecedence cpp op).isSome || (Words.assignmentOperators cpp).contains op ||
        op == ","
    let foldBody : Reader (List Tree) := do
      if (← atPunct "...") then
        let dots ← take "..." false
        let (op, w) ← peekOperator
        if !isFold op then fail
        let opLeaf ← takeOperator op w (some "operator")
        let rhs ← unary n true
        let c ← expect ")"
        pure [dots, opLeaf, rhs.withField (some "right"), c]
      else
        let lhs ← unary n true
        let (op, w) ← peekOperator
        if !isFold op then fail
        let opLeaf ← takeOperator op w (some "operator")
        let dots ← expect "..."
        if (← atPunct ")") then
          let c ← take ")" false
          pure [lhs.withField (some "left"), opLeaf, dots, c]
        else
          let (op2, w2) ← peekOperator
          if op2 != op then fail
          let opLeaf2 ← takeOperator op2 w2 none
          let rhs ← unary n true
          let c ← expect ")"
          pure [lhs.withField (some "left"), opLeaf, dots, opLeaf2, rhs.withField (some "right"), c]
    if cpp && dotsBeforeClose (← read).tokens (← mark) then
      if let some parts ← attempt foldBody then
        return ← trailers n updates (mkNode "fold_expression" (o :: parts) o.start)
    let inner ← if (← atPunct "\x7b") then compoundStatement n else commaExpression n
    let c ← expect ")"
    trailers n updates (mkNode "parenthesized_expression" [o, inner, c] o.start)
termination_by structural fuel _ => fuel

/-- Calls, subscripts, member accesses and (when `updates`) trailing `++`/`--`. A stray
keyword before `(` or `[` is skipped into an error. -/
def trailers : Nat → Bool → Tree → Reader Tree
  | 0, _, _ => fail
  | n + 1, updates, e => do
    let t ← peek
    let cpp ← isCpp
    if t.kind == .word && Words.isReserved cpp t.text && !(statementWords cpp).contains t.text &&
        ((← atPunctAt 1 "(") || (← atPunctAt 1 "[")) &&
        !(cpp && (t.text == "and" || t.text == "or" || t.text == "xor" ||
          t.text == "bitand" || t.text == "bitor" || t.text == "not_eq")) then
      let kw ← skipOne
      match e with
      | .node k nm f s stop m cs =>
        let _ := stop
        trailers n updates (.node k nm f s kw.stop m (cs ++ [errorNode [kw] kw.start]))
    else if t.kind != .punct then pure e
    else if t.text == "(" then
      let args ← argumentList n
      trailers n updates (mkNode "call_expression"
        [e.withField (some "function"), args.withField (some "arguments")] e.start)
    else if t.text == "[" then
      let o ← expect "["
      if cpp then
        let items ← subscriptItems n
        let c ← expect "]"
        let list := mkNode "subscript_argument_list" ([o] ++ items ++ [c]) o.start (some "indices")
        trailers n updates (mkNode "subscript_expression"
          [e.withField (some "argument"), list] e.start)
      else
        let index ← commaExpression n
        let c ← expect "]"
        trailers n updates (mkNode "subscript_expression"
          [e.withField (some "argument"), o, index.withField (some "index"), c] e.start)
    else if t.text == "." || t.text == "->" || (cpp && (t.text == ".*" || t.text == "->*")) then
      let op ← take t.text false (some "operator")
      let member ← memberName n
      trailers n updates (mkNode "field_expression"
        [e.withField (some "argument"), op, member] e.start)
    else if updates && (t.text == "++" || t.text == "--") then
      let op ← take t.text false (some "operator")
      trailers n updates (mkNode "update_expression" [e.withField (some "argument"), op] e.start)
    else if cpp && t.text == "\x7b" && (e.kind == "identifier" || e.kind == "qualified_identifier" ||
        e.kind == "template_function" || e.kind == "primitive_type") then
      let v ← initializerList n
      trailers n updates (mkNode "compound_literal_expression"
        [e.retag (if e.kind == "identifier" then "type_identifier" else
          if e.kind == "template_function" then "template_type" else e.kind) (some "type"),
         v.withField (some "value")] e.start)
    else pure e
termination_by structural fuel _ _ => fuel

/-- The items of a C++ subscript: expressions or braced lists, separated by commas. -/
def subscriptItems : Nat → Reader (List Tree)
  | 0 => fail
  | n + 1 => do
    if (← atPunct "]") then return []
    let a ← if (← atPunct "\x7b") then initializerList n else expression n
    if (← atPunct ",") then
      let c ← expect ","
      let rest ← subscriptItems n
      pure (a :: c :: rest)
    else pure [a]
termination_by structural fuel => fuel

/-- The member after `.` or `->`: a field name, or in C++ a destructor name, a template
method or an operator name (which fills no field). -/
def memberName : Nat → Reader Tree
  | 0 => fail
  | n + 1 => do
    let t ← peek
    let cpp ← isCpp
    if cpp && t.kind == .punct && t.text == "~" then
      let d ← destructorName n
      pure (d.withField (some "field"))
    else if cpp && t.kind == .word && t.text == "operator" then
      -- after a member access an operator name only starts a template method, so without
      -- template arguments it is an error
      let name ← operatorName n
      if (← atPunct "<") then
        match ← attempt (templateArguments n) with
        | some args =>
          return mkNode "template_method" [name.withField (some "name"),
            args.withField (some "arguments")] t.start (some "field")
        | none => pure ()
      pure (errorNode [name] t.start)
    else if cpp && t.kind == .word && t.text == "template" then
      let kw ← take "template" false
      let inner ← memberName n
      pure (mkNode "dependent_name" [kw, inner] t.start (some "field"))
    else if t.kind == .word then
      let f ← take "field_identifier" true
      if cpp && (← atPunct "<") then
        let m ← mark
        match ← attempt (templateArguments n) with
        | some args =>
          if (← atPunct "(") then
            pure (mkNode "template_method" [f.withField (some "name"),
              args.withField (some "arguments")] t.start (some "field"))
          else
            reset m
            pure (f.withField (some "field"))
        | none => pure (f.withField (some "field"))
      else pure (f.withField (some "field"))
    else fail
termination_by structural fuel => fuel

/-- A call's arguments in parentheses. -/
def argumentList : Nat → Reader Tree
  | 0 => fail
  | n + 1 => do
    let o ← expect "("
    let items ← argumentItems n
    let c ← expect ")"
    pure (mkNode "argument_list" ([o] ++ items ++ [c]) o.start)
termination_by structural fuel => fuel

/-- Arguments separated by commas: expressions, in C++ also braced lists and pack expansions. -/
def argumentItems : Nat → Reader (List Tree)
  | 0 => fail
  | n + 1 => do
    if (← atPunct ")") then return []
    let cpp ← isCpp
    let a ← if cpp && (← atPunct "\x7b") then initializerList n else expression n
    let a ← if cpp && (← atPunct "...") then
        let dots ← take "..." false
        pure (mkNode "parameter_pack_expansion" [a.withField (some "pattern"), dots] a.start)
      else pure a
    if (← atPunct ",") then
      let c ← expect ","
      let rest ← argumentItems n
      pure (a :: c :: rest)
    else pure [a]
termination_by structural fuel => fuel

/-- A braced initializer list. -/
def initializerList : Nat → Reader Tree
  | 0 => fail
  | n + 1 => do
    let o ← expect "\x7b"
    let items ← initializerItems n
    let c ← expect "\x7d"
    pure (mkNode "initializer_list" ([o] ++ items ++ [c]) o.start)
termination_by structural fuel => fuel

/-- The items of an initializer list, separated by commas, with an optional trailing comma. -/
def initializerItems : Nat → Reader (List Tree)
  | 0 => fail
  | n + 1 => do
    if (← atPunct "\x7d") then return []
    let a ← initializerItem n
    if (← atPunct ",") then
      let c ← expect ","
      let rest ← initializerItems n
      pure (a :: c :: rest)
    else pure [a]
termination_by structural fuel => fuel

/-- One initializer: designated (`.x = 1`, `[2] = 3`, `x: 1`), a nested list or an
expression. -/
def initializerItem : Nat → Reader Tree
  | 0 => fail
  | n + 1 => do
    let t ← peek
    if (t.kind == .punct && (t.text == "." || t.text == "[")) then
      let ds ← designators n
      let eq ← expect "="
      let v ← if (← atPunct "\x7b") then initializerList n else expression n
      pure (mkNode "initializer_pair" (ds ++ [eq, v.withField (some "value")]) t.start)
    else if t.kind == .word && (← atPunctAt 1 ":") && !(← atPunctAt 1 "::") then
      let d ← take "field_identifier" true (some "designator")
      let colon ← expect ":"
      let v ← if (← atPunct "\x7b") then initializerList n else expression n
      pure (mkNode "initializer_pair" [d, colon, v.withField (some "value")] t.start)
    else if t.kind == .punct && t.text == "\x7b" then initializerList n
    else expression n
termination_by structural fuel => fuel

/-- Designators before `=` in an initializer pair. -/
def designators : Nat → Reader (List Tree)
  | 0 => fail
  | n + 1 => do
    let t ← peek
    if t.kind == .punct && t.text == "." then
      let dot ← take "." false
      let f ← take "field_identifier" true
      let d := mkNode "field_designator" [dot, f] t.start (some "designator")
      let rest ← designators n
      pure (d :: rest)
    else if t.kind == .punct && t.text == "[" then
      let o ← take "[" false
      let i ← expression n
      let c ← expect "]"
      let d := mkNode "subscript_designator" [o, i, c] t.start (some "designator")
      let rest ← designators n
      pure (d :: rest)
    else pure []
termination_by structural fuel => fuel

/-- A primary expression: a literal, a name, a lambda. -/
def primary : Nat → Reader Tree
  | 0 => fail
  | n + 1 => do
    let t ← peek
    let cpp ← isCpp
    let suffixed (lit : Tree) : Reader Tree := do
      let u ← peek
      if cpp && u.kind == .word && u.start.byte == lit.stop then
        let sfx ← take "literal_suffix"
        pure (mkNode "user_defined_literal" [lit, sfx] lit.start)
      else pure lit
    match t.kind with
    | .number => take "number_literal"
    | .char => suffixed (← take "char_literal")
    | .string | .rawString => suffixed (← stringLiterals n)
    | .word =>
      if t.text == "true" || t.text == "TRUE" then take "true"
      else if t.text == "false" || t.text == "FALSE" then take "false"
      else if t.text == "NULL" || t.text == "nullptr" then take "null"
      else if cpp && t.text == "this" then take "this"
      else if cpp && Words.primitiveTypes.contains t.text &&
          ((← atPunctAt 1 "(") || (← atPunctAt 1 "\x7b")) then take "primitive_type"
      else if isNameToken cpp t then
        if cpp then scopedName n else take "identifier"
      else if ((Words.qualifierWords cpp).contains t.text ||
          (Words.storageWords cpp).contains t.text) &&
          ((← atPunctAt 1 ",") || (← atPunctAt 1 ")")) then
        -- where only an operand can stand, a qualifier or storage class word is a name, as in
        -- the attribute (noreturn) or (const)
        take "identifier"
      else fail
    | .punct =>
      if cpp && t.text == "[" then lambda n
      else if cpp && t.text == "::" then scopedName n
      else fail
    | _ => fail
termination_by structural fuel => fuel

/-- String literals; adjacent ones (with macro names between them) make one concatenated
string. -/
def stringLiterals : Nat → Reader Tree
  | 0 => fail
  | n + 1 => do
    let first ← stringPiece
    let rest ← stringsAfter n
    if rest.isEmpty then pure first
    else pure (mkNode "concatenated_string" (first :: rest) first.start)

/-- Further pieces of a concatenated string. -/
def stringsAfter : Nat → Reader (List Tree)
  | 0 => pure []
  | n + 1 => do
    let t ← peek
    let u ← peekAt 1
    if t.kind == .string || t.kind == .rawString then
      let p ← stringPiece
      let rest ← stringsAfter n
      pure (p :: rest)
    else if isNameToken (← isCpp) t && (u.kind == .string || u.kind == .rawString) then
      let id ← take "identifier"
      let rest ← stringsAfter n
      pure (id :: rest)
    else pure []
termination_by structural fuel => fuel

/-- A name in C++ expressions: an identifier, possibly scoped (`a::b`), a template function
(`f<int>`), or after a scope a destructor or operator name. -/
def scopedName : Nat → Reader Tree
  | 0 => fail
  | n + 1 => do
    let t ← peek
    if t.kind == .punct && t.text == "::" then
      let sep ← take "::" false
      let rest ← qualifiedRest n
      return mkNode "qualified_identifier" [sep, rest.withField (some "name")] t.start
    let id ← nameLeaf "identifier"
    if (← atPunct "::") then
      let sep ← take "::" false
      let rest ← qualifiedRest n
      pure (mkNode "qualified_identifier"
        [id.retag "namespace_identifier" (some "scope"), sep, rest.withField (some "name")] t.start)
    else if (← atPunct "<") then
      let m ← mark
      match ← attempt (templateArguments n) with
      | some args =>
        if (← atPunct "::") then
          let sep ← take "::" false
          let rest ← qualifiedRest n
          let scope := mkNode "template_type" [id.retag "type_identifier" (some "name"),
            args.withField (some "arguments")] t.start (some "scope")
          pure (mkNode "qualified_identifier" [scope, sep, rest.withField (some "name")] t.start)
        else
          let u ← peek
          if u.kind == .eof || (u.kind == .punct &&
              ["(", "\x7b", ")", ";", ",", "]", "\x7d"].contains u.text) then
            pure (mkNode "template_function" [id.withField (some "name"),
              args.withField (some "arguments")] t.start)
          else
            reset m
            pure id
      | none => pure id
    else pure id
termination_by structural fuel => fuel

/-- What follows `::` in a qualified name. -/
def qualifiedRest : Nat → Reader Tree
  | 0 => fail
  | n + 1 => do
    let t ← peek
    if t.kind == .punct && t.text == "~" then destructorName n
    else if t.kind == .word && t.text == "operator" then operatorName n
    else if t.kind == .word && t.text == "template" then
      let kw ← take "template" false
      let inner ← scopedName n
      pure (mkNode "dependent_name" [kw, inner] t.start)
    else scopedName n
termination_by structural fuel => fuel

/-- `~Name`. -/
def destructorName : Nat → Reader Tree
  | 0 => fail
  | n + 1 => do
    let tilde ← expect "~"
    let id ← if (← atPunct "<") then fail else nameLeaf "identifier"
    let _ := n
    pure (mkNode "destructor_name" [tilde, id] tilde.start)

/-- `operator` and the operator it names: a symbol, `()`, `[]`, `new`, `delete`, `""_x`. -/
def operatorName : Nat → Reader Tree
  | 0 => fail
  | n + 1 => do
    let kw ← take "operator" false
    let t ← peek
    let _ := n
    let rest ← if t.kind == .punct && t.text == "(" && (← atPunctAt 1 ")") then
        let o ← take "(" false
        let c ← take ")" false
        pure [o, c]
      else if t.kind == .punct && t.text == "[" && (← atPunctAt 1 "]") then
        let o ← take "[" false
        let c ← take "]" false
        pure [o, c]
      else if t.kind == .word && (t.text == "new" || t.text == "delete" || t.text == "co_await") then
        let w ← take t.text false
        if (← atPunct "[") && (← atPunctAt 1 "]") then
          let o ← take "[" false
          let c ← take "]" false
          pure [w, o, c]
        else pure [w]
      else if t.kind == .string then
        let s ← take "string_literal"
        let suffix ← if (← atKind .word) then pure [← take "identifier"] else pure []
        pure (s :: suffix)
      else if t.kind == .punct && t.text != ";" && t.text != "\x7b" then
        let (op, width) ← peekOperator
        pure [← takeOperator op width none]
      else if t.kind == .word && ["and", "or", "not", "xor", "bitand", "bitor", "compl",
          "and_eq", "or_eq", "xor_eq", "not_eq"].contains t.text then
        pure [← take t.text false]
      else fail
    pure (mkNode "operator_name" (kw :: rest) kw.start)

/-- Template arguments in angle brackets: types where a type fits, else expressions that stop
before a shift or comparison. -/
def templateArguments : Nat → Reader Tree
  | 0 => fail
  | n + 1 => do
    if !anglesClose (← read).tokens (← mark) then fail
    let o ← expect "<"
    let items ← templateArgumentItems n
    let c ← expect ">"
    pure (mkNode "template_argument_list" ([o] ++ items ++ [c]) o.start)
termination_by structural fuel => fuel

/-- Template arguments separated by commas. -/
def templateArgumentItems : Nat → Reader (List Tree)
  | 0 => fail
  | n + 1 => do
    if (← atPunct ">") then return []
    let asType : Reader Tree := do
      let ty ← typeDescriptor n
      if (← atPunct ",") || (← atPunct ">") || (← atPunct "...") then pure ty else fail
    let a ← match ← attempt asType with
      | some ty => pure ty
      | none => do
        let (e, _) ← expressionAbove n 10 0
        pure e
    let a ← if (← atPunct "...") then
        let dots ← take "..." false
        pure (mkNode "parameter_pack_expansion" [a.withField (some "pattern"), dots] a.start)
      else pure a
    if (← atPunct ",") then
      let c ← expect ","
      let rest ← templateArgumentItems n
      pure (a :: c :: rest)
    else pure [a]
termination_by structural fuel => fuel

/-- A lambda: captures, optional parameters and specifiers, and a body. -/
def lambda : Nat → Reader Tree
  | 0 => fail
  | n + 1 => do
    let o ← expect "["
    let caps ← lambdaCaptures n
    let c ← expect "]"
    let captures := mkNode "lambda_capture_specifier" ([o] ++ caps ++ [c]) o.start
      (some "captures")
    let tparams ← if (← atPunct "<") then pure [← templateParameterList n] else pure []
    let decl ← if (← atPunct "(") then
        let ps ← parameterList n
        let post ← functionTrailer n
        pure [mkNode "abstract_function_declarator" (ps :: post) ps.start (some "declarator")]
      else pure []
    let body ← compoundStatement n
    pure (mkNode "lambda_expression"
      ([captures] ++ tparams ++ decl ++ [body.withField (some "body")]) o.start)
termination_by structural fuel => fuel

/-- The captures of a lambda. -/
def lambdaCaptures : Nat → Reader (List Tree)
  | 0 => fail
  | n + 1 => do
    if (← atPunct "]") then return []
    let t ← peek
    let a ← if t.kind == .punct && (t.text == "=" || t.text == "&") &&
        ((← atPunctAt 1 ",") || (← atPunctAt 1 "]")) then
        let d ← take t.text false
        pure (mkNode "lambda_default_capture" [d] t.start)
      else if t.kind == .punct && t.text == "*" && (← atWordTextAt 1 "this") then
        let s ← take "*" false
        let th ← take "this"
        pure (mkNode "pointer_expression" [s.withField (some "operator"),
          th.withField (some "argument")] t.start)
      else expression n
    if (← atPunct ",") then
      let c ← expect ","
      let rest ← lambdaCaptures n
      pure (a :: c :: rest)
    else pure [a]
termination_by structural fuel => fuel

-- Types

/-- A type as written in a cast, `sizeof` or a template argument. -/
def typeDescriptor : Nat → Reader Tree
  | 0 => fail
  | n + 1 => do
    let start ← here
    let pre ← typeQualifiers n
    let ty ← typeSpecifier n
    let post ← typeQualifiers n
    let decl ← attempt (abstractDeclarator n)
    pure (mkNode "type_descriptor" (pre ++ [ty.withField (some "type")] ++ post ++
      (decl.map (·.withField (some "declarator"))).toList) start)
termination_by structural fuel => fuel

/-- Type qualifiers in a row. -/
def typeQualifiers : Nat → Reader (List Tree)
  | 0 => pure []
  | n + 1 => do
    match ← attempt (typeQualifier n) with
    | some q =>
      let rest ← typeQualifiers n
      pure (q :: rest)
    | none => pure []
termination_by structural fuel => fuel

/-- One type qualifier: a qualifier word or an alignment. -/
def typeQualifier : Nat → Reader Tree
  | 0 => fail
  | n + 1 => do
    let t ← peek
    let cpp ← isCpp
    if t.kind != .word then fail
    if (Words.qualifierWords cpp).contains t.text then
      let w ← take t.text false
      pure (mkNode "type_qualifier" [w] t.start)
    else if t.text == "alignas" || t.text == "_Alignas" then
      let w ← take t.text false
      let o ← expect "("
      let arg ← match ← attempt (do
          let ty ← typeDescriptor n
          if (← atPunct ")") then pure ty else fail) with
        | some ty => pure ty
        | none => expression n
      let c ← expect ")"
      pure (mkNode "type_qualifier" [mkNode "alignas_qualifier" [w, o, arg, c] t.start] t.start)
    else fail
termination_by structural fuel => fuel

/-- Declaration modifiers in a row. -/
def modifiers : Nat → Reader (List Tree)
  | 0 => pure []
  | n + 1 => do
    match ← attempt (modifier n) with
    | some m =>
      let rest ← modifiers n
      pure (m :: rest)
    | none => pure []
termination_by structural fuel => fuel

/-- A declaration modifier: a storage class, a qualifier, an attribute, or in C++ `virtual`
and `explicit`. -/
def modifier : Nat → Reader Tree
  | 0 => fail
  | n + 1 => do
    let t ← peek
    let cpp ← isCpp
    if t.kind == .word && (Words.storageWords cpp).contains t.text then
      let w ← take t.text false
      pure (mkNode "storage_class_specifier" [w] t.start)
    else if t.kind == .word && attributeWords.contains t.text then attributeSpecifier n
    else if t.kind == .word && t.text == "__declspec" then
      let w ← take t.text false
      let args ← argumentList n
      pure (mkNode "ms_declspec_modifier" [w, args] t.start)
    else if cpp && t.kind == .word && t.text == "virtual" then take "virtual" false
    else if cpp && t.kind == .word && t.text == "explicit" then
      let w ← take "explicit" false
      let cond ← if (← atPunct "(") then
          let o ← take "(" false
          let e ← expression n
          let c ← expect ")"
          pure [o, e, c]
        else pure []
      pure (mkNode "explicit_function_specifier" (w :: cond) t.start)
    else if t.kind == .punct && t.text == "[" && (← atPunctAt 1 "[") then attributeDeclaration n
    else typeQualifier n
termination_by structural fuel => fuel

/-- `__attribute__((...))`. -/
def attributeSpecifier : Nat → Reader Tree
  | 0 => fail
  | n + 1 => do
    let t ← peek
    let w ← take t.text false
    let o ← expect "("
    let args ← argumentList n
    let c ← expect ")"
    pure (mkNode "attribute_specifier" [w, o, args, c] t.start)
termination_by structural fuel => fuel

/-- `[[...]]`. -/
def attributeDeclaration : Nat → Reader Tree
  | 0 => fail
  | n + 1 => do
    let a ← peek
    let _ ← expect "["
    let b ← peek
    let _ ← expect "["
    let opening : Tree := .node "[[" false none a.start b.stop false []
    let attrs ← attributeItems n
    let c ← peek
    let _ ← expect "]"
    let d ← peek
    let _ ← expect "]"
    let closing : Tree := .node "]]" false none c.start d.stop false []
    pure (mkNode "attribute_declaration" ([opening] ++ attrs ++ [closing]) a.start)
termination_by structural fuel => fuel

/-- Attributes inside `[[...]]`, separated by commas. -/
def attributeItems : Nat → Reader (List Tree)
  | 0 => fail
  | n + 1 => do
    if (← atPunct "]") then return []
    let t ← peek
    if t.kind != .word then fail
    let first ← take "identifier"
    let name ← if (← atPunct "::") then
        let sep ← take "::" false
        let nm ← take "identifier" true (some "name")
        pure [first.withField (some "prefix"), sep, nm]
      else pure [first.withField (some "name")]
    let args ← if (← atPunct "(") then pure [← argumentList n] else pure []
    let attr := mkNode "attribute" (name ++ args) t.start
    if (← atPunct ",") then
      let c ← take "," false
      let rest ← attributeItems n
      pure (attr :: c :: rest)
    else pure [attr]
termination_by structural fuel => fuel

/-- Attribute declarations in a row. -/
def attributeDecls : Nat → Reader (List Tree)
  | 0 => pure []
  | n + 1 => do
    if (← atPunct "[") && (← atPunctAt 1 "[") then
      let a ← attributeDeclaration n
      let rest ← attributeDecls n
      pure (a :: rest)
    else pure []
termination_by structural fuel => fuel

/-- Attributes that may follow `struct`, `union`, `class` or `enum`. -/
def recordAttributes : Nat → Reader (List Tree)
  | 0 => pure []
  | n + 1 => do
    let t ← peek
    if t.kind == .word && attributeWords.contains t.text then
      let a ← attributeSpecifier n
      let rest ← recordAttributes n
      pure (a :: rest)
    else if t.kind == .word && t.text == "__declspec" then
      let w ← take t.text false
      let args ← argumentList n
      let rest ← recordAttributes n
      pure (mkNode "ms_declspec_modifier" [w, args] t.start :: rest)
    else if t.kind == .word && (t.text == "alignas" || t.text == "_Alignas") then
      let q ← typeQualifier n
      let rest ← recordAttributes n
      pure (q :: rest)
    else if t.kind == .punct && t.text == "[" && (← atPunctAt 1 "[") then
      let a ← attributeDeclaration n
      let rest ← recordAttributes n
      pure (a :: rest)
    else pure []
termination_by structural fuel => fuel

/-- A type specifier: a record, an enum, a built-in, sized or named type. -/
def typeSpecifier : Nat → Reader Tree
  | 0 => fail
  | n + 1 => do
    let t ← peek
    let cpp ← isCpp
    if t.kind == .word then
      if t.text == "struct" then recordSpecifier n "struct_specifier"
      else if t.text == "union" then recordSpecifier n "union_specifier"
      else if cpp && t.text == "class" then recordSpecifier n "class_specifier"
      else if t.text == "enum" then enumSpecifier n
      else if Words.sizedWords.contains t.text then sizedType n
      else if Words.primitiveTypes.contains t.text then take "primitive_type"
      else if cpp && t.text == "auto" then
        let w ← take "auto" false
        pure (mkNode "placeholder_type_specifier" [w] t.start)
      else if cpp && t.text == "decltype" then
        let w ← take "decltype" false
        let o ← expect "("
        let e ← if (← atWordText "auto") then take "auto" false else expression n
        let c ← expect ")"
        pure (mkNode "decltype" [w, o, e, c] t.start)
      else if cpp && t.text == "typename" then
        let w ← take "typename" false
        let ty ← typeName n
        pure (mkNode "dependent_type" [w, ty] t.start)
      else typeName n
    else if cpp && t.kind == .punct && t.text == "::" then typeName n
    else fail
termination_by structural fuel => fuel

/-- `signed`, `unsigned`, `long`, `short` in a row, with the built-in or named type they
modify. A name is taken as the type only when a declarator follows it. -/
def sizedType : Nat → Reader Tree
  | 0 => fail
  | n + 1 => do
    let start ← here
    let words ← sizedRun n
    if words.isEmpty then fail
    let t ← peek
    let u ← peekAt 1
    let cpp ← isCpp
    let ty ← if t.kind == .word && Words.primitiveTypes.contains t.text then
        pure [← take "primitive_type" true (some "type")]
      else if isNameToken cpp t && (u.kind == .word ||
          (u.kind == .punct && (u.text == "*" || u.text == "&"))) then
        pure [← take "type_identifier" true (some "type")]
      else pure []
    let more ← sizedRun n
    pure (mkNode "sized_type_specifier" (words ++ ty ++ more) start)

/-- Size words in a row. -/
def sizedRun : Nat → Reader (List Tree)
  | 0 => pure []
  | n + 1 => do
    let t ← peek
    if t.kind == .word && Words.sizedWords.contains t.text then
      let w ← take t.text false
      let rest ← sizedRun n
      pure (w :: rest)
    else pure []
termination_by structural fuel => fuel

/-- A named type: a type identifier, in C++ possibly scoped (`std::string`) or with template
arguments (`vector<int>`). -/
def typeName : Nat → Reader Tree
  | 0 => fail
  | n + 1 => do
    let cpp ← isCpp
    let t ← peek
    if !cpp then nameLeaf "type_identifier"
    else if t.kind == .punct && t.text == "::" then
      let sep ← take "::" false
      let rest ← typeName n
      pure (mkNode "qualified_identifier" [sep, rest.withField (some "name")] t.start)
    else
      let id ← nameLeaf "type_identifier"
      let base ← if (← atPunct "<") then
          match ← attempt (templateArguments n) with
          | some args => pure (mkNode "template_type"
              [id.withField (some "name"), args.withField (some "arguments")] t.start)
          | none => pure id
        else pure id
      let builtinNext := (← peekAt 1).kind == .word &&
        Words.primitiveTypes.contains (← peekAt 1).text
      if (← atPunct "::") && ((← atNameAt 1) || builtinNext || (← atWordTextAt 1 "template")) then
        let sep ← take "::" false
        let rest ← if (← atWordText "template") then
            let kw ← take "template" false
            let inner ← typeName n
            pure (mkNode "dependent_name" [kw, inner] kw.start)
          else typeName n
        let scope := if base.kind == "type_identifier" then
            base.retag "namespace_identifier" (some "scope")
          else base.withField (some "scope")
        pure (mkNode "qualified_identifier" [scope, sep, rest.withField (some "name")] t.start)
      else pure base
termination_by structural fuel => fuel

/-- `struct`, `union` or `class`, with a name, bases (C++) and a body, at least one of a
name and a body. -/
def recordSpecifier : Nat → String → Reader Tree
  | 0, _ => fail
  | n + 1, kind => do
    let t ← peek
    let cpp ← isCpp
    let kw ← take t.text false
    let attrs ← recordAttributes n
    let nm ← if (← atName) then pure [(← typeName n).withField (some "name")] else pure []
    let fin ← if cpp && (← atWordText "final") then
        let f ← peek
        pure [mkNode "virtual_specifier" [← take "final" false] f.start]
      else pure []
    let bases ← if cpp && (← atPunct ":") then pure [← baseClause n] else pure []
    let body ← if (← atPunct "\x7b") then pure [(← fieldList n).withField (some "body")]
      else pure []
    if body.isEmpty && (nm.isEmpty || !bases.isEmpty) then fail
    pure (mkNode kind ([kw] ++ attrs ++ nm ++ fin ++ bases ++ body) t.start)
termination_by structural fuel _ => fuel

/-- The bases of a class after `:`. -/
def baseClause : Nat → Reader Tree
  | 0 => fail
  | n + 1 => do
    let colon ← expect ":"
    let bases ← baseItems n
    pure (mkNode "base_class_clause" (colon :: bases) colon.start)
termination_by structural fuel => fuel

/-- Bases separated by commas. -/
def baseItems : Nat → Reader (List Tree)
  | 0 => fail
  | n + 1 => do
    let b ← baseItem n
    if (← atPunct ",") then
      let c ← take "," false
      let rest ← baseItems n
      pure (b ++ c :: rest)
    else pure b
termination_by structural fuel => fuel

/-- One base: attributes, an access specifier and `virtual` in either order, and a class
name. A base that cannot be read is skipped into an error up to the next `,` or `{`. -/
def baseItem : Nat → Reader (List Tree)
  | 0 => fail
  | n + 1 => do
    let readOne : Reader (List Tree) := do
      let attrs ← attributeDecls n
      let specs ← baseSpecifiers 2
      let ty ← typeName n
      let dots ← accept "..."
      if (← atPunct ",") || (← atPunct "\x7b") then pure (attrs ++ specs ++ [ty] ++ dots) else fail
    match ← attempt readOne with
    | some cs => pure cs
    | none =>
      let start ← here
      let skipped ← skipUntil (fun t => t.kind == .punct && (t.text == "," || t.text == "\x7b"))
        (← read).tokens.size 0
      if skipped.isEmpty then fail
      pure [errorNode skipped start]
termination_by structural fuel => fuel

/-- A class body. -/
def fieldList : Nat → Reader Tree
  | 0 => fail
  | n + 1 => do
    let o ← expect "\x7b"
    let body ← items n .members true []
    let c ← closeBrace
    pure (mkNode "field_declaration_list" ([o] ++ body ++ [c]) o.start)
termination_by structural fuel => fuel

/-- `enum`, with a name, an underlying type and enumerators, at least one of a name and a
body. -/
def enumSpecifier : Nat → Reader Tree
  | 0 => fail
  | n + 1 => do
    let t ← peek
    let kw ← take "enum" false
    let enumKey ← if (← isCpp) && ((← atWordText "class") || (← atWordText "struct")) then
        pure [← take (← peek).text false]
      else pure []
    let attrs ← recordAttributes n
    let nm ← if (← atName) then pure [(← typeName n).withField (some "name")] else pure []
    let base ← if (← atPunct ":") then
        let colon ← take ":" false
        let ty ← typeSpecifier n
        pure [colon, ty.withField (some "underlying_type")]
      else pure []
    let body ← if (← atPunct "\x7b") then pure [(← enumeratorList n).withField (some "body")]
      else pure []
    if nm.isEmpty && body.isEmpty then fail
    pure (mkNode "enum_specifier" ([kw] ++ enumKey ++ attrs ++ nm ++ base ++ body) t.start)
termination_by structural fuel => fuel

/-- The enumerators of an enum in braces. -/
def enumeratorList : Nat → Reader Tree
  | 0 => fail
  | n + 1 => do
    let o ← expect "\x7b"
    let es ← enumerators n
    let c ← expect "\x7d"
    pure (mkNode "enumerator_list" ([o] ++ es ++ [c]) o.start)
termination_by structural fuel => fuel

/-- Enumerators separated by commas, with an optional trailing comma. -/
def enumerators : Nat → Reader (List Tree)
  | 0 => fail
  | n + 1 => do
    if (← atPunct "\x7d") then return []
    let t ← peek
    if t.kind != .word then fail
    let nm ← take "identifier" true (some "name")
    let v ← if (← atPunct "=") then
        let eq ← take "=" false
        let e ← expression n
        pure [eq, e.withField (some "value")]
      else pure []
    let e := mkNode "enumerator" (nm :: v) t.start
    if (← atPunct ",") then
      let c ← take "," false
      let rest ← enumerators n
      pure (e :: c :: rest)
    else pure [e]
termination_by structural fuel => fuel

-- Declarators

/-- A declarator: pointers and references, a name or a parenthesized declarator, and function
and array suffixes. -/
def declarator : Nat → Declares → Reader Tree
  | 0, _ => fail
  | n + 1, d => do
    let t ← peek
    let cpp ← isCpp
    if t.kind == .punct && t.text == "*" then
      let star ← take "*" false
      let quals ← pointerModifiers n
      let inner ← declarator n d
      pure (mkNode "pointer_declarator"
        ([star] ++ quals ++ [inner.withField (some "declarator")]) t.start)
    else if cpp && t.kind == .punct && (t.text == "&" || t.text == "&&") then
      let op ← take t.text false
      let inner ← declarator n d
      pure (mkNode "reference_declarator" [op, inner] t.start)
    else if cpp && t.kind == .punct && t.text == "..." then
      let dots ← take "..." false
      let inner ← attempt (declarator n d)
      pure (mkNode "variadic_declarator" (dots :: inner.toList) t.start)
    else
      let base ← directDeclarator n d
      declaratorSuffixes n d base
termination_by structural fuel _ => fuel

/-- Qualifiers and attributes after a `*`. -/
def pointerModifiers : Nat → Reader (List Tree)
  | 0 => pure []
  | n + 1 => do
    let t ← peek
    if t.kind == .word && attributeWords.contains t.text then
      let a ← attributeSpecifier n
      let rest ← pointerModifiers n
      pure (a :: rest)
    else if t.kind == .word && ["__restrict", "__uptr", "__sptr", "_unaligned",
        "__unaligned"].contains t.text then
      let w ← take t.text false
      let rest ← pointerModifiers n
      pure (mkNode "ms_pointer_modifier" [w] t.start :: rest)
    else
      match ← attempt (typeQualifier n) with
      | some q =>
        let rest ← pointerModifiers n
        pure (q :: rest)
      | none => pure []
termination_by structural fuel => fuel

/-- The innermost part of a declarator: a name or a parenthesized declarator. -/
def directDeclarator : Nat → Declares → Reader Tree
  | 0, _ => fail
  | n + 1, d => do
    let t ← peek
    let cpp ← isCpp
    if t.kind == .punct && t.text == "(" then
      let o ← take "(" false
      let inner ← declarator n d
      let c ← expect ")"
      pure (mkNode "parenthesized_declarator" [o, inner, c] t.start)
    else if cpp then declaratorName n d
    else if isNameToken false t then take d.nameKind
    else fail
termination_by structural fuel _ => fuel

/-- A declared name in C++: an identifier, a scoped name (`A::f`, `A<T>::g`, `A::~A`), a
destructor or operator name, a template function name, or a structured binding. -/
def declaratorName : Nat → Declares → Reader Tree
  | 0, _ => fail
  | n + 1, d => do
    let t ← peek
    if t.kind == .punct && t.text == "~" then destructorName n
    else if t.kind == .word && t.text == "operator" then operatorName n
    else if t.kind == .punct && t.text == "[" && d == .object then structuredBinding n
    else if t.kind == .punct && t.text == "::" then
      let sep ← take "::" false
      let rest ← declaratorName n .object
      pure (mkNode "qualified_identifier" [sep, rest.withField (some "name")] t.start)
    else if isNameToken true t || (← afterScopeBuiltin) then
      let qualifiedForm : Reader Tree := do
        let id ← take "namespace_identifier" true (some "scope")
        let scope ← if (← atPunct "<") then
            let args ← templateArguments n
            pure (mkNode "template_type" [id.retag "type_identifier" (some "name"),
              args.withField (some "arguments")] t.start (some "scope"))
          else pure id
        let sep ← expect "::"
        let rest ← declaratorName n .object
        pure (mkNode "qualified_identifier" [scope, sep, rest.withField (some "name")] t.start)
      if (← atPunctAt 1 "::") || (← atPunctAt 1 "<") then
        match ← attempt qualifiedForm with
        | some q => pure q
        | none =>
          let id ← take d.nameKind
          if d == .object && (← atPunct "<") then
            match ← attempt (templateArguments n) with
            | some args => pure (mkNode "template_function" [id.withField (some "name"),
                args.withField (some "arguments")] t.start)
            | none => pure id
          else pure id
      else take d.nameKind
    else fail
termination_by structural fuel _ => fuel

/-- `[a, b]` as a declarator. -/
def structuredBinding : Nat → Reader Tree
  | 0 => fail
  | n + 1 => do
    let o ← expect "["
    let names ← bindingNames n
    let c ← expect "]"
    pure (mkNode "structured_binding_declarator" ([o] ++ names ++ [c]) o.start)

/-- Names separated by commas. -/
def bindingNames : Nat → Reader (List Tree)
  | 0 => fail
  | n + 1 => do
    let id ← nameLeaf "identifier"
    if (← atPunct ",") then
      let c ← take "," false
      let rest ← bindingNames n
      pure (id :: c :: rest)
    else pure [id]
termination_by structural fuel => fuel

/-- Function and array suffixes after a declarator. -/
def declaratorSuffixes : Nat → Declares → Tree → Reader Tree
  | 0, _, _ => fail
  | n + 1, d, base => do
    let t ← peek
    if t.kind == .punct && t.text == "(" then
      match ← attempt (parameterList n) with
      | some ps =>
        let post ← functionTrailer n
        declaratorSuffixes n d (mkNode "function_declarator"
          ([base.withField (some "declarator"), ps] ++ post) base.start)
      | none => pure base
    else if t.kind == .punct && t.text == "[" && !(← atPunctAt 1 "[") then
      let o ← take "[" false
      let quals ← arrayQualifiers n
      let size ← if (← atPunct "]") then pure []
        else pure [(← expression n).withField (some "size")]
      let c ← expect "]"
      declaratorSuffixes n d (mkNode "array_declarator"
        ([base.withField (some "declarator"), o] ++ quals ++ size ++ [c]) base.start)
    else if t.kind == .punct && t.text == "[" then
      let attrs ← attributeDecls n
      declaratorSuffixes n d (mkNode "attributed_declarator" (base :: attrs) base.start)
    else pure base
termination_by structural fuel _ _ => fuel

/-- Qualifiers and `static` inside array brackets. -/
def arrayQualifiers : Nat → Reader (List Tree)
  | 0 => pure []
  | n + 1 => do
    if (← atWordText "static") then
      let w ← take "static" false
      let rest ← arrayQualifiers n
      pure (w :: rest)
    else
      match ← attempt (typeQualifier n) with
      | some q =>
        let rest ← arrayQualifiers n
        pure (q :: rest)
      | none => pure []
termination_by structural fuel => fuel

/-- What may follow a function's parameters: attributes, in C a macro name before the end of
the declaration, in C++ qualifiers, a reference qualifier, `noexcept`, `throw(...)`, a
trailing return type and `override` or `final`. -/
def functionTrailer : Nat → Reader (List Tree)
  | 0 => pure []
  | n + 1 => do
    let t ← peek
    let cpp ← isCpp
    if t.kind == .word && attributeWords.contains t.text then
      let a ← attributeSpecifier n
      let rest ← functionTrailer n
      pure (a :: rest)
    else if !cpp then
      if isNameToken false t &&
          ((← atPunctAt 1 ";") || (← atPunctAt 1 "\x7b") || (← atPunctAt 1 ",")) then
        let id ← take "identifier"
        let rest ← functionTrailer n
        pure (id :: rest)
      else pure []
    else if t.kind == .word && (Words.qualifierWords true).contains t.text then
      let q ← typeQualifier n
      let rest ← functionTrailer n
      pure (q :: rest)
    else if t.kind == .punct && (t.text == "&" || t.text == "&&") &&
        ((← atPunctAt 1 ";") || (← atPunctAt 1 "\x7b") || (← atPunctAt 1 "=") ||
          (← atPunctAt 1 "->") || (← peekAt 1).kind == .word) then
      let r ← take t.text false
      let rest ← functionTrailer n
      pure (mkNode "ref_qualifier" [r] t.start :: rest)
    else if t.kind == .word && t.text == "noexcept" then
      let kw ← take "noexcept" false
      let arg ← if (← atPunct "(") then
          let o ← take "(" false
          let e ← if (← atPunct ")") then pure [] else pure [← expression n]
          let c ← expect ")"
          pure ([o] ++ e ++ [c])
        else pure []
      let rest ← functionTrailer n
      pure (mkNode "noexcept" (kw :: arg) t.start :: rest)
    else if t.kind == .word && t.text == "throw" && (← atPunctAt 1 "(") then
      let kw ← take "throw" false
      let args ← argumentList n
      let rest ← functionTrailer n
      pure (mkNode "throw_specifier" [kw, args] t.start :: rest)
    else if t.kind == .punct && t.text == "->" then
      let arrow ← take "->" false
      let ty ← typeDescriptor n
      let rest ← functionTrailer n
      pure (mkNode "trailing_return_type" [arrow, ty] t.start :: rest)
    else if t.kind == .word && (t.text == "override" || t.text == "final") then
      let w ← take t.text false
      let rest ← functionTrailer n
      pure (mkNode "virtual_specifier" [w] t.start :: rest)
    else if t.kind == .word && t.text == "requires" then
      let r ← requiresClause n
      let rest ← functionTrailer n
      pure (r :: rest)
    else if t.kind == .punct && t.text == "[" && (← atPunctAt 1 "[") then
      let a ← attributeDeclaration n
      let rest ← functionTrailer n
      pure (a :: rest)
    else pure []
termination_by structural fuel => fuel

/-- A parameter list in parentheses. -/
def parameterList : Nat → Reader Tree
  | 0 => fail
  | n + 1 => memoized do
    let o ← expect "("
    let ps ← parameterItems n
    let c ← expect ")"
    pure (mkNode "parameter_list" ([o] ++ ps ++ [c]) o.start (some "parameters"))
termination_by structural fuel => fuel

/-- Parameters separated by commas. -/
def parameterItems : Nat → Reader (List Tree)
  | 0 => fail
  | n + 1 => do
    if (← atPunct ")") then return []
    let p ← parameter n
    if (← atPunct ",") then
      let c ← take "," false
      let rest ← parameterItems n
      pure (p :: c :: rest)
    else pure [p]
termination_by structural fuel => fuel

/-- One parameter: `...`, or specifiers with a declarator, an abstract declarator or none,
and in C++ a default value. -/
def parameter : Nat → Reader Tree
  | 0 => fail
  | n + 1 => do
    let t ← peek
    let cpp ← isCpp
    if t.kind == .punct && t.text == "..." then
      let dots ← take "..." false
      return mkNode "variadic_parameter" [dots] t.start
    let specs ← specifiers n
    let decl ← parameterDeclarator n
    let declTrees := (decl.map (·.withField (some "declarator"))).toList
    if cpp && (← atPunct "=") then
      let eq ← take "=" false
      let v ← if (← atPunct "\x7b") then initializerList n else expression n
      pure (mkNode "optional_parameter_declaration"
        (specs ++ declTrees ++ [eq, v.withField (some "default_value")]) t.start)
    else if cpp && decl.any (·.kind == "variadic_declarator") then
      pure (mkNode "variadic_parameter_declaration" (specs ++ declTrees) t.start)
    else pure (mkNode "parameter_declaration" (specs ++ declTrees) t.start)
termination_by structural fuel => fuel

/-- A parameter's declarator: a named one where one reads up to the parameter's end (a comma,
the `)` of a parameter list, the `>` of a template parameter list, or a default value), else an
abstract one, else none. -/
def parameterDeclarator : Nat → Reader (Option Tree)
  | 0 => fail
  | n + 1 => do
    let named : Reader Tree := do
      let d ← declarator n .object
      if (← atPunct ",") || (← atPunct ")") || (← atPunct ">") || (← atPunct "=") then pure d
      else fail
    match ← attempt named with
    | some d => pure (some d)
    | none => attempt (abstractDeclarator n)
termination_by structural fuel => fuel

/-- An abstract declarator: pointers, references, parentheses, parameters and array sizes
without a name. -/
def abstractDeclarator : Nat → Reader Tree
  | 0 => fail
  | n + 1 => do
    let t ← peek
    let cpp ← isCpp
    if t.kind == .punct && t.text == "*" then
      let star ← take "*" false
      let quals ← pointerModifiers n
      let inner ← attempt (abstractDeclarator n)
      pure (mkNode "abstract_pointer_declarator"
        ([star] ++ quals ++ (inner.map (·.withField (some "declarator"))).toList) t.start)
    else if cpp && t.kind == .punct && (t.text == "&" || t.text == "&&") then
      let op ← take t.text false
      let inner ← attempt (abstractDeclarator n)
      pure (mkNode "abstract_reference_declarator"
        (op :: (inner.map (·.withField (some "declarator"))).toList) t.start)
    else
      let u ← peekAt 1
      let base ← if t.kind == .punct && t.text == "(" && u.kind == .punct &&
          ["*", "&", "&&", "(", "[", "^"].contains u.text then
          let o ← take "(" false
          let inner ← abstractDeclarator n
          let c ← expect ")"
          pure (some (mkNode "abstract_parenthesized_declarator" [o, inner, c] t.start))
        else pure none
      match ← abstractSuffixes n base with
      | some d => pure d
      | none => fail
termination_by structural fuel => fuel

/-- Parameter and array suffixes of an abstract declarator. -/
def abstractSuffixes : Nat → Option Tree → Reader (Option Tree)
  | 0, base => pure base
  | n + 1, base => do
    let t ← peek
    let p ← here
    let declTrees := (base.map (·.withField (some "declarator"))).toList
    let start := (base.map (·.start)).getD p
    if t.kind == .punct && t.text == "(" then
      match ← attempt (parameterList n) with
      | some ps =>
        let post ← functionTrailer n
        abstractSuffixes n (some (mkNode "abstract_function_declarator"
          (declTrees ++ [ps] ++ post) start))
      | none => pure base
    else if t.kind == .punct && t.text == "[" && !(← atPunctAt 1 "[") then
      let o ← take "[" false
      let quals ← arrayQualifiers n
      let size ← if (← atPunct "]") then pure []
        else pure [(← expression n).withField (some "size")]
      let c ← expect "]"
      abstractSuffixes n (some (mkNode "abstract_array_declarator"
        (declTrees ++ [o] ++ quals ++ size ++ [c]) start))
    else pure base
termination_by structural fuel _ => fuel

-- Declarations

/-- Declaration specifiers: modifiers around exactly one type specifier, the `type` field. -/
def specifiers : Nat → Reader (List Tree)
  | 0 => fail
  | n + 1 => do
    let pre ← modifiers n
    let ty ← typeSpecifier n
    let post ← modifiers n
    pure (pre ++ [ty.withField (some "type")] ++ post)
termination_by structural fuel => fuel

/-- A declarator with its initializer: `= value`, or in C++ `(arguments)` or `{list}`. When
the type is certainly a type, a declarator missing before `=` is inserted. -/
def initDeclarator : Nat → Declares → Bool → Reader Tree
  | 0, _, _ => fail
  | n + 1, d, plain => do
    let decl ← if plain && (← atPunct "=") then missing d.nameKind true else declarator n d
    let cpp ← isCpp
    if (← atPunct "=") then
      let eq ← take "=" false
      let v ← if (← atPunct "\x7b") then initializerList n else expression n
      pure (mkNode "init_declarator"
        [decl.withField (some "declarator"), eq, v.withField (some "value")] decl.start)
    else if cpp && (← atPunct "(") then
      let args ← argumentList n
      pure (mkNode "init_declarator"
        [decl.withField (some "declarator"), args.withField (some "value")] decl.start)
    else if cpp && (← atPunct "\x7b") && !hasFunctionShape 64 decl then
      let l ← initializerList n
      pure (mkNode "init_declarator"
        [decl.withField (some "declarator"), l.withField (some "value")] decl.start)
    else pure decl
termination_by structural fuel _ _ => fuel

/-- Further declarators of a declaration after commas. -/
def declaratorTail : Nat → Declares → Reader (List Tree)
  | 0, _ => fail
  | n + 1, d => do
    if (← atPunct ",") then
      let c ← take "," false
      let x ← initDeclarator n d false
      let rest ← declaratorTail n d
      pure (c :: x.withField (some "declarator") :: rest)
    else pure []
termination_by structural fuel _ => fuel

/-- A declaration, a function definition, or a type specifier alone before `;` (whose
specifier then stands directly in the enclosing list). -/
def declarationItem : Nat → Place → Reader (List Tree)
  | 0, _ => fail
  | n + 1, _ => do
    let start ← here
    let cpp ← isCpp
    let specs ← specifiers n
    let plain := match typeOf specs with
      | some ty => isPlainType ty
      | none => false
    if (← atPunct ";") then
      let semi ← take ";" false
      return specs ++ [semi]
    let specs ← if !cpp && (← atPunct ":") && (← peekAt 1).kind == .word then
        let t ← peek
        let leaf ← skipOne
        pure (specs ++ [errorNode [leaf] t.start])
      else pure specs
    let decl ← if plain && (← atPunct "=") then missing "identifier" true
      else declarator n .object
    let fnShape := hasFunctionShape 64 decl
    if (← atPunct "\x7b") && (if cpp then fnShape else true) then
      let body ← compoundStatement n
      return [mkNode "function_definition"
        (specs ++ [decl.withField (some "declarator"), body.withField (some "body")]) start]
    if cpp && fnShape && (← atWordText "try") then
      let body ← functionTry n
      return [mkNode "function_definition"
        (specs ++ [decl.withField (some "declarator"), body.withField (some "body")]) start]
    if cpp && fnShape && (← atPunct "=") then
      match ← attempt (methodClause false) with
      | some clause => return [mkNode "function_definition"
          (specs ++ [decl.withField (some "declarator"), clause]) start]
      | none => pure ()
    if !cpp && fnShape && (← atKind .word) then
      match parametersOf 64 decl with
      | some params =>
        match oldStyleParameters params with
        | some names =>
          let decls ← oldStyleDeclarations n
          let body ← compoundStatement n
          return [mkNode "function_definition"
            (specs ++ [(withParameters names 64 decl).withField (some "declarator")] ++ decls ++
              [body.withField (some "body")]) start]
        | none => pure ()
      | none => pure ()
    let first ← initRest n decl
    let rest ← declaratorTail n .object
    let semi ← expect ";"
    pure [mkNode "declaration"
      (specs ++ [first.withField (some "declarator")] ++ rest ++ [semi]) start]
termination_by structural fuel _ => fuel

/-- The initializer after a declaration's first declarator. -/
def initRest : Nat → Tree → Reader Tree
  | 0, _ => fail
  | n + 1, decl => do
    let cpp ← isCpp
    if (← atPunct "=") then
      let eq ← take "=" false
      let v ← if (← atPunct "\x7b") then initializerList n else expression n
      pure (mkNode "init_declarator"
        [decl.withField (some "declarator"), eq, v.withField (some "value")] decl.start)
    else if cpp && (← atPunct "(") then
      let args ← argumentList n
      pure (mkNode "init_declarator"
        [decl.withField (some "declarator"), args.withField (some "value")] decl.start)
    else if cpp && (← atPunct "\x7b") then
      let l ← initializerList n
      pure (mkNode "init_declarator"
        [decl.withField (some "declarator"), l.withField (some "value")] decl.start)
    else pure decl
termination_by structural fuel _ => fuel

/-- The parameter declarations of a K&R definition, up to its body. -/
def oldStyleDeclarations : Nat → Reader (List Tree)
  | 0 => fail
  | n + 1 => do
    if (← atPunct "\x7b") then return []
    let ds ← declarationItem n .block
    match ds with
    | [d] =>
      if d.kind == "declaration" then
        let rest ← oldStyleDeclarations n
        pure (d :: rest)
      else fail
    | _ => fail
termination_by structural fuel => fuel

/-- A single declaration ending in `;`. -/
def declarationOnly : Nat → Reader Tree
  | 0 => fail
  | n + 1 => do
    let ds ← declarationItem n .block
    match ds with
    | [d] => if d.kind == "declaration" then pure d else fail
    | _ => fail
termination_by structural fuel => fuel

/-- `typedef`, specifiers and the declarators of the new type names. -/
def typeDefinition : Nat → Reader Tree
  | 0 => fail
  | n + 1 => do
    let kw ← take "typedef" false
    let specs ← specifiers n
    let first ← declarator n .typeName
    let rest ← typedefTail n
    let semi ← expect ";"
    pure (mkNode "type_definition"
      ([kw] ++ specs ++ [first.withField (some "declarator")] ++ rest ++ [semi]) kw.start)
termination_by structural fuel => fuel

/-- Further declarators of a `typedef`. -/
def typedefTail : Nat → Reader (List Tree)
  | 0 => fail
  | n + 1 => do
    if (← atPunct ",") then
      let c ← take "," false
      let x ← declarator n .typeName
      let rest ← typedefTail n
      pure (c :: x.withField (some "declarator") :: rest)
    else pure []
termination_by structural fuel => fuel

/-- A member of a class body: a field declaration, or in C++ an inline method definition
(also `= default`, `= delete` and `= 0`). -/
def fieldDeclaration : Nat → Reader (List Tree)
  | 0 => fail
  | n + 1 => do
    let start ← here
    let cpp ← isCpp
    let specs ← specifiers n
    if (← atPunct ";") then
      let semi ← take ";" false
      return [mkNode "field_declaration" (specs ++ [semi]) start]
    let decl ← declarator n .member
    let fnShape := hasFunctionShape 64 decl
    if cpp && fnShape && ((← atPunct "\x7b") || (← atWordText "try")) then
      let body ← if (← atPunct "\x7b") then compoundStatement n else functionTry n
      return [mkNode "function_definition"
        (specs ++ [decl.withField (some "declarator"), body.withField (some "body")]) start]
    if cpp && fnShape && (← atPunct "=") then
      match ← attempt (methodClause false) with
      | some clause => return [mkNode "function_definition"
          (specs ++ [decl.withField (some "declarator"), clause]) start]
      | none => pure ()
    let first ← fieldExtras n decl
    let rest ← fieldTail n
    let attrs ← if (← atKind .word) && attributeWords.contains (← peek).text then
        pure [← attributeSpecifier n]
      else pure []
    let semi ← expect ";"
    pure [mkNode "field_declaration" (specs ++ first ++ rest ++ attrs ++ [semi]) start]
termination_by structural fuel => fuel

/-- A field declarator with its bit width or, in C++, its default value. -/
def fieldExtras : Nat → Tree → Reader (List Tree)
  | 0, _ => fail
  | n + 1, decl => do
    let d := decl.withField (some "declarator")
    if (← atPunct ":") then
      let colon ← take ":" false
      let w ← expression n
      pure [d, mkNode "bitfield_clause" [colon, w] colon.start]
    else if (← isCpp) && (← atPunct "=") then
      let eq ← take "=" false
      let v ← if (← atPunct "\x7b") then initializerList n else expression n
      pure [d, eq, v.withField (some "default_value")]
    else if (← isCpp) && (← atPunct "\x7b") then
      let l ← initializerList n
      pure [d, l.withField (some "default_value")]
    else pure [d]
termination_by structural fuel _ => fuel

/-- Further field declarators after commas. -/
def fieldTail : Nat → Reader (List Tree)
  | 0 => fail
  | n + 1 => do
    if (← atPunct ",") then
      let c ← take "," false
      let decl ← declarator n .member
      let x ← fieldExtras n decl
      let rest ← fieldTail n
      pure (c :: x ++ rest)
    else pure []
termination_by structural fuel => fuel

/-- A C++ constructor or destructor: modifiers and a function declarator without a type,
then `;` (not at file level, where that is a call), an initializer list and a body, a body,
or `= default;`/`= delete;`. -/
def constructorItem : Nat → Place → Reader (List Tree)
  | 0, _ => fail
  | n + 1, place => do
    let start ← here
    let mods ← modifiers n
    let t ← peek
    if !(t.kind == .word || (t.kind == .punct && (t.text == "~" || t.text == "::"))) then fail
    if t.kind == .word && Words.isReserved true t.text then fail
    let decl ← declarator n .object
    if decl.kind != "function_declarator" then fail
    if (← atPunct ";") then
      if place == .file then fail
      let semi ← take ";" false
      return [mkNode "declaration" (mods ++ [decl.withField (some "declarator"), semi]) start]
    let inits ← if (← atPunct ":") then pure [← fieldInitializerList n] else pure []
    if (← atPunct "\x7b") then
      let body ← compoundStatement n
      return [mkNode "function_definition"
        (mods ++ [decl.withField (some "declarator")] ++ inits ++ [body.withField (some "body")])
        start]
    if inits.isEmpty && (← atWordText "try") then
      let body ← functionTry n
      return [mkNode "function_definition"
        (mods ++ [decl.withField (some "declarator"), body.withField (some "body")]) start]
    if inits.isEmpty then
      match ← attempt (methodClause true) with
      | some clause => return [mkNode "function_definition"
          (mods ++ [decl.withField (some "declarator"), clause]) start]
      | none => pure ()
    fail
termination_by structural fuel _ => fuel

/-- A constructor's member initializers after `:`. -/
def fieldInitializerList : Nat → Reader Tree
  | 0 => fail
  | n + 1 => do
    let colon ← expect ":"
    let inits ← fieldInitializers n
    pure (mkNode "field_initializer_list" (colon :: inits) colon.start)
termination_by structural fuel => fuel

/-- Member initializers separated by commas. -/
def fieldInitializers : Nat → Reader (List Tree)
  | 0 => fail
  | n + 1 => do
    let t ← peek
    let target ← if (← isCpp) && (← atPunctAt 1 "::") then scopedName n
      else take "field_identifier"
    let v ← if (← atPunct "\x7b") then initializerList n else argumentList n
    let dots ← accept "..."
    let i := mkNode "field_initializer" ([target, v] ++ dots) t.start
    if (← atPunct ",") then
      let c ← take "," false
      let rest ← fieldInitializers n
      pure (i :: c :: rest)
    else pure [i]
termination_by structural fuel => fuel

/-- A conversion operator (`operator bool() const`) declared or defined. -/
def operatorCastItem : Nat → Reader (List Tree)
  | 0 => fail
  | n + 1 => do
    let start ← here
    let mods ← modifiers n
    let kwTok ← peek
    let kw ← expect "operator"
    let specs ← specifiers n
    let decl ← abstractDeclarator n
    if decl.kind != "abstract_function_declarator" then fail
    let cast := mkNode "operator_cast" ([kw] ++ specs ++ [decl.withField (some "declarator")])
      kwTok.start (some "declarator")
    if (← atPunct ";") then
      let semi ← take ";" false
      return [mkNode "declaration" (mods ++ [cast, semi]) start]
    if (← atPunct "\x7b") then
      let body ← compoundStatement n
      return [mkNode "function_definition" (mods ++ [cast, body.withField (some "body")]) start]
    match ← attempt (methodClause true) with
    | some clause => pure [mkNode "function_definition" (mods ++ [cast, clause]) start]
    | none => fail
termination_by structural fuel => fuel

/-- `template <...>` and the declaration it parameterizes, or an explicit instantiation. -/
def templateDeclaration : Nat → Reader Tree
  | 0 => fail
  | n + 1 => do
    let kw ← take "template" false
    if !(← atPunct "<") then
      let ds ← declarationItem n .file
      return mkNode "template_instantiation" (kw :: ds) kw.start
    let params ← templateParameterList n
    let reqs ← if (← atWordText "requires") then pure [← requiresClause n] else pure []
    let inner ← templateBody n
    pure (mkNode "template_declaration"
      ([kw, params.withField (some "parameters")] ++ reqs ++ inner) kw.start)
termination_by structural fuel => fuel

/-- `requires` and a constraint. -/
def requiresClause : Nat → Reader Tree
  | 0 => fail
  | n + 1 => do
    let kw ← take "requires" false
    let c ← constraintDisjunction n
    pure (mkNode "requires_clause" [kw, c.withField (some "constraint")] kw.start)
termination_by structural fuel => fuel

/-- Constraints joined by `||` or `or`, grouped to the left. -/
def constraintDisjunction : Nat → Reader Tree
  | 0 => fail
  | n + 1 => do
    let first ← constraintConjunction n
    constraintsAfter n true first
termination_by structural fuel => fuel

/-- Constraints joined by `&&` or `and`, grouped to the left. -/
def constraintConjunction : Nat → Reader Tree
  | 0 => fail
  | n + 1 => do
    let first ← constraintPrimary n
    constraintsAfter n false first
termination_by structural fuel => fuel

/-- The rest of a disjunction (`disjunction`) or a conjunction after its left part. -/
def constraintsAfter : Nat → Bool → Tree → Reader Tree
  | 0, _, left => pure left
  | n + 1, disjunction, left => do
    let t ← peek
    let ops := if disjunction then ["||", "or"] else ["&&", "and"]
    if (t.kind == .punct || t.kind == .word) && ops.contains t.text then
      let op ← take t.text false (some "operator")
      let right ← if disjunction then constraintConjunction n else constraintPrimary n
      constraintsAfter n disjunction
        (mkNode (if disjunction then "constraint_disjunction" else "constraint_conjunction")
          [left.withField (some "left"), op, right.withField (some "right")] left.start)
    else pure left
termination_by structural fuel _ _ => fuel

/-- A constraint that is not a conjunction or disjunction: `true`, `false`, an expression in
parentheses, a type name, a lambda or a requires expression. -/
def constraintPrimary : Nat → Reader Tree
  | 0 => fail
  | n + 1 => do
    let t ← peek
    if t.kind == .word && (t.text == "true" || t.text == "false") then take t.text
    else if t.kind == .word && t.text == "requires" then requiresExpression n
    else if t.kind == .punct && t.text == "(" then
      let o ← take "(" false
      let e ← expression n
      let c ← expect ")"
      pure (mkNode "parenthesized_expression" [o, e, c] t.start)
    else if t.kind == .punct && t.text == "[" then lambda n
    else typeSpecifier n
termination_by structural fuel => fuel

/-- `requires`, optional parameters and the requirements in braces. -/
def requiresExpression : Nat → Reader Tree
  | 0 => fail
  | n + 1 => do
    let kw ← take "requires" false
    let ps ← if (← atPunct "(") then pure [← parameterList n] else pure []
    let o ← expect "\x7b"
    let reqs ← requirements n
    let c ← expect "\x7d"
    let body := mkNode "requirement_seq" ([o] ++ reqs ++ [c]) o.start (some "requirements")
    pure (mkNode "requires_expression" ([kw] ++ ps ++ [body]) kw.start)
termination_by structural fuel => fuel

/-- The requirements of a requires expression: `{ e } noexcept -> C;`, `typename T;`,
`requires C;` or `e;`. -/
def requirements : Nat → Reader (List Tree)
  | 0 => fail
  | n + 1 => do
    let t ← peek
    if t.kind == .punct && t.text == "\x7d" then return []
    let r ← if t.kind == .punct && t.text == "\x7b" then
        let o ← take "\x7b" false
        let e ← expression n
        let c ← expect "\x7d"
        let nx ← if (← atWordText "noexcept") then pure [← take "noexcept" false] else pure []
        let ret ← if (← atPunct "->") then
            let arrow ← take "->" false
            let ty ← typeSpecifier n
            pure [mkNode "trailing_return_type" [arrow, ty] arrow.start]
          else pure []
        let semi ← expect ";"
        pure (mkNode "compound_requirement" ([o, e, c] ++ nx ++ ret ++ [semi]) t.start)
      else if t.kind == .word && t.text == "typename" then
        let ty ← typeSpecifier n
        let semi ← expect ";"
        pure (mkNode "type_requirement" [ty, semi] t.start)
      else if t.kind == .word && t.text == "requires" then
        let rc ← requiresClause n
        let semi ← expect ";"
        pure (mkNode "nested_requirement" [rc, semi] t.start)
      else
        let e ← expression n
        let semi ← expect ";"
        pure (mkNode "simple_requirement" [e, semi] t.start)
    let rest ← requirements n
    pure (r :: rest)
termination_by structural fuel => fuel

/-- The declaration after a template's parameters. -/
def templateBody : Nat → Reader (List Tree)
  | 0 => fail
  | n + 1 => do
    let t ← peek
    if t.kind == .word && t.text == "template" then return [← templateDeclaration n]
    if t.kind == .word && t.text == "using" then return [← usingDeclaration n]
    if t.kind == .word && t.text == "friend" then return [← friendDeclaration n]
    if t.kind == .word && t.text == "concept" then
      let kw ← take "concept" false
      let nm ← take "identifier" true (some "name")
      let eq ← expect "="
      let e ← expression n
      let semi ← expect ";"
      return [mkNode "concept_definition" [kw, nm, eq, e, semi] t.start]
    match ← attempt (constructorItem n .members) with
    | some ds => return ds
    | none => pure ()
    match ← attempt (operatorCastItem n) with
    | some ds => return ds
    | none => pure ()
    declarationItem n .file
termination_by structural fuel => fuel

/-- Template parameters in angle brackets. -/
def templateParameterList : Nat → Reader Tree
  | 0 => fail
  | n + 1 => do
    let o ← expect "<"
    let ps ← templateParameters n
    let c ← expect ">"
    pure (mkNode "template_parameter_list" ([o] ++ ps ++ [c]) o.start)
termination_by structural fuel => fuel

/-- Template parameters separated by commas. -/
def templateParameters : Nat → Reader (List Tree)
  | 0 => fail
  | n + 1 => do
    if (← atPunct ">") then return []
    let p ← templateParameter n
    if (← atPunct ",") then
      let c ← take "," false
      let rest ← templateParameters n
      pure (p :: c :: rest)
    else pure [p]
termination_by structural fuel => fuel

/-- One template parameter: a type parameter (`typename T`, `class... Ts`, `typename T =
int`), a template template parameter, or a value parameter. -/
def templateParameter : Nat → Reader Tree
  | 0 => fail
  | n + 1 => do
    let t ← peek
    if t.kind == .word && (t.text == "typename" || t.text == "class") then
      let kw ← take t.text false
      let dots ← accept "..."
      let hasName ← atName
      if (← atPunctAt (if hasName then 1 else 0) "=") then
        let nm ← if hasName then pure [← take "type_identifier" true (some "name")] else pure []
        let eq ← take "=" false
        let ty ← typeDescriptor n
        pure (mkNode "optional_type_parameter_declaration"
          ([kw] ++ nm ++ [eq, ty.withField (some "default_type")]) t.start)
      else
        let nm ← if hasName then pure [← take "type_identifier"] else pure []
        if dots.isEmpty then
          pure (mkNode "type_parameter_declaration" (kw :: nm) t.start)
        else
          pure (mkNode "variadic_type_parameter_declaration" ([kw] ++ dots ++ nm) t.start)
    else if t.kind == .word && t.text == "template" then
      let kw ← take "template" false
      let ps ← templateParameterList n
      let inner ← templateParameter n
      pure (mkNode "template_template_parameter_declaration"
        [kw, ps.withField (some "parameters"), inner] t.start)
    else parameter n
termination_by structural fuel => fuel

/-- `namespace` with an optional name and a body, or a namespace alias. -/
def namespaceDefinition : Nat → Reader Tree
  | 0 => fail
  | n + 1 => do
    let start ← here
    let inl ← accept "inline"
    let kw ← take "namespace" false
    if (← atName) && (← atPunctAt 1 "=") then
      let nm ← take "namespace_identifier" true (some "name")
      let eq ← take "=" false
      let target ← scopedName n
      let semi ← expect ";"
      return mkNode "namespace_alias_definition" [kw, nm, eq, target, semi] start
    let nm ← if (← atName) then pure [← namespaceName n] else pure []
    let body ← declarationList n
    pure (mkNode "namespace_definition" (inl ++ [kw] ++ nm ++ [body.withField (some "body")])
      start)
termination_by structural fuel => fuel

/-- A namespace name, possibly nested (`a::b`). -/
def namespaceName : Nat → Reader Tree
  | 0 => fail
  | n + 1 => do
    let id ← take "namespace_identifier" true (some "name")
    if (← atPunct "::") then
      let sep ← take "::" false
      let inl ← accept "inline"
      let rest ← namespaceName n
      pure (mkNode "nested_namespace_specifier"
        ([id.withField none, sep] ++ inl ++ [rest.withField none]) id.start (some "name"))
    else pure id
termination_by structural fuel => fuel

/-- Items in braces, as the body of a namespace or a linkage specification. -/
def declarationList : Nat → Reader Tree
  | 0 => fail
  | n + 1 => do
    let o ← expect "\x7b"
    let body ← items n .file true []
    let c ← closeBrace
    pure (mkNode "declaration_list" ([o] ++ body ++ [c]) o.start)
termination_by structural fuel => fuel

/-- `extern "C"` with a braced body or one declaration. -/
def linkage : Nat → Reader Tree
  | 0 => fail
  | n + 1 => do
    let kw ← take "extern" false
    let lit ← take "string_literal" true (some "value")
    let body ← if (← atPunct "\x7b") then declarationList n
      else
        let ds ← declarationItem n .file
        match ds with
        | [d] => pure d
        | _ => fail
    pure (mkNode "linkage_specification" [kw, lit, body.withField (some "body")] kw.start)
termination_by structural fuel => fuel

/-- `using namespace x;`, `using x::y;` or an alias `using T = type;`. -/
def usingDeclaration : Nat → Reader Tree
  | 0 => fail
  | n + 1 => do
    let kw ← take "using" false
    if (← atWordText "namespace") then
      let ns ← take "namespace" false
      let nm ← scopedName n
      let semi ← expect ";"
      return mkNode "using_declaration" [kw, ns, nm, semi] kw.start
    if (← atName) && (← atPunctAt 1 "=") then
      let nm ← take "type_identifier" true (some "name")
      let eq ← take "=" false
      let ty ← typeDescriptor n
      let semi ← expect ";"
      return mkNode "alias_declaration" [kw, nm, eq, ty.withField (some "type"), semi] kw.start
    let tn ← accept "typename"
    let nm ← scopedName n
    let semi ← expect ";"
    pure (mkNode "using_declaration" ([kw] ++ tn ++ [nm, semi]) kw.start)
termination_by structural fuel => fuel

/-- `static_assert(condition, message);`. -/
def staticAssert : Nat → Reader Tree
  | 0 => fail
  | n + 1 => do
    let t ← peek
    let kw ← take t.text false
    let o ← expect "("
    let cond ← expression n
    let msg ← if (← atPunct ",") then
        let c ← take "," false
        let m ← stringLiterals n
        pure [c, m.withField (some "message")]
      else pure []
    let c ← expect ")"
    let semi ← expect ";"
    pure (mkNode "static_assert_declaration"
      ([kw, o, cond.withField (some "condition")] ++ msg ++ [c, semi]) t.start)
termination_by structural fuel => fuel

/-- `friend` and a class name or a declaration. -/
def friendDeclaration : Nat → Reader Tree
  | 0 => fail
  | n + 1 => do
    let kw ← take "friend" false
    let t ← peek
    if t.kind == .word && (t.text == "class" || t.text == "struct" || t.text == "union") &&
        (← atPunctAt 2 ";") then
      let k ← take t.text false
      let nm ← typeName n
      let semi ← take ";" false
      return mkNode "friend_declaration" [kw, k, nm, semi] kw.start
    let ds ← declarationItem n .file
    pure (mkNode "friend_declaration" (kw :: ds) kw.start)
termination_by structural fuel => fuel

-- Statements

/-- **A statement.** -/
def statement : Nat → Reader Tree
  | 0 => fail
  | n + 1 => do
    let t ← peek
    let cpp ← isCpp
    if t.kind == .punct && t.text == "\x7b" then compoundStatement n
    else if t.kind == .punct && t.text == ";" then
      let s ← take ";" false
      pure (mkNode "expression_statement" [s] t.start)
    else if t.kind == .punct && t.text == "[" && (← atPunctAt 1 "[") then
      let a ← attributeDeclaration n
      let s ← statement n
      pure (mkNode "attributed_statement" [a, s] t.start)
    else if t.kind == .word then
      match t.text with
      | "if" => ifStatement n
      | "while" => whileStatement n
      | "do" => doStatement n
      | "for" => forStatement n
      | "switch" => switchStatement n
      | "case" => caseStatement n
      | "default" => caseStatement n
      | "return" => returnStatement n
      | "break" =>
        let kw ← take "break" false
        let semi ← statementEnd
        pure (mkNode "break_statement" (kw :: semi) t.start)
      | "continue" =>
        let kw ← take "continue" false
        let semi ← statementEnd
        pure (mkNode "continue_statement" (kw :: semi) t.start)
      | "goto" =>
        let kw ← take "goto" false
        let l ← take "statement_identifier" true (some "label")
        let semi ← statementEnd
        pure (mkNode "goto_statement" ([kw, l] ++ semi) t.start)
      | "try" => if cpp then tryStatement n else expressionStatement n
      | "throw" =>
        if cpp then
          let kw ← take "throw" false
          let v ← if (← atPunct ";") then pure [] else pure [← expression n]
          let semi ← statementEnd
          pure (mkNode "throw_statement" ([kw] ++ v ++ semi) t.start)
        else expressionStatement n
      | "co_return" =>
        if cpp then
          let kw ← take "co_return" false
          let v ← if (← atPunct ";") then pure [] else pure [← commaExpression n]
          let semi ← statementEnd
          pure (mkNode "co_return_statement" ([kw] ++ v ++ semi) t.start)
        else expressionStatement n
      | "co_yield" =>
        if cpp then
          let kw ← take "co_yield" false
          let v ← expression n
          let semi ← statementEnd
          pure (mkNode "co_yield_statement" ([kw, v] ++ semi) t.start)
        else expressionStatement n
      | _ =>
        if isNameToken cpp t && (← atPunctAt 1 ":") then
          let l ← take "statement_identifier" true (some "label")
          let colon ← take ":" false
          let s ← statement n
          pure (mkNode "labeled_statement" [l, colon, s] t.start)
        else expressionStatement n
    else expressionStatement n
termination_by structural fuel => fuel

/-- An expression and its `;`. -/
def expressionStatement : Nat → Reader Tree
  | 0 => fail
  | n + 1 => do
    let e ← commaExpression n
    let semi ← statementEnd
    pure (mkNode "expression_statement" (e :: semi) e.start)
termination_by structural fuel => fuel

/-- **A block**: items in braces; a missing `}` at the end of the input is inserted. -/
def compoundStatement : Nat → Reader Tree
  | 0 => fail
  | n + 1 => do
    let o ← expect "\x7b"
    let body ← items n .block true []
    let c ← closeBrace
    pure (mkNode "compound_statement" ([o] ++ body ++ [c]) o.start)
termination_by structural fuel => fuel

/-- A condition in parentheses (C). -/
def parenthesizedCondition : Nat → Reader Tree
  | 0 => fail
  | n + 1 => do
    let o ← expect "("
    let e ← commaExpression n
    let c ← expect ")"
    pure (mkNode "parenthesized_expression" [o, e, c] o.start)
termination_by structural fuel => fuel

/-- A condition in parentheses (C++): an optional init statement, then an expression or a
declaration with an initializer. -/
def conditionClause : Nat → Reader Tree
  | 0 => fail
  | n + 1 => do
    let o ← expect "("
    let init ← attempt (initStatement n)
    let value ← conditionValue n
    let c ← expect ")"
    pure (mkNode "condition_clause" ([o] ++ (init.map (·.withField (some "initializer"))).toList ++
      [value.withField (some "value"), c]) o.start)
termination_by structural fuel => fuel

/-- The statement before `;` in `if (init; cond)` and range loops. -/
def initStatement : Nat → Reader Tree
  | 0 => fail
  | n + 1 => do
    match ← attempt (declarationOnly n) with
    | some d => pure d
    | none =>
      let e ← commaExpression n
      let semi ← expect ";"
      pure (mkNode "expression_statement" [e, semi] e.start)
termination_by structural fuel => fuel

/-- A condition's value: a declaration with an initializer, or an expression. -/
def conditionValue : Nat → Reader Tree
  | 0 => fail
  | n + 1 => do
    let condDecl : Reader Tree := do
      let start ← here
      let specs ← specifiers n
      let d ← declarator n .object
      if (← atPunct "=") then
        let eq ← take "=" false
        let v ← expression n
        pure (mkNode "declaration"
          (specs ++ [d.withField (some "declarator"), eq, v.withField (some "value")]) start)
      else if (← atPunct "\x7b") then
        let l ← initializerList n
        pure (mkNode "declaration"
          (specs ++ [d.withField (some "declarator"), l.withField (some "value")]) start)
      else fail
    match ← attempt condDecl with
    | some d => pure d
    | none => commaExpression n
termination_by structural fuel => fuel

/-- The condition of `if`, `while` and `switch`. -/
def condition : Nat → Reader Tree
  | 0 => fail
  | n + 1 => do
    if (← isCpp) then conditionClause n else parenthesizedCondition n
termination_by structural fuel => fuel

/-- `if`, with an optional `else`. -/
def ifStatement : Nat → Reader Tree
  | 0 => fail
  | n + 1 => do
    let kw ← take "if" false
    let ce ← if (← isCpp) && (← atWordText "constexpr") then pure [← take "constexpr" false]
      else pure []
    let cond ← condition n
    let cons ← statement n
    let alt ← if (← atWordText "else") then
        let e ← take "else" false
        let s ← statement n
        pure [mkNode "else_clause" [e, s] e.start (some "alternative")]
      else pure []
    pure (mkNode "if_statement" ([kw] ++ ce ++
      [cond.withField (some "condition"), cons.withField (some "consequence")] ++ alt) kw.start)
termination_by structural fuel => fuel

/-- `while`. -/
def whileStatement : Nat → Reader Tree
  | 0 => fail
  | n + 1 => do
    let kw ← take "while" false
    let cond ← condition n
    let body ← statement n
    pure (mkNode "while_statement"
      [kw, cond.withField (some "condition"), body.withField (some "body")] kw.start)
termination_by structural fuel => fuel

/-- `do ... while (...);`. -/
def doStatement : Nat → Reader Tree
  | 0 => fail
  | n + 1 => do
    let kw ← take "do" false
    let body ← statement n
    let w ← expect "while"
    let cond ← parenthesizedCondition n
    let semi ← statementEnd
    pure (mkNode "do_statement"
      ([kw, body.withField (some "body"), w, cond.withField (some "condition")] ++ semi) kw.start)
termination_by structural fuel => fuel

/-- `switch`. -/
def switchStatement : Nat → Reader Tree
  | 0 => fail
  | n + 1 => do
    let kw ← take "switch" false
    let cond ← condition n
    let body ← compoundStatement n
    pure (mkNode "switch_statement"
      [kw, cond.withField (some "condition"), body.withField (some "body")] kw.start)
termination_by structural fuel => fuel

/-- `case value:` or `default:` and the statements up to the next label. -/
def caseStatement : Nat → Reader Tree
  | 0 => fail
  | n + 1 => do
    let t ← peek
    let kw ← take t.text false
    let v ← if t.text == "case" then pure [(← expression n).withField (some "value")]
      else pure []
    let colon ← expect ":"
    let body ← items n .caseBody true []
    pure (mkNode "case_statement" ([kw] ++ v ++ [colon] ++ body) t.start)
termination_by structural fuel => fuel

/-- `return`, with an optional value. -/
def returnStatement : Nat → Reader Tree
  | 0 => fail
  | n + 1 => do
    let kw ← take "return" false
    let v ← if (← atPunct ";") then pure []
      else if (← isCpp) && (← atPunct "\x7b") then pure [← initializerList n]
      else match ← attempt (commaExpression n) with
        | some e => pure [e]
        | none => pure []
    let semi ← statementEnd
    pure (mkNode "return_statement" ([kw] ++ v ++ semi) kw.start)
termination_by structural fuel => fuel

/-- `for`: a range loop in C++ when its head reads as one, else the three-part loop. -/
def forStatement : Nat → Reader Tree
  | 0 => fail
  | n + 1 => do
    let kw ← take "for" false
    let o ← expect "("
    if (← isCpp) then
      match ← attempt (rangeLoopHead n) with
      | some cs =>
        let c ← expect ")"
        let body ← statement n
        return mkNode "for_range_loop" ([kw, o] ++ cs ++ [c, body.withField (some "body")])
          kw.start
      | none => pure ()
    let init ← forInit n
    let cond ← if (← atPunct ";") then pure []
      else pure [(← commaExpression n).withField (some "condition")]
    let semi ← expect ";"
    let upd ← if (← atPunct ")") then pure []
      else pure [(← commaExpression n).withField (some "update")]
    let c ← expect ")"
    let body ← statement n
    pure (mkNode "for_statement"
      ([kw, o] ++ init ++ cond ++ [semi] ++ upd ++ [c, body.withField (some "body")]) kw.start)
termination_by structural fuel => fuel

/-- The first part of a three-part `for`: a declaration, or an optional expression and `;`. -/
def forInit : Nat → Reader (List Tree)
  | 0 => fail
  | n + 1 => do
    if (← atPunct ";") then return [← take ";" false]
    match ← attempt (declarationOnly n) with
    | some d => pure [d.withField (some "initializer")]
    | none =>
      let e ← commaExpression n
      let semi ← expect ";"
      pure [e.withField (some "initializer"), semi]
termination_by structural fuel => fuel

/-- The head of a range loop: an optional init statement, a declaration and `:` with the
range. -/
def rangeLoopHead : Nat → Reader (List Tree)
  | 0 => fail
  | n + 1 => do
    let init ← attempt (initStatement n)
    let specs ← specifiers n
    let d ← declarator n .object
    let colon ← expect ":"
    let right ← if (← atPunct "\x7b") then initializerList n else expression n
    pure ((init.map (·.withField (some "initializer"))).toList ++ specs ++
      [d.withField (some "declarator"), colon, right.withField (some "right")])
termination_by structural fuel => fuel

/-- `try` with its handlers. -/
def tryStatement : Nat → Reader Tree
  | 0 => fail
  | n + 1 => do
    let kw ← take "try" false
    let body ← compoundStatement n
    let handlers ← catchClauses n
    if handlers.isEmpty then fail
    pure (mkNode "try_statement" ([kw, body.withField (some "body")] ++ handlers) kw.start)
termination_by structural fuel => fuel

/-- A function body that is a `try` block: `try`, a constructor's member initializers, the
block and its handlers. -/
def functionTry : Nat → Reader Tree
  | 0 => fail
  | n + 1 => do
    let kw ← take "try" false
    let inits ← if (← atPunct ":") then pure [← fieldInitializerList n] else pure []
    let body ← compoundStatement n
    let handlers ← catchClauses n
    if handlers.isEmpty then fail
    pure (mkNode "try_statement" ([kw] ++ inits ++ [body.withField (some "body")] ++ handlers)
      kw.start)
termination_by structural fuel => fuel

/-- `catch (parameter) { ... }` handlers in a row. -/
def catchClauses : Nat → Reader (List Tree)
  | 0 => pure []
  | n + 1 => do
    if (← atWordText "catch") then
      let t ← peek
      let kw ← take "catch" false
      let ps ← parameterList n
      let body ← compoundStatement n
      let h := mkNode "catch_clause" [kw, ps, body.withField (some "body")] t.start
      let rest ← catchClauses n
      pure (h :: rest)
    else pure []
termination_by structural fuel => fuel

-- Items

/-- **Items of a list** up to its end: the end of the input, a directive that ends a
conditional group, a `}` when `braced`, and in a `case` the next label. An item that cannot
be read is skipped, one token at a time, into an `ERROR` node (`pending` holds the tokens
skipped so far); when it opens a bracket that is never closed, everything up to the end is
skipped; a class body followed by a keyword that cannot follow it is skipped with the rest
of its declaration. -/
def items : Nat → Place → Bool → List Tree → Reader (List Tree)
  | 0, _, _, _ => fail
  | n + 1, place, braced, pending => do
    let t ← peek
    let flush := match pending.head? with
      | some first => [errorNode pending first.start]
      | none => []
    let ends := t.kind == .eof || isGroupEnd t || (braced && t.kind == .punct && t.text == "\x7d") ||
      (place == .caseBody && t.kind == .word && (t.text == "case" || t.text == "default"))
    if ends then return flush
    match ← attempt (item n place) with
    | some trees =>
      let rest ← items n place braced []
      pure (flush ++ trees ++ rest)
    | none =>
      let g ← read
      let i ← mark
      if opensUnclosed g.tokens i then
        let all ← skipToEnd g.tokens.size
        return [errorNode (pending ++ all) ((pending.head?.map (·.start)).getD t.start)]
      if !g.cpp && place == .block then
        if let some k := recordWithFunction? g.tokens i then
          return ← items n place braced (pending ++ (← skipMany k))
      match ← attempt (strayAfterRecord n) with
      | some skipped => items n place braced (pending ++ skipped)
      | none =>
        let leaf ← skipOne
        items n place braced (pending ++ [leaf])
termination_by structural fuel _ _ _ => fuel

/-- A class or enum body directly followed by a keyword that cannot follow it: the
declaration is skipped, flat, up to its `;`. -/
def strayAfterRecord : Nat → Reader (List Tree)
  | 0 => fail
  | n + 1 => do
    let start ← mark
    let _ ← modifiers n
    let ty ← typeSpecifier n
    if (ty.field? "body").isNone then fail
    let t ← peek
    let cpp ← isCpp
    if !(t.kind == .word && Words.isReserved cpp t.text &&
        !(Words.qualifierWords cpp).contains t.text && !(Words.storageWords cpp).contains t.text)
    then fail
    reset start
    skipPastSemicolon (← read).tokens.size 0
termination_by structural fuel => fuel

/-- One item of a list in the given place. -/
def item : Nat → Place → Reader (List Tree)
  | 0, _ => fail
  | n + 1, place => do
    let t ← peek
    if t.kind == .directive then return [← preprocessor n place]
    match place with
    | .file => fileItem n
    | .block => blockItem n
    | .caseBody => blockItem n
    | .members => memberItem n
termination_by structural fuel _ => fuel

/-- A declaration or statement read where both may stand, the declaration first; a
declaration that looks like a call (`f(x);`) is read as the call when it can be. -/
def declarationOrStatement : Nat → Place → Reader (List Tree)
  | 0, _ => fail
  | n + 1, place => do
    let m ← mark
    match ← attempt (declarationItem n place) with
    | some ds =>
      if expressionShaped ds then
        let done ← mark
        reset m
        match ← attempt (statement n) with
        | some s => pure [s]
        | none =>
          reset done
          pure ds
      else pure ds
    | none => pure [← statement n]
termination_by structural fuel _ => fuel

/-- An item of a file, a namespace or a linkage body. -/
def fileItem : Nat → Reader (List Tree)
  | 0 => fail
  | n + 1 => do
    let t ← peek
    let cpp ← isCpp
    if t.kind == .word then
      if t.text == "typedef" then return [← typeDefinition n]
      if t.text == "extern" && (← peekAt 1).kind == .string then return [← linkage n]
      if cpp && (t.text == "namespace" ||
          (t.text == "inline" && (← atWordTextAt 1 "namespace"))) then
        return [← namespaceDefinition n]
      if cpp && t.text == "template" then return [← templateDeclaration n]
      if cpp && t.text == "using" then return [← usingDeclaration n]
      if cpp && t.text == "static_assert" then return [← staticAssert n]
      if (statementWords cpp).contains t.text then return [← statement n]
      if isNameToken cpp t && (← atPunctAt 1 ":") then return [← statement n]
    if t.kind == .punct && (t.text == "\x7b" || t.text == ";") then return [← statement n]
    if cpp then
      match ← attempt (constructorItem n .file) with
      | some ds => return ds
      | none => pure ()
      match ← attempt (operatorCastItem n) with
      | some ds => return ds
      | none => pure ()
    let m ← mark
    match ← attempt (declarationItem n .file) with
    | some ds =>
      if expressionShaped ds then
        let done ← mark
        reset m
        match ← attempt (topExpressionStatement n) with
        | some s => pure [s]
        | none =>
          reset done
          pure ds
      else pure ds
    | none => pure [← topExpressionStatement n]
termination_by structural fuel => fuel

/-- An expression statement at file level, which cannot be a binary expression. -/
def topExpressionStatement : Nat → Reader Tree
  | 0 => fail
  | n + 1 => do
    let e ← commaExpression n
    if e.kind == "binary_expression" then fail
    let semi ← statementEnd
    pure (mkNode "expression_statement" (e :: semi) e.start)
termination_by structural fuel => fuel

/-- An item of a block. -/
def blockItem : Nat → Reader (List Tree)
  | 0 => fail
  | n + 1 => do
    let t ← peek
    let cpp ← isCpp
    if t.kind == .word then
      if t.text == "typedef" then return [← typeDefinition n]
      if (statementWords cpp).contains t.text then return [← statement n]
      if t.text == "extern" && (← peekAt 1).kind == .string then return [← linkage n]
      if cpp && t.text == "using" then return [← usingDeclaration n]
      if cpp && t.text == "static_assert" then return [← staticAssert n]
      if cpp && t.text == "template" then return [← templateDeclaration n]
      if cpp && t.text == "namespace" then return [← namespaceDefinition n]
      if isNameToken cpp t && (← atPunctAt 1 ":") then return [← statement n]
    if t.kind == .punct && (t.text == "\x7b" || t.text == ";") then return [← statement n]
    if t.kind == .punct && t.text == "[" && (← atPunctAt 1 "[") then return [← statement n]
    declarationOrStatement n .block
termination_by structural fuel => fuel

/-- An item of a class body. -/
def memberItem : Nat → Reader (List Tree)
  | 0 => fail
  | n + 1 => do
    let t ← peek
    let cpp ← isCpp
    if cpp && t.kind == .punct && t.text == ";" then return [← take ";" false]
    if t.kind == .word then
      if cpp && ["public", "private", "protected"].contains t.text && (← atPunctAt 1 ":") then
        let a ← take t.text false
        let colon ← take ":" false
        return [mkNode "access_specifier" [a] t.start, colon]
      if t.text == "typedef" then return [← typeDefinition n]
      if cpp && t.text == "template" then return [← templateDeclaration n]
      if cpp && t.text == "friend" then return [← friendDeclaration n]
      if cpp && t.text == "using" then return [← usingDeclaration n]
      if cpp && t.text == "static_assert" then return [← staticAssert n]
    if cpp then
      match ← attempt (constructorItem n .members) with
      | some ds => return ds
      | none => pure ()
      match ← attempt (operatorCastItem n) with
      | some ds => return ds
      | none => pure ()
    fieldDeclaration n
termination_by structural fuel => fuel

-- Preprocessor

/-- A directive: `#include`, `#define`, a conditional group, or any other directive with its
argument. -/
def preprocessor : Nat → Place → Reader Tree
  | 0, _ => fail
  | n + 1, place => do
    let d ← peek
    if d.kind != .directive || isGroupEnd d then fail
    let kw ← take ("#" ++ d.text) false
    match d.text with
    | "include" =>
      let t ← peek
      let path ← if t.kind == .systemPath then take "system_lib_string" true (some "path")
        else if t.kind == .string then take "string_literal" true (some "path")
        else if t.kind == .word then take "identifier" true (some "path")
        else fail
      let nl ← lineEnd
      pure (mkNode "preproc_include" ([kw, path] ++ nl) d.start)
    | "define" =>
      let t ← peek
      if t.kind != .word then fail
      let nm ← take "identifier" true (some "name")
      let params ← if (← atPunct "(") && (← peek).start.byte == nm.stop then
          pure [← macroParameters n]
        else pure []
      let value ← if (← atKind .macroArg) then pure [← take "preproc_arg" true (some "value")]
        else pure []
      let nl ← lineEnd
      let kind := if params.isEmpty then "preproc_def" else "preproc_function_def"
      pure (mkNode kind ([kw, nm] ++ params ++ value ++ nl) d.start)
    | "if" =>
      let cond ← preprocCondition
      let nl ← lineEnd
      let body ← items n place (place != .file) []
      let alt ← preprocAlternative n place
      let endif ← endifDirective
      pure (mkNode "preproc_if" ([kw, cond] ++ nl ++ body ++ alt ++ [endif]) d.start)
    | "ifdef" =>
      let nm ← take "identifier" true (some "name")
      let nl ← lineEnd
      let body ← items n place (place != .file) []
      let alt ← preprocAlternative n place
      let endif ← endifDirective
      pure (mkNode "preproc_ifdef" ([kw, nm] ++ nl ++ body ++ alt ++ [endif]) d.start)
    | "ifndef" =>
      let nm ← take "identifier" true (some "name")
      let nl ← lineEnd
      let body ← items n place (place != .file) []
      let alt ← preprocAlternative n place
      let endif ← endifDirective
      pure (mkNode "preproc_ifdef" ([kw, nm] ++ nl ++ body ++ alt ++ [endif]) d.start)
    | _ =>
      let arg ← if (← atKind .macroArg) then pure [← take "preproc_arg" true (some "argument")]
        else pure []
      let nl ← lineEnd
      pure (mkNode "preproc_call" ([kw.retag "preproc_directive" (some "directive")] ++ arg ++ nl)
        d.start)
termination_by structural fuel _ => fuel

/-- The parameters of a function-like macro. -/
def macroParameters : Nat → Reader Tree
  | 0 => fail
  | n + 1 => do
    let o ← expect "("
    let ps ← macroParameterItems n
    let c ← expect ")"
    pure (mkNode "preproc_params" ([o] ++ ps ++ [c]) o.start (some "parameters"))

/-- Macro parameter names and `...`, separated by commas. -/
def macroParameterItems : Nat → Reader (List Tree)
  | 0 => fail
  | n + 1 => do
    if (← atPunct ")") then return []
    let t ← peek
    let p ← if t.kind == .word then take "identifier"
      else if t.kind == .punct && t.text == "..." then take "..." false
      else fail
    if (← atPunct ",") then
      let c ← take "," false
      let rest ← macroParameterItems n
      pure (p :: c :: rest)
    else pure [p]
termination_by structural fuel => fuel

/-- `#else` or `#elif` with its items, ending a conditional group's first part. -/
def preprocAlternative : Nat → Place → Reader (List Tree)
  | 0, _ => pure []
  | n + 1, place => do
    let d ← peek
    if d.kind != .directive then return []
    if d.text == "else" then
      let kw ← take "#else" false
      let body ← items n place (place != .file) []
      return [mkNode "preproc_else" (kw :: body) d.start (some "alternative")]
    if d.text == "elif" then
      let kw ← take "#elif" false
      let cond ← preprocCondition
      let nl ← lineEnd
      let body ← items n place (place != .file) []
      let alt ← preprocAlternative n place
      return [mkNode "preproc_elif" ([kw, cond] ++ nl ++ body ++ alt) d.start (some "alternative")]
    if d.text == "elifdef" || d.text == "elifndef" then
      let kw ← take ("#" ++ d.text) false
      let nm ← take "identifier" true (some "name")
      let nl ← lineEnd
      let body ← items n place (place != .file) []
      let alt ← preprocAlternative n place
      return [mkNode "preproc_elifdef" ([kw, nm] ++ nl ++ body ++ alt) d.start
        (some "alternative")]
    pure []
termination_by structural fuel _ => fuel

end


end Grammar

/-- **The concrete syntax tree of a file**, in C++ when `cpp`, else in C. -/
def parseSource (src : ByteArray) (cpp : Bool) : Tree :=
  let tokens := (lex src cpp).toArray
  let g : Grammar := { tokens, cpp }
  let start : Point := ⟨0, 0, 0⟩
  let run := (Grammar.items (Grammar.fuelFor tokens.size) .file false []).run g
  match run.run ⟨0, Memo.empty tokens.size⟩ with
  | .ok cs _ => .node "translation_unit" true none start src.size false cs
  | .error _ _ => .node "translation_unit" true none start src.size false []

end SourceAudit.Syntax
