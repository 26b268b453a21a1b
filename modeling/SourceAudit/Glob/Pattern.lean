/-!
# Glob patterns

A glob is read into tokens:

* `?` is any one character and `*` any run of characters, `/` included;
* `**` as a whole path component is recursive: at the start (`**/`) any leading directories,
  at the end (`/**`) anything below, between separators (`/**/`) one separator or any
  directories; anywhere else it is two `*`;
* `[...]` is a class of characters and ranges, negated by a leading `!` or `^`; a `]` or `-`
  first in the class is literal, and a `-` last;
* `{a,b}` is an alternation of branches, which may nest; a `,` outside braces is literal;
* a backslash makes the next character literal.

Errors: a class without its `]`, a range whose ends are out of order, a `}` without `{`, a
`{` without `}`, and a trailing backslash.

Main definitions:
* `GlobToken`, `GlobError`, `GlobError.render`.
* `GlobToken.parse`: the tokens of a pattern.
-/

namespace SourceAudit.Glob

/-- A token of a glob. -/
inductive GlobToken where
  | literal (c : Char)
  | any
  | zeroOrMore
  | recursivePrefix
  | recursiveSuffix
  | recursiveZeroOrMore
  | charClass (negated : Bool) (ranges : List (Char × Char))
  | alternates (branches : List (List GlobToken))
  deriving Repr, Inhabited

/-- Why a pattern is not a glob. -/
inductive GlobErrorKind where
  | unclosedClass
  | invalidRange (lo hi : Char)
  | unopenedAlternates
  | unclosedAlternates
  | danglingEscape
  deriving Repr, BEq, Inhabited

/-- The words for an error kind. -/
def GlobErrorKind.render : GlobErrorKind → String
  | .unclosedClass => "unclosed character class; missing ']'"
  | .invalidRange lo hi => "invalid range; '" ++ lo.toString ++ "' > '" ++ hi.toString ++ "'"
  | .unopenedAlternates => "unopened alternate group; missing '\x7b' (maybe escape '\x7d' with '[\x7d]'?)"
  | .unclosedAlternates => "unclosed alternate group; missing '\x7d' (maybe escape '\x7b' with '[\x7b]'?)"
  | .danglingEscape => "dangling '\\'"

/-- A pattern with what is wrong with it. -/
structure GlobError where
  glob : String
  kind : GlobErrorKind
  deriving Repr, Inhabited

/-- The message of a glob error. -/
def GlobError.render (e : GlobError) : String :=
  "error parsing glob '" ++ e.glob ++ "': " ++ e.kind.render

/-- The state of reading a glob: the characters left, the last two read, the branches being
filled (the last is the current one) and where each open alternation's branches begin. -/
structure GlobReader where
  rest : List Char
  prev : Option Char := none
  cur : Option Char := none
  branches : Array (Array GlobToken) := #[#[]]
  opened : List Nat := []

namespace GlobReader

/-- Reads the next character. -/
def bump (r : GlobReader) : GlobReader × Option Char :=
  ({ r with prev := r.cur, cur := r.rest.head?, rest := r.rest.drop 1 }, r.rest.head?)

/-- The next character, not yet read. -/
def peek (r : GlobReader) : Option Char := r.rest.head?

/-- Adds a token to the current branch. -/
def push (r : GlobReader) (t : GlobToken) : GlobReader :=
  { r with branches := r.branches.modify (r.branches.size - 1) (·.push t) }

/-- The current branch has tokens. -/
def hasTokens (r : GlobReader) : Bool := !(r.branches.back?.getD #[]).isEmpty

/-- Removes the last token of the current branch. -/
def popToken (r : GlobReader) : GlobReader × Option GlobToken :=
  let cur := r.branches.back?.getD #[]
  ({ r with branches := r.branches.modify (r.branches.size - 1) (·.pop) }, cur.back?)

/-- The character is a path separator. -/
def isSeparator (c : Char) : Bool := c == '/'

/-- Reads what follows a `*`. -/
def star (r : GlobReader) : GlobReader :=
  let prev := r.prev
  if r.peek != some '*' then r.push .zeroOrMore
  else
    let (r, _) := r.bump
    let twoStars := (r.push .zeroOrMore).push .zeroOrMore
    if !r.hasTokens then
      match r.peek with
      | some c => if isSeparator c then (r.push .recursivePrefix).bump.1 else twoStars
      | none => r.push .recursivePrefix
    else if !(prev.map isSeparator).getD false &&
        (r.branches.size ≤ 1 || (prev != some ',' && prev != some '{')) then twoStars
    else
      let suffix? : Option (GlobReader × Bool) := match r.peek with
        | none => some (r, true)
        | some c =>
          if (c == ',' || c == '}') && 2 ≤ r.branches.size then some (r, true)
          else if isSeparator c then some (r.bump.1, false)
          else none
      match suffix? with
      | none => twoStars
      | some (r, isSuffix) =>
        let (r, last) := r.popToken
        match last with
        | some .recursivePrefix => r.push .recursivePrefix
        | some .recursiveSuffix => r.push .recursiveSuffix
        | _ => r.push (if isSuffix then .recursiveSuffix else .recursiveZeroOrMore)

/-- Reads a character class after its `[`. -/
def charClass (glob : String) (r : GlobReader) : Except GlobError GlobReader :=
  let (r, negated) := match r.peek with
    | some '!' | some '^' => (r.bump.1, true)
    | _ => (r, false)
  go (r.rest.length + 1) r negated [] true false
where
  go : Nat → GlobReader → Bool → List (Char × Char) → Bool → Bool → Except GlobError GlobReader
    | 0, _, _, _, _, _ => throw ⟨glob, .unclosedClass⟩
    | n + 1, r, negated, ranges, first, inRange =>
      let (r, c) := r.bump
      let extend (hi : Char) : Except GlobError (List (Char × Char)) :=
        match ranges with
        | (lo, _) :: more => if hi < lo then throw ⟨glob, .invalidRange lo hi⟩ else pure ((lo, hi) :: more)
        | [] => pure [(hi, hi)]
      match c with
      | none => throw ⟨glob, .unclosedClass⟩
      | some ']' =>
        if first then go n r negated ((']', ']') :: ranges) false false
        else
          let ranges := if inRange then ('-', '-') :: ranges else ranges
          pure (r.push (.charClass negated ranges.reverse))
      | some '-' =>
        if first then go n r negated (('-', '-') :: ranges) false false
        else if inRange then do go n r negated (← extend '-') false false
        else go n r negated ranges false true
      | some c =>
        if inRange then do go n r negated (← extend c) false false
        else go n r negated ((c, c) :: ranges) false false

/-- Closes the innermost alternation: its branches become one token of the branch that
holds it. -/
def closeAlternation (glob : String) (r : GlobReader) : Except GlobError GlobReader :=
  match r.opened with
  | [] => throw ⟨glob, .unopenedAlternates⟩
  | start :: more =>
    let alts := (r.branches.extract start r.branches.size).toList.map Array.toList
    let r := { r with branches := r.branches.extract 0 start, opened := more }
    if r.branches.isEmpty then throw ⟨glob, .unopenedAlternates⟩
    else pure (r.push (.alternates alts))

/-- Reads the whole pattern. -/
def run (glob : String) : Nat → GlobReader → Except GlobError GlobReader
  | 0, r => pure r
  | n + 1, r =>
    let (r, c) := r.bump
    match c with
    | none => pure r
    | some '?' => run glob n (r.push .any)
    | some '*' => run glob n r.star
    | some '[' => do run glob n (← charClass glob r)
    | some '{' => run glob n { r with opened := r.branches.size :: r.opened, branches := r.branches.push #[] }
    | some '}' => do run glob n (← closeAlternation glob r)
    | some ',' =>
      if r.opened.isEmpty then run glob n (r.push (.literal ','))
      else run glob n { r with branches := r.branches.push #[] }
    | some '\\' =>
      let (r, c) := r.bump
      match c with
      | none => throw ⟨glob, .danglingEscape⟩
      | some c => run glob n (r.push (.literal c))
    | some c => run glob n (r.push (.literal c))

end GlobReader

/-- **The tokens of a glob pattern**, or why it is not one. -/
def GlobToken.parse (glob : String) : Except GlobError (List GlobToken) := do
  let r ← GlobReader.run glob (glob.length + 1) { rest := glob.toList }
  if r.branches.size == 1 then pure (r.branches[0]?.getD #[]).toList
  else throw ⟨glob, .unclosedAlternates⟩

end SourceAudit.Glob
