import SourceAudit.Syntax.Token
/-!
# Reading tokens into trees

The parser reads an array of tokens with a position that only moves forward or is reset to a
saved position when an alternative fails. A failed alternative is `none`; the caller then
tries the next one, so the whole parser is a backtracking recursive descent over the token
array, with bounded depth.

Alternatives can meet again at one position: in `f(g(h(x)))` read as a declaration, each
parameter is tried with a named and then with an abstract declarator, and both read the
parameter list after it. A `Memo` keeps what was read at a position, and it survives failed
alternatives, so each such list is read once and the parse stays linear in the depth.

Main definitions:
* `Grammar`: the dialect (C or C++) and the tokens.
* `Memo`: parameter lists already read, by position.
* `Reader`: the parser monad; `peek`, `advance`, `expectText`, `attempt`, `memoized`.
* `Tree` builders: `leafOf`, `mkNode`, `missingAfter`.
-/

namespace SourceAudit.Syntax

/-- What a parse reads: the tokens (ending with `eof`) and whether the dialect is C++. -/
structure Grammar where
  tokens : Array Token
  cpp : Bool

/-- What was read at a position, kept across failed alternatives: for each position, whether
a parameter list was tried there and, if it was read, the list and the position after it. -/
structure Memo where
  parameterLists : Array (Option (Option (Tree × Nat)))

/-- The empty memo for `n` tokens. -/
def Memo.empty (n : Nat) : Memo := ⟨Array.replicate (n + 1) none⟩

/-- The state of a parse: the position in the token array and the memo. -/
structure ParseState where
  pos : Nat
  memo : Memo

/-- The parser monad: a cursor, and failure for backtracking. A failure keeps its state, so
the memo survives it; `attempt` puts the position back. -/
abbrev Reader := ReaderT Grammar (EStateM Unit ParseState)

namespace Reader

/-- The token at the current position (the final `eof` past the end). -/
def peek : Reader Token := do
  let g ← read
  let i := (← get).pos
  pure (g.tokens[i]?.getD (g.tokens.back?.getD default))

/-- The token `k` places after the current one. -/
def peekAt (k : Nat) : Reader Token := do
  let g ← read
  let i := (← get).pos
  pure (g.tokens[i + k]?.getD (g.tokens.back?.getD default))

/-- The token before the current one, if any. -/
def previous? : Reader (Option Token) := do
  let g ← read
  let i := (← get).pos
  if i = 0 then pure none else pure g.tokens[i - 1]?

/-- Whether the dialect is C++. -/
def isCpp : Reader Bool := do pure (← read).cpp

/-- Moves past the current token and returns it. -/
def advance : Reader Token := do
  let t ← peek
  if t.kind != .eof then modify fun c => { c with pos := c.pos + 1 }
  pure t

/-- Fails. -/
def fail {α : Type} : Reader α := fun _ c => .error () c

/-- Runs `p`; on failure restores the position and returns `none`. -/
def attempt {α : Type} (p : Reader α) : Reader (Option α) := fun g c =>
  match p g c with
  | .ok a d => .ok (some a) d
  | .error _ d => .ok none ⟨c.pos, d.memo⟩

/-- The first alternative that succeeds. -/
def orElse {α : Type} (p q : Reader α) : Reader α := fun g c =>
  match p g c with
  | .ok a d => .ok a d
  | .error _ d => q g ⟨c.pos, d.memo⟩

/-- The current token is punctuation or a word with this text. -/
def atText (s : String) : Reader Bool := do
  let t ← peek
  pure ((t.kind == .punct || t.kind == .word) && t.text == s)

/-- The token `k` ahead is punctuation or a word with this text. -/
def atTextAt (k : Nat) (s : String) : Reader Bool := do
  let t ← peekAt k
  pure ((t.kind == .punct || t.kind == .word) && t.text == s)

/-- The current token is a word. -/
def atWord : Reader Bool := do pure ((← peek).kind == .word)

/-- The current token's kind. -/
def atKind (k : TokenKind) : Reader Bool := do pure ((← peek).kind == k)

/-- The position in the token array. -/
def mark : Reader Nat := do pure (← get).pos

/-- Resets the position. -/
def reset (i : Nat) : Reader PUnit := modify fun c => { c with pos := i }

/-- Reads a parameter list with `p`, or takes what an earlier read at this position gave. A
parameter list depends only on the tokens from its position on, so the earlier result is the
one `p` would give again. -/
def memoized (p : Reader Tree) : Reader Tree := do
  let i ← mark
  match ((← get).memo.parameterLists[i]?).join with
  | some (some (t, j)) =>
    reset j
    pure t
  | some none => fail
  | none =>
    let r ← attempt p
    let j ← mark
    modify fun c =>
      { c with memo := ⟨c.memo.parameterLists.setIfInBounds i (some (r.map fun t => (t, j)))⟩ }
    match r with
    | some t => pure t
    | none => fail

end Reader

/-- The point just after a token (tokens other than literals and macro arguments stay on one
line). -/
def Token.endPoint (t : Token) : Point :=
  ⟨t.stop, t.start.row, t.start.column + (t.stop - t.start.byte)⟩

/-- A token as a leaf node. -/
def leafOf (t : Token) (kind : String) (named : Bool) (field : Option String := none) : Tree :=
  .node kind named field t.start t.stop false []

/-- A token as an anonymous leaf whose kind is its text. -/
def punctLeaf (t : Token) (field : Option String := none) : Tree :=
  leafOf t t.text false field

/-- A node over its children; its span runs from the first child to the last, or is empty at
`pos` when there are none. -/
def mkNode (kind : String) (children : List Tree) (pos : Point) (field : Option String := none) :
    Tree :=
  match children.head?, children.getLast? with
  | some first, some last => .node kind true field first.start last.stop false children
  | _, _ => .node kind true field pos pos.byte false children

/-- A missing token of the given kind, placed right after token `t`. -/
def missingAfter (t : Token) (kind : String) (named : Bool) (field : Option String := none) : Tree :=
  let p := t.endPoint
  .node kind named field p p.byte true []

/-- An `ERROR` node over some children. -/
def errorNode (children : List Tree) (pos : Point) : Tree := mkNode "ERROR" children pos

end SourceAudit.Syntax
