/-!
# Concrete syntax trees

A parse of a C or C++ file is a tree of nodes in the shape of the grammar: each node has a
kind (`function_definition`, `identifier`, or the text of a punctuation token such as `(`),
says whether it is *named* (a grammar rule or a named token) or *anonymous* (a literal token),
may carry the name of the field it fills in its parent (`declarator`, `body`), and spans a
byte range of the source. Two kinds mark trouble: an `ERROR` node holds input that fits no
rule, and a *missing* node stands for a token the parser had to assume.

Main definitions:
* `Point`, `Tree`, with accessors.
* `Tree.namedChildren`, `Tree.field?`, `Tree.fieldAll`.
* `Tree.hasError`: some node below is an `ERROR` or missing.
* `Tree.text`: the source text of a node, or `""` when its bytes are not UTF-8.
* `Tree.nodes`: the nodes of a tree in pre-order; `Tree.sizeOf_lt_of_mem`: children are
  smaller, for recursion down a chain of children.
-/

namespace SourceAudit.Syntax

/-- A position: byte offset, and row and column counted from zero, the column in bytes. -/
structure Point where
  byte : Nat
  row : Nat
  column : Nat
  deriving Repr, BEq, DecidableEq, Inhabited

/-- A node of a concrete syntax tree. -/
inductive Tree where
  | node (kind : String) (named : Bool) (field : Option String) (start : Point) (stop : Nat)
      (missing : Bool) (children : List Tree)
  deriving Repr, Inhabited

namespace Tree

/-- The node's kind. -/
def kind : Tree → String
  | node k .. => k

/-- A rule or named token, as opposed to a literal token. -/
def named : Tree → Bool
  | node _ n .. => n

/-- The field the node fills in its parent. -/
def field : Tree → Option String
  | node _ _ f .. => f

/-- Where the node starts. -/
def start : Tree → Point
  | node _ _ _ s .. => s

/-- The byte offset just after the node. -/
def stop : Tree → Nat
  | node _ _ _ _ e .. => e

/-- A token the parser assumed without seeing it. -/
def missing : Tree → Bool
  | node _ _ _ _ _ m _ => m

/-- The children, in source order. -/
def children : Tree → List Tree
  | node _ _ _ _ _ _ cs => cs

/-- The same node filling another field. -/
def withField (t : Tree) (f : Option String) : Tree :=
  match t with
  | node k n _ s e m cs => node k n f s e m cs

/-- The same node with another kind and field. -/
def retag (t : Tree) (kind : String) (f : Option String) : Tree :=
  match t with
  | node _ n _ s e m cs => node kind n f s e m cs

/-- The named children, in source order. -/
def namedChildren (t : Tree) : List Tree := t.children.filter (·.named)

/-- The first child filling field `f`. -/
def field? (t : Tree) (f : String) : Option Tree := t.children.find? (·.field == some f)

/-- Every child filling field `f`, in source order. -/
def fieldAll (t : Tree) (f : String) : List Tree := t.children.filter (·.field == some f)

/-- Some node at or below this one is an `ERROR` node or a missing token. -/
def hasError : Tree → Bool
  | node k _ _ _ _ m cs => k == "ERROR" || m || cs.attach.any fun ⟨c, _⟩ => c.hasError

/-- The source text of a node, when its bytes are UTF-8. -/
def text? (src : ByteArray) (t : Tree) : Option String :=
  String.fromUTF8? (src.extract t.start.byte t.stop)

/-- The source text of a node: its bytes read as UTF-8, or `""` when they are not. -/
def text (src : ByteArray) (t : Tree) : String := (t.text? src).getD ""

/-- The number of nodes at or below this one. -/
def size : Tree → Nat
  | node _ _ _ _ _ _ cs => 1 + (cs.attach.map fun ⟨c, _⟩ => c.size).foldr (· + ·) 0

/-- Every node at or below this one, parents before children, siblings in source order. -/
def nodes : Tree → List Tree
  | t@(node _ _ _ _ _ _ cs) => t :: cs.attach.flatMap fun ⟨c, _⟩ => c.nodes

/-- A child is smaller than its parent. -/
theorem sizeOf_lt_of_mem {t c : Tree} (h : c ∈ t.children) : sizeOf c < sizeOf t := by
  cases t with
  | node k n f s e m cs =>
    have := List.sizeOf_lt_of_mem (show c ∈ cs from h)
    simp only [node.sizeOf_spec]
    omega

theorem sizeOf_field?_lt {t c : Tree} {f : String} (h : t.field? f = some c) :
    sizeOf c < sizeOf t :=
  sizeOf_lt_of_mem (List.mem_of_find?_eq_some h)

theorem sizeOf_head?_lt {t c : Tree} (h : t.namedChildren.head? = some c) :
    sizeOf c < sizeOf t :=
  sizeOf_lt_of_mem (List.mem_filter.mp (List.mem_of_mem_head? h)).1

theorem sizeOf_getLast?_lt {t c : Tree} (h : t.namedChildren.getLast? = some c) :
    sizeOf c < sizeOf t :=
  sizeOf_lt_of_mem (List.mem_filter.mp (List.mem_of_getLast? h)).1

end Tree

end SourceAudit.Syntax
