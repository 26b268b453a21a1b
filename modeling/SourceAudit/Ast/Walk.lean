import SourceAudit.Ast.Basic
/-!
# Walking a unit

Two walks. `Node.walk` visits a body forest node by node with an explicit stack: a visitor
sees a node, may decline its children (`Flow.skip`), and threads a state of its own. With a
visitor that always continues, it sees the pre-order flattening `Node.forestPreorder`.

`Outline.visits` lists what a declaration walk dispatches, in order: every function reached
through declarations, namespace bodies and record members, and every record reached the same
way, each record before its members. After each function come the records defined in its
body (found in pre-order, method bodies included) and, below each of those, its member
records; functions of such local records are not dispatched, they belong to the body. A
reference to a record out of range is passed over.

Main definitions:
* `Node.preorder`, `Node.forestPreorder`: the pre-order view.
* `Node.walk`: the stack walk with pruning.
* `Visit`, `Outline.visits`, and `Outline.traverse`: a visitor run over the walk.
-/

namespace SourceAudit

mutual

/-- A node followed by the pre-order of its children. -/
def Node.preorder : Node → List Node
  | n@(.mk _ _ cs) => n :: Node.forestPreorder cs

/-- The pre-order of a forest: each tree's pre-order, left to right. -/
def Node.forestPreorder : List Node → List Node
  | [] => []
  | c :: cs => c.preorder ++ Node.forestPreorder cs

end

mutual

/-- Number of nodes of a tree. -/
def Node.weight : Node → Nat
  | .mk _ _ cs => 1 + Node.forestWeight cs

/-- Number of nodes of a forest. -/
def Node.forestWeight : List Node → Nat
  | [] => 0
  | c :: cs => c.weight + Node.forestWeight cs

end

theorem Node.forestWeight_append (xs ys : List Node) :
    Node.forestWeight (xs ++ ys) = Node.forestWeight xs + Node.forestWeight ys := by
  induction xs with
  | nil => simp [Node.forestWeight]
  | cons x xs ih => simp [Node.forestWeight, ih, Nat.add_assoc]

/-- Whether a walk enters a node's children. -/
inductive Flow where
  | continue
  | skip
  deriving Repr, BEq, DecidableEq, Inhabited

/-- The stack walk: pop a node, visit it, and push its children (first child on top) unless
the visitor declines them. -/
def Node.walkStack {σ : Type} (visit : σ → Node → σ × Flow) : List Node → σ → σ
  | [], s => s
  | n :: rest, s =>
    match visit s n with
    | (s', .continue) => Node.walkStack visit (n.children ++ rest) s'
    | (s', .skip) => Node.walkStack visit rest s'
termination_by stack => Node.forestWeight stack
decreasing_by
  · cases n with
    | mk k l cs =>
      simp only [Node.children, Node.forestWeight_append, Node.forestWeight, Node.weight]
      omega
  · simp only [Node.forestWeight]
    cases n with
    | mk k l cs => simp only [Node.weight]; omega

/-- **Walk a body forest** in pre-order with pruning, threading the visitor's state. -/
def Node.walk {σ : Type} (body : List Node) (visit : σ → Node → σ × Flow) (init : σ) : σ :=
  Node.walkStack visit body init

/-- What a declaration walk hands to an analysis. -/
inductive Visit where
  | function (f : Function)
  | record (id : Nat) (r : Record)
  deriving Repr, Inhabited

namespace Outline

/-- The record indices defined in a body, in pre-order. -/
def localRecordIds (body : List Node) : List Nat :=
  (Node.walk body (fun ids n => match n.kind with
    | .record id => (ids ++ [id], Flow.continue)
    | _ => (ids, Flow.continue)) [])

/-- The member records below a local record, each before its own members, where `remaining`
holds the records not on the current path. -/
def nestedVisits (u : Outline) (remaining : List Nat) (r : Record) : List Visit :=
  r.members.attach.flatMap fun ⟨d, _⟩ =>
    match d with
    | .record id =>
      match u.record? id with
      | none => []
      | some nested =>
        if _h : id ∈ remaining then
          .record id nested :: u.nestedVisits (remaining.erase id) nested
        else []
    | _ => []
termination_by remaining.length
decreasing_by
  have := List.length_erase_of_mem _h
  have := List.length_pos_of_mem _h
  omega

/-- The records defined in a function body, each followed by its member records. -/
def localVisits (u : Outline) (body : List Node) : List Visit :=
  (localRecordIds body).flatMap fun id =>
    match u.record? id with
    | none => []
    | some r => .record id r :: u.nestedVisits (List.range u.records.size |>.erase id) r

/-- The dispatches under one declaration, where `remaining` holds the records not yet entered
on the current path. -/
def visitsAvoiding (u : Outline) (remaining : List Nat) : Decl → List Visit
  | .function f => .function f :: (match f.body with
      | some body => u.localVisits body
      | none => [])
  | .record id =>
    match u.record? id with
    | none => []
    | some r =>
      if _h : id ∈ remaining then
        .record id r :: r.members.flatMap (u.visitsAvoiding (remaining.erase id))
      else []
  | .scope _ ds => ds.attach.flatMap fun ⟨d, _⟩ => u.visitsAvoiding remaining d
  | .other => []
termination_by d => (remaining.length, sizeOf d)
decreasing_by
  · have := List.length_erase_of_mem _h
    have := List.length_pos_of_mem _h
    left
    omega
  · right
    have := List.sizeOf_lt_of_mem ‹d ∈ ds›
    simp only [Decl.scope.sizeOf_spec]
    omega

/-- **Everything a declaration walk dispatches**, in order. -/
def visits (u : Outline) : List Visit :=
  u.decls.flatMap (u.visitsAvoiding (List.range u.records.size))

/-- Runs a declaration visitor over the walk: `visit` sees each dispatch once, in order,
threading the visitor's state. -/
def traverse {σ : Type} (u : Outline) (visit : σ → Visit → σ) (init : σ) : σ :=
  u.visits.foldl visit init

end Outline

end SourceAudit
