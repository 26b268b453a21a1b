import SourceAudit.Ast.Walk
import Mathlib
/-!
# The body walk is a pre-order walk with pruning

`Node.walk` keeps an explicit stack: it pops a node, asks the visitor, and pushes the node's
children, first child on top, when the answer is `continue`. This module compares it with the
recursive walk `Node.visitForest`, which visits a node, then, when the node continues, walks its
children left to right, and then goes on with the node's next sibling.

The invariant of the stack is that the stack, read from the top, is the forest still to be
walked: walking the stack recursively from the current state gives what the loop will give
(`walkStack_eq_visitForest`). A pop with `continue` replaces a node by its children, which walk
first, and a pop with `skip` drops them.

* `Node.visitTree`, `Node.visitForest`: the recursive walk, with the state after it and the
  nodes it calls the visitor on, in order.
* `Node.recording`: a visitor that also records each node it is called on.
* `walkStack_eq_visitForest`: the stack invariant.
* `visitForest_sublist`: the calls come in pre-order.
* `Node.forestAncestry`, `visitForest_stateless`: when the answer depends on the node only, the
  nodes called are exactly those whose strict ancestors all continue.
* **`walk_visits_pruned_preorder`**: the walk makes the recursive walk's calls, in its order.
-/

namespace SourceAudit.Node

variable {σ : Type}

mutual

/-- The recursive walk of a tree: the visitor sees the root and, when it continues, the walk
goes on into the root's children. Gives the state after and the nodes visited, in order. -/
def visitTree (visit : σ → Node → σ × Flow) : Node → σ → σ × List Node
  | n@(.mk _ _ cs), s =>
    match visit s n with
    | (s', .continue) => ((visitForest visit cs s').1, n :: (visitForest visit cs s').2)
    | (s', .skip) => (s', [n])

/-- The recursive walk of a forest: each tree in turn, left to right. -/
def visitForest (visit : σ → Node → σ × Flow) : List Node → σ → σ × List Node
  | [], s => (s, [])
  | t :: ts, s =>
    ((visitForest visit ts (visitTree visit t s).1).1,
      (visitTree visit t s).2 ++ (visitForest visit ts (visitTree visit t s).1).2)

end

/-- The visitor `visit` that also records, after what it recorded so far, each node it is
called on. -/
def recording (visit : σ → Node → σ × Flow) (sl : σ × List Node) (n : Node) :
    (σ × List Node) × Flow :=
  (((visit sl.1 n).1, sl.2 ++ [n]), (visit sl.1 n).2)

variable (visit : σ → Node → σ × Flow)

theorem visitForest_append (xs ys : List Node) (s : σ) :
    visitForest visit (xs ++ ys) s =
      ((visitForest visit ys (visitForest visit xs s).1).1,
        (visitForest visit xs s).2 ++ (visitForest visit ys (visitForest visit xs s).1).2) := by
  induction xs generalizing s with
  | nil => simp [visitForest]
  | cons x xs ih => simp [visitForest, ih]

/-- **The stack invariant.** The stack, read from the top, is the forest still to be walked:
the loop ends in the state the recursive walk of the stack ends in. -/
theorem walkStack_eq_visitForest (stack : List Node) (s : σ) :
    Node.walkStack visit stack s = (visitForest visit stack s).1 := by
  induction stack, s using Node.walkStack.induct visit with
  | case1 s => simp [Node.walkStack, visitForest]
  | case2 n rest s s' hvisit ih =>
    -- the children pushed on top of the stack are walked before the rest
    rw [Node.walkStack, hvisit]
    dsimp only
    rw [ih, visitForest_append]
    obtain ⟨k, l, cs⟩ := n
    simp [Node.children, visitForest, visitTree, hvisit]
  | case3 n rest s s' hvisit ih =>
    rw [Node.walkStack, hvisit]
    dsimp only
    rw [ih]
    obtain ⟨k, l, cs⟩ := n
    simp [visitForest, visitTree, hvisit]

mutual

/-- Recording changes neither the answers nor the walk: the record grows by the nodes visited. -/
theorem visitTree_recording (visit : σ → Node → σ × Flow) :
    ∀ (t : Node) (s : σ) (log : List Node),
    visitTree (recording visit) t (s, log) =
      (((visitTree visit t s).1, log ++ (visitTree visit t s).2), (visitTree visit t s).2)
  | .mk k l cs, s, log => by
    rcases h : visit s (.mk k l cs) with ⟨s', _ | _⟩
    · simp [visitTree, recording, h, visitForest_recording visit cs s' (log ++ [.mk k l cs])]
    · simp [visitTree, recording, h]

theorem visitForest_recording (visit : σ → Node → σ × Flow) :
    ∀ (ts : List Node) (s : σ) (log : List Node),
    visitForest (recording visit) ts (s, log) =
      (((visitForest visit ts s).1, log ++ (visitForest visit ts s).2), (visitForest visit ts s).2)
  | [], s, log => by simp [visitForest]
  | t :: ts, s, log => by
    simp [visitForest, visitTree_recording visit t s log,
      visitForest_recording visit ts (visitTree visit t s).1 (log ++ (visitTree visit t s).2)]

end

/-- The stack walk with a recording visitor records the calls of the recursive walk. -/
theorem walk_recording (F : List Node) (s : σ) (log : List Node) :
    Node.walk F (recording visit) (s, log) =
      ((visitForest visit F s).1, log ++ (visitForest visit F s).2) := by
  rw [Node.walk, walkStack_eq_visitForest, visitForest_recording]

mutual

theorem visitTree_sublist (visit : σ → Node → σ × Flow) :
    ∀ (t : Node) (s : σ), (visitTree visit t s).2.Sublist t.preorder
  | .mk k l cs, s => by
    rcases h : visit s (.mk k l cs) with ⟨s', _ | _⟩
    · simpa [visitTree, h, Node.preorder] using visitForest_sublist visit cs s'
    · simp [visitTree, h, Node.preorder]

/-- The recursive walk visits nodes in pre-order, each position at most once. -/
theorem visitForest_sublist (visit : σ → Node → σ × Flow) :
    ∀ (ts : List Node) (s : σ), (visitForest visit ts s).2.Sublist (Node.forestPreorder ts)
  | [], s => by simp [visitForest, Node.forestPreorder]
  | t :: ts, s => by
    simpa [visitForest, Node.forestPreorder] using
      (visitTree_sublist visit t s).append (visitForest_sublist visit ts (visitTree visit t s).1)

end

/-! ### Visitors that answer by the node alone -/

mutual

/-- Each node of a tree in pre-order, with its strict ancestors, nearest first; `anc` are those
of the tree's root. -/
def ancestry (anc : List Node) : Node → List (List Node × Node)
  | n@(.mk _ _ cs) => (anc, n) :: forestAncestry (n :: anc) cs

/-- Each node of a forest in pre-order, with its strict ancestors. -/
def forestAncestry (anc : List Node) : List Node → List (List Node × Node)
  | [] => []
  | t :: ts => ancestry anc t ++ forestAncestry anc ts

end

mutual

theorem ancestry_map_snd :
    ∀ (anc : List Node) (t : Node), (ancestry anc t).map Prod.snd = t.preorder
  | anc, .mk k l cs => by simp [ancestry, Node.preorder, forestAncestry_map_snd]

/-- Without the ancestors, the entries are the pre-order flattening. -/
theorem forestAncestry_map_snd :
    ∀ (anc : List Node) (ts : List Node),
      (forestAncestry anc ts).map Prod.snd = Node.forestPreorder ts
  | anc, [] => rfl
  | anc, t :: ts => by
    simp [forestAncestry, Node.forestPreorder, ancestry_map_snd, forestAncestry_map_snd]

end

mutual

theorem ancestry_extends :
    ∀ (anc : List Node) (t : Node), ∀ e ∈ ancestry anc t, ∀ a ∈ anc, a ∈ e.1
  | anc, .mk k l cs => by
    intro e he a ha
    simp only [ancestry, List.mem_cons] at he
    rcases he with rfl | he
    · exact ha
    · exact forestAncestry_extends _ cs e he a (List.mem_cons_of_mem _ ha)

/-- An entry below a forest has the forest's ancestors among its own. -/
theorem forestAncestry_extends :
    ∀ (anc : List Node) (ts : List Node), ∀ e ∈ forestAncestry anc ts, ∀ a ∈ anc, a ∈ e.1
  | anc, [] => by simp [forestAncestry]
  | anc, t :: ts => by
    intro e he a ha
    rcases List.mem_append.mp he with he | he
    · exact ancestry_extends anc t e he a ha
    · exact forestAncestry_extends anc ts e he a ha

end

section ByNode

variable (next : σ → Node → σ) (flow : Node → Flow)

/-- Every strict ancestor of an entry continues. -/
def ancestorsContinue (e : List Node × Node) : Bool := e.1.all fun a => decide (flow a = .continue)

mutual

theorem visitTree_byNode :
    ∀ (anc : List Node) (t : Node) (s : σ), (∀ a ∈ anc, flow a = .continue) →
    (visitTree (fun s n => (next s n, flow n)) t s).2 =
      ((ancestry anc t).filter (ancestorsContinue flow)).map Prod.snd
  | anc, .mk k l cs, s, hanc => by
    have hroot : ancestorsContinue flow (anc, .mk k l cs) = true := by
      simpa [ancestorsContinue] using hanc
    rcases h : flow (.mk k l cs) with _ | _
    · -- the root continues, so its children are walked with it among their ancestors
      have hanc' : ∀ a ∈ Node.mk k l cs :: anc, flow a = .continue := by
        simpa [h] using hanc
      simp [visitTree, ancestry, h, hroot, visitForest_byNode _ cs _ hanc']
    · -- the root declines, and every entry below it has it among its ancestors
      have hnone : (forestAncestry (.mk k l cs :: anc) cs).filter (ancestorsContinue flow) = [] := by
        refine List.filter_eq_nil_iff.mpr fun e he => ?_
        have hmem := forestAncestry_extends _ cs e he _ List.mem_cons_self
        simp only [ancestorsContinue, List.all_eq_true, not_forall]
        exact ⟨_, hmem, by simp [h]⟩
      simp [visitTree, ancestry, h, hroot, hnone]

/-- **Pruning by the node.** When the answer depends on the node alone, the recursive walk
visits, in pre-order, exactly the nodes whose strict ancestors all continue. -/
theorem visitForest_byNode :
    ∀ (anc : List Node) (ts : List Node) (s : σ), (∀ a ∈ anc, flow a = .continue) →
    (visitForest (fun s n => (next s n, flow n)) ts s).2 =
      ((forestAncestry anc ts).filter (ancestorsContinue flow)).map Prod.snd
  | anc, [], s, _ => rfl
  | anc, t :: ts, s, hanc => by
    simp [visitForest, forestAncestry, visitTree_byNode anc t s hanc,
      visitForest_byNode anc ts _ hanc]

end

end ByNode

/-- **The body walk is a pre-order walk with pruning.** For every forest, every visitor,
stateful or not, and every start state, the stack walk ends in the state the recursive walk ends
in, and calls the visitor once on each node that walk visits, in its order: a node, then, when
the node answers `continue`, its children's walks left to right, and only then the node's next
sibling; below a node that answers `skip` nothing is visited. So the calls come in pre-order.
When the answer depends on the node alone, the nodes visited are exactly those whose strict
ancestors all continue; with a visitor that always continues they are the pre-order
flattening of the forest. -/
theorem walk_visits_pruned_preorder (F : List Node) (s : σ) :
    Node.walk F visit s = (visitForest visit F s).1 ∧
    (Node.walk F (recording visit) (s, [])).2 = (visitForest visit F s).2 ∧
    (Node.walk F (recording visit) (s, [])).2.Sublist (Node.forestPreorder F) ∧
    (∀ (next : σ → Node → σ) (flow : Node → Flow),
      (Node.walk F (recording fun s n => (next s n, flow n)) (s, [])).2 =
        ((forestAncestry [] F).filter (ancestorsContinue flow)).map Prod.snd) ∧
    ∀ next : σ → Node → σ,
      (Node.walk F (recording fun s n => (next s n, Flow.continue)) (s, [])).2 =
        Node.forestPreorder F := by
  have hcalls : ∀ v : σ → Node → σ × Flow,
      (Node.walk F (recording v) (s, [])).2 = (visitForest v F s).2 := fun v => by
    simp [walk_recording]
  have hbyNode : ∀ (next : σ → Node → σ) (flow : Node → Flow),
      (Node.walk F (recording fun s n => (next s n, flow n)) (s, [])).2 =
        ((forestAncestry [] F).filter (ancestorsContinue flow)).map Prod.snd :=
    fun next flow => by rw [hcalls, visitForest_byNode next flow [] F s (by simp)]
  refine ⟨walkStack_eq_visitForest visit F s, hcalls visit, ?_, hbyNode, fun next => ?_⟩
  · rw [hcalls]
    exact visitForest_sublist visit F s
  · -- an answer that is always `continue` keeps every entry
    have hall : ∀ e ∈ forestAncestry [] F, ancestorsContinue (fun _ => Flow.continue) e = true :=
      fun e _ => by simp [ancestorsContinue]
    rw [hbyNode next (fun _ => .continue), List.filter_eq_self.mpr hall, forestAncestry_map_snd]

end SourceAudit.Node
