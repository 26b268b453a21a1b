import SourceAudit.Ast.OfTree
import Mathlib.Tactic.DefEqTransformations
/-!
# One induction on fuel for every lowering step

The lowering functions call one another on a fuel that goes down by one at each call. A property
of lowering steps that the monad's plumbing keeps (results, sequencing, reading the facts and the
progress, and the bookkeeping of scopes, templates and locals) holds of all twelve functions at
every fuel as soon as it holds of the one step that pushes to the arena: a record, out of fuel
and after its members. So a property of the lowering is proved by giving its plumbing lemmas and
its record case (`StepClosed`), and the case analysis over the lowering functions is made once,
here.

* `StepClosed`: what a property of steps must give.
* `AllSteps`: the property for each lowering function at one fuel.
* **`StepClosed.allSteps`**: it holds at every fuel.
-/

namespace SourceAudit.OfTree

open Syntax

/-- A property of lowering steps kept by the monad's plumbing, given for the record step: out of
fuel, and after the members of the record, at any fuel where they have it. -/
structure StepClosed (P : ∀ {α : Type}, Lower α → Prop) : Prop where
  pure : ∀ {α : Type} (a : α), P (Pure.pure a : Lower α)
  bind : ∀ {α β : Type} {x : Lower α} {k : α → Lower β}, P x → (∀ a, P (k a)) → P (x >>= k)
  read_bind : ∀ {β : Type} {k : Facts → Lower β}, (∀ a, P (k a)) → P (read >>= k)
  get_bind : ∀ {β : Type} {k : Progress → Lower β}, (∀ a, P (k a)) → P (get >>= k)
  /-- Bookkeeping that leaves the arena, the index and the key history. -/
  modify : ∀ {g : Progress → Progress}, (∀ p, (g p).records = p.records ∧
    (g p).index = p.index ∧ (g p).keys = p.keys) → P (modify g : Lower Unit)
  record_zero : ∀ t q, P (lowerRecord 0 t q)
  record_succ : ∀ n t q, (∀ body q r, P (lowerMembers n body q r)) → P (lowerRecord (n + 1) t q)

namespace StepClosed

variable {P : ∀ {α : Type}, Lower α → Prop} (hP : StepClosed P) {α β γ : Type}
include hP

omit hP in
/-- Binding a result is running the continuation on it. -/
theorem pure_bind {a : α} {k : α → Lower β} (hk : P (k a)) : P (Pure.pure a >>= k) := hk

theorem pushTemplateParams (t : Tree) : P (OfTree.pushTemplateParams t) :=
  hP.read_bind fun _ => hP.modify fun _ => ⟨rfl, rfl, rfl⟩

theorem popTemplateParams : P OfTree.popTemplateParams := hP.modify fun _ => ⟨rfl, rfl, rfl⟩

theorem pushLocals (names : List String) : P (OfTree.pushLocals names) :=
  hP.modify fun _ => ⟨rfl, rfl, rfl⟩

theorem popLocals : P OfTree.popLocals := hP.modify fun _ => ⟨rfl, rfl, rfl⟩

theorem pushLocal (d : Tree) (cs : List Node) : P (OfTree.pushLocal d cs) := by
  refine hP.read_bind fun f => ?_
  split
  · exact hP.pure _
  · exact hP.bind (hP.modify fun _ => ⟨rfl, rfl, rfl⟩) fun _ => hP.pure _

theorem mapM {g : γ → Lower β} (hg : ∀ c, P (g c)) : ∀ l : List γ, P (l.mapM g)
  | [] => hP.pure _
  | c :: l => by
    rw [List.mapM_cons]
    exact hP.bind (hg c) fun _ => hP.bind (mapM hg l) fun _ => hP.pure _

theorem foldlM {g : β → γ → Lower β} (hg : ∀ b c, P (g b c)) :
    ∀ (l : List γ) (b : β), P (l.foldlM g b)
  | [], _ => hP.pure _
  | c :: l, b => by
    rw [List.foldlM_cons]
    exact hP.bind (hg b c) fun b' => foldlM hg l b'

end StepClosed

/-- At fuel `n`, every lowering function has property `P`. -/
structure AllSteps (P : ∀ {α : Type}, Lower α → Prop) (n : Nat) : Prop where
  top : ∀ t, P (lowerTop n t)
  declaration : ∀ t, P (lowerDeclaration n t)
  function : ∀ t q, P (lowerFunction n t q)
  record : ∀ t q, P (lowerRecord n t q)
  members : ∀ body q r, P (lowerMembers n body q r)
  member : ∀ m q r, P (lowerMember n m q r)
  memberDeclaration : ∀ t q r, P (lowerMemberDeclaration n t q r)
  memberFunction : ∀ t q r, P (lowerMemberFunction n t q r)
  children : ∀ t, P (lowerChildren n t)
  field : ∀ t fld, P (lowerField n t fld)
  into : ∀ t, P (lowerInto n t)
  localDeclaration : ∀ t, P (lowerLocalDeclaration n t)

variable {P : ∀ {α : Type}, Lower α → Prop} (hP : StepClosed P)
include hP

/-- Out of fuel, every step but a record returns at once. -/
theorem allSteps_zero : AllSteps P 0 where
  top t := by rw [lowerTop.eq_1]; exact hP.pure _
  declaration t := by rw [lowerDeclaration.eq_1]; exact hP.pure _
  function t q := by rw [lowerFunction.eq_1]; exact hP.pure _
  record t q := hP.record_zero t q
  members body q r := by rw [lowerMembers.eq_1]; exact hP.pure _
  member m q r := by rw [lowerMember.eq_1]; exact hP.pure _
  memberDeclaration t q r := by rw [lowerMemberDeclaration.eq_1]; exact hP.pure _
  memberFunction t q r := by rw [lowerMemberFunction.eq_1]; exact hP.pure _
  children t := by rw [lowerChildren.eq_1]; exact hP.pure _
  field t fld := by rw [lowerField.eq_1]; exact hP.pure _
  into t := by rw [lowerInto.eq_1]; exact hP.pure _
  localDeclaration t := by rw [lowerLocalDeclaration.eq_1]; exact hP.pure _

namespace AllSteps

variable {n : Nat} (ih : AllSteps P n)
include ih

theorem children_succ (t : Tree) : P (lowerChildren (n + 1) t) := by
  rw [lowerChildren.eq_2]
  exact hP.bind (hP.mapM ih.into _) fun _ => hP.pure _

theorem field_succ (t : Tree) (fld : String) : P (lowerField (n + 1) t fld) := by
  rw [lowerField.eq_2]
  split
  · exact ih.into _
  · exact hP.pure _

theorem members_succ (body : Tree) (q : String) (r : Record) :
    P (lowerMembers (n + 1) body q r) := by
  rw [lowerMembers.eq_2]
  exact hP.foldlM (fun r m => ih.member m q r) _ r

theorem function_succ (t : Tree) (q : Option String) :
    P (lowerFunction (n + 1) t q) := by
  rw [lowerFunction.eq_2]
  split
  · split
    · refine hP.read_bind fun f => ?_
      dsimp only
      split
      · -- the body is lowered with the parameters as locals
        refine hP.bind (hP.pushLocals _) fun _ => hP.bind (ih.children _) fun _ => ?_
        exact hP.bind hP.popLocals fun _ => StepClosed.pure_bind (hP.pure _)
      · exact StepClosed.pure_bind (hP.pure _)
    · exact hP.pure _
  · exact hP.pure _

theorem declaration_succ (t : Tree) : P (lowerDeclaration (n + 1) t) := by
  rw [lowerDeclaration.eq_2]
  split
  case' h_1 =>
    split
    case' isTrue => refine hP.bind (ih.record _ none) fun _ => StepClosed.pure_bind ?_
    case' isFalse => refine StepClosed.pure_bind ?_
  case' h_2 => refine StepClosed.pure_bind ?_
  all_goals
    beta_reduce
    split
    · exact hP.pure _
    · exact hP.read_bind fun _ => hP.pure _

theorem top_succ (t : Tree) : P (lowerTop (n + 1) t) := by
  rw [lowerTop.eq_2]
  split
  case h_1 => exact hP.bind (ih.function t none) fun _ => hP.pure _
  case h_2 | h_3 => exact ih.declaration t
  case h_4 | h_5 | h_6 => exact hP.bind (ih.record t none) fun _ => hP.pure _
  case h_7 =>
    -- a namespace: its items are lowered in its scope, entered and left when it is named
    refine hP.read_bind fun f => ?_
    extract_lets src name close body
    have hclose : ∀ decls, P (close decls) := by
      intro decls
      dsimp only [close]
      split
      · exact hP.bind (hP.modify fun _ => ⟨rfl, rfl, rfl⟩) fun _ => hP.pure _
      · exact hP.pure _
    have hbody : P (body ()) := by
      dsimp only [body]
      split
      · exact hP.bind (hP.mapM ih.top _) fun _ => StepClosed.pure_bind (hclose _)
      · exact StepClosed.pure_bind (hclose _)
    generalize name = o
    cases o with
    | some nm => exact hP.bind (hP.modify fun _ => ⟨rfl, rfl, rfl⟩) fun _ => hbody
    | none => exact hbody
  case h_8 =>
    split
    · split
      · exact hP.bind (hP.mapM ih.top _) fun _ => hP.pure _
      · exact ih.top _
    · exact hP.pure _
  case h_9 =>
    -- a template: its items, with its parameters in scope
    exact hP.bind (hP.pushTemplateParams t) fun _ => hP.bind (hP.mapM ih.top _)
      fun _ => hP.bind hP.popTemplateParams fun _ => hP.pure _
  case h_10 =>
    split
    · exact hP.bind (hP.mapM ih.top _) fun _ => hP.pure _
    · exact hP.pure _

theorem member_succ (m : Tree) (q : String) (r : Record) :
    P (lowerMember (n + 1) m q r) := by
  rw [lowerMember.eq_2]
  split
  case h_1 | h_2 => exact ih.memberDeclaration m q r
  case h_3 => exact ih.memberFunction m q r
  case h_4 =>
    -- a member template: its items, with its parameters in scope
    refine hP.bind (hP.pushTemplateParams m) fun _ => hP.bind (hP.foldlM ?_ _ r)
      fun _ => hP.bind hP.popTemplateParams fun _ => hP.pure _
    intro r i
    split
    case h_1 => exact ih.memberFunction i _ r
    case h_2 | h_3 => exact ih.memberDeclaration i _ r
    case h_4 =>
      split
      · exact hP.bind (ih.record i _) fun _ => hP.pure _
      · exact hP.pure _
  case h_5 =>
    split
    · exact ih.members m q r
    · split
      · exact hP.bind (ih.record m _) fun _ => hP.pure _
      · exact hP.pure _

theorem memberDeclaration_succ (t : Tree) (q : String) (r : Record) :
    P (lowerMemberDeclaration (n + 1) t q r) := by
  rw [lowerMemberDeclaration.eq_2]
  split
  case' h_1 =>
    split
    case' isTrue => refine hP.bind (ih.record _ _) fun _ => StepClosed.pure_bind ?_
    case' isFalse => refine StepClosed.pure_bind ?_
  case' h_2 => refine StepClosed.pure_bind ?_
  all_goals
    exact hP.read_bind fun _ => hP.pure _

theorem memberFunction_succ (t : Tree) (q : String) (r : Record) :
    P (lowerMemberFunction (n + 1) t q r) := by
  rw [lowerMemberFunction.eq_2]
  refine hP.bind (ih.function t (some q)) fun fo => ?_
  cases fo <;> exact hP.pure _

theorem into_succ (t : Tree) : P (lowerInto (n + 1) t) := by
  rw [lowerInto.eq_2]
  refine hP.read_bind fun f => ?_
  dsimp only
  split
  case h_1 | h_2 | h_3 | h_4 | h_5 | h_6 | h_8 =>
    exact hP.get_bind fun _ => hP.bind (ih.children t) fun _ => hP.pure _
  case h_7 => exact hP.bind (ih.children t) fun _ => hP.pure _
  case h_9 => exact ih.localDeclaration t
  case h_10 =>
    -- a range loop: its variable, then the initializer, the range and the body
    split
    · exact hP.bind (hP.pushLocal _ _) fun _ =>
        hP.bind (hP.mapM (ih.field t) _) fun _ => hP.pure _
    · exact StepClosed.pure_bind (hP.bind (hP.mapM (ih.field t) _) fun _ => hP.pure _)
  case h_11 =>
    -- a handler: its parameters as locals, then its body
    split
    · refine hP.bind (hP.mapM ?_ _) fun _ =>
        StepClosed.pure_bind (hP.bind (ih.field t "body") fun _ => hP.pure _)
      intro prm
      split
      · exact hP.pushLocal _ _
      · exact hP.pure _
    · exact StepClosed.pure_bind (hP.bind (ih.field t "body") fun _ => hP.pure _)
  case h_12 =>
    -- a lambda: its body, with its parameters as locals
    exact hP.bind (hP.pushLocals _) fun _ => hP.bind (ih.field t "body") fun _ =>
      hP.bind hP.popLocals fun _ => hP.pure _
  case h_13 =>
    split
    · -- a local record
      exact hP.bind (ih.record t none) fun _ => hP.get_bind fun _ => hP.pure _
    · split
      · exact hP.pure _
      · exact ih.children t

theorem localDeclaration_succ (t : Tree) : P (lowerLocalDeclaration (n + 1) t) := by
  rw [lowerLocalDeclaration.eq_2]
  split
  case' h_1 =>
    split
    case' isTrue => refine hP.bind (ih.into _) fun _ => ?_
    case' isFalse => refine StepClosed.pure_bind ?_
  case' h_2 => refine StepClosed.pure_bind ?_
  -- each branch goes on with a local per declarator, over its initializer
  all_goals
    beta_reduce
    refine hP.bind (hP.mapM ?_ _) fun _ => hP.pure _
    intro d
    split
    · exact hP.pure _
    · dsimp only
      split
      · exact hP.bind (ih.field d "value") fun _ => hP.pushLocal d _
      · exact hP.bind (ih.field t "value") fun _ => hP.pushLocal d _

/-- One step of the induction on fuel. -/
theorem succ : AllSteps P (n + 1) where
  top := ih.top_succ hP
  declaration := ih.declaration_succ hP
  function := ih.function_succ hP
  record t q := hP.record_succ n t q ih.members
  members := ih.members_succ hP
  member := ih.member_succ hP
  memberDeclaration := ih.memberDeclaration_succ hP
  memberFunction := ih.memberFunction_succ hP
  children := ih.children_succ hP
  field := ih.field_succ hP
  into := ih.into_succ hP
  localDeclaration := ih.localDeclaration_succ hP

end AllSteps

/-- **A property the plumbing keeps and the record step has holds of every lowering function**,
at every fuel. -/
theorem StepClosed.allSteps : ∀ n, AllSteps P n
  | 0 => allSteps_zero hP
  | n + 1 => (StepClosed.allSteps n).succ hP

end SourceAudit.OfTree
