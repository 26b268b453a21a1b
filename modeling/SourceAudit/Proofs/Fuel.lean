import SourceAudit.Proofs.Lowering
import Mathlib.Algebra.Order.BigOperators.Group.List
import Mathlib.Algebra.Order.Group.Nat
/-!
# The lowering does not depend on its fuel

Each lowering function takes fuel and gives up with an empty result when it runs out. One level
of a tree passes through at most three functions on the same node, so on a tree of `s` nodes
fuel `4 * s` and a little more is enough for every function: past that threshold more fuel gives
the same result and the same effects on the lowering's state. `Outline.ofTree` gives each item of
the file `4 * size + 16`, past the threshold of every tree below the root.

* `Tree.size_lt_of_mem`: a child has fewer nodes than its parent.
* `FuelSettled n`: on every tree small enough for `n`, each function gives at `n + 1` what it
  gives at `n`; `fuelSettled`: every `n` is settled, by induction with one step lemma per
  function.
* `lowerTop_fuel`, `lowerMember_fuel`, `lowerInto_fuel`: any two fuels past the threshold agree.
-/

namespace SourceAudit

namespace Syntax.Tree

/-- A tree counts itself and the nodes of its children. -/
theorem size_eq (t : Tree) : t.size = 1 + (t.children.map size).foldr (· + ·) 0 := by
  cases t with
  | node k n f s e m cs => simp [size, children]

theorem size_pos (t : Tree) : 0 < t.size := by
  rw [size_eq]
  omega

/-- A child is smaller than its parent by at least one node. -/
theorem size_lt_of_mem {t c : Tree} (h : c ∈ t.children) : c.size < t.size := by
  have := List.le_sum_of_mem (List.mem_map_of_mem h : c.size ∈ t.children.map size)
  rw [size_eq t, ← List.sum_eq_foldr]
  omega

theorem size_lt_of_mem_namedChildren {t c : Tree} (h : c ∈ t.namedChildren) : c.size < t.size :=
  size_lt_of_mem (List.mem_of_mem_filter h)

theorem size_lt_of_field? {t c : Tree} {f : String} (h : t.field? f = some c) :
    c.size < t.size :=
  size_lt_of_mem (List.mem_of_find?_eq_some h)

theorem size_lt_of_mem_fieldAll {t c : Tree} {f : String} (h : c ∈ t.fieldAll f) :
    c.size < t.size :=
  size_lt_of_mem (List.mem_of_mem_filter h)

end Syntax.Tree

namespace OfTree

open Syntax Tree

/-- Two functions that agree on the items of a list map it alike. -/
theorem mapM_congr_of_mem {m : Type → Type} [Monad m] [LawfulMonad m] {α β : Type}
    {f g : α → m β} {l : List α} (h : ∀ a ∈ l, f a = g a) : l.mapM f = l.mapM g := by
  induction l with
  | nil => rfl
  | cons a l ih =>
    rw [List.mapM_cons, List.mapM_cons, h a (by simp), ih fun b hb => h b (by simp [hb])]

/-- Two steps that agree on the items of a list fold it alike. -/
theorem foldlM_congr_of_mem {m : Type → Type} [Monad m] {α β : Type} {f g : β → α → m β}
    {l : List α} (h : ∀ b, ∀ a ∈ l, f b a = g b a) (b : β) :
    l.foldlM f b = l.foldlM g b := by
  induction l generalizing b with
  | nil => rfl
  | cons a l ih =>
    rw [List.foldlM_cons, List.foldlM_cons, h b a (by simp)]
    congr 1
    funext b'
    exact ih (fun b c hc => h b c (by simp [hc])) b'

/-- At fuel `n`, every lowering function has its result on each tree small enough: one more
unit of fuel changes nothing. A tree of size `s` needs `4 * s` and a little more, as each level
of the tree can pass through up to three functions on the same node. -/
structure FuelSettled (n : Nat) : Prop where
  top : ∀ t, 4 * t.size + 2 ≤ n → lowerTop (n + 1) t = lowerTop n t
  declaration : ∀ t, 4 * t.size + 1 ≤ n → lowerDeclaration (n + 1) t = lowerDeclaration n t
  function : ∀ t, 4 * t.size ≤ n → ∀ q, lowerFunction (n + 1) t q = lowerFunction n t q
  record : ∀ t, 4 * t.size + 1 ≤ n → ∀ q, lowerRecord (n + 1) t q = lowerRecord n t q
  members : ∀ body, 4 * body.size + 1 ≤ n → ∀ q r,
    lowerMembers (n + 1) body q r = lowerMembers n body q r
  member : ∀ m, 4 * m.size + 2 ≤ n → ∀ q r, lowerMember (n + 1) m q r = lowerMember n m q r
  memberDeclaration : ∀ t, 4 * t.size + 1 ≤ n → ∀ q r,
    lowerMemberDeclaration (n + 1) t q r = lowerMemberDeclaration n t q r
  memberFunction : ∀ t, 4 * t.size + 1 ≤ n → ∀ q r,
    lowerMemberFunction (n + 1) t q r = lowerMemberFunction n t q r
  children : ∀ t, 4 * t.size + 1 ≤ n → lowerChildren (n + 1) t = lowerChildren n t
  field : ∀ t, 4 * t.size ≤ n → ∀ fld, lowerField (n + 1) t fld = lowerField n t fld
  into : ∀ t, 4 * t.size + 2 ≤ n → lowerInto (n + 1) t = lowerInto n t
  localDeclaration : ∀ t, 4 * t.size + 1 ≤ n →
    lowerLocalDeclaration (n + 1) t = lowerLocalDeclaration n t

/-- No tree is small enough for fuel zero. -/
theorem fuelSettled_zero : FuelSettled 0 := by
  constructor <;> intro t h <;> have := size_pos t <;> omega

namespace FuelSettled

variable {n : Nat} (ih : FuelSettled n)
include ih

theorem children_succ (t : Tree) (h : 4 * t.size + 1 ≤ n + 1) :
    lowerChildren (n + 1 + 1) t = lowerChildren (n + 1) t := by
  rw [lowerChildren.eq_2, lowerChildren.eq_2, mapM_congr_of_mem fun c hc =>
    ih.into c (by have := size_lt_of_mem_namedChildren hc; omega)]

theorem field_succ (t : Tree) (h : 4 * t.size ≤ n + 1) (fld : String) :
    lowerField (n + 1 + 1) t fld = lowerField (n + 1) t fld := by
  rw [lowerField.eq_2, lowerField.eq_2]
  cases hc : t.field? fld with
  | none => rfl
  | some c => exact ih.into c (by have := size_lt_of_field? hc; omega)

theorem members_succ (body : Tree) (h : 4 * body.size + 1 ≤ n + 1) (q : String) (r : Record) :
    lowerMembers (n + 1 + 1) body q r = lowerMembers (n + 1) body q r := by
  rw [lowerMembers.eq_2, lowerMembers.eq_2]
  exact foldlM_congr_of_mem (fun r m hm =>
    ih.member m (by have := size_lt_of_mem_namedChildren hm; omega) q r) r

theorem declaration_succ (t : Tree) (h : 4 * t.size + 1 ≤ n + 1) :
    lowerDeclaration (n + 1 + 1) t = lowerDeclaration (n + 1) t := by
  rw [lowerDeclaration.eq_2, lowerDeclaration.eq_2]
  cases hty : t.field? "type" with
  | none => rfl
  | some ty => simp only [ih.record ty (by have := size_lt_of_field? hty; omega)]

theorem function_succ (t : Tree) (h : 4 * t.size ≤ n + 1) (q : Option String) :
    lowerFunction (n + 1 + 1) t q = lowerFunction (n + 1) t q := by
  rw [lowerFunction.eq_2, lowerFunction.eq_2]
  cases hb : t.field? "body" with
  | none => rfl
  | some b => simp only [ih.children b (by have := size_lt_of_field? hb; omega)]

theorem record_succ (t : Tree) (h : 4 * t.size + 1 ≤ n + 1) (q : Option String) :
    lowerRecord (n + 1 + 1) t q = lowerRecord (n + 1) t q := by
  rw [lowerRecord.eq_2, lowerRecord.eq_2]
  cases hb : t.field? "body" with
  | none => rfl
  | some b => simp only [ih.members b (by have := size_lt_of_field? hb; omega)]

theorem memberDeclaration_succ (t : Tree) (h : 4 * t.size + 1 ≤ n + 1) (q : String)
    (r : Record) :
    lowerMemberDeclaration (n + 1 + 1) t q r = lowerMemberDeclaration (n + 1) t q r := by
  rw [lowerMemberDeclaration.eq_2, lowerMemberDeclaration.eq_2]
  cases hty : t.field? "type" with
  | none => rfl
  | some ty => simp only [ih.record ty (by have := size_lt_of_field? hty; omega)]

theorem memberFunction_succ (t : Tree) (h : 4 * t.size + 1 ≤ n + 1) (q : String) (r : Record) :
    lowerMemberFunction (n + 1 + 1) t q r = lowerMemberFunction (n + 1) t q r := by
  simp only [lowerMemberFunction.eq_2, ih.function t (by omega)]

theorem member_succ (m : Tree) (h : 4 * m.size + 2 ≤ n + 1) (q : String) (r : Record) :
    lowerMember (n + 1 + 1) m q r = lowerMember (n + 1) m q r := by
  -- a template's items are its children: each carries the proof of it
  have hi : ∀ i : {i // i ∈ m.namedChildren}, 4 * i.1.size + 1 ≤ n := fun i => by
    have := size_lt_of_mem_namedChildren i.2
    omega
  rw [lowerMember.eq_2, lowerMember.eq_2, ← List.attach_map_subtype_val m.namedChildren]
  simp only [List.foldlM_map, ih.memberDeclaration m (by omega), ih.memberFunction m (by omega),
    ih.members m (by omega), ih.record m (by omega), fun i => ih.memberFunction i.1 (hi i),
    fun i => ih.memberDeclaration i.1 (hi i), fun i => ih.record i.1 (hi i)]

theorem localDeclaration_succ (t : Tree) (h : 4 * t.size + 1 ≤ n + 1) :
    lowerLocalDeclaration (n + 1 + 1) t = lowerLocalDeclaration (n + 1) t := by
  -- each declarator is a child: it carries the proof of it
  have hd : ∀ d : {d // d ∈ t.fieldAll "declarator"}, 4 * d.1.size ≤ n := fun d => by
    have := size_lt_of_mem_fieldAll d.2
    omega
  rw [lowerLocalDeclaration.eq_2, lowerLocalDeclaration.eq_2,
    ← List.attach_map_subtype_val (t.fieldAll "declarator")]
  simp only [List.mapM_map, Function.comp_def, ih.field t (by omega),
    fun d => ih.field d.1 (hd d)]
  -- the record the type defines is a child too
  cases hty : t.field? "type" with
  | none => rfl
  | some ty => simp only [ih.into ty (by have := size_lt_of_field? hty; omega)]

theorem into_succ (t : Tree) (h : 4 * t.size + 2 ≤ n + 1) :
    lowerInto (n + 1 + 1) t = lowerInto (n + 1) t := by
  rw [lowerInto.eq_2, lowerInto.eq_2]
  -- every call is on the node itself
  simp only [ih.children t (by omega), ih.localDeclaration t (by omega), ih.record t (by omega),
    ih.field t (by omega)]

theorem top_succ (t : Tree) (h : 4 * t.size + 2 ≤ n + 1) :
    lowerTop (n + 1 + 1) t = lowerTop (n + 1) t := by
  -- items below the node, each at least one level down
  have hitems : ∀ l : List Tree, (∀ c ∈ l, c.size < t.size) →
      l.mapM (fun c => lowerTop (n + 1) c) = l.mapM (fun c => lowerTop n c) :=
    fun l hl => mapM_congr_of_mem fun c hc => ih.top c (by have := hl c hc; omega)
  rw [lowerTop.eq_2, lowerTop.eq_2]
  simp only [ih.function t (by omega), ih.declaration t (by omega), ih.record t (by omega)]
  split
  -- a namespace: the items of its body
  case h_7 =>
    cases hb : t.field? "body" with
    | none => rfl
    | some body =>
      have hbody := size_lt_of_field? hb
      simp only [hitems body.namedChildren fun c hc =>
        Nat.lt_trans (size_lt_of_mem_namedChildren hc) hbody]
  -- a linkage specification: the items of its block, or its one declaration
  case h_8 =>
    cases hb : t.field? "body" with
    | none => rfl
    | some body =>
      have hbody := size_lt_of_field? hb
      simp only [hitems body.namedChildren fun c hc =>
        Nat.lt_trans (size_lt_of_mem_namedChildren hc) hbody, ih.top body (by omega)]
  -- a template: its items
  case h_9 =>
    simp only [hitems _ fun c hc => size_lt_of_mem_namedChildren (List.mem_of_mem_filter hc)]
  -- a list of declarations, an error or a conditional group: its items
  case h_10 => simp only [hitems _ fun c hc => size_lt_of_mem_namedChildren hc]
  all_goals rfl

/-- Every threshold holds one unit of fuel up. -/
theorem succ : FuelSettled (n + 1) where
  top := ih.top_succ
  declaration := ih.declaration_succ
  function := ih.function_succ
  record := ih.record_succ
  members := ih.members_succ
  member := ih.member_succ
  memberDeclaration := ih.memberDeclaration_succ
  memberFunction := ih.memberFunction_succ
  children := ih.children_succ
  field := ih.field_succ
  into := ih.into_succ
  localDeclaration := ih.localDeclaration_succ

end FuelSettled

/-- Every fuel is settled on the trees small enough for it. -/
theorem fuelSettled : ∀ n, FuelSettled n
  | 0 => fuelSettled_zero
  | n + 1 => (fuelSettled n).succ

/-- A sequence that no longer changes from `k` on takes one value past `k`. -/
theorem eq_of_settled {α : Type} (f : Nat → α) {k : Nat}
    (h : ∀ n, k ≤ n → f (n + 1) = f n) {n m : Nat} (hn : k ≤ n) (hm : n ≤ m) :
    f m = f n := by
  obtain ⟨d, rfl⟩ := Nat.exists_eq_add_of_le hm
  induction d with
  | zero => rfl
  | succ d ihd => rw [← Nat.add_assoc, h (n + d) (by omega), ihd (by omega)]

/-- A file-scope item lowers the same under any fuel past its threshold. -/
theorem lowerTop_fuel {t : Tree} {n m : Nat} (hn : 4 * t.size + 2 ≤ n) (hm : n ≤ m) :
    lowerTop m t = lowerTop n t :=
  eq_of_settled (fun k => lowerTop k t) (fun k hk => (fuelSettled k).top t hk) hn hm

/-- A member lowers the same under any fuel past its threshold. -/
theorem lowerMember_fuel {m : Tree} {n k : Nat} (hn : 4 * m.size + 2 ≤ n) (hk : n ≤ k)
    (q : String) (r : Record) : lowerMember k m q r = lowerMember n m q r :=
  eq_of_settled (fun j => lowerMember j m q r) (fun j hj => (fuelSettled j).member m hj q r) hn hk

/-- A node of a function body lowers the same under any fuel past its threshold. -/
theorem lowerInto_fuel {t : Tree} {n m : Nat} (hn : 4 * t.size + 2 ≤ n) (hm : n ≤ m) :
    lowerInto m t = lowerInto n t :=
  eq_of_settled (fun k => lowerInto k t) (fun k hk => (fuelSettled k).into t hk) hn hm

end OfTree

end SourceAudit
