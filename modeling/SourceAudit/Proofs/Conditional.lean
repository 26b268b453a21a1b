import SourceAudit.Proofs.Fuel
import SourceAudit.Proofs.Respelling
/-!
# Conditional groups in the lowering

A preprocessor conditional (`#if`, `#ifdef`, `#ifndef`, or one of its `#elif` and `#else`
branches) is a node whose named children are its condition, or the name it tests, and then the
items it holds. Each scope lowers it from its own list of items. At file scope and in a record
body the condition adds nothing, so a group lowers as its items would in its place, whatever the
condition. A function body has no rule for the group and lowers it as its named children, the
condition first, read as an expression: a quiet condition (names, numbers, characters,
`defined` and parentheses, as the name `#ifdef` tests) adds nothing there, while a comparison,
an operator or a macro call adds its node ahead of the items.

* `lowerTop_condition`, `lowerMember_condition`: a condition lowers to nothing at file scope and
  in a record body; `lowerInto_quiet`: a quiet tree lowers to nothing in a function body.
* `Group.lowerTop_eq`, `Group.lowerMember_eq`, `Group.lowerInto_eq`: a group lowers as its items
  (in a function body, its condition and its items).
* `flatten_mapM_splice`, `foldlM_splice`: in a list, an item that lowers as its own items may
  be replaced by them.
* **`conditionalGroup_transparent`**: wrapping a run of items in a group, at each scope.
* `Outline.ofTree_congr`: trees with the same field declarations, the same error flag and
  file-scope items that lower alike have the same outline; `Outline.ofTree_unwrap`: so
  unwrapping a group among a file's items leaves the outline as it is.
-/

namespace SourceAudit

namespace OfTree

open Syntax Tree

/-- The kinds of node a directive's condition is read as: a name, a number or character,
`defined`, a macro call, a prefix or binary operator, parentheses, or the tokens of a line that
reads as none of these. The name `#ifdef` tests is an identifier. -/
def conditionKinds : List String :=
  ["identifier", "number_literal", "char_literal", "preproc_defined", "call_expression",
    "unary_expression", "binary_expression", "parenthesized_expression", "preproc_expression"]

/-- At file scope a condition lowers to nothing. -/
theorem lowerTop_condition {c : Tree} (hc : c.kind ∈ conditionKinds) :
    ∀ n, lowerTop n c = pure []
  | 0 => rfl
  | n + 1 => by
    simp only [conditionKinds, List.mem_cons, List.not_mem_nil, or_false] at hc
    -- each kind falls to the last arm, which keeps only lists, errors and groups
    rcases hc with h | h | h | h | h | h | h | h | h <;>
      simp [lowerTop.eq_2, h, isPreprocContainer]

/-- In a record body a condition lowers to nothing: the record is left as it is. -/
theorem lowerMember_condition {c : Tree} (hc : c.kind ∈ conditionKinds) :
    ∀ n q r, lowerMember n c q r = pure r
  | 0, _, _ => rfl
  | n + 1, q, r => by
    simp only [conditionKinds, List.mem_cons, List.not_mem_nil, or_false] at hc
    rcases hc with h | h | h | h | h | h | h | h | h <;>
      simp [lowerMember.eq_2, h, isPreprocContainer, isRecordDefinition, isRecordSpecifier]

/-- The kinds a function body's lowering passes over without a node of their own. -/
def quietKinds : List String :=
  ["identifier", "number_literal", "char_literal", "preproc_defined", "parenthesized_expression"]

/-- A tree with no operator or call at any depth: every named node in it is a name, a number, a
character, `defined` or parentheses. -/
def Quiet (t : Tree) : Prop := ∀ c ∈ t.nodes, c.named = true → c.kind ∈ quietKinds

/-- The children of a quiet tree are quiet. -/
theorem Quiet.of_mem {t c : Tree} (hq : Quiet t) (hc : c ∈ t.children) : Quiet c := by
  intro d hd
  apply hq d
  rw [nodes_eq]
  exact List.mem_cons_of_mem _ (List.mem_flatMap.mpr ⟨c, hc, hd⟩)

/-- Items that each lower to nothing lower to nothing together. -/
theorem flatten_mapM_nil {m : Type → Type} [Monad m] [LawfulMonad m] {α β : Type}
    {f : α → m (List β)} {l : List α} (h : ∀ a ∈ l, f a = pure []) :
    (do let cs ← l.mapM f; pure cs.flatten) = pure [] := by
  induction l with
  | nil => simp
  | cons a l ih =>
    simp only [List.mapM_cons, h a (by simp), pure_bind, bind_assoc, List.flatten_cons,
      List.nil_append]
    exact ih fun b hb => h b (List.mem_cons_of_mem a hb)

/-- A named quiet node lowers to nothing in a function body. -/
theorem lowerInto_quiet : ∀ n t, Quiet t → t.named = true → lowerInto n t = pure []
  | 0, _, _, _ => rfl
  | n + 1, t, hq, hn => by
    -- its named children are quiet too, so they lower to nothing one level down
    have hchildren : lowerChildren n t = pure [] := by
      cases n with
      | zero => rfl
      | succ n =>
        rw [lowerChildren.eq_2]
        exact flatten_mapM_nil fun c hc =>
          lowerInto_quiet n c (hq.of_mem (List.mem_of_mem_filter hc)) (List.of_mem_filter hc)
    have hk := hq t (by rw [nodes_eq]; exact List.mem_cons_self) hn
    simp only [quietKinds, List.mem_cons, List.not_mem_nil, or_false] at hk
    -- each such kind falls to the last arm, which reads the context and nothing else
    rcases hk with h | h | h | h | h <;>
      simp [lowerInto.eq_2, h, isRecordDefinition, isRecordSpecifier, hchildren] <;> rfl

/-! ### Groups at each scope -/

/-- The five kinds of a conditional group or branch. -/
theorem kind_of_isPreprocContainer {k : String} (h : isPreprocContainer k = true) :
    k = "preproc_if" ∨ k = "preproc_ifdef" ∨ k = "preproc_else" ∨ k = "preproc_elif" ∨
      k = "preproc_elifdef" := by
  simpa [isPreprocContainer] using h

/-- At file scope a conditional group is lowered as its named children. -/
theorem lowerTop_container {t : Tree} (h : isPreprocContainer t.kind = true) (n : Nat) :
    lowerTop (n + 1) t = List.flatten <$> t.namedChildren.mapM (lowerTop n) := by
  rcases kind_of_isPreprocContainer h with h | h | h | h | h <;>
    simp [lowerTop.eq_2, h, isPreprocContainer]

/-- In a record body a conditional group is lowered as a body of its own. -/
theorem lowerMember_container {t : Tree} (h : isPreprocContainer t.kind = true) (n : Nat)
    (q : String) (r : Record) : lowerMember (n + 1) t q r = lowerMembers n t q r := by
  rcases kind_of_isPreprocContainer h with h | h | h | h | h <;>
    simp [lowerMember.eq_2, h, isPreprocContainer]

/-- In a function body a conditional group is lowered as its named children. -/
theorem lowerInto_container {t : Tree} (h : isPreprocContainer t.kind = true) (n : Nat) :
    lowerInto (n + 1) t = lowerChildren n t := by
  rcases kind_of_isPreprocContainer h with h | h | h | h | h <;>
    simp [lowerInto.eq_2, h, isRecordDefinition, isRecordSpecifier] <;> rfl

/-- Lowering a list item by item and joining the results: an item that lowers as the join of
its own items may be replaced by them. -/
theorem flatten_mapM_splice {m : Type → Type} [Monad m] [LawfulMonad m] {α β : Type}
    {f : α → m (List β)} {w : α} {items : List α}
    (hw : f w = List.flatten <$> items.mapM f) (pre post : List α) :
    List.flatten <$> (pre ++ w :: post).mapM f =
      List.flatten <$> (pre ++ items ++ post).mapM f := by
  simp [List.mapM_append, hw]

/-- Folding over a list: an item that folds as its own items may be replaced by them. -/
theorem foldlM_splice {m : Type → Type} [Monad m] [LawfulMonad m] {α β : Type}
    {g : β → α → m β} {w : α} {items : List α} (hw : ∀ b, g b w = items.foldlM g b)
    (pre post : List α) (b : β) :
    (pre ++ w :: post).foldlM g b = (pre ++ items ++ post).foldlM g b := by
  simp [List.foldlM_append, hw]

/-- A conditional group around `items`: a preprocessor conditional, or one of its branches,
whose named children are its condition (or the name it tests) and then the items. -/
structure Group (w cond : Tree) (items : List Tree) : Prop where
  container : isPreprocContainer w.kind = true
  named : w.namedChildren = cond :: items

namespace Group

variable {w cond : Tree} {items : List Tree} (hg : Group w cond items)
include hg

/-- The condition is a named child of the group. -/
theorem cond_mem : cond ∈ w.namedChildren := by
  rw [hg.named]
  exact List.mem_cons_self

theorem cond_named : cond.named = true := List.of_mem_filter hg.cond_mem

/-- The condition and the items are children of the group. -/
theorem size_lt {i : Tree} (hi : i ∈ cond :: items) : i.size < w.size :=
  size_lt_of_mem_namedChildren (by rw [hg.named]; exact hi)

/-- A group holds its condition besides itself: it has two nodes at least. -/
theorem two_le_size : 2 ≤ w.size := by
  have := hg.size_lt List.mem_cons_self
  have := size_pos cond
  omega

/-- At file scope a group lowers as its items, whatever its condition. -/
theorem lowerTop_eq (hc : cond.kind ∈ conditionKinds) {n : Nat} (hn : 4 * w.size ≤ n) :
    lowerTop n w = List.flatten <$> items.mapM (lowerTop n) := by
  obtain ⟨k, rfl⟩ : ∃ k, n = k + 1 := ⟨n - 1, by have := hg.two_le_size; omega⟩
  -- the items are one level further down, with fuel to spare
  have hitems : items.mapM (lowerTop k) = items.mapM (lowerTop (k + 1)) :=
    mapM_congr_of_mem fun i hi =>
      (lowerTop_fuel (by have := hg.size_lt (List.mem_cons_of_mem _ hi); omega)
        (Nat.le_succ k)).symm
  rw [lowerTop_container hg.container, hg.named, List.mapM_cons, lowerTop_condition hc, hitems]
  simp

/-- In a record body a group lowers as its items, whatever its condition. -/
theorem lowerMember_eq (hc : cond.kind ∈ conditionKinds) {n : Nat} (hn : 4 * w.size ≤ n)
    (q : String) (r : Record) :
    lowerMember n w q r = items.foldlM (fun r m => lowerMember n m q r) r := by
  obtain ⟨k, rfl⟩ : ∃ k, n = k + 2 := ⟨n - 2, by have := hg.two_le_size; omega⟩
  rw [lowerMember_container hg.container, lowerMembers.eq_2, hg.named, List.foldlM_cons,
    lowerMember_condition hc, pure_bind]
  -- the items are two levels further down, with fuel to spare
  exact foldlM_congr_of_mem (fun r i hi =>
    (lowerMember_fuel (by have := hg.size_lt (List.mem_cons_of_mem _ hi); omega)
      (Nat.le_add_right k 2) q r).symm) r

/-- In a function body a group lowers as its condition, read as an expression, followed by its
items. -/
theorem lowerInto_eq {n : Nat} (hn : 4 * w.size ≤ n) :
    lowerInto n w = List.flatten <$> (cond :: items).mapM (lowerInto n) := by
  obtain ⟨k, rfl⟩ : ∃ k, n = k + 2 := ⟨n - 2, by have := hg.two_le_size; omega⟩
  -- the condition and the items are two levels further down, with fuel to spare
  have hnamed : (cond :: items).mapM (lowerInto k) = (cond :: items).mapM (lowerInto (k + 2)) :=
    mapM_congr_of_mem fun i hi =>
      (lowerInto_fuel (by have := hg.size_lt hi; omega) (Nat.le_add_right k 2)).symm
  rw [lowerInto_container hg.container, lowerChildren.eq_2, hg.named, hnamed]
  simp

/-- In a function body a group with a quiet condition lowers as its items. -/
theorem lowerInto_eq_of_quiet (hq : Quiet cond) {n : Nat} (hn : 4 * w.size ≤ n) :
    lowerInto n w = List.flatten <$> items.mapM (lowerInto n) := by
  rw [hg.lowerInto_eq hn, List.mapM_cons, lowerInto_quiet n cond hq hg.cond_named]
  simp

end Group

/-- **Conditional groups are transparent.** In a list of file-scope items or of record members,
a conditional group lowers exactly as the items it holds would in its place, whatever condition
it tests: the same declarations and records, in the same order, with the same effects on the
lowering's state. In a function body it lowers
as its condition, read as an expression statement, followed by its items; so it is transparent
there when the condition is quiet, as the name `#ifdef` tests is, and a condition with an
operator or a call adds its nodes ahead of the items. -/
theorem conditionalGroup_transparent {w cond : Tree} {items : List Tree}
    (hg : Group w cond items) (hc : cond.kind ∈ conditionKinds) {n : Nat} (hn : 4 * w.size ≤ n)
    (pre post : List Tree) :
    List.flatten <$> (pre ++ w :: post).mapM (lowerTop n) =
        List.flatten <$> (pre ++ items ++ post).mapM (lowerTop n) ∧
      (∀ q r, (pre ++ w :: post).foldlM (fun r m => lowerMember n m q r) r =
        (pre ++ items ++ post).foldlM (fun r m => lowerMember n m q r) r) ∧
      List.flatten <$> (pre ++ w :: post).mapM (lowerInto n) =
        List.flatten <$> (pre ++ cond :: items ++ post).mapM (lowerInto n) ∧
      (Quiet cond → List.flatten <$> (pre ++ w :: post).mapM (lowerInto n) =
        List.flatten <$> (pre ++ items ++ post).mapM (lowerInto n)) :=
  ⟨flatten_mapM_splice (hg.lowerTop_eq hc hn) pre post,
    fun q r => foldlM_splice (fun r => hg.lowerMember_eq hc hn q r) pre post r,
    flatten_mapM_splice (hg.lowerInto_eq hn) pre post,
    fun hq => flatten_mapM_splice (hg.lowerInto_eq_of_quiet hq hn) pre post⟩

/-- `#ifdef N` around one declaration, in every scope. -/
theorem ifdef_transparent :
    let p : Point := ⟨0, 0, 0⟩
    let name := Syntax.Tree.node "identifier" true (some "name") p 0 false []
    let decl := Syntax.Tree.node "declaration" true none p 0 false []
    let w := Syntax.Tree.node "preproc_ifdef" true none p 0 false
      [.node "#ifdef" false none p 0 false [], name, decl, .node "#endif" false none p 0 false []]
    List.flatten <$> [w].mapM (lowerTop 20) = List.flatten <$> [decl].mapM (lowerTop 20) ∧
      (∀ q r, [w].foldlM (fun r m => lowerMember 20 m q r) r =
        [decl].foldlM (fun r m => lowerMember 20 m q r) r) ∧
      Quiet name ∧
      List.flatten <$> [w].mapM (lowerInto 20) = List.flatten <$> [decl].mapM (lowerInto 20) := by
  intro p name decl w
  have hq : Quiet name := by
    intro c hc _
    rw [nodes_eq] at hc
    simp only [name, children, List.flatMap_nil, List.mem_singleton] at hc
    subst hc
    decide
  obtain ⟨htop, hmember, -, hinto⟩ := conditionalGroup_transparent (w := w) ⟨rfl, rfl⟩
    (by decide) (by simp [w, name, decl, size_eq, children] : 4 * w.size ≤ 20) [] []
  exact ⟨htop, hmember, hq, hinto hq⟩

/-- The file-scope items of a root lower the same under any fuel past the one the outline
gives them. -/
theorem mapM_lowerTop_fuel (root : Tree) {n : Nat} (hn : 4 * root.size + 16 ≤ n) :
    root.namedChildren.mapM (lowerTop n) =
      root.namedChildren.mapM (lowerTop (4 * root.size + 16)) :=
  mapM_congr_of_mem fun c hc =>
    lowerTop_fuel (by have := size_lt_of_mem_namedChildren hc; omega) hn

/-- What a node not a field declaration contributes to the facts is nothing, so the facts of
a list of nodes are those of its field declarations. -/
theorem flatMap_eq_of_fieldDeclarations {α : Type} {g : Tree → List α}
    (hg : ∀ t, t.kind ≠ "field_declaration" → g t = []) (l : List Tree) :
    l.flatMap g = (l.filter (·.kind == "field_declaration")).flatMap g := by
  induction l with
  | nil => rfl
  | cons t l ih =>
    by_cases h : t.kind = "field_declaration"
    · simp [h, ih]
    · simp [h, hg t h, ih]

/-- Only a field declaration declares bit-fields. -/
theorem bitfieldCaptures_of_kind (src : ByteArray) {t : Tree}
    (h : t.kind ≠ "field_declaration") : bitfieldCaptures src t = [] := by
  simp [bitfieldCaptures, h]

/-- Only a field declaration declares pointers to functions. -/
theorem fnPointerCaptures_of_kind (src : ByteArray) {t : Tree}
    (h : t.kind ≠ "field_declaration") : fnPointerCaptures src t = [] := by
  simp [fnPointerCaptures, h]

end OfTree

namespace Outline

open OfTree Syntax Tree

/-- Two trees with the same field declarations, in the same order, the same error flag, and
file-scope items that lower alike have the same outline. -/
theorem ofTree_congr (path : String) (src : ByteArray) (dialect : Dialect) {root root' : Tree}
    (hfields : root'.nodes.filter (·.kind == "field_declaration") =
      root.nodes.filter (·.kind == "field_declaration"))
    (herr : root'.hasError = root.hasError) (n : Nat) (hn : 4 * root.size + 16 ≤ n)
    (hn' : 4 * root'.size + 16 ≤ n)
    (hitems : List.flatten <$> root'.namedChildren.mapM (lowerTop n) =
      List.flatten <$> root.namedChildren.mapM (lowerTop n)) :
    ofTree path src dialect root' = ofTree path src dialect root := by
  rw [mapM_lowerTop_fuel root hn, mapM_lowerTop_fuel root' hn'] at hitems
  -- the facts are read off the field declarations only
  have hfacts : ∀ g : Tree → List String,
      (∀ t, t.kind ≠ "field_declaration" → g t = []) →
      root'.nodes.flatMap g = root.nodes.flatMap g := fun g hg => by
    rw [flatMap_eq_of_fieldDeclarations hg, flatMap_eq_of_fieldDeclarations hg root.nodes,
      hfields]
  unfold ofTree
  simp only [hfacts _ fun t => bitfieldCaptures_of_kind src,
    hfacts _ fun t => fnPointerCaptures_of_kind src, herr]
  generalize Facts.mk src dialect (root.nodes.flatMap (bitfieldCaptures src))
    (root.nodes.flatMap (fnPointerCaptures src)) = F
  have hrun := congrArg (fun x : Lower (List Decl) => (x.run F).run {}) hitems
  simp only [ReaderT.run_map, StateT.run_map] at hrun
  generalize ((root'.namedChildren.mapM (lowerTop (4 * root'.size + 16))).run F).run {} = a'
    at hrun ⊢
  generalize ((root.namedChildren.mapM (lowerTop (4 * root.size + 16))).run F).run {} = a
    at hrun ⊢
  obtain ⟨ds', p'⟩ := a'
  obtain ⟨ds, p⟩ := a
  -- the items lower to the same declarations and leave the same arena
  obtain ⟨hds, hp⟩ : ds'.flatten = ds.flatten ∧ p' = p := Prod.mk.inj hrun
  simp only [hds, hp]

/-- **Unwrapping a conditional group among the items of a file** leaves its outline as it is,
whatever condition the group tests, as long as the two trees have the same field declarations
and the same error flag: the group's own nodes (its directives, its condition, the ends of its
lines) hold no field declaration and no error. -/
theorem ofTree_unwrap (path : String) (src : ByteArray) (dialect : Dialect)
    {root root' w cond : Tree} {pre items post : List Tree} (hg : Group w cond items)
    (hc : cond.kind ∈ conditionKinds) (h : root.namedChildren = pre ++ w :: post)
    (h' : root'.namedChildren = pre ++ items ++ post)
    (hfields : root'.nodes.filter (·.kind == "field_declaration") =
      root.nodes.filter (·.kind == "field_declaration"))
    (herr : root'.hasError = root.hasError) :
    ofTree path src dialect root' = ofTree path src dialect root := by
  have hw : w.size < root.size := size_lt_of_mem_namedChildren (by rw [h]; simp)
  -- one fuel past both outlines' and the group's
  refine ofTree_congr path src dialect hfields herr (4 * root.size + 4 * root'.size + 16)
    (by omega) (by omega) ?_
  rw [h, h']
  exact (flatten_mapM_splice (hg.lowerTop_eq hc (by omega)) pre post).symm

end Outline

end SourceAudit
