import SourceAudit.Ast.OfTree
import SourceAudit.Ast.OfSource
/-!
# Base clauses, group by group

The tokens of a base clause are read one at a time into a pending specifier, which each comma
ends and starts afresh. Read as a whole, a clause is its tokens cut at the commas, and each
group between two commas is one specifier or none, decided by that group alone:

* it is a specifier exactly when it holds a class name, and names the last one it holds;
* it starts where its first token other than `:` and comments starts;
* its access is what the last access keyword of the group spells, the record keyword's
  default when there is none or its text names no access;
* it is virtual exactly when the group says `virtual`.

So nothing read in one group reaches the next.

* `pendingOf`: the pending specifier after the tokens of a group, read off the group.
* `baseStep_pendingOf`: one token that is not a comma extends the group read so far.
* `foldl_baseStep`: the whole loop, from any group read so far.
* **`lowerBases_eq_groups`**: a clause lowers to the specifiers of its comma-separated groups.
-/

namespace SourceAudit.OfTree

open Syntax

/-- A comma ends a base specifier. -/
def isBaseComma (c : Tree) : Bool := c.kind == ","

/-- A token that fixes where a base specifier starts: anything but `:` and comments. -/
def opensBase (c : Tree) : Bool := c.kind != ":" && c.kind != "comment"

/-- An access keyword of a base clause. -/
def isAccessToken (c : Tree) : Bool :=
  ["access_specifier", "public", "protected", "private"].contains c.kind

/-- A class name of a base clause. -/
def isClassName (c : Tree) : Bool :=
  ["type_identifier", "qualified_identifier", "template_type"].contains c.kind

/-- The access the last access keyword of a group spells, if any. -/
def spelledAccess (f : Facts) (g : List Tree) : Option Access :=
  (g.filter isAccessToken).getLast?.bind fun c => Access.ofText? (c.text f.src)

/-- The specifier a comma-free group of base-clause tokens stands for: one exactly when the group
holds a class name. It starts where the group's first token other than `:` and comments starts;
the class name is such a token, so the fallback to it is never taken. -/
def groupBase (f : Facts) (p : Progress) (tag : Tag) (g : List Tree) : Option Base :=
  (g.filter isClassName).getLast?.map fun ty =>
    { loc := location ((g.find? opensBase).getD ty)
      access := (spelledAccess f g).getD tag.defaultAccess
      isVirtual := g.any (·.kind == "virtual")
      type := baseType f p ty }

/-- The pending specifier once the tokens of the group `g` are read. -/
def pendingOf (f : Facts) (g : List Tree) : PendingBase where
  start := (g.find? opensBase).map location
  access := spelledAccess f g
  isVirtual := g.any (·.kind == "virtual")
  type := (g.filter isClassName).getLast?

variable (f : Facts) (p : Progress) (tag : Tag) {c : Tree}

@[simp]
theorem pendingOf_nil : pendingOf f [] = {} := rfl

/-! ### Token classes -/

theorem opensBase_of_isClassName (h : isClassName c = true) : opensBase c = true := by
  simp only [isClassName, List.contains_cons, List.contains_nil, Bool.or_false, Bool.or_eq_true,
    beq_iff_eq] at h
  rcases h with h | h | h <;> simp [opensBase, h]

theorem isClassName_of_isAccessToken (h : isAccessToken c = true) :
    isClassName c = false ∧ (c.kind == "virtual") = false := by
  simp only [isAccessToken, List.contains_cons, List.contains_nil, Bool.or_false, Bool.or_eq_true,
    beq_iff_eq] at h
  rcases h with h | h | h | h <;> simp [isClassName, h]

/-- A token that opens no specifier (`:` or a comment) is no keyword and no class name either. -/
theorem isAccessToken_of_opensBase_eq_false (h : opensBase c = false) :
    isAccessToken c = false ∧ isClassName c = false ∧ (c.kind == "virtual") = false := by
  simp only [opensBase, Bool.and_eq_false_iff, bne_eq_false_iff_eq] at h
  rcases h with h | h <;> simp [isAccessToken, isClassName, h]

/-! ### One token -/

theorem baseStep_of_isBaseComma (hc : isBaseComma c = true) (st : PendingBase × List Base) :
    baseStep f p tag st c = ({}, finishBase f p tag st.1 st.2) := by
  simp only [isBaseComma, beq_iff_eq] at hc
  simp [baseStep, hc]

theorem baseStep_of_opensBase_eq_false (h : opensBase c = false) (st : PendingBase × List Base) :
    baseStep f p tag st c = st := by
  simp only [opensBase, Bool.and_eq_false_iff, bne_eq_false_iff_eq] at h
  rcases h with h | h <;> simp [baseStep, h]

/-- A token other than a comma, `:` or a comment fills the pending specifier: the access of a
keyword, the flag of `virtual`, a class name, and the start if none is set yet. -/
theorem baseStep_of_opensBase (ho : opensBase c = true) (hc : isBaseComma c = false)
    (pb : PendingBase) (done : List Base) :
    baseStep f p tag (pb, done) c =
      ({ start := pb.start.or (some (location c))
         access := if isAccessToken c then Access.ofText? (c.text f.src) else pb.access
         isVirtual := pb.isVirtual || c.kind == "virtual"
         type := if isClassName c then some c else pb.type }, done) := by
  unfold baseStep
  split
  case h_1 hk | h_2 hk => simp [opensBase, hk] at ho
  case h_3 hk => simp [isBaseComma, hk] at hc
  case h_4 =>
    rw [show ["access_specifier", "public", "protected", "private"].contains c.kind =
        isAccessToken c from rfl,
      show ["type_identifier", "qualified_identifier", "template_type"].contains c.kind =
        isClassName c from rfl]
    obtain ⟨start, access, isVirtual, type⟩ := pb
    -- the token kinds are disjoint, so at most one branch of the chain applies
    by_cases ha : isAccessToken c
    · obtain ⟨hn, hv⟩ := isClassName_of_isAccessToken ha
      cases start <;> simp [ha, hn, hv]
    · by_cases hv : c.kind = "virtual"
      · have hn : isClassName c = false := by simp [isClassName, hv]
        cases start <;> simp [ha, hn, hv]
      · have hv : (c.kind == "virtual") = false := by simpa using hv
        by_cases hn : isClassName c <;> cases start <;> simp [ha, hv, hn]

/-- The summary of a group with one more token. -/
theorem pendingOf_append (c : Tree) (g : List Tree) :
    pendingOf f (g ++ [c]) =
      { start := ((g.find? opensBase).or (if opensBase c then some c else none)).map location
        access := if isAccessToken c then Access.ofText? (c.text f.src) else spelledAccess f g
        isVirtual := g.any (·.kind == "virtual") || c.kind == "virtual"
        type := if isClassName c then some c else (g.filter isClassName).getLast? } := by
  simp only [pendingOf, spelledAccess, List.find?_append, List.filter_append, List.any_append,
    List.find?_singleton, List.filter_cons, List.filter_nil]
  by_cases ha : isAccessToken c <;> by_cases hn : isClassName c <;> simp [ha, hn]

/-- **One token.** A token that is not a comma extends the group read so far, whatever it is. -/
theorem baseStep_pendingOf (hc : isBaseComma c = false) (g : List Tree) (done : List Base) :
    baseStep f p tag (pendingOf f g, done) c = (pendingOf f (g ++ [c]), done) := by
  rw [pendingOf_append]
  cases ho : opensBase c with
  | false =>
    obtain ⟨ha, hn, hv⟩ := isAccessToken_of_opensBase_eq_false ho
    rw [baseStep_of_opensBase_eq_false f p tag ho]
    simp [pendingOf, ha, hn, hv]
  | true =>
    rw [baseStep_of_opensBase f p tag ho hc]
    simp [pendingOf]

/-- Ending a group keeps the specifier it stands for. -/
theorem finishBase_pendingOf (g : List Tree) (done : List Base) :
    finishBase f p tag (pendingOf f g) done = done ++ (groupBase f p tag g).toList := by
  unfold finishBase groupBase
  cases hty : (g.filter isClassName).getLast? with
  | none => simp [pendingOf, hty]
  | some ty =>
    -- the class name opens the group, so the group has a first token
    obtain ⟨hmem, hname⟩ := List.mem_filter.mp (List.mem_of_getLast? hty)
    have hfind : (g.find? opensBase).isSome :=
      List.find?_isSome.mpr ⟨ty, hmem, opensBase_of_isClassName hname⟩
    obtain ⟨first, hfirst⟩ := Option.isSome_iff_exists.mp hfind
    simp [pendingOf, hty, hfirst]

/-! ### The loop -/

/-- **The loop.** From a group `acc` read so far (held reversed, as `splitOnPPrepend` holds it),
the tokens `xs` and a last `finishBase` add the specifiers of the groups of `acc.reverse ++ xs`. -/
theorem foldl_baseStep (xs acc : List Tree) (done : List Base) :
    Function.uncurry (finishBase f p tag)
        (xs.foldl (baseStep f p tag) (pendingOf f acc.reverse, done)) =
      done ++ (xs.splitOnPPrepend isBaseComma acc).filterMap (groupBase f p tag) := by
  induction xs generalizing acc done with
  | nil =>
    rw [List.foldl_nil, List.splitOnPPrepend_nil, Function.uncurry_apply_pair,
      finishBase_pendingOf, List.filterMap_cons, List.filterMap_nil]
    cases groupBase f p tag acc.reverse <;> rfl
  | cons c xs ih =>
    rw [List.foldl_cons]
    cases hc : isBaseComma c with
    | true =>
      -- a comma ends the group read so far and starts an empty one
      have hrest := ih [] (finishBase f p tag (pendingOf f acc.reverse) done)
      rw [List.reverse_nil, pendingOf_nil, List.splitOnPPrepend_nil_right] at hrest
      rw [baseStep_of_isBaseComma f p tag hc, List.splitOnPPrepend_cons_pos hc, hrest,
        finishBase_pendingOf, List.filterMap_cons]
      cases groupBase f p tag acc.reverse <;> simp
    | false =>
      rw [baseStep_pendingOf f p tag hc, List.splitOnPPrepend_cons_neg hc, ← List.reverse_cons,
        ih]

/-- **Base clauses, group by group.** A base clause lowers to one specifier for each group of its
tokens between commas that holds a class name, in order, each read off its own group. -/
theorem lowerBases_eq_groups (clause : Tree) :
    lowerBases f p clause tag =
      (clause.children.splitOnP isBaseComma).filterMap (groupBase f p tag) := by
  unfold lowerBases
  exact foldl_baseStep f p tag clause.children [] []

/-- The `public` of the first group does not reach the second, nor the `virtual` of the second
the first: `B` is a private virtual base of the class `D`, `A` a public one. -/
example :
    let u := Outline.ofSource "t.cpp" .cpp
      "class A {};\nclass B {};\nclass D : public A, virtual B {};\n".toUTF8
    u.records.toList.map (fun r => r.bases.map fun b => (b.access, b.isVirtual)) =
      [[], [], [(.pub, false), (.priv, true)]] := by
  decide +kernel

end SourceAudit.OfTree
