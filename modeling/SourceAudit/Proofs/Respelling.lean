import SourceAudit.Proofs.Arena
import Mathlib.Data.List.Basic
/-!
# Operator tokens spelled by their symbols

C++ has alternative tokens for seven operators: `and`, `or`, `not`, `bitand`, `bitor`, `xor` and
`compl` stand for `&&`, `||`, `!`, `&`, `|`, `^` and `~`. The grammar gives an operator token its
spelling as its kind, so `a and b` and `a && b` parse to trees that differ only in that token.

`Tree.spellOperators` respells every anonymous token in an `operator` field by its symbol
(`primarySpelling`) and changes nothing else: not the shape, the fields, the byte ranges, nor any
other kind. What the tree accessors make of it:

* a node keeps its kind, field, bytes and text; its children are respelled, and a child token in
  an `operator` field takes its symbol;
* `namedChildren`, `fieldAll` and `field?` of any other field commute with it;
* `size` and `hasError` stay, and a function of a node that does not tell the spellings apart
  gives the same list over `nodes` (`flatMap_nodes_spellOperators`);
* respelling twice is respelling once (`spellOperators_idem`).

A token's kind compared with a word that is no operator spelling cannot tell the two trees apart
(`kind_spellToken_beq`): that is how the lowering reads kinds.
-/

namespace SourceAudit.Syntax

/-- The symbol of an operator written with its alternative token; any other kind unchanged. -/
def primarySpelling (k : String) : String :=
  match k with
  | "and" => "&&"
  | "or" => "||"
  | "not" => "!"
  | "bitand" => "&"
  | "bitor" => "|"
  | "xor" => "^"
  | "compl" => "~"
  | k => k

example : primarySpelling "bitor" = "|" := by decide

/-- The seven alternative tokens. -/
def alternativeSpellings : List String := ["and", "or", "not", "bitand", "bitor", "xor", "compl"]

/-- Every spelling of the seven operators, alternative and symbol. -/
def operatorSpellings : List String :=
  ["and", "&&", "or", "||", "not", "!", "bitand", "&", "bitor", "|", "xor", "^", "compl", "~"]

theorem primarySpelling_of_not_mem {k : String} (h : k ∉ alternativeSpellings) :
    primarySpelling k = k := by
  unfold primarySpelling
  split <;> simp_all [alternativeSpellings]

theorem primarySpelling_idem (k : String) :
    primarySpelling (primarySpelling k) = primarySpelling k := by
  by_cases h : k ∈ alternativeSpellings
  · simp only [alternativeSpellings, List.mem_cons, List.not_mem_nil, or_false] at h
    rcases h with rfl | rfl | rfl | rfl | rfl | rfl | rfl <;> rfl
  · rw [primarySpelling_of_not_mem h, primarySpelling_of_not_mem h]

/-- Respelling cannot be seen by comparing with a word that is no operator spelling. -/
theorem primarySpelling_beq {L : String} (hL : L ∉ operatorSpellings) (k : String) :
    (primarySpelling k == L) = (k == L) := by
  by_cases h : k ∈ alternativeSpellings
  · simp only [alternativeSpellings, List.mem_cons, List.not_mem_nil, or_false] at h
    simp only [operatorSpellings, List.mem_cons, List.not_mem_nil, or_false] at hL
    rcases h with rfl | rfl | rfl | rfl | rfl | rfl | rfl <;> simp [primarySpelling] <;> grind
  · rw [primarySpelling_of_not_mem h]

theorem mem_operatorSpellings_of_mem {k : String} (h : k ∈ alternativeSpellings) :
    k ∈ operatorSpellings := by
  simp only [alternativeSpellings, List.mem_cons, List.not_mem_nil, or_false] at h
  rcases h with rfl | rfl | rfl | rfl | rfl | rfl | rfl <;> decide

theorem primarySpelling_mem {k : String} (h : k ∈ alternativeSpellings) :
    primarySpelling k ∈ operatorSpellings := by
  simp only [alternativeSpellings, List.mem_cons, List.not_mem_nil, or_false] at h
  rcases h with rfl | rfl | rfl | rfl | rfl | rfl | rfl <;> decide

namespace Tree

/-- A token in an `operator` field, respelled by its symbol; any other node unchanged. -/
def spellToken (t : Tree) : Tree :=
  if t.field == some "operator" && !t.named then t.retag (primarySpelling t.kind) t.field else t

mutual
/-- The tree with every operator token below the root spelled by its symbol. -/
def spellOperators : Tree → Tree
  | node k n f s e m cs => node k n f s e m (spellChildren cs)
/-- `spellOperators` across a list of children, each then respelled as a token. -/
def spellChildren : List Tree → List Tree
  | [] => []
  | c :: cs => (spellOperators c).spellToken :: spellChildren cs
end

theorem spellChildren_eq (cs : List Tree) :
    spellChildren cs = cs.map fun c => c.spellOperators.spellToken := by
  induction cs with
  | nil => rfl
  | cons c cs ih => rw [spellChildren, ih, List.map_cons]

/-! ### What a node keeps -/

@[simp] theorem kind_spellOperators (t : Tree) : t.spellOperators.kind = t.kind := by cases t; rfl
@[simp] theorem named_spellOperators (t : Tree) : t.spellOperators.named = t.named := by
  cases t; rfl
@[simp] theorem field_spellOperators (t : Tree) : t.spellOperators.field = t.field := by
  cases t; rfl
@[simp] theorem start_spellOperators (t : Tree) : t.spellOperators.start = t.start := by
  cases t; rfl
@[simp] theorem stop_spellOperators (t : Tree) : t.spellOperators.stop = t.stop := by cases t; rfl

@[simp] theorem children_spellOperators (t : Tree) :
    t.spellOperators.children = t.children.map fun c => c.spellOperators.spellToken := by
  cases t
  rw [spellOperators, children, children, spellChildren_eq]

@[simp] theorem named_spellToken (t : Tree) : t.spellToken.named = t.named := by
  unfold spellToken; split <;> cases t <;> rfl
@[simp] theorem field_spellToken (t : Tree) : t.spellToken.field = t.field := by
  unfold spellToken; split <;> cases t <;> rfl
@[simp] theorem start_spellToken (t : Tree) : t.spellToken.start = t.start := by
  unfold spellToken; split <;> cases t <;> rfl
@[simp] theorem stop_spellToken (t : Tree) : t.spellToken.stop = t.stop := by
  unfold spellToken; split <;> cases t <;> rfl
@[simp] theorem children_spellToken (t : Tree) : t.spellToken.children = t.children := by
  unfold spellToken; split <;> cases t <;> rfl

@[simp] theorem fieldAll_spellToken (t : Tree) (f : String) :
    t.spellToken.fieldAll f = t.fieldAll f := by
  simp [fieldAll]

@[simp] theorem text?_spellOperators (src : ByteArray) (t : Tree) :
    t.spellOperators.text? src = t.text? src := by
  simp [text?]

@[simp] theorem text_spellOperators (src : ByteArray) (t : Tree) :
    t.spellOperators.text src = t.text src := by
  simp [text]

@[simp] theorem text?_spellToken (src : ByteArray) (t : Tree) :
    t.spellToken.text? src = t.text? src := by
  simp [text?]

@[simp] theorem text_spellToken (src : ByteArray) (t : Tree) :
    t.spellToken.text src = t.text src := by
  simp [text]

/-! ### Token kinds -/

theorem kind_spellToken (t : Tree) : t.spellToken.kind =
    if t.field == some "operator" && !t.named then primarySpelling t.kind else t.kind := by
  unfold spellToken
  split
  · cases t
    rfl
  · rfl

theorem spellToken_of_named {t : Tree} (h : t.named = true) : t.spellToken = t := by
  simp [spellToken, h]

theorem spellToken_of_field {t : Tree} (h : t.field ≠ some "operator") : t.spellToken = t := by
  simp [spellToken, h]

theorem spellToken_of_not_mem {t : Tree} (h : t.kind ∉ alternativeSpellings) :
    t.spellToken = t := by
  unfold spellToken
  split
  · rw [primarySpelling_of_not_mem h]
    cases t
    rfl
  · rfl

/-- A respelled token's kind compares with any other word as the token's own kind does. -/
theorem kind_spellToken_beq {L : String} (hL : L ∉ operatorSpellings) (t : Tree) :
    (t.spellToken.kind == L) = (t.kind == L) := by
  rw [kind_spellToken]
  split
  · exact primarySpelling_beq hL _
  · rfl

/-- Respelling a token either leaves it alone or trades one operator spelling for another. -/
theorem spellToken_eq_or (t : Tree) :
    t.spellToken = t ∨
      (t.kind ∈ operatorSpellings ∧ t.spellToken.kind ∈ operatorSpellings) := by
  by_cases h : t.kind ∈ alternativeSpellings
  · right
    refine ⟨mem_operatorSpellings_of_mem h, ?_⟩
    rw [kind_spellToken]
    split
    · exact primarySpelling_mem h
    · exact mem_operatorSpellings_of_mem h
  · exact .inl (spellToken_of_not_mem h)

/-! ### Children and fields -/

@[simp] theorem namedChildren_spellOperators (t : Tree) :
    t.spellOperators.namedChildren = t.namedChildren.map spellOperators := by
  unfold namedChildren
  rw [children_spellOperators, List.filter_map]
  have hfilter : t.children.filter ((·.named) ∘ fun c => c.spellOperators.spellToken) =
      t.children.filter (·.named) :=
    List.filter_congr fun c _ => by simp
  rw [hfilter]
  -- a named child is no token, so it is only respelled below
  refine List.map_congr_left fun c hc => ?_
  exact spellToken_of_named (by simpa using (List.mem_filter.mp hc).2)

/-- Selecting by field does not look at kinds. -/
theorem filter_field_spellToken (cs : List Tree) (f : String) :
    (cs.map fun c => c.spellOperators.spellToken).filter (·.field == some f) =
      (cs.filter (·.field == some f)).map fun c => c.spellOperators.spellToken := by
  rw [List.filter_map]
  congr 1
  exact List.filter_congr fun c _ => by simp

theorem field?_spellOperators_map (t : Tree) (f : String) :
    t.spellOperators.field? f = (t.field? f).map fun c => c.spellOperators.spellToken := by
  unfold field?
  rw [children_spellOperators, List.find?_map]
  have hp : ((·.field == some f) ∘ fun c => c.spellOperators.spellToken) =
      fun c : Tree => c.field == some f := by
    funext c
    simp
  rw [hp]

/-- The child in any field but `operator` is only respelled below. -/
theorem field?_spellOperators {f : String} (hf : f ≠ "operator") (t : Tree) :
    t.spellOperators.field? f = (t.field? f).map spellOperators := by
  rw [field?_spellOperators_map]
  cases h : t.field? f with
  | none => rfl
  | some c =>
    have hc : c.field = some f := by simpa [field?] using List.find?_some h
    rw [Option.map_some, Option.map_some, spellToken_of_field (by simp [hc]; exact hf)]

theorem fieldAll_spellOperators {f : String} (hf : f ≠ "operator") (t : Tree) :
    t.spellOperators.fieldAll f = (t.fieldAll f).map spellOperators := by
  unfold fieldAll
  rw [children_spellOperators, filter_field_spellToken]
  refine List.map_congr_left fun c hc => spellToken_of_field ?_
  have := (List.mem_filter.mp hc).2
  simp only [beq_iff_eq] at this
  simp [this, hf]

/-! ### Whole-tree readings -/

theorem size_spellToken (t : Tree) : t.spellToken.size = t.size := by
  unfold spellToken
  split
  · cases t
    simp [retag, size]
  · rfl

theorem size_spellOperators : ∀ t : Tree, t.spellOperators.size = t.size
  | node k n f s e m cs => by
    have ih : ∀ c ∈ cs, c.spellOperators.spellToken.size = c.size := fun c hc => by
      rw [size_spellToken, size_spellOperators c]
    simp only [spellOperators, spellChildren_eq, size, List.attach_map_val, List.map_map]
    congr 2
    exact List.map_congr_left fun c hc => ih c hc

theorem hasError_spellToken (t : Tree) : t.spellToken.hasError = t.hasError := by
  unfold spellToken
  split
  · cases t with
    | node k n f s e m cs =>
      simp only [retag, hasError, kind,
        primarySpelling_beq (show "ERROR" ∉ operatorSpellings by decide)]
  · rfl

theorem hasError_spellOperators : ∀ t : Tree, t.spellOperators.hasError = t.hasError
  | node k n f s e m cs => by
    have ih : ∀ c ∈ cs, c.spellOperators.spellToken.hasError = c.hasError := fun c _ => by
      rw [hasError_spellToken, hasError_spellOperators c]
    have hany : (cs.map fun c => c.spellOperators.spellToken).any hasError = cs.any hasError := by
      rw [List.any_map]
      exact any_congr_of_mem ih
    simp only [spellOperators, spellChildren_eq, hasError, List.any_subtype, List.unattach_attach]
    rw [hany]

theorem nodes_eq (t : Tree) : t.nodes = t :: t.children.flatMap nodes := by
  cases t
  simp [nodes, children]

section Nodes

variable {α : Type} {g : Tree → List α}

theorem flatMap_nodes_spellToken (hg : ∀ t, g t.spellToken = g t) (t : Tree) :
    t.spellToken.nodes.flatMap g = t.nodes.flatMap g := by
  rw [nodes_eq, nodes_eq, children_spellToken, List.flatMap_cons, List.flatMap_cons, hg]

/-- What a function of a node that ignores spelling gives over all nodes of a tree. -/
theorem flatMap_nodes_spellOperators (hs : ∀ t, g t.spellToken = g t)
    (ho : ∀ t, g t.spellOperators = g t) :
    ∀ t : Tree, t.spellOperators.nodes.flatMap g = t.nodes.flatMap g
  | node k n f s e m cs => by
    have ih : ∀ c ∈ cs, c.spellOperators.spellToken.nodes.flatMap g = c.nodes.flatMap g :=
      fun c _ => by rw [flatMap_nodes_spellToken hs, flatMap_nodes_spellOperators hs ho c]
    rw [nodes_eq, nodes_eq, List.flatMap_cons, List.flatMap_cons, ho, children_spellOperators,
      List.flatMap_assoc, List.flatMap_assoc, List.flatMap_map]
    exact congrArg _ (List.flatMap_congr ih)

end Nodes

/-! ### Respelling is a normal form -/

theorem spellOperators_spellToken (t : Tree) :
    t.spellToken.spellOperators = t.spellOperators.spellToken := by
  unfold spellToken
  rw [field_spellOperators, named_spellOperators, kind_spellOperators]
  by_cases hc : (t.field == some "operator" && !t.named) = true
  · rw [if_pos hc, if_pos hc]
    cases t
    rfl
  · rw [if_neg hc, if_neg hc]

theorem spellToken_idem (t : Tree) : t.spellToken.spellToken = t.spellToken := by
  cases t with
  | node k n f s e m cs =>
    by_cases hc : (f == some "operator" && !n) = true
    · simp [spellToken, retag, field, named, kind, hc, primarySpelling_idem]
    · simp [spellToken, field, named, hc]

theorem spellOperators_idem : ∀ t : Tree, t.spellOperators.spellOperators = t.spellOperators
  | node k n f s e m cs => by
    have ih : ∀ c ∈ cs, c.spellOperators.spellToken.spellOperators.spellToken =
        c.spellOperators.spellToken := fun c _ => by
      rw [spellOperators_spellToken, spellOperators_idem c, spellToken_idem]
    simp only [spellOperators, spellChildren_eq, List.map_map]
    congr 1
    exact List.map_congr_left ih

end Tree

end SourceAudit.Syntax
