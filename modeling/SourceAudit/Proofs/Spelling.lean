import SourceAudit.Proofs.Respelling
import SourceAudit.Ast.OfSource
/-!
# The lowering does not see how an operator is spelled

The lowering reads an operator token only through `operatorSymbol`, whose table takes the seven
alternative tokens to their symbols. Every other node it reads by kind, field, byte range and
text, and respelling (`Tree.spellOperators`) changes none of these but the kinds of operator
tokens, which the lowering only compares with words that are no operator spelling. So each
lowering function gives the same result and the same state on a tree and on its respelling, and
so does the lowering of a whole file.

The table has no entry for the alternative tokens of the compound operators, `not_eq`, `and_eq`,
`or_eq` and `xor_eq`, and respelling leaves them alone: `a not_eq b` lowers to the symbol
`not_eq`, `a != b` to `!=`.

* `SpellingBlind n`: every lowering function at fuel `n` ignores spelling. `SpellingBlind.succ`
  is the step, one lemma per function, and `spellingBlind` the induction on the fuel.
* `Outline.ofTree_spellOperators`: a file lowers as its respelling does, the fuel, the bit-field
  and function-pointer facts and the syntax-error flag included.
* **`Outline.ofTree_eq_of_spelling_eq`**: two trees with the same respelling lower alike.
-/

namespace SourceAudit

namespace OfTree

open Syntax Tree

/-! ### Operators -/

/-- The symbol table of the lowering is `primarySpelling` applied to the operator token's kind. -/
theorem operatorSymbol_eq (t : Tree) :
    operatorSymbol t = primarySpelling (((t.field? "operator").map (·.kind)).getD "?") := rfl

/-- **An operator's symbol does not depend on its spelling**: a respelled token's kind is already
its symbol, which the table leaves as it is. -/
theorem operatorSymbol_spellOperators (t : Tree) :
    operatorSymbol t.spellOperators = operatorSymbol t := by
  rw [operatorSymbol_eq, operatorSymbol_eq, field?_spellOperators_map]
  cases h : t.field? "operator" with
  | none => rfl
  | some c =>
    simp only [Option.map_some, Option.getD_some, kind_spellToken, kind_spellOperators,
      field_spellOperators, named_spellOperators]
    split
    · exact primarySpelling_idem c.kind
    · rfl

/-! ### What the lowering reads of a node -/

@[simp] theorem location_spellOperators (t : Tree) : location t.spellOperators = location t := by
  simp [location]

@[simp] theorem location_spellToken (t : Tree) : location t.spellToken = location t := by
  simp [location]

@[simp] theorem spelled_spellOperators (src : ByteArray) (t : Tree) :
    spelled src t.spellOperators = spelled src t := by
  simp [spelled]

@[simp] theorem isRecordSpecifier_spellOperators (t : Tree) :
    isRecordSpecifier t.spellOperators = isRecordSpecifier t := by
  simp [isRecordSpecifier]

@[simp] theorem isRecordDefinition_spellOperators (t : Tree) :
    isRecordDefinition t.spellOperators = isRecordDefinition t := by
  simp [isRecordDefinition, field?_spellOperators (show "body" ≠ "operator" by decide)]

@[simp] theorem parameters_spellOperators (ps : Tree) :
    parameters ps.spellOperators = (parameters ps).map spellOperators := by
  simp [parameters, List.filter_map, Function.comp_def]

/-! ### Declarator chains

Each walks down one child a step, found by field or by position; respelling keeps which child
that is, so the walks meet the same nodes. -/

theorem findFunctionDeclarator_spellOperators (t : Tree) :
    findFunctionDeclarator t.spellOperators = (findFunctionDeclarator t).map spellOperators := by
  have hdecl : "declarator" ≠ "operator" := by decide
  rw [findFunctionDeclarator, findFunctionDeclarator, kind_spellOperators]
  split
  · -- a function declarator: kept unless it wraps a parenthesized one
    rw [field?_spellOperators hdecl]
    cases t.field? "declarator" with
    | none => rfl
    | some inner =>
      simp only [Option.map_some, kind_spellOperators]
      split <;> rfl
  case h_2 | h_3 | h_4 =>
    -- a pointer, reference or attribute: the declarator it wraps, else its last named child
    have hf := field?_spellOperators hdecl t
    have hl : t.spellOperators.namedChildren.getLast? =
        t.namedChildren.getLast?.map spellOperators := by
      rw [namedChildren_spellOperators, List.getLast?_map]
    cases hc : t.field? "declarator" with
    | some inner =>
      rw [hc, Option.map_some] at hf
      split
      next inner' h =>
        rw [hf, Option.some.injEq] at h
        subst h
        exact findFunctionDeclarator_spellOperators inner
      next h => simp [hf] at h
    | none =>
      rw [hc, Option.map_none] at hf
      split
      next inner' h => simp [hf] at h
      next =>
        cases hn : t.namedChildren.getLast? with
        | some inner =>
          rw [hn, Option.map_some] at hl
          split
          next inner' h =>
            rw [hl, Option.some.injEq] at h
            subst h
            exact findFunctionDeclarator_spellOperators inner
          next h =>
            rw [hl] at h
            cases h
        | none =>
          rw [hn, Option.map_none] at hl
          split
          next inner' h =>
            rw [hl] at h
            cases h
          next => rfl
  · rfl
termination_by sizeOf t
decreasing_by
  all_goals first
    | exact Tree.sizeOf_field?_lt ‹_›
    | exact Tree.sizeOf_getLast?_lt ‹_›

theorem declaratorName_spellOperators (src : ByteArray) (t : Tree) :
    declaratorName src t.spellOperators = declaratorName src t := by
  have hf := field?_spellOperators (show "declarator" ≠ "operator" by decide) t
  have hh : t.spellOperators.namedChildren.head? = t.namedChildren.head?.map spellOperators := by
    rw [namedChildren_spellOperators, List.head?_map]
  rw [declaratorName, declaratorName, kind_spellOperators, spelled_spellOperators]
  split
  · rfl
  · -- the name the wrapped declarator introduces, else the first named child's
    cases hc : t.field? "declarator" with
    | some inner =>
      rw [hc, Option.map_some] at hf
      split
      next inner' h =>
        rw [hf, Option.some.injEq] at h
        subst h
        exact declaratorName_spellOperators src inner
      next h => simp [hf] at h
    | none =>
      rw [hc, Option.map_none] at hf
      split
      next inner' h => simp [hf] at h
      next =>
        cases hn : t.namedChildren.head? with
        | some inner =>
          rw [hn, Option.map_some] at hh
          split
          next inner' h =>
            rw [hh, Option.some.injEq] at h
            subst h
            exact declaratorName_spellOperators src inner
          next h =>
            rw [hh] at h
            cases h
        | none =>
          rw [hn, Option.map_none] at hh
          split
          next inner' h =>
            rw [hh] at h
            cases h
          next => rfl
termination_by sizeOf t
decreasing_by
  all_goals first
    | exact Tree.sizeOf_field?_lt ‹_›
    | exact Tree.sizeOf_head?_lt ‹_›

theorem classPath_spellOperators (src : ByteArray) (t : Tree) :
    classPath src t.spellOperators = classPath src t := by
  have hscope : "scope" ≠ "operator" := by decide
  have hname : "name" ≠ "operator" := by decide
  rw [classPath, classPath, kind_spellOperators]
  split
  · -- a qualified name: its scope and its last name, each read from the same child
    dsimp only
    congr 1
    · congr 1
      split <;> split
      next c hc c' hc' =>
        rw [field?_spellOperators hscope, hc', Option.map_some, Option.some.injEq] at hc
        subst hc
        exact classPath_spellOperators src c'
      next c hc hc' => simp [field?_spellOperators hscope, hc'] at hc
      next hc c' hc' => simp [field?_spellOperators hscope, hc'] at hc
      next => rfl
    · split <;> split
      next c hc c' hc' =>
        rw [field?_spellOperators hname, hc', Option.map_some, Option.some.injEq] at hc
        subst hc
        exact classPath_spellOperators src c'
      next c hc hc' => simp [field?_spellOperators hname, hc'] at hc
      next hc c' hc' => simp [field?_spellOperators hname, hc'] at hc
      next => rfl
  · rw [field?_spellOperators hname]
    cases t.field? "name" <;> simp
  · simp
termination_by sizeOf t
decreasing_by all_goals exact Tree.sizeOf_field?_lt ‹_›

/-! ### Function facts -/

@[simp] theorem hasVirtual_spellOperators (t : Tree) :
    hasVirtual t.spellOperators = hasVirtual t := by
  simp only [hasVirtual, children_spellOperators, List.any_map, Function.comp_def,
    kind_spellToken_beq (show "virtual" ∉ operatorSpellings by decide),
    kind_spellToken_beq (show "virtual_function_specifier" ∉ operatorSpellings by decide),
    kind_spellOperators]

@[simp] theorem isDefaultedOrDeleted_spellOperators (t : Tree) :
    isDefaultedOrDeleted t.spellOperators = isDefaultedOrDeleted t := by
  simp only [isDefaultedOrDeleted, children_spellOperators, List.any_map, Function.comp_def,
    kind_spellToken_beq (show "default_method_clause" ∉ operatorSpellings by decide),
    kind_spellToken_beq (show "delete_method_clause" ∉ operatorSpellings by decide),
    kind_spellOperators]

theorem hasPrototype_spellOperators (d : Dialect) (ps : Option Tree) :
    hasPrototype d (ps.map spellOperators) = hasPrototype d ps := by
  cases d <;> cases ps <;> simp [hasPrototype, List.filter_map, Function.comp_def]

theorem paramCount_spellOperators (src : ByteArray) (ps : Tree) :
    paramCount src ps.spellOperators = paramCount src ps := by
  rw [paramCount, paramCount, parameters_spellOperators]
  cases parameters ps with
  | nil => rfl
  | cons only rest =>
    cases rest with
    | nil =>
      simp [field?_spellOperators (show "declarator" ≠ "operator" by decide),
        field?_spellOperators (show "type" ≠ "operator" by decide), Function.comp_def]
    | cons _ _ => simp

theorem paramNames_spellOperators (src : ByteArray) (fd : Tree) :
    paramNames src fd.spellOperators = paramNames src fd := by
  rw [paramNames, paramNames, field?_spellOperators (show "parameters" ≠ "operator" by decide)]
  cases fd.field? "parameters" with
  | none => rfl
  | some ps =>
    simp only [Option.map_some, beq_iff_eq, parameters_spellOperators, List.filterMap_map,
      kind_spellOperators, text_spellOperators, Option.bind_map, Function.comp_def,
      field?_spellOperators (show "declarator" ≠ "operator" by decide),
      declaratorName_spellOperators]

theorem templateParamNames_spellOperators (src : ByteArray) (t : Tree) :
    templateParamNames src t.spellOperators = templateParamNames src t := by
  simp only [templateParamNames, namedChildren_spellOperators, List.find?_map,
    Function.comp_def, kind_spellOperators]
  cases t.namedChildren.find? (·.kind == "template_parameter_list") with
  | none => rfl
  | some list =>
    simp only [Option.map_some, namedChildren_spellOperators, List.filterMap_map]
    congr 1
    funext p
    simp only [Function.comp_apply, field?_spellOperators (show "name" ≠ "operator" by decide)]
    cases p.field? "name" <;> simp [List.find?_map, Function.comp_def]

/-! ### Member facts read from every node -/

theorem bitfieldCaptures_go_spell (src : ByteArray) (cs : List Tree) :
    bitfieldCaptures.go src (cs.map fun c => c.spellOperators.spellToken) =
      bitfieldCaptures.go src cs := by
  induction cs with
  | nil => rfl
  | cons c rest ih =>
    simp only [List.map_cons, bitfieldCaptures.go, ih, List.any_map, Function.comp_def,
      kind_spellToken_beq (show "bitfield_clause" ∉ operatorSpellings by decide),
      kind_spellToken_beq (show "field_identifier" ∉ operatorSpellings by decide),
      kind_spellOperators, field_spellToken, field_spellOperators, text?_spellToken,
      text?_spellOperators]

@[simp] theorem bitfieldCaptures_spellOperators (src : ByteArray) (t : Tree) :
    bitfieldCaptures src t.spellOperators = bitfieldCaptures src t := by
  simp only [bitfieldCaptures, kind_spellOperators, children_spellOperators,
    bitfieldCaptures_go_spell]

theorem bitfieldCaptures_spellToken (src : ByteArray) (t : Tree) :
    bitfieldCaptures src t.spellToken = bitfieldCaptures src t := by
  simp only [bitfieldCaptures, bne, children_spellToken,
    kind_spellToken_beq (show "field_declaration" ∉ operatorSpellings by decide)]

@[simp] theorem fnPointerCaptures_spellOperators (src : ByteArray) (t : Tree) :
    fnPointerCaptures src t.spellOperators = fnPointerCaptures src t := by
  have hd : "declarator" ≠ "operator" := by decide
  simp only [fnPointerCaptures, kind_spellOperators, fieldAll_spellOperators hd,
    List.filter_map, Function.comp_def, List.flatMap_map, children_spellOperators,
    kind_spellToken_beq (show "pointer_declarator" ∉ operatorSpellings by decide),
    fieldAll_spellToken, List.filterMap_map, text?_spellOperators]

theorem fnPointerCaptures_spellToken (src : ByteArray) (t : Tree) :
    fnPointerCaptures src t.spellToken = fnPointerCaptures src t := by
  simp only [fnPointerCaptures, bne, fieldAll_spellToken,
    kind_spellToken_beq (show "field_declaration" ∉ operatorSpellings by decide)]

/-! ### Base clauses

The base clause is read token by token, so its tokens are seen respelled; a token that is an
operator spelling before or after only marks where a specifier starts. -/

@[simp] theorem baseType_spellOperators (f : Facts) (p : Progress) (t : Tree) :
    baseType f p t.spellOperators = baseType f p t := by
  simp [baseType, classPath_spellOperators]

/-- A pending base specifier whose class name is read from the spelled tree. -/
def PendingBase.spell (pb : PendingBase) : PendingBase :=
  { pb with type := pb.type.map spellOperators }

theorem finishBase_spell (f : Facts) (p : Progress) (tag : Tag) (pb : PendingBase)
    (done : List Base) : finishBase f p tag pb.spell done = finishBase f p tag pb done := by
  obtain ⟨start, access, isVirtual, type⟩ := pb
  cases start <;> cases type <;> simp [finishBase, PendingBase.spell]

/-- A token spelled as an operator only fixes where the pending specifier starts. -/
theorem baseStep_of_spelling (f : Facts) (p : Progress) (tag : Tag)
    (st : PendingBase × List Base) {c : Tree} (hc : c.kind ∈ operatorSpellings) :
    baseStep f p tag st c = ({ st.1 with start := st.1.start.or (some (location c)) }, st.2) := by
  have hsep : ∀ L ∈ [":", "comment", ",", "access_specifier", "public", "protected", "private",
      "virtual", "type_identifier", "qualified_identifier", "template_type"], c.kind ≠ L := by
    intro L hL hk
    rw [hk] at hc
    revert hc
    simp only [List.mem_cons, List.not_mem_nil, or_false] at hL
    rcases hL with rfl | rfl | rfl | rfl | rfl | rfl | rfl | rfl | rfl | rfl | rfl <;> decide
  unfold baseStep
  split
  · exact absurd ‹_› (hsep ":" (by simp))
  · exact absurd ‹_› (hsep "comment" (by simp))
  · exact absurd ‹_› (hsep "," (by simp))
  · have ha : ["access_specifier", "public", "protected", "private"].contains c.kind = false := by
      simp only [List.contains_eq_any_beq, List.any_cons, List.any_nil, Bool.or_false,
        Bool.or_eq_false_iff, beq_eq_false_iff_ne]
      exact ⟨hsep "access_specifier" (by simp), hsep "public" (by simp),
        hsep "protected" (by simp), hsep "private" (by simp)⟩
    have hv : (c.kind == "virtual") = false := beq_eq_false_iff_ne.mpr (hsep "virtual" (by simp))
    have ht : ["type_identifier", "qualified_identifier", "template_type"].contains c.kind =
        false := by
      simp only [List.contains_eq_any_beq, List.any_cons, List.any_nil, Bool.or_false,
        Bool.or_eq_false_iff, beq_eq_false_iff_ne]
      exact ⟨hsep "type_identifier" (by simp), hsep "qualified_identifier" (by simp),
        hsep "template_type" (by simp)⟩
    simp only [ha, hv, ht, Bool.false_eq_true, if_false]
    obtain ⟨⟨start, access, isVirtual, type⟩, done⟩ := st
    cases start <;> rfl

theorem baseStep_spell (f : Facts) (p : Progress) (tag : Tag) (st : PendingBase × List Base)
    (c : Tree) :
    baseStep f p tag (st.1.spell, st.2) c.spellOperators.spellToken =
      ((baseStep f p tag st c).1.spell, (baseStep f p tag st c).2) := by
  rcases spellToken_eq_or c.spellOperators with h | ⟨hk, hk'⟩
  · -- the token is not respelled: each branch reads the same kind, bytes and children
    rw [h]
    obtain ⟨⟨start, access, isVirtual, type⟩, done⟩ := st
    unfold baseStep
    simp only [kind_spellOperators]
    split
    · rfl
    · rfl
    · simp only [finishBase_spell]
      rfl
    · simp only [PendingBase.spell, text_spellOperators, location_spellOperators]
      cases ha : ["access_specifier", "public", "protected", "private"].contains c.kind <;>
        cases hv : c.kind == "virtual" <;>
        cases ht : ["type_identifier", "qualified_identifier", "template_type"].contains c.kind <;>
        simp only [Bool.false_eq_true, ↓reduceIte] <;> cases start <;> simp
  · -- an operator spelling before and after: both only mark where the specifier starts
    rw [kind_spellOperators] at hk
    rw [baseStep_of_spelling f p tag _ hk', baseStep_of_spelling f p tag _ hk]
    simp [PendingBase.spell]

theorem foldl_baseStep_spell (f : Facts) (p : Progress) (tag : Tag) (cs : List Tree) :
    ∀ st : PendingBase × List Base,
      (cs.map fun c => c.spellOperators.spellToken).foldl (baseStep f p tag) (st.1.spell, st.2) =
        ((cs.foldl (baseStep f p tag) st).1.spell, (cs.foldl (baseStep f p tag) st).2) := by
  induction cs with
  | nil => intro st; rfl
  | cons c cs ih =>
    intro st
    rw [List.map_cons, List.foldl_cons, List.foldl_cons, baseStep_spell, ih]

theorem lowerBases_spellOperators (f : Facts) (p : Progress) (clause : Tree) (tag : Tag) :
    lowerBases f p clause.spellOperators tag = lowerBases f p clause tag := by
  have h := foldl_baseStep_spell f p tag clause.children ({}, [])
  unfold lowerBases
  rw [children_spellOperators]
  exact congrArg (fun st => finishBase f p tag st.1 st.2) h |>.trans (finishBase_spell ..)

/-! ### Expressions and declarations -/

theorem bitfieldTarget_spellOperators (f : Facts) (locals : List (List String)) (t : Tree) :
    bitfieldTarget f locals t.spellOperators = bitfieldTarget f locals t := by
  rw [bitfieldTarget, bitfieldTarget, kind_spellOperators]
  split
  · -- parentheses: the operand inside, read from the same child
    split <;> split
    next c hc c' hc' =>
      rw [namedChildren_spellOperators, List.head?_map, hc', Option.map_some,
        Option.some.injEq] at hc
      subst hc
      exact bitfieldTarget_spellOperators f locals c'
    next c hc hc' => simp [hc'] at hc
    next hc c' hc' => simp [hc'] at hc
    next => rfl
  · rw [field?_spellOperators (show "field" ≠ "operator" by decide)]
    cases t.field? "field" <;> simp
  · simp
  · simp
  · rfl
termination_by sizeOf t
decreasing_by exact Tree.sizeOf_head?_lt ‹_›

@[simp] theorem resolveCallee_spellOperators (f : Facts) (locals : List (List String))
    (t : Tree) :
    resolveCallee f locals t.spellOperators = resolveCallee f locals t := by
  rw [resolveCallee, resolveCallee, kind_spellOperators]
  split
  · simp
  · simp
  · rw [field?_spellOperators (show "name" ≠ "operator" by decide)]
    cases t.field? "name" <;> simp
  · rw [field?_spellOperators (show "field" ≠ "operator" by decide)]
    cases t.field? "field" <;> simp
  · rfl

theorem functionDecl_spellOperators (f : Facts) (t fd : Tree) (q : Option String)
    (body : Option (List Node)) :
    functionDecl f t.spellOperators fd q body = functionDecl f t fd q body := by
  simp only [functionDecl, location_spellOperators, isDefaultedOrDeleted_spellOperators]

theorem functionDecl_declarator_spellOperators (f : Facts) (t fd : Tree) (q : Option String)
    (body : Option (List Node)) :
    functionDecl f t fd.spellOperators q body = functionDecl f t fd q body := by
  simp only [functionDecl, field?_spellOperators (show "declarator" ≠ "operator" by decide),
    field?_spellOperators (show "parameters" ≠ "operator" by decide), Option.map_map,
    Function.comp_def, spelled_spellOperators, paramCount_spellOperators]
  rw [hasPrototype_spellOperators]

theorem countDeclarator_spellOperators (t : Tree) (isStatic : Bool) (r : Record) (d : Tree) :
    countDeclarator t.spellOperators isStatic r d.spellOperators =
      countDeclarator t isStatic r d := by
  rw [countDeclarator, countDeclarator, findFunctionDeclarator_spellOperators]
  cases findFunctionDeclarator d with
  | none => rfl
  | some fd =>
    simp [field?_spellOperators (show "declarator" ≠ "operator" by decide), Function.comp_def]

theorem pushTemplateParams_spellOperators (t : Tree) :
    pushTemplateParams t.spellOperators = pushTemplateParams t := by
  simp only [pushTemplateParams, templateParamNames_spellOperators]

theorem pushLocal_spellOperators (d : Tree) (cs : List Node) :
    pushLocal d.spellOperators cs = pushLocal d cs := by
  simp only [pushLocal, declaratorName_spellOperators, location_spellOperators]

/-! ### Lists of children

The lowering runs over lists of children with `map`, `mapM` and `foldlM`; a step that ignores
spelling gives the same over a respelled list. -/

theorem map_map_spellOperators {α : Type} {g : Tree → α} (hg : ∀ t, g t.spellOperators = g t)
    (l : List Tree) : (l.map spellOperators).map g = l.map g := by
  rw [List.map_map]
  exact List.map_congr_left fun t _ => hg t

theorem mapM_map_spellOperators {α : Type} {g : Tree → Lower α}
    (hg : ∀ t, g t.spellOperators = g t) (l : List Tree) :
    (l.map spellOperators).mapM g = l.mapM g := by
  induction l with
  | nil => rfl
  | cons c l ih => rw [List.map_cons, List.mapM_cons, List.mapM_cons, hg, ih]

theorem foldlM_map_spellOperators {β : Type} {g : β → Tree → Lower β}
    (hg : ∀ b t, g b t.spellOperators = g b t) (l : List Tree) (b : β) :
    (l.map spellOperators).foldlM g b = l.foldlM g b := by
  induction l generalizing b with
  | nil => rfl
  | cons c l ih =>
    rw [List.map_cons, List.foldlM_cons, List.foldlM_cons, hg]
    congr 1
    funext b'
    exact ih b'

/-! ### The lowering functions -/

/-- At fuel `n`, every lowering function gives the same result and state on a tree as on its
respelling. A field read by `lowerField` is never `operator`: that one the lowering reads only
through `operatorSymbol`. -/
structure SpellingBlind (n : Nat) : Prop where
  top : ∀ t, lowerTop n t.spellOperators = lowerTop n t
  declaration : ∀ t, lowerDeclaration n t.spellOperators = lowerDeclaration n t
  function : ∀ t q, lowerFunction n t.spellOperators q = lowerFunction n t q
  record : ∀ t q, lowerRecord n t.spellOperators q = lowerRecord n t q
  members : ∀ body q r, lowerMembers n body.spellOperators q r = lowerMembers n body q r
  member : ∀ m q r, lowerMember n m.spellOperators q r = lowerMember n m q r
  memberDeclaration : ∀ t q r,
    lowerMemberDeclaration n t.spellOperators q r = lowerMemberDeclaration n t q r
  memberFunction : ∀ t q r,
    lowerMemberFunction n t.spellOperators q r = lowerMemberFunction n t q r
  children : ∀ t, lowerChildren n t.spellOperators = lowerChildren n t
  field : ∀ fld, fld ≠ "operator" → ∀ t,
    lowerField n t.spellOperators fld = lowerField n t fld
  into : ∀ t, lowerInto n t.spellOperators = lowerInto n t
  localDeclaration : ∀ t, lowerLocalDeclaration n t.spellOperators = lowerLocalDeclaration n t

theorem spellingBlind_zero : SpellingBlind 0 where
  top t := by rw [lowerTop.eq_1, lowerTop.eq_1]
  declaration t := by rw [lowerDeclaration.eq_1, lowerDeclaration.eq_1]
  function t q := by rw [lowerFunction.eq_1, lowerFunction.eq_1]
  record t q := by simp only [lowerRecord.eq_1, kind_spellOperators, location_spellOperators]
  members body q r := by rw [lowerMembers.eq_1, lowerMembers.eq_1]
  member m q r := by rw [lowerMember.eq_1, lowerMember.eq_1]
  memberDeclaration t q r := by rw [lowerMemberDeclaration.eq_1, lowerMemberDeclaration.eq_1]
  memberFunction t q r := by rw [lowerMemberFunction.eq_1, lowerMemberFunction.eq_1]
  children t := by rw [lowerChildren.eq_1, lowerChildren.eq_1]
  field fld _ t := by rw [lowerField.eq_1, lowerField.eq_1]
  into t := by rw [lowerInto.eq_1, lowerInto.eq_1]
  localDeclaration t := by rw [lowerLocalDeclaration.eq_1, lowerLocalDeclaration.eq_1]

namespace SpellingBlind

variable {n : Nat} (ih : SpellingBlind n)
include ih

theorem children_succ (t : Tree) :
    lowerChildren (n + 1) t.spellOperators = lowerChildren (n + 1) t := by
  rw [lowerChildren.eq_2, lowerChildren.eq_2, namedChildren_spellOperators,
    mapM_map_spellOperators ih.into]

theorem field_succ (fld : String) (hf : fld ≠ "operator") (t : Tree) :
    lowerField (n + 1) t.spellOperators fld = lowerField (n + 1) t fld := by
  rw [lowerField.eq_2, lowerField.eq_2, field?_spellOperators hf]
  cases t.field? fld with
  | none => rfl
  | some c => exact ih.into c

theorem members_succ (body : Tree) (q : String) (r : Record) :
    lowerMembers (n + 1) body.spellOperators q r = lowerMembers (n + 1) body q r := by
  rw [lowerMembers.eq_2, lowerMembers.eq_2, namedChildren_spellOperators,
    foldlM_map_spellOperators fun r m => ih.member m q r]

theorem top_succ (t : Tree) : lowerTop (n + 1) t.spellOperators = lowerTop (n + 1) t := by
  have hbody : "body" ≠ "operator" := by decide
  rw [lowerTop.eq_2, lowerTop.eq_2, kind_spellOperators]
  split
  -- a function, a declaration or a type definition, a class, struct or union
  · simp only [ih.function]
  · exact ih.declaration t
  · exact ih.declaration t
  · simp only [ih.record]
  · simp only [ih.record]
  · simp only [ih.record]
  · -- a namespace: the same name and the same items
    simp only [field?_spellOperators (show "name" ≠ "operator" by decide),
      field?_spellOperators hbody, Option.map_map, Function.comp_def, spelled_spellOperators]
    cases t.field? "body" with
    | none => rfl
    | some body =>
      simp only [Option.map_some, namedChildren_spellOperators, mapM_map_spellOperators ih.top]
  · -- a linkage specification: its block or its one declaration
    rw [field?_spellOperators hbody]
    cases t.field? "body" with
    | none => rfl
    | some body =>
      simp only [Option.map_some, kind_spellOperators, namedChildren_spellOperators,
        mapM_map_spellOperators ih.top, ih.top]
  · -- a template: the same parameters and the same items
    simp only [pushTemplateParams_spellOperators, namedChildren_spellOperators, List.filter_map,
      Function.comp_def, kind_spellOperators, mapM_map_spellOperators ih.top]
  · -- a container, or nothing
    simp only [namedChildren_spellOperators, mapM_map_spellOperators ih.top]

theorem declaration_succ (t : Tree) :
    lowerDeclaration (n + 1) t.spellOperators = lowerDeclaration (n + 1) t := by
  rw [lowerDeclaration.eq_2, lowerDeclaration.eq_2]
  -- each declarator lowers to the same function, or to none
  simp (disch := intro d
                 simp only [findFunctionDeclarator_spellOperators]
                 cases findFunctionDeclarator d <;>
                   simp only [Option.map_none, Option.map_some,
                     functionDecl_declarator_spellOperators])
    only [fieldAll_spellOperators (show "declarator" ≠ "operator" by decide),
      field?_spellOperators (show "type" ≠ "operator" by decide), kind_spellOperators,
      List.isEmpty_map, functionDecl_spellOperators, map_map_spellOperators]
  -- and the record the type defines, if any, the same way
  cases t.field? "type" with
  | none => rfl
  | some ty =>
    simp only [Option.map_some, isRecordDefinition_spellOperators,
      isRecordSpecifier_spellOperators, ih.record]

theorem function_succ (t : Tree) (q : Option String) :
    lowerFunction (n + 1) t.spellOperators q = lowerFunction (n + 1) t q := by
  rw [lowerFunction.eq_2, lowerFunction.eq_2,
    field?_spellOperators (show "declarator" ≠ "operator" by decide)]
  cases t.field? "declarator" with
  | none => rfl
  | some d =>
    simp only [Option.map_some, findFunctionDeclarator_spellOperators]
    cases findFunctionDeclarator d with
    | none => rfl
    | some fd =>
      simp only [Option.map_some, field?_spellOperators (show "body" ≠ "operator" by decide),
        paramNames_spellOperators, functionDecl_spellOperators,
        functionDecl_declarator_spellOperators]
      cases t.field? "body" with
      | none => rfl
      | some b => simp only [Option.map_some, ih.children]

theorem record_succ (t : Tree) (q : Option String) :
    lowerRecord (n + 1) t.spellOperators q = lowerRecord (n + 1) t q := by
  rw [lowerRecord.eq_2, lowerRecord.eq_2]
  simp only [field?_spellOperators (show "name" ≠ "operator" by decide),
    field?_spellOperators (show "body" ≠ "operator" by decide), Option.map_map,
    Function.comp_def, classPath_spellOperators, kind_spellOperators, location_spellOperators,
    namedChildren_spellOperators, List.find?_map, Option.isSome_map]
  -- the base clause, if any, and the body, if any, are lowered the same way
  cases t.namedChildren.find? (fun c => c.kind == "base_class_clause") <;>
    cases t.field? "body" <;>
    simp only [Option.map_none, Option.map_some, lowerBases_spellOperators, ih.members]

theorem member_succ (m : Tree) (q : String) (r : Record) :
    lowerMember (n + 1) m.spellOperators q r = lowerMember (n + 1) m q r := by
  rw [lowerMember.eq_2, lowerMember.eq_2, kind_spellOperators]
  split
  · exact ih.memberDeclaration m q r
  · exact ih.memberDeclaration m q r
  · exact ih.memberFunction m q r
  · -- a template: each item inside is lowered the same way
    simp (disch := intro r i
                   simp only [kind_spellOperators, ih.memberFunction, ih.memberDeclaration,
                     isRecordDefinition_spellOperators, ih.record])
      only [pushTemplateParams_spellOperators, namedChildren_spellOperators,
        foldlM_map_spellOperators]
  · simp only [ih.members, isRecordDefinition_spellOperators, ih.record]

theorem memberDeclaration_succ (t : Tree) (q : String) (r : Record) :
    lowerMemberDeclaration (n + 1) t.spellOperators q r = lowerMemberDeclaration (n + 1) t q r := by
  rw [lowerMemberDeclaration.eq_2, lowerMemberDeclaration.eq_2]
  simp only [field?_spellOperators (show "type" ≠ "operator" by decide),
    fieldAll_spellOperators (show "declarator" ≠ "operator" by decide), children_spellOperators,
    List.any_map, Function.comp_def,
    kind_spellToken_beq (show "storage_class_specifier" ∉ operatorSpellings by decide),
    kind_spellOperators, text_spellToken, text_spellOperators, List.foldl_map,
    countDeclarator_spellOperators]
  cases t.field? "type" with
  | none => rfl
  | some ty => simp only [Option.map_some, isRecordDefinition_spellOperators, ih.record]

theorem memberFunction_succ (t : Tree) (q : String) (r : Record) :
    lowerMemberFunction (n + 1) t.spellOperators q r = lowerMemberFunction (n + 1) t q r := by
  simp only [lowerMemberFunction.eq_2, ih.function, location_spellOperators,
    hasVirtual_spellOperators]

theorem into_succ (t : Tree) : lowerInto (n + 1) t.spellOperators = lowerInto (n + 1) t := by
  have hdecl : "declarator" ≠ "operator" := by decide
  rw [lowerInto.eq_2, lowerInto.eq_2]
  -- every field but `operator` is read respelled only below, and the operator token through its
  -- symbol and its position
  simp only [kind_spellOperators, location_spellOperators, operatorSymbol_spellOperators,
    field?_spellOperators (show "left" ≠ "operator" by decide),
    field?_spellOperators (show "argument" ≠ "operator" by decide),
    field?_spellOperators (show "consequence" ≠ "operator" by decide),
    field?_spellOperators (show "function" ≠ "operator" by decide),
    field?_spellOperators (show "arguments" ≠ "operator" by decide),
    field?_spellOperators (show "parameters" ≠ "operator" by decide),
    field?_spellOperators hdecl, fun t => field?_spellOperators_map t "operator",
    Option.bind_map, Option.isSome_map, Function.comp_def, bitfieldTarget_spellOperators,
    resolveCallee_spellOperators, ih.children, ih.localDeclaration, ih.record,
    isRecordDefinition_spellOperators, List.mapM_cons, List.mapM_nil,
    ih.field "body" (by decide), ih.field "initializer" (by decide), ih.field "right" (by decide)]
  congr 1
  funext f
  split
  -- binary, assignment and comma expressions
  · rfl
  · rfl
  · rfl
  -- unary, pointer and update expressions: the operator token keeps its place
  · cases t.field? "operator" <;> cases t.field? "argument" <;> simp
  · cases t.field? "operator" <;> cases t.field? "argument" <;> simp
  · cases t.field? "operator" <;> cases t.field? "argument" <;> simp
  -- conditional expressions
  · rfl
  -- calls: the same callee over the same arguments
  · cases t.field? "arguments" with
    | none => rfl
    | some a =>
      simp only [Option.map_some, namedChildren_spellOperators, List.filter_map,
        List.length_map, Function.comp_def, kind_spellOperators]
  -- block-scope declarations
  · rfl
  -- range loops: the same loop variable
  · cases t.field? "declarator" with
    | none => rfl
    | some d => simp only [Option.map_some, pushLocal_spellOperators]
  -- catch clauses: the same parameters
  · cases t.field? "parameters" with
    | none => rfl
    | some ps =>
      simp (disch := intro prm
                     rw [field?_spellOperators hdecl]
                     cases prm.field? "declarator" <;>
                       simp only [Option.map_none, Option.map_some, pushLocal_spellOperators])
        only [Option.map_some, parameters_spellOperators, mapM_map_spellOperators]
  -- lambdas: the same parameter names
  · cases t.field? "declarator" with
    | none => rfl
    | some d => simp only [Option.map_some, paramNames_spellOperators]
  -- records defined in the body, literals, and the rest
  · rfl

theorem localDeclaration_succ (t : Tree) :
    lowerLocalDeclaration (n + 1) t.spellOperators = lowerLocalDeclaration (n + 1) t := by
  rw [lowerLocalDeclaration.eq_2, lowerLocalDeclaration.eq_2]
  -- each declarator that declares no function gives the same local over the same initializer
  simp (disch := intro d
                 simp only [findFunctionDeclarator_spellOperators, Option.isSome_map,
                   kind_spellOperators, ih.field "value" (by decide), pushLocal_spellOperators])
    only [field?_spellOperators (show "type" ≠ "operator" by decide),
      fieldAll_spellOperators (show "declarator" ≠ "operator" by decide),
      ih.field "value" (by decide), mapM_map_spellOperators]
  -- after the record the type defines, if any
  cases t.field? "type" with
  | none => rfl
  | some ty => simp only [Option.map_some, isRecordDefinition_spellOperators, ih.into]

theorem succ : SpellingBlind (n + 1) where
  top := ih.top_succ
  declaration := ih.declaration_succ
  function := ih.function_succ
  record := ih.record_succ
  members := ih.members_succ
  member := ih.member_succ
  memberDeclaration := ih.memberDeclaration_succ
  memberFunction := ih.memberFunction_succ
  children := ih.children_succ
  field := ih.field_succ
  into := ih.into_succ
  localDeclaration := ih.localDeclaration_succ

end SpellingBlind

/-- Every lowering function, at every fuel, ignores spelling. -/
theorem spellingBlind : ∀ n, SpellingBlind n
  | 0 => spellingBlind_zero
  | n + 1 => (spellingBlind n).succ

end OfTree

namespace Outline

open OfTree Syntax Tree

/-- A file lowers as its respelling does: the same declarations and records, and the same facts
and syntax-error flag, read from the same nodes. -/
theorem ofTree_spellOperators (path : String) (src : ByteArray) (dialect : Dialect)
    (root : Tree) : ofTree path src dialect root.spellOperators = ofTree path src dialect root := by
  -- respelling keeps the size, so the fuel is the same
  simp only [ofTree, size_spellOperators, hasError_spellOperators, namedChildren_spellOperators,
    mapM_map_spellOperators (spellingBlind (4 * root.size + 16)).top,
    flatMap_nodes_spellOperators (bitfieldCaptures_spellToken src)
      (bitfieldCaptures_spellOperators src),
    flatMap_nodes_spellOperators (fnPointerCaptures_spellToken src)
      (fnPointerCaptures_spellOperators src)]

/-- **Trees that spell their operators alike lower alike.** Two trees that differ only in
whether each of the seven operators `&&`, `||`, `!`, `&`, `|`, `^`, `~` is written with its
symbol or its alternative token give the same outline: the same declarations, the same records
and the same operator symbols in every function body. -/
theorem ofTree_eq_of_spelling_eq (path : String) (src : ByteArray) (dialect : Dialect)
    {t₁ t₂ : Tree} (h : t₁.spellOperators = t₂.spellOperators) :
    ofTree path src dialect t₁ = ofTree path src dialect t₂ := by
  rw [← ofTree_spellOperators path src dialect t₁, h, ofTree_spellOperators]

/-- `a and b` lowers as the same tree with `&&` in place of `and` does. -/
theorem ofTree_and_respelled :
    let src := "bool f(int a, int b) { return a and b; }\n".toUTF8
    let t := parseSource src true
    ofTree "t.cpp" src .cpp t.spellOperators = ofTree "t.cpp" src .cpp t := by
  intro src t
  exact ofTree_eq_of_spelling_eq "t.cpp" src .cpp (spellOperators_idem t)

end Outline

end SourceAudit
