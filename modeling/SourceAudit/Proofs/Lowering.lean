import SourceAudit.Proofs.Progress
/-!
# The lowering keeps its arena in order and pushes each record once

The lowering functions call one another on a fuel that goes down by one at each call, so one
induction on the fuel carries a statement about all twelve of them (`Lowers`). At every fuel,
from every sound progress, each of them leaves a sound progress, only pushes records, and owns
what it pushes: the declarations, member lists and body nodes it returns mention only records of
the arena, and the walk reaches from them exactly the records pushed meanwhile, each once.

* `lowers_zero`, `Lowers.succ`: the two steps of the induction, one lemma per lowering function.
* **`lowers`**: the statement at every fuel.
-/

namespace SourceAudit

namespace OfTree

open Syntax

/-- **The lowering at fuel `n` keeps its progress sound and owns what it pushes.** A function
owns the records defined in its body, a record owns itself and its members, the member steps
extend the record they are given, and the body steps own the records they push. -/
structure Lowers (n : Nat) : Prop where
  top : ∀ t, Spec (lowerTop n t) View.decls.Owns
  declaration : ∀ t, Spec (lowerDeclaration n t) View.decls.Owns
  function : ∀ t q, Spec (lowerFunction n t q) fun s fo R =>
    View.decls.Owns s (fo.toList.map .function) R
  record : ∀ t q, Spec (lowerRecord n t q) fun s id R => View.decls.Owns s [.record id] R
  members : ∀ body q r, Spec (lowerMembers n body q r) (Extends r)
  member : ∀ m q r, Spec (lowerMember n m q r) (Extends r)
  memberDeclaration : ∀ t q r, Spec (lowerMemberDeclaration n t q r) (Extends r)
  memberFunction : ∀ t q r, Spec (lowerMemberFunction n t q r) (Extends r)
  children : ∀ t, Spec (lowerChildren n t) View.nodes.Owns
  field : ∀ t fld, Spec (lowerField n t fld) View.nodes.Owns
  into : ∀ t, Spec (lowerInto n t) View.nodes.Owns
  localDeclaration : ∀ t, Spec (lowerLocalDeclaration n t) View.nodes.Owns

/-- Out of fuel, every step returns at once, except a record, which is pushed with nothing in
it. -/
theorem lowers_zero : Lowers 0 where
  top t f p hp := by
    rw [lowerTop.eq_1]
    exact Holds.pure hp (View.decls.owns_nil _)
  declaration t f p hp := by
    rw [lowerDeclaration.eq_1]
    exact Holds.pure hp (View.decls.owns_nil _)
  function t q f p hp := by
    rw [lowerFunction.eq_1]
    exact Holds.pure hp (View.decls.owns_nil _)
  record t q f p hp := by
    rw [lowerRecord.eq_1]
    exact Holds.pushExtended hp (Extends.of_eq rfl rfl (View.decls.owns_nil _)) (by simp)
      (Nat.le_refl _) rfl
  members body q r f p hp := by
    rw [lowerMembers.eq_1]
    exact Holds.pure hp (Extends.of_eq rfl rfl (View.decls.owns_nil _))
  member m q r f p hp := by
    rw [lowerMember.eq_1]
    exact Holds.pure hp (Extends.of_eq rfl rfl (View.decls.owns_nil _))
  memberDeclaration t q r f p hp := by
    rw [lowerMemberDeclaration.eq_1]
    exact Holds.pure hp (Extends.of_eq rfl rfl (View.decls.owns_nil _))
  memberFunction t q r f p hp := by
    rw [lowerMemberFunction.eq_1]
    exact Holds.pure hp (Extends.of_eq rfl rfl (View.decls.owns_nil _))
  children t f p hp := by
    rw [lowerChildren.eq_1]
    exact Holds.pure hp (View.nodes.owns_nil _)
  field t fld f p hp := by
    rw [lowerField.eq_1]
    exact Holds.pure hp (View.nodes.owns_nil _)
  into t f p hp := by
    rw [lowerInto.eq_1]
    exact Holds.pure hp (View.nodes.owns_nil _)
  localDeclaration t f p hp := by
    rw [lowerLocalDeclaration.eq_1]
    exact Holds.pure hp (View.nodes.owns_nil _)

namespace Lowers

variable {n : Nat} (ih : Lowers n)
include ih

/-- A record is pushed after its members, which are lowered in its own scope. -/
theorem record_succ (t : Tree) (q : Option String) :
    Spec (lowerRecord (n + 1) t q) fun s id R => View.decls.Owns s [.record id] R := by
  intro f p hp
  rw [lowerRecord.eq_2]
  refine Holds.read_bind (Holds.get_bind ?_)
  dsimp only
  split
  case' h_1 =>
    -- the members are lowered in the record's scope, which is then left again
    refine Holds.enclosed (frame_modify (fun _ => rfl) (fun _ => rfl))
      (frame_modify (fun _ => rfl) (fun _ => rfl)) hp (ih.members _ _ _) fun r' q hq hg h =>
        Holds.pure_bind (Holds.pushExtended hq h ?_ hg.size_le rfl)
  case' h_2 =>
    refine Holds.pure_bind (Holds.pushExtended hp (Extends.of_eq rfl rfl (View.decls.owns_nil _))
      ?_ (Nat.le_refl _) rfl)
  -- either way the bases were read against the arena the record started from
  all_goals
    intro b hb j hj
    dsimp only at hb
    split at hb
    · exact lowerBases_lt hp _ _ b hb j hj
    · simp at hb

/-- A function owns the records defined in its body, lowered with its parameters as locals. -/
theorem function_succ (t : Tree) (q : Option String) :
    Spec (lowerFunction (n + 1) t q) fun s fo R => View.decls.Owns s (fo.toList.map .function) R := by
  intro f p hp
  rw [lowerFunction.eq_2]
  split
  · split
    · refine Holds.read_bind ?_
      dsimp only
      split
      · exact Holds.enclosed (frame_pushLocals _) frame_popLocals hp (ih.children _)
          fun _ q hq _ h => Holds.pure_bind (Holds.pure hq ((View.owns_function_iff _).mpr h))
      · exact Holds.pure_bind (Holds.pure hp ((View.owns_function_iff _).mpr (View.nodes.owns_nil _)))
    · exact Holds.pure hp (View.decls.owns_nil _)
  · exact Holds.pure hp (View.decls.owns_nil _)

/-- The children of a node, lowered one after another, own what they pushed. -/
theorem children_succ (t : Tree) : Spec (lowerChildren (n + 1) t) View.nodes.Owns := by
  intro f p hp
  rw [lowerChildren.eq_2]
  exact Holds.mapM_flatten View.nodes ih.into _ hp

theorem field_succ (t : Tree) (fld : String) : Spec (lowerField (n + 1) t fld) View.nodes.Owns := by
  intro f p hp
  rw [lowerField.eq_2]
  split
  · exact ih.into _ f p hp
  · exact Holds.pure hp (View.nodes.owns_nil _)

/-- The members of a body, lowered one after another, extend the record. -/
theorem members_succ (body : Tree) (q : String) (r : Record) :
    Spec (lowerMembers (n + 1) body q r) (Extends r) := by
  intro f p hp
  rw [lowerMembers.eq_2]
  exact Spec.foldlM (fun r m => ih.member m q r) _ r f p hp

/-- A file-scope item owns the records it pushes: a function those of its body, a record itself,
and a namespace, linkage block, template or container those of its items. -/
theorem top_succ (t : Tree) : Spec (lowerTop (n + 1) t) View.decls.Owns := by
  intro f p hp
  rw [lowerTop.eq_2]
  split
  case h_1 => exact Holds.bind (ih.function t none f p hp) fun _ p' hp' _ h => Holds.pure hp' h
  case h_2 | h_3 => exact ih.declaration t f p hp
  case h_4 | h_5 | h_6 => exact Holds.bind (ih.record t none f p hp) fun _ p' hp' _ h => Holds.pure hp' h
  case h_7 =>
    -- a namespace: its items are lowered in its scope, entered and left when it is named
    refine Holds.read_bind ?_
    extract_lets src name close body
    have hclose : ∀ decls (q : Progress), q.Sound →
        View.decls.Owns p.records.size decls q.records →
        Holds (close decls) f q (View.decls.Owns p.records.size) := by
      intro decls q hq h
      have hscope := (View.owns_scope_iff (name.getD anonymous) decls).mpr h
      dsimp only [close]
      split
      · refine Holds.frame_bind (frame_modify (fun _ => rfl) (fun _ => rfl)) hq fun _ q' hq' hR => ?_
        refine Holds.pure hq' ?_
        rw [hR]
        exact hscope
      · exact Holds.pure hq hscope
    have hbody : ∀ q : Progress, q.Sound → q.records = p.records →
        Holds (body ()) f q (View.decls.Owns p.records.size) := by
      intro q hq hR
      dsimp only [body]
      split
      · refine Holds.bind (Spec.mapM View.decls ih.top _ f q hq) fun dss q' hq' _ h => ?_
        rw [hR] at h
        exact Holds.pure_bind (hclose _ q' hq' h)
      · refine Holds.pure_bind (hclose [] q hq ?_)
        rw [hR]
        exact View.decls.owns_nil _
    generalize name = o
    cases o with
    | some nm =>
      exact Holds.frame_bind (frame_modify (fun _ => rfl) (fun _ => rfl)) hp fun _ q hq hR =>
        hbody q hq hR
    | none => exact hbody p hp rfl
  case h_8 =>
    -- a linkage block: its declaration list, or its one declaration
    split
    · split
      · exact Holds.mapM_flatten View.decls ih.top _ hp
      · exact ih.top _ f p hp
    · exact Holds.pure hp (View.decls.owns_nil _)
  case h_9 =>
    -- a template: its items are lowered with its parameters in scope
    exact Holds.enclosed (frame_pushTemplateParams t) frame_popTemplateParams hp
      (Spec.mapM View.decls ih.top _) fun _ q hq _ h => Holds.pure hq h
  case h_10 =>
    -- a container: its items
    split
    · exact Holds.mapM_flatten View.decls ih.top _ hp
    · exact Holds.pure hp (View.decls.owns_nil _)

/-- A file-scope declaration owns the record its type defines or declares; its declarators give
functions without bodies and `other`s, which mention no record. -/
theorem declaration_succ (t : Tree) : Spec (lowerDeclaration (n + 1) t) View.decls.Owns := by
  intro f p hp
  rw [lowerDeclaration.eq_2]
  have hnil := View.decls.owns_nil p.records
  split
  case' h_1 =>
    split
    case' isTrue =>
      refine Holds.bind (ih.record _ none f p hp) fun id q hq _ hrecs => Holds.pure_bind ?_
    case' isFalse => refine Holds.pure_bind ?_
  case' h_2 => refine Holds.pure_bind ?_
  -- each branch ends with the same step on the records found so far
  all_goals
    beta_reduce
    split
    · exact Holds.pure ‹_› ‹_›
    · refine Holds.read_bind (Holds.pure ‹_› (View.owns_append_inert ‹_› ?_))
      intro d hd
      obtain ⟨x, -, rfl⟩ := List.mem_map.mp hd
      split <;> simp [Decl.refs, functionDecl]

/-- A member is a member declaration, a member function, a member template, a container of
members or a member record; each extends the record. -/
theorem member_succ (m : Tree) (q : String) (r : Record) :
    Spec (lowerMember (n + 1) m q r) (Extends r) := by
  intro f p hp
  rw [lowerMember.eq_2]
  split
  case h_1 | h_2 => exact ih.memberDeclaration m q r f p hp
  case h_3 => exact ih.memberFunction m q r f p hp
  case h_4 =>
    -- a member template: its items, with its parameters in scope
    refine Holds.enclosed (frame_pushTemplateParams m) frame_popTemplateParams hp
      (Spec.foldlM ?_ _ r) fun _ q hq _ h => Holds.pure hq h
    -- each item is a member function, a member declaration or a member record
    intro r i f q hq
    split
    case h_1 => exact ih.memberFunction i _ r f q hq
    case h_2 | h_3 => exact ih.memberDeclaration i _ r f q hq
    case h_4 =>
      split
      · exact Holds.bind_addRecord (ih.record i _ f q hq)
      · exact Holds.pure hq (Extends.of_eq rfl rfl (View.decls.owns_nil _))
  case h_5 =>
    split
    · exact ih.members m q r f p hp
    · split
      · exact Holds.bind_addRecord (ih.record m _ f p hp)
      · exact Holds.pure hp (Extends.of_eq rfl rfl (View.decls.owns_nil _))

/-- A member declaration extends the record by the record its type defines, if any; counting its
declarators changes neither bases nor members. -/
theorem memberDeclaration_succ (t : Tree) (q : String) (r : Record) :
    Spec (lowerMemberDeclaration (n + 1) t q r) (Extends r) := by
  intro f p hp
  rw [lowerMemberDeclaration.eq_2]
  have hnil : Extends r p.records.size r p.records := Extends.of_eq rfl rfl (View.decls.owns_nil _)
  split
  case' h_1 =>
    split
    case' isTrue =>
      refine Holds.bind (ih.record _ _ f p hp) fun id q hq _ h => Holds.pure_bind ?_
      have hext : Extends r p.records.size { r with members := r.members ++ [.record id] }
          q.records := Extends.add _ trivial h
    case' isFalse => refine Holds.pure_bind ?_
  case' h_2 => refine Holds.pure_bind ?_
  -- each branch ends by counting the declarators into the record built so far
  all_goals
    beta_reduce
    exact Holds.read_bind (Holds.pure ‹_› (Extends.foldl_countDeclarator ‹_› _ _ _))

/-- A member function extends the record by itself; it owns the records of its body. -/
theorem memberFunction_succ (t : Tree) (q : String) (r : Record) :
    Spec (lowerMemberFunction (n + 1) t q r) (Extends r) := by
  intro f p hp
  rw [lowerMemberFunction.eq_2]
  refine Holds.bind (ih.function t (some q) f p hp) fun fo p' hp' _ h => ?_
  cases fo with
  | some fn =>
    -- the record may have taken its destructor from this function; bases and members stay
    refine Holds.pure hp' ⟨?_, [.function fn], ?_, by simp [Decl.IsMember], h⟩
    · dsimp only
      split <;> rfl
    · dsimp only
      split <;> rfl
  | none => exact Holds.pure hp' (Extends.of_eq rfl rfl h)

/-- A body node owns the records it pushes: a local record its node with the cloned method
bodies, any other node those of its children, locals those of their initializers. -/
theorem into_succ (t : Tree) : Spec (lowerInto (n + 1) t) View.nodes.Owns := by
  intro f p hp
  rw [lowerInto.eq_2]
  refine Holds.read_bind ?_
  dsimp only
  split
  case h_1 | h_2 | h_3 | h_4 | h_5 | h_6 | h_8 =>
    exact Holds.get_bind (Holds.bind_node rfl _ (ih.children t f p hp))
  case h_7 => exact Holds.bind_node (by split <;> rfl) _ (ih.children t f p hp)
  case h_9 => exact ih.localDeclaration t f p hp
  case h_10 =>
    -- a range loop: its variable, then the initializer, the range and the body
    split
    · refine Holds.bind (Holds.pushLocal hp _ (View.nodes.owns_nil _)) fun decl q hq hg h => ?_
      exact Holds.bind_append View.nodes hq hg.size_le h
        (Spec.mapM View.nodes (ih.field t) _ f q hq)
    · exact Holds.pure_bind (Holds.bind_append View.nodes hp (Nat.le_refl _)
        (View.nodes.owns_nil _) (Spec.mapM View.nodes (ih.field t) _ f p hp))
  case h_11 =>
    -- a handler: its parameters as locals, then its body
    split
    · refine Holds.bind (Spec.mapM View.nodes ?_ _ f p hp) fun ls q hq hg h => Holds.pure_bind ?_
      · intro prm f q hq
        split
        · exact Holds.pushLocal hq _ (View.nodes.owns_nil _)
        · exact Holds.pure hq (View.nodes.owns_nil _)
      · exact Holds.bind_append View.nodes hq hg.size_le h (ih.field t "body" f q hq)
    · exact Holds.pure_bind (Holds.bind_append View.nodes hp (Nat.le_refl _)
        (View.nodes.owns_nil _) (ih.field t "body" f p hp))
  case h_12 =>
    -- a lambda: its body, with its parameters as locals
    exact Holds.enclosed (frame_pushLocals _) frame_popLocals hp (ih.field t "body")
      fun body q hq _ h => Holds.pure hq ((View.owns_node_iff rfl _ body).mpr h)
  case h_13 =>
    split
    · -- a local record: its node holds the bodies of its member functions
      refine Holds.bind (ih.record t none f p hp) fun id q hq _ h => Holds.get_bind ?_
      exact Holds.pure hq (View.owns_recordNode hq.ordered hq.members h _)
    · split
      · exact Holds.pure hp (View.nodes.owns_nil _)
      · exact ih.children t f p hp

/-- A block-scope declaration owns the record its type defines, then the records of each
declarator's initializer. -/
theorem localDeclaration_succ (t : Tree) : Spec (lowerLocalDeclaration (n + 1) t) View.nodes.Owns := by
  intro f p hp
  rw [lowerLocalDeclaration.eq_2]
  have hnil := View.nodes.owns_nil p.records
  have hle := Nat.le_refl p.records.size
  split
  case' h_1 =>
    split
    case' isTrue =>
      refine Holds.bind (ih.into _ f p hp) fun recs q hq hg hrecs => ?_
      have hle := hg.size_le
    case' isFalse => refine Holds.pure_bind ?_
  case' h_2 => refine Holds.pure_bind ?_
  -- each branch goes on with a local per declarator, over its initializer
  all_goals
    beta_reduce
    refine Holds.bind_append View.nodes ‹_› ‹_› ‹_› (Spec.mapM View.nodes ?_ _ _ _ ‹_›)
    intro d f q hq
    split
    · exact Holds.pure hq (View.nodes.owns_nil _)
    · -- the initializer sits on the declarator, or on the declaration for a condition
      dsimp only
      split
      · exact Holds.bind (ih.field d "value" f q hq) fun _ q' hq' _ h => Holds.pushLocal hq' d h
      · exact Holds.bind (ih.field t "value" f q hq) fun _ q' hq' _ h => Holds.pushLocal hq' d h

/-- **One step of the induction on fuel.** -/
theorem succ : Lowers (n + 1) where
  top := ih.top_succ
  declaration := ih.declaration_succ
  function := ih.function_succ
  record := ih.record_succ
  members := ih.members_succ
  member := ih.member_succ
  memberDeclaration := ih.memberDeclaration_succ
  memberFunction := ih.memberFunction_succ
  children := ih.children_succ
  field := ih.field_succ
  into := ih.into_succ
  localDeclaration := ih.localDeclaration_succ

end Lowers

/-- **The lowering keeps its progress sound and owns what it pushes**, at every fuel. -/
theorem lowers : ∀ n, Lowers n
  | 0 => lowers_zero
  | n + 1 => (lowers n).succ

/-- A run of the lowering over the items of a file, from an empty progress, leaves a sound
progress whose declarations own every record of the arena. -/
theorem run_top_owns {fuel : Nat} {facts : Facts} {items : List Tree} {dss : List (List Decl)}
    {p : Progress} (h : ((items.mapM fun c => lowerTop fuel c).run facts).run {} = (dss, p)) :
    p.Sound ∧ View.decls.Owns 0 dss.flatten p.records := by
  obtain ⟨hs, -, hown⟩ := Spec.mapM View.decls (lowers fuel).top items facts {} Progress.sound_empty
  have h' : (items.mapM fun c => lowerTop fuel c) facts {} = (dss, p) := h
  rw [h'] at hs hown
  exact ⟨hs, hown⟩

end OfTree

namespace Outline

open OfTree Syntax

/-- Lowering a tree leaves an ordered unit whose declarations own every record of its arena. -/
theorem ofTree_owns (path : String) (src : ByteArray) (dialect : Dialect) (root : Tree) :
    (ofTree path src dialect root).Ordered ∧
      View.decls.Owns 0 (ofTree path src dialect root).decls (ofTree path src dialect root).records := by
  unfold ofTree
  dsimp only
  split
  rename_i dss p hrun
  obtain ⟨hs, hown⟩ := run_top_owns hrun
  exact ⟨⟨fun d hd j hj => hown.lt j (List.mem_flatMap.mpr ⟨d, hd, hj⟩), hs.ordered⟩, hown⟩

/-- **Lowering gives a unit in lowering order.** Whatever the tree, of either dialect and with
error nodes or not, every record index the unit mentions names a record of its arena: in
declarations at any depth, in record members, in function bodies (cloned method bodies
included) and in bases. A record's bases and member records come before it, so neither the
base graph nor the membership graph has a cycle, and emptiness and virtuality are the plain
recursions over bases: their guards never cut anything. -/
theorem ofTree_ordered (path : String) (src : ByteArray) (dialect : Dialect) (root : Tree) :
    let u := ofTree path src dialect root
    u.Ordered ∧ (∀ i, ¬Relation.TransGen u.BaseEdge i i) ∧
      (∀ i, ¬Relation.TransGen u.MemberEdge i i) ∧
      (∀ id, u.isEmptyRecord id =
        match u.record? id with
        | none => false
        | some r => r.hasNoOwnMembers && r.bases.all fun b =>
            !b.isVirtual && match u.resolve b with
              | some j => u.isEmptyRecord j
              | none => true) ∧
      (∀ id, u.hasVirtualDestructor id =
        match u.record? id with
        | none => false
        | some r => (r.destructor.map (·.isVirtual)).getD false || r.bases.any fun b =>
            match u.resolve b with
            | some j => u.hasVirtualDestructor j
            | none => false) := by
  intro u
  have hord : u.Ordered := (ofTree_owns path src dialect root).1
  refine ⟨hord, fun i h => ?_, fun i h => ?_, isEmptyRecord_eq hord.records,
    hasVirtualDestructor_eq hord.records⟩
  · exact Nat.lt_irrefl i (transGen_lt (fun _ _ => Ordered.baseEdge_lt hord.records) h)
  · exact Nat.lt_irrefl i (transGen_lt (fun _ _ => Ordered.memberEdge_lt hord.records) h)

/-- **The walk dispatches every record of a lowered unit exactly once.** Top-level, namespace,
member, forward-declared and local records alike, local records in lambdas, in member functions
of local classes and below nested records of local classes included: the indices the walk hands
over are those of the arena, each once. The functions it hands over are `Outline.functions`, in
order. -/
theorem ofTree_dispatch (path : String) (src : ByteArray) (dialect : Dialect) (root : Tree) :
    let u := ofTree path src dialect root
    (u.visits.filterMap Visit.recordId?).Perm (List.range u.records.size) ∧
      u.visits.filterMap Visit.function? = u.functions := by
  intro u
  obtain ⟨hord, hown⟩ := ofTree_owns path src dialect root
  refine ⟨?_, u.visits_function?⟩
  rw [visits_recordId? hord, List.range_eq_range']
  have hperm := hown.perm
  rw [Nat.sub_zero] at hperm
  exact hperm

end Outline

end SourceAudit
