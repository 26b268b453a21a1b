import SourceAudit.Ast.Basic
/-!
# Questions about records and the functions of a unit

Two questions follow base edges (a base that names a record in range): whether a record is
**empty** (no member of its own, and every base non-virtual and empty itself, where a base
that names no record counts as empty), and whether it **has a virtual destructor** (its own
is declared virtual, or some base has one). Base graphs of hand-built units may have cycles;
a record met again on the current base path answers `false`, which also makes both questions
total: every step down removes a record from the list of those not yet on the path.

`Outline.functions` lists the functions reached through declarations, namespace bodies and the
members of records named by declarations, in source order.

Main definitions:
* `Outline.isEmptyRecord`, `Outline.hasVirtualDestructor`.
* `Outline.functions`.
-/

namespace SourceAudit.Outline

/-- Emptiness of record `id`, where `remaining` holds the records not on the current base
path. -/
def emptyAvoiding (u : Outline) (remaining : List Nat) (id : Nat) : Bool :=
  match u.record? id with
  | none => false
  | some r =>
    if _h : id ∈ remaining then
      r.hasNoOwnMembers && r.bases.all fun b =>
        !b.isVirtual &&
          match u.resolve b with
          | some j => u.emptyAvoiding (remaining.erase id) j
          | none => true
    else false
termination_by remaining.length
decreasing_by
  have := List.length_erase_of_mem _h
  have := List.length_pos_of_mem _h
  omega

/-- Record `id` exists, has no member, destructor or method of its own, and each base is
non-virtual and empty (a base naming no record counts as empty). -/
def isEmptyRecord (u : Outline) (id : Nat) : Bool :=
  u.emptyAvoiding (List.range u.records.size) id

/-- Virtual destructor of record `id` or of a base, where `remaining` holds the records not on
the current base path. -/
def virtualAvoiding (u : Outline) (remaining : List Nat) (id : Nat) : Bool :=
  match u.record? id with
  | none => false
  | some r =>
    if _h : id ∈ remaining then
      (r.destructor.map (·.isVirtual)).getD false || r.bases.any fun b =>
        match u.resolve b with
        | some j => u.virtualAvoiding (remaining.erase id) j
        | none => false
    else false
termination_by remaining.length
decreasing_by
  have := List.length_erase_of_mem _h
  have := List.length_pos_of_mem _h
  omega

/-- Record `id` exists and it, or a record reached from it through bases, declares its
destructor virtual. -/
def hasVirtualDestructor (u : Outline) (id : Nat) : Bool :=
  u.virtualAvoiding (List.range u.records.size) id

/-- The functions under one declaration, where `remaining` holds the records not yet entered
on the current path. -/
def functionsAvoiding (u : Outline) (remaining : List Nat) : Decl → List Function
  | .function f => [f]
  | .record id =>
    match u.record? id with
    | none => []
    | some r =>
      if _h : id ∈ remaining then
        r.members.flatMap (u.functionsAvoiding (remaining.erase id))
      else []
  | .scope _ ds => ds.attach.flatMap fun ⟨d, _⟩ => u.functionsAvoiding remaining d
  | .other => []
termination_by d => (remaining.length, sizeOf d)
decreasing_by
  · have := List.length_erase_of_mem _h
    have := List.length_pos_of_mem _h
    left
    omega
  · right
    have := List.sizeOf_lt_of_mem ‹d ∈ ds›
    simp only [Decl.scope.sizeOf_spec]
    omega

/-- **The functions of a unit**, in source order: top-level ones, those of namespace bodies,
and the members of records named by declarations, at any depth. -/
def functions (u : Outline) : List Function :=
  u.decls.flatMap (u.functionsAvoiding (List.range u.records.size))

end SourceAudit.Outline
