import SourceAudit.Proofs.Lowering
import SourceAudit.Ast.OfSource
/-!
# Bases resolve in file order

A base is looked up in the index of record keys as it stands when its record starts to be
lowered. A class defined in a function body is indexed under the key of the namespace or class
around the function, like any other, so it is found by every later lookup of that key, outside
the function too: lookups follow the order of the file, not the nesting of blocks
(`localClass_shadows_later_base`).

What the order does give: each record of a lowered unit was lowered over an interval of the
arena, from some index `s` up to its own, and the walk from it reaches exactly that interval
(itself, its member records and the classes its methods define, at any depth); every base it
resolves names a record before `s`, finished before the record began.

* `Arena.LoweredFrom` (in `Proofs.Progress`): the interval a record was lowered over, kept as
  part of a sound progress.
* `Outline.ofTree_loweredFrom`: every record of a lowered unit has one.
* `Outline.localClass_shadows_later_base`: a local class shadows for later code.
* **`Outline.ofTree_bases_precede`**: what the walk reaches from a record is an interval that
  every resolved base of the record precedes.
-/

namespace SourceAudit

/-- The record a declaration names, if it is a record. -/
def Decl.recordId? : Decl → Option Nat
  | .record id => some id
  | _ => none

/-- The classes a function declaration's body defines, in pre-order: its local classes
(`Outline.localRecordIds_eq`). Other declarations define none here. -/
def Decl.localClasses : Decl → List Nat
  | .function f => (Node.forestPreorder (f.body.getD [])).filterMap (·.kind.recordId?)
  | _ => []

namespace Outline

open OfTree Syntax

/-- **A local class shadows for later code.** The class `B` that `f` defines in its body is
indexed under the file scope, so the base `B` of the file-scope class `D` after `f` resolves to
it, and not to the file-scope `B` with its virtual destructor. -/
theorem localClass_shadows_later_base :
    let u := ofSource "t.cpp" .cpp
      "struct B { virtual ~B(); int a; };\nvoid f() { struct B { int x; }; }\nstruct D : B { int d; };\n".toUTF8
    u.records.toList.map (·.name) = ["B", "B", "D"] ∧
      u.records.toList.map (·.destructor.isSome) = [true, false, false] ∧
      u.decls.map Decl.recordId? = [some 0, none, some 2] ∧
      u.decls.map Decl.localClasses = [[], [1], []] ∧
      u.records.toList.map (fun r => r.bases.map (·.type)) = [[], [], [.record 1]] := by
  decide +kernel

/-- Every record of a lowered unit was lowered over an interval of the arena. -/
theorem ofTree_loweredFrom (path : String) (src : ByteArray) (dialect : Dialect) (root : Tree) :
    ∀ i < (ofTree path src dialect root).records.size,
      ∃ s, Arena.LoweredFrom (ofTree path src dialect root).records i s := by
  unfold ofTree
  dsimp only
  split
  rename_i dss p hrun
  exact (run_top_owns hrun).1.lowered

/-- **Bases precede what a record spans.** In a lowered unit, whatever the tree, the walk from
record `i` reaches the records from some index `s` up to `i`, each once: the record, its member
records and the classes its methods define, at any depth. Every base of the record that resolves
names a record before `s`, one whose lowering was finished before record `i`'s began; never the
record itself or one nested in it. -/
theorem ofTree_bases_precede (path : String) (src : ByteArray) (dialect : Dialect) (root : Tree) :
    let u := ofTree path src dialect root
    ∀ i r, u.record? i = some r → ∃ s,
      ((u.visitsAvoiding (List.range u.records.size) (.record i)).filterMap Visit.recordId?).Perm
        (List.range' s (i + 1 - s)) ∧
      ∀ b ∈ r.bases, ∀ j, u.resolve b = some j → j < s := by
  intro u i r hr
  have hord : u.Ordered := (ofTree_owns path src dialect root).1
  have hi : i < u.records.size := lt_of_record?_eq_some hr
  obtain ⟨s, hspan, hbases⟩ := ofTree_loweredFrom path src dialect root i hi
  refine ⟨s, ?_, fun b hb j hj => hbases r hr b hb j (resolve_eq_some hj).1⟩
  -- on an ordered unit the walk's guard never fires, so it reaches what `declIds` lists
  rw [visitsAvoiding_recordId? hord.records _ _ u.records.size
    (fun j _ hj => List.mem_range.mpr hj) (by simpa [Decl.refs] using hi)]
  exact hspan

/-- The class `D` with a nested class `E` spans `E` and itself, and its base `A` comes before
both. -/
theorem bases_precede_nested :
    let u := ofSource "t.cpp" .cpp
      "struct A { virtual ~A(); };\nstruct D : A { struct E { int e; }; int d; };\n".toUTF8
    ∃ r, u.record? 2 = some r ∧ ∃ s,
      ((u.visitsAvoiding (List.range u.records.size) (.record 2)).filterMap Visit.recordId?).Perm
        (List.range' s (2 + 1 - s)) ∧
      ∀ b ∈ r.bases, ∀ j, u.resolve b = some j → j < s := by
  intro u
  have hsome : (u.record? 2).isSome := by decide +kernel
  obtain ⟨r, hr⟩ := Option.isSome_iff_exists.mp hsome
  exact ⟨r, hr, ofTree_bases_precede "t.cpp" _ .cpp (parseSource _ Dialect.cpp.isCpp) 2 r hr⟩

end Outline

end SourceAudit
