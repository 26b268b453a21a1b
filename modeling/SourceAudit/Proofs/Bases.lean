import SourceAudit.Ast.Query
import Mathlib.Logic.Relation
/-!
# The base graph of a unit

A record's bases that name records of the unit are the edges of the **base graph**. Hand-built
units may give it cycles, so the searches behind `Outline.hasVirtualDestructor` and
`Outline.isEmptyRecord` keep the records not on their current path and answer `false` at a
record met again. This module says what each search computes on any graph:

* a record has a virtual destructor exactly when some record reachable from it through base
  edges, itself included, declares its destructor virtual: the guard loses nothing;
* a record is empty exactly when no cycle is reachable from it and every record reachable from
  it is bare: here the guard is what turns a reachable cycle into `false`.

For virtuality the argument is the usual one for a search guarded by its path: a record
reachable inside the records still allowed is reachable along a path that leaves the starting
record at once and never comes back (`exists_exit_of_reachIn`), and that path is inside the
records allowed below the start. For emptiness the search must visit everything reachable, so
the invariant speaks of all of it: every record reachable from the start is still allowed, and
since the allowed records are listed once, the start is not reachable from its own bases.

* `virtualAvoiding_iff`: the guarded search is reachability inside the records it may visit.
* `hasVirtualDestructor_iff`: virtuality is reachability of a declared virtual destructor.
* `hasVirtualDestructor_eq_true_iff_step`: the guard never changes an answer.
* **`virtualDestructor_inherited`**: virtuality is inherited along any base path.
* `Outline.Bare`, `emptyAvoiding_iff`: the guarded emptiness search.
* **`isEmptyRecord_iff`**: emptiness is acyclic reachability of bare records.
-/

namespace SourceAudit.Outline

open Relation

variable (u : Outline)

/-- Record `i` has a base naming record `j` of the unit. -/
def BaseEdge (i j : Nat) : Prop :=
  ∃ r, u.record? i = some r ∧ ∃ b ∈ r.bases, u.resolve b = some j

/-- Record `i` declares its destructor virtual. -/
def DeclaresVirtual (i : Nat) : Prop :=
  ∃ r d, u.record? i = some r ∧ r.destructor = some d ∧ d.isVirtual = true

/-- A base edge into a record of `rem`. -/
def EdgeIn (rem : List Nat) (i j : Nat) : Prop := u.BaseEdge i j ∧ j ∈ rem

variable {u}

theorem lt_of_record?_eq_some {i : Nat} {r : Record} (h : u.record? i = some r) :
    i < u.records.size := by
  simp only [record?] at h
  exact (Array.getElem?_eq_some_iff.mp h).1

/-- A base resolves to a record when it names that record and the record is in range. -/
theorem resolve_eq_some {b : Base} {j : Nat} (h : u.resolve b = some j) :
    b.type = .record j ∧ j < u.records.size := by
  unfold resolve at h
  split at h
  · split at h
    · cases h; exact ⟨‹_›, ‹_›⟩
    · cases h
  · cases h

theorem lt_of_resolve_eq_some {b : Base} {j : Nat} (h : u.resolve b = some j) :
    j < u.records.size :=
  (resolve_eq_some h).2

theorem BaseEdge.lt {i j : Nat} (h : u.BaseEdge i j) : i < u.records.size ∧ j < u.records.size := by
  obtain ⟨r, hr, b, -, hb⟩ := h
  exact ⟨lt_of_record?_eq_some hr, lt_of_resolve_eq_some hb⟩

theorem DeclaresVirtual.lt {i : Nat} (h : u.DeclaresVirtual i) : i < u.records.size := by
  obtain ⟨r, d, hr, -⟩ := h
  exact lt_of_record?_eq_some hr

/-- A record reachable inside `rem` is the start itself, or is reached by a first edge out of the
start and then a path that never comes back to it. -/
theorem exists_exit_of_reachIn {rem : List Nat} {a b : Nat} (h : ReflTransGen (u.EdgeIn rem) a b) :
    a = b ∨ ∃ c, c ≠ a ∧ u.EdgeIn rem a c ∧ ReflTransGen (u.EdgeIn (rem.erase a)) c b := by
  induction h with
  | refl => exact .inl rfl
  | @tail b c _ hbc ih =>
    by_cases hca : c = a
    · exact .inl hca.symm
    have hc : c ∈ rem.erase a := (List.mem_erase_of_ne hca).mpr hbc.2
    rcases ih with rfl | ⟨c', hc'a, hac', hpath⟩
    · exact .inr ⟨c, hca, hbc, .refl⟩
    · exact .inr ⟨c', hc'a, hac', hpath.tail ⟨hbc.1, hc⟩⟩

/-- **The guarded search is reachability.** Searching from `id` with the records `rem` still
allowed finds a virtual destructor exactly when `id` is allowed and some record reachable from
it through base edges into allowed records declares one. -/
theorem virtualAvoiding_iff (rem : List Nat) (id : Nat) :
    u.virtualAvoiding rem id = true ↔
      id ∈ rem ∧ ∃ k, ReflTransGen (u.EdgeIn rem) id k ∧ u.DeclaresVirtual k := by
  induction rem, id using Outline.virtualAvoiding.induct (u := u) with
  | case1 rem id hnone =>
    rw [virtualAvoiding, hnone]
    simp only [Bool.false_eq_true, false_iff, not_and, not_exists]
    intro _ k hpath hk
    rcases exists_exit_of_reachIn hpath with rfl | ⟨c, -, ⟨⟨r, hr, -⟩, -⟩, -⟩
    · obtain ⟨r, d, hr, -⟩ := hk
      simp [hr] at hnone
    · simp [hr] at hnone
  | case2 rem id r hr hid ih =>
    rw [virtualAvoiding, hr]
    simp only [hid, dite_true, Bool.or_eq_true, List.any_eq_true, true_and]
    constructor
    · rintro (hv | ⟨b, hb, hj⟩)
      · refine ⟨id, .refl, r, ?_⟩
        cases hd : r.destructor with
        | none => simp [hd] at hv
        | some d => exact ⟨d, hr, rfl, by simpa [hd] using hv⟩
      · split at hj
        · rename_i j hres
          obtain ⟨hj, k, hpath, hk⟩ := (ih j).mp hj
          have hedge : u.EdgeIn rem id j := ⟨⟨r, hr, b, hb, hres⟩, List.mem_of_mem_erase hj⟩
          have hwider : ReflTransGen (u.EdgeIn rem) j k :=
            ReflTransGen.mono (fun x y (h : u.EdgeIn (rem.erase id) x y) =>
              ⟨h.1, List.mem_of_mem_erase h.2⟩) _ _ hpath
          exact ⟨k, .head hedge hwider, hk⟩
        · cases hj
    · rintro ⟨k, hpath, hk⟩
      rcases exists_exit_of_reachIn hpath with rfl | ⟨c, hcid, ⟨⟨r', hr', b, hb, hres⟩, hc⟩, hpath'⟩
      · obtain ⟨r', d, hr', hd, hdv⟩ := hk
        rw [hr] at hr'
        cases hr'
        exact .inl (by simp [hd, hdv])
      · rw [hr] at hr'
        cases hr'
        refine .inr ⟨b, hb, ?_⟩
        rw [hres]
        exact (ih c).mpr ⟨(List.mem_erase_of_ne hcid).mpr hc, k, hpath', hk⟩
  | case3 rem id r hr hid =>
    rw [virtualAvoiding, hr]
    simp [hid]

/-- **The query is reachability.** A record has a virtual destructor exactly when some record
reachable from it through base edges (any number, itself included) declares its destructor
virtual; cycles in the base graph change nothing. -/
theorem hasVirtualDestructor_iff (id : Nat) :
    u.hasVirtualDestructor id = true ↔ ∃ k, ReflTransGen u.BaseEdge id k ∧ u.DeclaresVirtual k := by
  have hedge : u.EdgeIn (List.range u.records.size) = u.BaseEdge := by
    funext i j
    exact propext ⟨fun h => h.1, fun h => ⟨h, List.mem_range.mpr h.lt.2⟩⟩
  rw [hasVirtualDestructor, virtualAvoiding_iff, hedge, List.mem_range]
  constructor
  · exact fun h => h.2
  · rintro ⟨k, hpath, hk⟩
    refine ⟨?_, k, hpath, hk⟩
    rcases hpath.cases_head with rfl | ⟨c, hc, -⟩
    · exact hk.lt
    · exact hc.lt.1

/-- The search answers as the plain recursion of the rule would: a record has a virtual
destructor exactly when it declares one or one of its bases has one. The guard that stops at a
record met again on the current path never changes an answer, even on a cyclic base graph. -/
theorem hasVirtualDestructor_eq_true_iff_step (id : Nat) :
    u.hasVirtualDestructor id = true ↔
      u.DeclaresVirtual id ∨ ∃ j, u.BaseEdge id j ∧ u.hasVirtualDestructor j = true := by
  simp only [hasVirtualDestructor_iff]
  constructor
  · rintro ⟨k, hpath, hk⟩
    rcases hpath.cases_head with rfl | ⟨j, hj, hjk⟩
    · exact .inl hk
    · exact .inr ⟨j, hj, k, hjk, hk⟩
  · rintro (hid | ⟨j, hj, k, hjk, hk⟩)
    · exact ⟨id, .refl, hid⟩
    · exact ⟨k, .head hj hjk, hk⟩

/-- **Virtuality is inherited along any base path.** For every unit, dangling indices and base
cycles allowed, and every index, the query answers (the search is total: each step down takes a
record off the list of those not on the current path), and it answers `true` exactly when some
record reachable through base edges of any access or virtuality, the record itself included,
declares its destructor virtual. So the answer is also the one the unguarded recursion gives:
a declared virtual destructor, or a base that has one. -/
theorem virtualDestructor_inherited (id : Nat) :
    (u.hasVirtualDestructor id = true ↔ ∃ k, ReflTransGen u.BaseEdge id k ∧ u.DeclaresVirtual k) ∧
    (u.hasVirtualDestructor id = true ↔
      u.DeclaresVirtual id ∨ ∃ j, u.BaseEdge id j ∧ u.hasVirtualDestructor j = true) :=
  ⟨hasVirtualDestructor_iff id, hasVirtualDestructor_eq_true_iff_step id⟩

/-! ### Emptiness -/

variable (u) in
/-- Record `i` exists and adds nothing of its own: no data member, method or destructor, and no
base declared virtual. -/
def Bare (i : Nat) : Prop :=
  ∃ r, u.record? i = some r ∧ r.dataMembers = 0 ∧ r.methods = 0 ∧ r.destructor = none ∧
    ∀ b ∈ r.bases, b.isVirtual = false

theorem bare_iff_of_record? {i : Nat} {r : Record} (hr : u.record? i = some r) :
    u.Bare i ↔ r.hasNoOwnMembers = true ∧ ∀ b ∈ r.bases, b.isVirtual = false := by
  simp [Bare, hr, Record.hasNoOwnMembers, and_assoc]

/-- **The guarded emptiness search is a reachability question.** Searching from `id` with the
records `rem` not on the current path (each listed once) answers `true` exactly when every record
reachable from `id` through base edges is still allowed, is bare, and lies on no cycle. -/
theorem emptyAvoiding_iff (rem : List Nat) (id : Nat) (hnd : rem.Nodup) :
    u.emptyAvoiding rem id = true ↔
      ∀ k, ReflTransGen u.BaseEdge id k → k ∈ rem ∧ u.Bare k ∧ ¬TransGen u.BaseEdge k k := by
  induction rem, id using Outline.emptyAvoiding.induct (u := u) with
  | case1 rem id hnone =>
    rw [emptyAvoiding, hnone]
    simp only [Bool.false_eq_true, false_iff]
    intro hreach
    obtain ⟨-, ⟨r, hr, -⟩, -⟩ := hreach id .refl
    simp [hr] at hnone
  | case2 rem id r hr hid ih =>
    rw [emptyAvoiding, hr]
    simp only [hid, dite_true, Bool.and_eq_true, List.all_eq_true, Bool.not_eq_true']
    -- a record reached through a first base edge `id → j` is judged by the search below `j`
    have hbelow : ∀ b ∈ r.bases, ∀ j, u.resolve b = some j →
        (u.emptyAvoiding (rem.erase id) j = true ↔
          ∀ k, ReflTransGen u.BaseEdge j k →
            k ∈ rem.erase id ∧ u.Bare k ∧ ¬TransGen u.BaseEdge k k) :=
      fun _ _ j _ => ih j (hnd.erase id)
    constructor
    · rintro ⟨hown, hall⟩
      have hsucc : ∀ j, u.BaseEdge id j → ∀ k, ReflTransGen u.BaseEdge j k →
          k ∈ rem.erase id ∧ u.Bare k ∧ ¬TransGen u.BaseEdge k k := by
        rintro j ⟨r', hr', b, hb, hres⟩
        rw [hr] at hr'
        cases hr'
        have hj := (hall b hb).2
        rw [hres] at hj
        exact (hbelow b hb j hres).mp hj
      intro k hk
      rcases hk.cases_head with rfl | ⟨j, hj, hjk⟩
      · refine ⟨hid, (bare_iff_of_record? hr).mpr ⟨hown, fun b hb => (hall b hb).1⟩, ?_⟩
        intro hcyc
        obtain ⟨j, hj, hjk⟩ := TransGen.head'_iff.mp hcyc
        exact hnd.not_mem_erase (hsucc j hj _ hjk).1
      · obtain ⟨hmem, hbare, hacyc⟩ := hsucc j hj k hjk
        exact ⟨List.mem_of_mem_erase hmem, hbare, hacyc⟩
    · intro hreach
      obtain ⟨-, hbare, hacyc⟩ := hreach id .refl
      obtain ⟨hown, hplain⟩ := (bare_iff_of_record? hr).mp hbare
      refine ⟨hown, fun b hb => ⟨hplain b hb, ?_⟩⟩
      cases hres : u.resolve b with
      | none => rfl
      | some j =>
        refine (hbelow b hb j hres).mpr fun k hjk => ?_
        have hedge : u.BaseEdge id j := ⟨r, hr, b, hb, hres⟩
        obtain ⟨hmem, hbare', hacyc'⟩ := hreach k (.head hedge hjk)
        -- `k = id` would close a cycle through `id`
        have hne : k ≠ id := by
          rintro rfl
          exact hacyc (TransGen.head' hedge hjk)
        exact ⟨(List.mem_erase_of_ne hne).mpr hmem, hbare', hacyc'⟩
  | case3 rem id r hr hid =>
    rw [emptyAvoiding, hr]
    simp only [hid, dite_false, Bool.false_eq_true, false_iff]
    exact fun hreach => hid (hreach id .refl).1

/-- **Emptiness is a reachability predicate.** A record is empty exactly when it is a record of
the unit, no cycle of base edges is reachable from it, and every record reachable from it through
base edges (itself included) is bare: no data member, method or destructor, and no virtual base.
A base that names no record of the unit (unresolved, a template parameter, or a dangling index)
adds no edge, so it counts as empty unless it is virtual. The search behind it is total: each
step down takes a record off the list of those not on the current path. -/
theorem isEmptyRecord_iff (id : Nat) :
    u.isEmptyRecord id = true ↔
      id < u.records.size ∧ (¬∃ k, ReflTransGen u.BaseEdge id k ∧ TransGen u.BaseEdge k k) ∧
        ∀ k, ReflTransGen u.BaseEdge id k → u.Bare k := by
  rw [isEmptyRecord, emptyAvoiding_iff _ _ List.nodup_range]
  constructor
  · intro h
    exact ⟨List.mem_range.mp (h id .refl).1, fun ⟨k, hk, hcyc⟩ => (h k hk).2.2 hcyc,
      fun k hk => (h k hk).2.1⟩
  · rintro ⟨-, hacyc, hbare⟩ k hk
    obtain ⟨r, hr, -⟩ := hbare k hk
    exact ⟨List.mem_range.mpr (lt_of_record?_eq_some hr), hbare k hk, fun hcyc => hacyc ⟨k, hk, hcyc⟩⟩

end SourceAudit.Outline
