import SourceAudit.Proofs.Dispatch
import SourceAudit.Proofs.Bases
/-!
# Which bases the destructor pass reports

The pass inspects each record the walk dispatches, in dispatch order, and within a record its
bases in the order they are written. A base gets at most one finding, and gets one exactly when
the derived record is defined and not empty, the base is public or every base is inspected, it
names a record of the unit that is not empty, and that record either declares no destructor or
inherits no virtual one along its own bases. The kind of the finding, and where it points, depend
only on whether the base record declares a destructor.

* `inspectBase_eq_some_iff`: the finding of one base, with the virtuality test as the search
  answers it.
* `findings_eq_flatMap`: the findings follow the dispatched records.
* **`run_writes_base_findings`**: the pass writes one line per finding and answers with their
  number, and the findings are exactly those the rule above gives, in order.
-/

namespace SourceAudit.Destructor

open Relation

variable (u : Outline) (publicOnly : Bool)

/-- The finding of one base: the base is inspected, names a non-empty record of the unit, and that
record declares no destructor (reported at the base) or a destructor that is not virtual even
through its bases (reported at the destructor). -/
theorem inspectBase_eq_some_iff (b : Base) (f : Finding) :
    inspectBase u publicOnly b = some f ↔
      (publicOnly = true → b.access = .pub) ∧
      ∃ j base, u.resolve b = some j ∧ u.record? j = some base ∧ u.isEmptyRecord j = false ∧
        ((base.destructor = none ∧ f = ⟨u.renderLocation b.loc, .undeclared⟩) ∨
         (∃ d, base.destructor = some d ∧ u.hasVirtualDestructor j = false ∧
           f = ⟨u.renderLocation d.loc, .nonVirtual⟩)) := by
  unfold inspectBase
  by_cases hacc : publicOnly = true → b.access = .pub
  · have hskip : (publicOnly && b.access != .pub) = false := by
      cases publicOnly
      · rfl
      · rw [hacc rfl]; rfl
    simp only [hskip, Bool.false_eq_true, if_false, iff_true_intro hacc, true_and]
    cases hres : u.resolve b with
    | none => simp
    | some j =>
      simp only [Option.some.injEq]
      cases he : u.isEmptyRecord j
      · cases hrec : u.record? j with
        | none => simp [hrec]
        | some base =>
          cases hd : base.destructor with
          | none => simp [he, hrec, hd, @eq_comm _ f]
          | some d => cases hv : u.hasVirtualDestructor j <;> simp [he, hrec, hd, hv, @eq_comm _ f]
      · simp [he]
  · obtain ⟨hp, hne⟩ : publicOnly = true ∧ b.access ≠ .pub := by
      cases publicOnly <;> simp_all
    have hskip : (publicOnly && b.access != .pub) = true := by
      subst hp
      cases h : b.access
      · exact absurd h hne
      all_goals rfl
    simp [hskip, hacc]

/-- A record's findings are those of its bases, in order, once it is defined and not empty. -/
theorem inspect_eq_filterMap (id : Nat) (r : Record) :
    inspect u publicOnly id r = r.bases.filterMap fun b =>
      if r.hasDefinition && !u.isEmptyRecord id then inspectBase u publicOnly b else none := by
  unfold inspect
  cases r.hasDefinition <;> cases u.isEmptyRecord id <;> simp

/-- Over any run of dispatches, the findings are those of the records among them, in order. -/
theorem flatMap_inspect (vs : List Visit) :
    (vs.flatMap fun
      | .record id r => inspect u publicOnly id r
      | .function _ => []) =
      (vs.filterMap Visit.record?).flatMap fun v => inspect u publicOnly v.1 v.2 := by
  induction vs with
  | nil => rfl
  | cons v vs ih => cases v <;> simp [ih, List.filterMap_cons]

/-- The findings of a unit follow the records the walk dispatches. -/
theorem findings_eq_flatMap :
    findings u publicOnly =
      (u.visits.filterMap Visit.record?).flatMap fun v => inspect u publicOnly v.1 v.2 :=
  flatMap_inspect u publicOnly u.visits

/-- Over any run of dispatches, the pass writes the findings of the records among them. -/
theorem foldl_visit (vs : List Visit) (s : Sheet.Sink) :
    vs.foldl (visit u publicOnly) s =
      (((vs.filterMap Visit.record?).flatMap fun v => inspect u publicOnly v.1 v.2).map
        Finding.fields).foldl Sheet.Sink.write s := by
  induction vs generalizing s with
  | nil => rfl
  | cons v vs ih => cases v <;> simp [visit, ih, List.foldl_map, List.filterMap_cons]

/-- **The destructor pass reports exactly the bases that lack a virtual destructor.** From any
report, the walk writes one line per finding and answers with their number. The findings run
over the dispatched records in dispatch order and, within a record, over its bases in order,
with at most one finding per base; a base has one exactly when the record is defined and not
empty, the base is inspected (public, unless every base is), it names a non-empty record of the
unit, and that record declares no destructor (found at the base) or one that no record reachable
through its bases declares virtual (found at the destructor). -/
theorem run_writes_base_findings (sink : Sheet.Sink) :
    run u publicOnly sink =
      (((findings u publicOnly).map Finding.fields).foldl Sheet.Sink.write sink,
        (findings u publicOnly).length) ∧
    ∃ per : Nat → Record → Base → Option Finding,
      findings u publicOnly =
        (u.visits.filterMap Visit.record?).flatMap (fun v => v.2.bases.filterMap (per v.1 v.2)) ∧
      ∀ id r b f, per id r b = some f ↔
        r.hasDefinition = true ∧ u.isEmptyRecord id = false ∧
        (publicOnly = true → b.access = .pub) ∧
        ∃ j base, u.resolve b = some j ∧ u.record? j = some base ∧ u.isEmptyRecord j = false ∧
          ((base.destructor = none ∧ f = ⟨u.renderLocation b.loc, .undeclared⟩) ∨
           (∃ d, base.destructor = some d ∧
             (¬∃ k, ReflTransGen u.BaseEdge j k ∧ u.DeclaresVirtual k) ∧
             f = ⟨u.renderLocation d.loc, .nonVirtual⟩)) := by
  have hfind := findings_eq_flatMap u publicOnly
  have hvirt : ∀ j, u.hasVirtualDestructor j = false ↔
      ¬∃ k, ReflTransGen u.BaseEdge j k ∧ u.DeclaresVirtual k := fun j => by
    rw [Bool.eq_false_iff, Ne, Outline.hasVirtualDestructor_iff]
  refine ⟨?_, fun id r b =>
    if r.hasDefinition && !u.isEmptyRecord id then inspectBase u publicOnly b else none, ?_, ?_⟩
  · simp only [run, Outline.traverse, foldl_visit, ← hfind, Sheet.Sink.foldl_write_rows,
      List.length_map, Nat.add_sub_cancel_left]
  · rw [hfind]
    exact List.flatMap_congr fun v _ => inspect_eq_filterMap u publicOnly v.1 v.2
  · intro id r b f
    beta_reduce
    by_cases hc : r.hasDefinition = true ∧ u.isEmptyRecord id = false
    · have hc' : (r.hasDefinition && !u.isEmptyRecord id) = true := by simp [hc.1, hc.2]
      rw [if_pos hc', inspectBase_eq_some_iff]
      simp only [hc, true_and, hvirt]
    · have hc' : (r.hasDefinition && !u.isEmptyRecord id) = false := by
        cases h1 : r.hasDefinition <;> cases h2 : u.isEmptyRecord id <;> simp_all
      rw [if_neg (by simp [hc'])]
      simp only [reduceCtorEq, false_iff]
      exact fun h => hc ⟨h.1, h.2.1⟩

end SourceAudit.Destructor
