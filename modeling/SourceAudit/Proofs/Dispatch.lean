import SourceAudit.Analysis
import Mathlib.Data.List.Basic
/-!
# The metrics pass agrees with the list of functions

The metrics pass is a visitor of the declaration walk, and the walk also dispatches records
and the records defined in function bodies. Its rows are nevertheless exactly those of
`Outline.functions`, an independent recursion over declarations, namespace bodies and record
members: the walk hands over the same functions in the same order, and the records it adds
(local records and their member records) never contribute a function.

* `Sink.foldl_write_text`, `Sink.foldl_write_rows`: what writing rows one after another does to
  a report.
* `visits_function?`: the functions of the walk are `Outline.functions`.
* **`run_writes_collected_rows`**: the pass writes exactly `collectRows`, in order, and answers
  with their number; under `skip` those are the `sentinel` rows less the degenerate ones.
-/

namespace SourceAudit

namespace Sheet.Sink

/-- Writing rows one after another appends their lines. -/
theorem foldl_write_text (s : Sink) (rows : List (List String)) :
    (rows.foldl write s).text = s.text ++ String.join (rows.map fun fs => line fs ++ "\n") := by
  induction rows generalizing s with
  | nil => simp
  | cons fs rows ih => simp [ih, write, String.append_assoc]

/-- Writing rows one after another counts each of them. -/
theorem foldl_write_rows (s : Sink) (rows : List (List String)) :
    (rows.foldl write s).rows = s.rows + rows.length := by
  induction rows generalizing s with
  | nil => simp
  | cons fs rows ih => simp [ih, write]; omega

/-- A report opened with its header and given its rows reads `Sheet.text`. -/
theorem foldl_write_start (header : List String) (rows : List (List String)) :
    (rows.foldl write (start header)).text = Sheet.text header rows := by
  simp [foldl_write_text, start, Sheet.text]

end Sheet.Sink

namespace Visit

/-- The function a dispatch hands over, if it is one. -/
def function? : Visit → Option Function
  | .function f => some f
  | .record _ _ => none

/-- The record a dispatch hands over, with its index, if it is one. -/
def record? : Visit → Option (Nat × Record)
  | .record id r => some (id, r)
  | .function _ => none

@[simp] theorem function?_function (f : Function) : (Visit.function f).function? = some f := rfl
@[simp] theorem function?_record (id : Nat) (r : Record) : (Visit.record id r).function? = none :=
  rfl
@[simp] theorem record?_function (f : Function) : (Visit.function f).record? = none := rfl
@[simp] theorem record?_record (id : Nat) (r : Record) :
    (Visit.record id r).record? = some (id, r) := rfl

end Visit

namespace Outline

variable (u : Outline)

/-- Below a local record the walk dispatches records only. -/
theorem nestedVisits_function? (rem : List Nat) (r : Record) :
    (u.nestedVisits rem r).filterMap Visit.function? = [] := by
  induction rem, r using Outline.nestedVisits.induct with
  | case1 rem r ih =>
    rw [nestedVisits, List.filterMap_flatMap, List.flatMap_eq_nil_iff]
    rintro ⟨d, hd⟩ -
    cases d with
    | record id =>
      simp only
      split
      · rfl
      · split
        · rename_i hid
          simp only [List.filterMap_cons, Visit.function?_record]
          exact ih _ _ hid
        · rfl
    | function _ | scope _ _ | other => rfl

/-- The records defined in a body, and those below them, bring no function. -/
theorem localVisits_function? (body : List Node) :
    (u.localVisits body).filterMap Visit.function? = [] := by
  rw [localVisits, List.filterMap_flatMap, List.flatMap_eq_nil_iff]
  intro id _
  split
  · rfl
  · simp only [List.filterMap_cons, Visit.function?_record]
    exact u.nestedVisits_function? _ _

/-- Under one declaration, the walk hands over the functions `functionsAvoiding` lists. -/
theorem visitsAvoiding_function? (rem : List Nat) (d : Decl) :
    (u.visitsAvoiding rem d).filterMap Visit.function? = u.functionsAvoiding rem d := by
  induction rem, d using Outline.functionsAvoiding.induct (u := u) with
  | case1 rem f =>
    rw [visitsAvoiding, functionsAvoiding]
    cases f.body <;> simp [localVisits_function?]
  | case2 rem id h => simp [visitsAvoiding, functionsAvoiding, h]
  | case3 rem id r h hid ih =>
    simp only [visitsAvoiding, functionsAvoiding, h, hid, dite_true, List.filterMap_cons,
      Visit.function?_record, List.filterMap_flatMap]
    exact List.flatMap_congr fun d _ => ih d
  | case4 rem id r h hid => simp [visitsAvoiding, functionsAvoiding, h, hid]
  | case5 rem name ds ih =>
    rw [visitsAvoiding, functionsAvoiding, List.filterMap_flatMap]
    exact List.flatMap_congr fun d _ => ih d.1 d.2
  | case6 rem => simp [visitsAvoiding, functionsAvoiding]

/-- **The functions the walk dispatches are `Outline.functions`**, in the same order. -/
theorem visits_function? : u.visits.filterMap Visit.function? = u.functions := by
  rw [visits, functions, List.filterMap_flatMap]
  exact List.flatMap_congr fun d _ => u.visitsAvoiding_function? _ d

end Outline

namespace Halstead

/-- Over any run of dispatches, the pass writes the rows of the functions among them. -/
theorem foldl_visit (policy : DegeneratePolicy) (vs : List Visit) (s : Sheet.Sink) :
    vs.foldl (visit policy) s =
      (((vs.filterMap Visit.function?).filterMap (rowOf? policy)).map Row.fields).foldl
        Sheet.Sink.write s := by
  induction vs generalizing s with
  | nil => rfl
  | cons v vs ih =>
    cases v with
    | function f => cases h : rowOf? policy f <;> simp [visit, h, ih]
    | record id r => simp [visit, ih, List.filterMap_cons]

/-- Under `skip`, a function's row is its `sentinel` row unless that one is degenerate. -/
theorem rowOf?_skip (f : Function) :
    rowOf? .skip f = (rowOf? .sentinel f).filter fun r => !r.derived.degenerate := by
  have hskip : (DegeneratePolicy.skip == .skip) = true := rfl
  have hsentinel : (DegeneratePolicy.sentinel == .skip) = false := rfl
  unfold rowOf?
  by_cases hq : qualifies f
  · by_cases hd : ((Tally.ofBody (f.body.getD [])).finish f).derived.degenerate <;>
      simp [hq, hd, hskip, hsentinel, Option.filter_some]
  · simp [hq]

/-- Under `skip`, the rows are the `sentinel` rows less the degenerate ones, in order. -/
theorem collectRows_skip (u : Outline) :
    collectRows u .skip = (collectRows u .sentinel).filter fun r => !r.derived.degenerate := by
  simp only [collectRows, List.filter_filterMap, rowOf?_skip]

/-- **The metrics pass writes exactly the collected rows.** From any report, the walk writes the
rows of `collectRows` one after another and answers with their number, so a fresh report reads
the header and those rows. The functions the walk dispatches are those of `Outline.functions`,
in order, and under `skip` the rows are the `sentinel` rows less the degenerate ones. -/
theorem run_writes_collected_rows (u : Outline) (policy : DegeneratePolicy) (sink : Sheet.Sink) :
    u.visits.filterMap Visit.function? = u.functions ∧
    run u policy sink =
      (((collectRows u policy).map Row.fields).foldl Sheet.Sink.write sink,
        (collectRows u policy).length) ∧
    u.metricsReport policy =
      (Sheet.text header ((collectRows u policy).map Row.fields), (collectRows u policy).length) ∧
    collectRows u .skip = (collectRows u .sentinel).filter fun r => !r.derived.degenerate := by
  have hrun : ∀ sink, run u policy sink =
      (((collectRows u policy).map Row.fields).foldl Sheet.Sink.write sink,
        (collectRows u policy).length) := by
    intro sink
    simp only [run, Outline.traverse, foldl_visit, u.visits_function?, collectRows,
      Sheet.Sink.foldl_write_rows, List.length_map, Nat.add_sub_cancel_left]
  refine ⟨u.visits_function?, hrun sink, ?_, collectRows_skip u⟩
  simp only [Outline.metricsReport, hrun, Sheet.Sink.foldl_write_start]

end Halstead

end SourceAudit
