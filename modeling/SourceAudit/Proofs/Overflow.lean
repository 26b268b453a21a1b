import SourceAudit.Proofs.HalsteadCounts
import SourceAudit.Proofs.Dispatch
import Mathlib
/-!
# Which functions overflow the counters

The counters of a row are 64-bit words, and the additions that fill them wrap. This module lists
the additions made in computing one function's row and says exactly when they all fit: when the
function's length `N = N₁ + N₂` and vocabulary `μ = μ₁ + μ₂`, counted by their definition in
`Census`, fit. Argument and parameter counts are machine words in the source, so their
conversion to a counter loses nothing and an addition's amount is the count itself.

The argument is that every counter only grows. On a tally that has counted a run of nodes whose
counts fit, the counters hold the counts (`Tally.Exact`), so one node's additions fit exactly
when the counts after the node fit (`Exact.additions_fit_iff`), and a run's additions fit
exactly when the counts after the whole run fit, each partial sum being at most the final one
(`Exact.runAdditions_fit_iff`).

* `Census.Fits`, `Tally.additions`, `Tally.runAdditions`, `rowAdditions`: the additions, and
  `exactLength`, `exactVocabulary`: `N` and `μ` by definition.
* `rowAdditions_fit_iff`: the additions of a row fit exactly when `N` and `μ` do.
* `fields_take_of_exact`: then the eight printed counts are exact.
* `rows_add_run`: the pass's count of the rows it wrote never goes below zero.
* **`row_counters_fit_iff`**: the three together.
-/

namespace SourceAudit

namespace Census

variable (ks : List NodeKind)

/-- The four counts of a run of nodes each fit in a 64-bit word. -/
def Fits : Prop :=
  operators ks < UInt64.size ∧ operands ks < UInt64.size ∧ distinctOperators ks < UInt64.size ∧
    distinctOperands ks < UInt64.size

instance : DecidablePred Fits := fun _ =>
  inferInstanceAs (Decidable (_ ∧ _ ∧ _ ∧ _))

theorem distinctOperators_le_append (ks' : List NodeKind) :
    distinctOperators ks ≤ distinctOperators (ks ++ ks') := by
  have hkeys : ∀ key : NodeKind → Option String, (keys ks key).card ≤ (keys (ks ++ ks') key).card :=
    fun key => by
      rw [keys_append]
      exact Finset.card_le_card Finset.subset_union_left
  have hpresent : ∀ f, present ks f ≤ present (ks ++ ks') f := fun f => by
    unfold present
    rw [List.any_append]
    cases ks.any (·.form = f) <;> simp
  have := hkeys NodeKind.binaryKey?
  have := hkeys NodeKind.unaryKey?
  have := hkeys NodeKind.callee?
  have := hpresent .ternary
  have := hpresent .shortCircuit
  unfold distinctOperators
  omega

/-- Counts only grow along a run, so a run whose counts fit has a prefix whose counts fit. -/
theorem Fits.of_append {ks' : List NodeKind} (h : Fits (ks ++ ks')) : Fits ks := by
  obtain ⟨h1, h2, h3, h4⟩ := h
  have := distinctOperators_le_append ks ks'
  rw [operators_append] at h1
  rw [operands_append] at h2
  rw [distinctOperands_append] at h4
  exact ⟨by omega, by omega, by omega, by omega⟩

end Census

/-- The kinds of all nodes of a function's body, at every depth, in pre-order. -/
def Function.bodyKinds (f : Function) : List NodeKind := Node.kinds (f.body.getD [])

namespace Halstead

namespace Tally

/-- The additions counting node `k` makes on the counters of `t`, each as the counter and the
amount, read as numbers: an operator occurrence, the operator's operands, a distinct operator
when its key is new, and a distinct operand for a local. Argument counts are words in the
source, so an amount is the count itself. A counter the node leaves alone comes with amount
zero, an addition that always fits. -/
def additions (t : Tally) (k : NodeKind) : List (Nat × Nat) :=
  [(t.counts.n1.toNat, Census.operators [k]), (t.counts.n2.toNat, Census.operands [k]),
    (t.counts.mu1.toNat, (t.classify k).seen.size - t.seen.size),
    (t.counts.mu2.toNat, Census.distinctOperands [k])]

/-- The additions a run of nodes makes, each node's on the tally the nodes before it left. -/
def runAdditions : Tally → List NodeKind → List (Nat × Nat)
  | _, [] => []
  | t, k :: ks => t.additions k ++ runAdditions (t.classify k) ks

/-- A tally that has counted `ks`, whose counts fit: its counters hold the counts. -/
structure Exact (t : Tally) (ks : List NodeKind) : Prop where
  tracks : Tracks t ks
  fits : Census.Fits ks

variable {t : Tally} {ks : List NodeKind}

theorem Exact.n1 (h : Exact t ks) : t.counts.n1.toNat = Census.operators ks := by
  rw [h.tracks.n1, Nat.mod_eq_of_lt h.fits.1]

theorem Exact.n2 (h : Exact t ks) : t.counts.n2.toNat = Census.operands ks := by
  rw [h.tracks.n2, Nat.mod_eq_of_lt h.fits.2.1]

theorem Exact.mu1 (h : Exact t ks) : t.counts.mu1.toNat = Census.distinctOperators ks := by
  rw [h.tracks.mu1, h.tracks.seen_size, Nat.mod_eq_of_lt h.fits.2.2.1]

theorem Exact.mu2 (h : Exact t ks) : t.counts.mu2.toNat = Census.distinctOperands ks := by
  rw [h.tracks.mu2, Nat.mod_eq_of_lt h.fits.2.2.2]

/-- **One node's additions fit exactly when the counts after it fit.** -/
theorem Exact.additions_fit_iff (h : Exact t ks) (k : NodeKind) :
    (∀ a ∈ t.additions k, a.1 + a.2 < UInt64.size) ↔ Census.Fits (ks ++ [k]) := by
  have hseen : (t.classify k).seen.size = Census.distinctOperators (ks ++ [k]) :=
    (h.tracks.classify k).seen_size
  have hmono := Census.distinctOperators_le_append ks [k]
  simp only [additions, List.mem_cons, List.not_mem_nil, or_false, forall_eq_or_imp, forall_eq,
    h.n1, h.n2, h.mu1, h.mu2, hseen, h.tracks.seen_size, Census.Fits, Census.operators_append,
    Census.operands_append, Census.distinctOperands_append]
  omega

theorem Exact.classify (h : Exact t ks) {k : NodeKind} (hk : Census.Fits (ks ++ [k])) :
    Exact (t.classify k) (ks ++ [k]) :=
  ⟨h.tracks.classify k, hk⟩

/-- **A run's additions fit exactly when the counts after it fit.** Every counter only grows,
so each partial sum is at most the final one. -/
theorem Exact.runAdditions_fit_iff (h : Exact t ks) (rest : List NodeKind) :
    (∀ a ∈ runAdditions t rest, a.1 + a.2 < UInt64.size) ↔ Census.Fits (ks ++ rest) := by
  induction rest generalizing t ks with
  | nil => simp [runAdditions, h.fits]
  | cons k rest ih =>
    simp only [runAdditions, List.mem_append, or_imp, forall_and, h.additions_fit_iff k]
    constructor
    · rintro ⟨hk, hrest⟩
      simpa using (ih (h.classify hk)).mp hrest
    · intro hall
      have hk : Census.Fits (ks ++ [k]) := Census.Fits.of_append (ks ++ [k]) (by simpa using hall)
      exact ⟨hk, (ih (h.classify hk)).mpr (by simpa using hall)⟩

end Tally

variable (f : Function)

/-- `N` of a function by definition: its operator occurrences and its operand occurrences, the
parameters included. -/
def exactLength : Nat :=
  Census.operators f.bodyKinds + (Census.operands f.bodyKinds + f.paramCount)

/-- `μ` of a function by definition: its distinct operators and its distinct operands, the
parameters included. -/
def exactVocabulary : Nat :=
  Census.distinctOperators f.bodyKinds + (Census.distinctOperands f.bodyKinds + f.paramCount)

/-- The additions made in computing a function's row, as in `Tally.additions`: those of each
node of the body in pre-order, then the parameters added to `N₂` and `μ₂`, then `N₁ + N₂` and
`μ₁ + μ₂` for the formulas and once more for the printed fields. -/
def rowAdditions : List (Nat × Nat) :=
  let t := Tally.ofBody (f.body.getD [])
  let c := (t.finish f).counts
  Tally.runAdditions {} f.bodyKinds ++
    [(t.counts.n2.toNat, f.paramCount), (t.counts.mu2.toNat, f.paramCount),
      (c.n1.toNat, c.n2.toNat), (c.mu1.toNat, c.mu2.toNat),
      (c.n1.toNat, c.n2.toNat), (c.mu1.toNat, c.mu2.toNat)]

theorem exact_ofBody (h : Census.Fits f.bodyKinds) :
    Tally.Exact (Tally.ofBody (f.body.getD [])) f.bodyKinds :=
  ⟨Tally.tracks_ofBody _, h⟩

/-- Whether the body's own counts fit decides nothing the totals do not: they fit when `N` and
`μ` do. -/
theorem fits_of_exact (hN : exactLength f < UInt64.size) (hmu : exactVocabulary f < UInt64.size) :
    Census.Fits f.bodyKinds := by
  simp only [exactLength, exactVocabulary] at hN hmu
  exact ⟨by omega, by omega, by omega, by omega⟩

/-- **The additions of a row fit exactly when `N` and `μ` do.** -/
theorem rowAdditions_fit_iff :
    (∀ a ∈ rowAdditions f, a.1 + a.2 < UInt64.size) ↔
      exactLength f < UInt64.size ∧ exactVocabulary f < UInt64.size := by
  have hrun := (Tally.Exact.runAdditions_fit_iff ⟨Tally.tracks_empty, by decide⟩ f.bodyKinds :
    (∀ a ∈ Tally.runAdditions {} f.bodyKinds, a.1 + a.2 < UInt64.size) ↔
      Census.Fits ([] ++ f.bodyKinds))
  rw [List.nil_append] at hrun
  simp only [rowAdditions, List.mem_append, or_imp, forall_and, hrun]
  by_cases hfits : Census.Fits f.bodyKinds
  · have hex := exact_ofBody f hfits
    obtain ⟨h1, h2, h3, h4, -, -⟩ := Tally.finish_ofBody_mod f (f.body.getD [])
    simp only [List.mem_cons, List.not_mem_nil, or_false, forall_eq_or_imp, forall_eq, hex.n2,
      hex.mu2, h1, h2, h3, h4, Function.bodyKinds] at hfits ⊢
    simp only [exactLength, exactVocabulary, Census.Fits, Function.bodyKinds, UInt64.size] at hfits ⊢
    omega
  · have hnot : ¬(exactLength f < UInt64.size ∧ exactVocabulary f < UInt64.size) :=
      fun h => hfits (fits_of_exact f h.1 h.2)
    simp [hfits, hnot]

/-- The first nine fields of a row: its name and its eight counts. -/
theorem Row.fields_take (r : Row) :
    r.fields.take 9 =
      [r.name, toString r.counts.mu1, toString r.counts.mu2, toString r.counts.n1,
        toString r.counts.n2, toString (r.counts.n1 + r.counts.n2),
        toString (r.counts.mu1 + r.counts.mu2), toString r.counts.mu1Potential,
        toString r.counts.mu2Potential] := by
  simp [Row.fields]

/-- A word prints as the number it holds. -/
theorem toString_of_toNat {x : UInt64} {n : Nat} (h : x.toNat = n) : toString x = toString n := by
  rw [← h]
  rfl

/-- When `N` and `μ` fit, the eight counts of the row are printed as their exact values. -/
theorem fields_take_of_exact (hN : exactLength f < UInt64.size)
    (hmu : exactVocabulary f < UInt64.size) :
    ((Tally.ofBody (f.body.getD [])).finish f).fields.take 9 =
      [f.qualifiedName, toString (Census.distinctOperators f.bodyKinds),
        toString (Census.distinctOperands f.bodyKinds + f.paramCount),
        toString (Census.operators f.bodyKinds),
        toString (Census.operands f.bodyKinds + f.paramCount), toString (exactLength f),
        toString (exactVocabulary f), "1", toString f.paramCount] := by
  obtain ⟨h1, h2, h3, h4, h5, h6⟩ := Tally.finish_ofBody_mod f (f.body.getD [])
  simp only [exactLength, exactVocabulary, Function.bodyKinds] at hN hmu ⊢
  rw [Row.fields_take]
  refine congrArg₂ List.cons rfl ?_
  simp only [List.cons.injEq, and_true]
  refine ⟨toString_of_toNat ?_, toString_of_toNat ?_, toString_of_toNat ?_, toString_of_toNat ?_,
    toString_of_toNat ?_, toString_of_toNat ?_, toString_of_toNat h5, toString_of_toNat ?_⟩
  all_goals simp only [UInt64.toNat_add, h1, h2, h3, h4, h6, UInt64.size] at hN hmu ⊢
  all_goals omega

/-- The pass reads how many rows it wrote as the difference of two counts that only grow, so the
difference loses nothing. -/
theorem rows_add_run (u : Outline) (policy : DegeneratePolicy) (sink : Sheet.Sink) :
    sink.rows + (run u policy sink).2 = (run u policy sink).1.rows := by
  simp only [run, Outline.traverse, foldl_visit, Sheet.Sink.foldl_write_rows]
  omega

/-- **Exactly the functions whose `N` or `μ` exceeds a word overflow the counters.** For every
function, all the 64-bit additions made in computing its row (each node's in the body walk, the
parameters in the finishing step, and `N₁ + N₂` and `μ₁ + μ₂` for the formulas and for the
printed fields) stay within the word exactly when `N` and `μ`, counted by their definition, are
at most `2⁶⁴ − 1`. Then the row prints each of its eight counts as its exact value. Whatever the
counts, the pass reads the rows it wrote as a difference that never goes below zero. -/
theorem row_counters_fit_iff :
    ((∀ a ∈ rowAdditions f, a.1 + a.2 < UInt64.size) ↔
      exactLength f < UInt64.size ∧ exactVocabulary f < UInt64.size) ∧
    (exactLength f < UInt64.size → exactVocabulary f < UInt64.size →
      ((Tally.ofBody (f.body.getD [])).finish f).fields.take 9 =
        [f.qualifiedName, toString (Census.distinctOperators f.bodyKinds),
          toString (Census.distinctOperands f.bodyKinds + f.paramCount),
          toString (Census.operators f.bodyKinds),
          toString (Census.operands f.bodyKinds + f.paramCount), toString (exactLength f),
          toString (exactVocabulary f), "1", toString f.paramCount]) ∧
    ∀ (u : Outline) (policy : DegeneratePolicy) (sink : Sheet.Sink),
      sink.rows + (run u policy sink).2 = (run u policy sink).1.rows :=
  ⟨rowAdditions_fit_iff f, fields_take_of_exact f, rows_add_run⟩

end Halstead

end SourceAudit
