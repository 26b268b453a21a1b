import SourceAudit.Halstead.Tally
import SourceAudit.Proofs.Arena
import Mathlib
/-!
# Halstead counts by their definition

`Tally.ofBody` counts a body with an explicit-stack walk and a record of the operator keys already
seen. This module says what it counts without either. Over the kinds of all nodes of a body, at
every depth and under every kind of node (`Node.kinds`):

* `N₁` is the number of operator nodes: binary and unary operators, conditionals of both forms,
  and calls;
* `N₂` weighs each operator by its operands: two for a binary operator, one for a unary one,
  three for `c ? a : b`, two for `a ?: b`, and its arguments for a call;
* `μ₁` is the number of distinct binary keys, of distinct unary keys and of distinct callee
  names, plus one for each form of conditional that occurs;
* `μ₂` is the number of local variables.

The parameters then add to `N₂` and `μ₂`, and give the potential counts. The counters are 64-bit
words that wrap, so each holds its count modulo `2⁶⁴`, and the count itself when it fits.

The proof follows the pass: the walk is a fold over the pre-order (`Outline.walkStack_eq_foldl`),
and `Tally.Tracks` is the invariant of that fold, kept by each node (`Tally.Tracks.classify`).

* `Node.kinds`, `NodeKind.Form`, `Census.operators`, `Census.operands`,
  `Census.distinctOperators`, `Census.distinctOperands`: the counts by definition.
* `Tally.Tracks`, `Tally.Tracks.foldl`: what any run of the fold keeps.
* `Tally.finish_ofBody_mod`: the counters hold the counts modulo `2⁶⁴`.
* **`Tally.finish_ofBody_exact`**: the counters hold the counts when they fit.
-/

namespace SourceAudit

/-- The kinds of all nodes of a forest, at every depth, in pre-order. -/
def Node.kinds (body : List Node) : List NodeKind :=
  (Node.forestPreorder body).map Node.kind

namespace NodeKind

/-- The form of a node, without its data. -/
inductive Form where
  | binary
  | unary
  | ternary
  | shortCircuit
  | call
  | localVar
  | record
  | other
  deriving DecidableEq, Repr

/-- The form of a node kind. -/
@[simp] def form : NodeKind → Form
  | .binary .. => .binary
  | .unary .. => .unary
  | .ternary => .ternary
  | .shortCircuit => .shortCircuit
  | .call .. => .call
  | .localVar _ => .localVar
  | .record _ => .record
  | .other _ => .other

/-- The arguments of a call; `0` for any other node. -/
@[simp] def args : NodeKind → Nat
  | .call _ n => n
  | _ => 0

/-- The key of a binary operator: the bit-field member it writes, else its symbol. -/
@[simp] def binaryKey? : NodeKind → Option String
  | .binary symbol bitfield => some (bitfield.getD symbol)
  | _ => none

/-- The key of a unary operator: the bit-field member it writes, else its symbol, after an `x`
when the operator follows its operand. -/
@[simp] def unaryKey? : NodeKind → Option String
  | .unary symbol trailing bitfield =>
    some (bitfield.getD (if trailing then "x" ++ symbol else symbol))
  | _ => none

/-- The name a call calls, when it calls a plain function name. -/
@[simp] def callee? : NodeKind → Option String
  | .call callee _ => callee
  | _ => none

end NodeKind

namespace Census

variable (ks : List NodeKind)

/-- The nodes of form `f`. -/
def occurrences (f : NodeKind.Form) : Nat := ks.countP (·.form = f)

/-- The distinct keys that `key` gives. -/
def keys (key : NodeKind → Option String) : Finset String := (ks.filterMap key).toFinset

/-- `1` when some node has form `f`, else `0`. -/
def present (f : NodeKind.Form) : Nat := if ks.any (·.form = f) then 1 else 0

/-- `N₁` of a body: binary and unary operators, conditionals of both forms, and calls. -/
def operators : Nat :=
  occurrences ks .binary + occurrences ks .unary + occurrences ks .ternary +
    occurrences ks .shortCircuit + occurrences ks .call

/-- `N₂` of a body: two operands for each binary operator, one for each unary operator, three for
each `c ? a : b`, two for each `a ?: b`, and the arguments of each call. -/
def operands : Nat :=
  2 * occurrences ks .binary + occurrences ks .unary + 3 * occurrences ks .ternary +
    2 * occurrences ks .shortCircuit + (ks.map NodeKind.args).foldr (· + ·) 0

/-- `μ₁` of a body: the distinct keys of binary operators, of unary operators and of callees,
and one for each form of conditional that occurs. -/
def distinctOperators : Nat :=
  (keys ks NodeKind.binaryKey?).card + (keys ks NodeKind.unaryKey?).card +
    present ks .ternary + present ks .shortCircuit + (keys ks NodeKind.callee?).card

/-- `μ₂` of a body: its local variables. -/
def distinctOperands : Nat := occurrences ks .localVar

@[simp] theorem occurrences_append (ks' : List NodeKind) (f : NodeKind.Form) :
    occurrences (ks ++ ks') f = occurrences ks f + occurrences ks' f := by
  simp [occurrences, List.countP_append]

@[simp] theorem keys_append (ks' : List NodeKind) (key : NodeKind → Option String) :
    keys (ks ++ ks') key = keys ks key ∪ keys ks' key := by
  simp [keys, List.toFinset_append]

@[simp] theorem keys_singleton (k : NodeKind) (key : NodeKind → Option String) :
    keys [k] key = (key k).toFinset := by
  cases h : key k <;> simp [keys, h]

theorem operators_append (ks' : List NodeKind) :
    operators (ks ++ ks') = operators ks + operators ks' := by
  simp only [operators, occurrences_append]
  omega

theorem operands_append (ks' : List NodeKind) :
    operands (ks ++ ks') = operands ks + operands ks' := by
  simp only [operands, occurrences_append, List.map_append, ← List.sum_eq_foldr, List.sum_append]
  omega

theorem distinctOperands_append (ks' : List NodeKind) :
    distinctOperands (ks ++ ks') = distinctOperands ks + distinctOperands ks' := by
  simp [distinctOperands]

end Census

namespace Halstead

/-- How many operator keys a record of seen keys holds: the distinct binary, unary and callee
keys, and one for each form of conditional met. -/
def Seen.size (s : Seen) : Nat :=
  s.binary.toFinset.card + s.unary.toFinset.card + s.ternary.toNat + s.shortCircuit.toNat +
    s.calls.toFinset.card

namespace Tally

/-- What a tally keeps of the node kinds `ks` it has counted: the occurrence counters and `μ₂`
hold their counts modulo `2⁶⁴`, `μ₁` holds the number of keys seen, and the keys seen are those
of `ks`. -/
structure Tracks (t : Tally) (ks : List NodeKind) : Prop where
  n1 : t.counts.n1.toNat = Census.operators ks % UInt64.size
  n2 : t.counts.n2.toNat = Census.operands ks % UInt64.size
  mu2 : t.counts.mu2.toNat = Census.distinctOperands ks % UInt64.size
  mu1 : t.counts.mu1.toNat = t.seen.size % UInt64.size
  binary : t.seen.binary.toFinset = Census.keys ks NodeKind.binaryKey?
  unary : t.seen.unary.toFinset = Census.keys ks NodeKind.unaryKey?
  calls : t.seen.calls.toFinset = Census.keys ks NodeKind.callee?
  ternary : t.seen.ternary = ks.any (·.form = .ternary)
  shortCircuit : t.seen.shortCircuit = ks.any (·.form = .shortCircuit)

theorem tracks_empty : Tracks {} [] where
  n1 := rfl
  n2 := rfl
  mu2 := rfl
  mu1 := rfl
  binary := rfl
  unary := rfl
  calls := rfl
  ternary := rfl
  shortCircuit := rfl

variable (t : Tally) (k : NodeKind)

/-! ### One node -/

-- The first-seen test of `classify` rebuilds the tally only to record a key.
@[simp] theorem counts_ite_seen (c : Prop) [Decidable c] (s : Seen) :
    (if c then t else ⟨t.counts, s⟩).counts = t.counts := by
  split <;> rfl

@[simp] theorem seen_ite_seen (c : Prop) [Decidable c] (s : Seen) :
    (if c then t else ⟨t.counts, s⟩).seen = if c then t.seen else s := by
  split <;> rfl

/-- The key `classify` gives a unary operator is the one `NodeKind.unaryKey?` names. -/
theorem unaryKey_eq (symbol : String) (trailing : Bool) (bitfield : Option String) :
    unaryKey symbol trailing bitfield =
      bitfield.getD (if trailing then "x" ++ symbol else symbol) := by
  cases bitfield <;> rfl

theorem classify_n1 :
    (t.classify k).counts.n1.toNat = (t.counts.n1.toNat + Census.operators [k]) % UInt64.size := by
  cases k with
  | call c n =>
    cases c <;> simp [classify, operator, Census.operators, Census.occurrences,
      UInt64.toNat_add, UInt64.size]
  | _ =>
    simp [classify, operator, Census.operators, Census.occurrences,
      UInt64.toNat_add, UInt64.size]

theorem classify_n2 :
    (t.classify k).counts.n2.toNat = (t.counts.n2.toNat + Census.operands [k]) % UInt64.size := by
  cases k with
  | call c n =>
    cases c <;> simp [classify, operator, Census.operands, Census.occurrences,
      UInt64.toNat_add, UInt64.size]
  | _ =>
    simp [classify, operator, Census.operands, Census.occurrences,
      UInt64.toNat_add, UInt64.size]

theorem classify_mu2 :
    (t.classify k).counts.mu2.toNat =
      (t.counts.mu2.toNat + Census.distinctOperands [k]) % UInt64.size := by
  cases k with
  | call c n =>
    cases c <;> simp [classify, operator, Census.distinctOperands, Census.occurrences]
  | _ =>
    simp [classify, operator, Census.distinctOperands, Census.occurrences,
      UInt64.toNat_add, UInt64.size]

/-- A list of keys after meeting `key`: the key is added at the end the first time. -/
def noteKey (l : List String) : Option String → List String
  | some x => if x ∈ l then l else l ++ [x]
  | none => l

@[simp] theorem toFinset_noteKey (l : List String) (key : Option String) :
    (noteKey l key).toFinset = l.toFinset ∪ key.toFinset := by
  cases key with
  | none => simp [noteKey]
  | some x => by_cases hx : x ∈ l <;> simp [noteKey, hx]

/-- **What one node does to the keys seen**: its key, if new, joins the keys of its form, and a
conditional marks its form as met. -/
theorem classify_seen :
    (t.classify k).seen =
      { binary := noteKey t.seen.binary k.binaryKey?
        unary := noteKey t.seen.unary k.unaryKey?
        calls := noteKey t.seen.calls k.callee?
        ternary := t.seen.ternary || decide (k.form = .ternary)
        shortCircuit := t.seen.shortCircuit || decide (k.form = .shortCircuit) } := by
  cases k with
  | binary s b =>
    by_cases hm : b.getD s ∈ t.seen.binary <;>
      simp [classify, operator, hm, noteKey]
  | unary s tr b =>
    by_cases hm : unaryKey s tr b ∈ t.seen.unary <;>
      simp [classify, operator, hm, noteKey, ← unaryKey_eq]
  | call c n =>
    cases c with
    | none => simp [classify, operator, noteKey]
    | some name =>
      by_cases hm : name ∈ t.seen.calls <;>
        simp [classify, operator, hm, noteKey]
  | _ => simp [classify, operator, noteKey]

/-- `μ₁` counts a key exactly when the key joins the keys seen. -/
theorem classify_mu1 (h : t.counts.mu1.toNat = t.seen.size % UInt64.size) :
    (t.classify k).counts.mu1.toNat = (t.classify k).seen.size % UInt64.size := by
  rw [classify_seen]
  simp only [Seen.size, UInt64.size] at h ⊢
  cases k with
  | binary s b =>
    by_cases hm : b.getD s ∈ t.seen.binary
    · simpa [classify, operator, hm, noteKey] using h
    · simp [classify, operator, hm, noteKey, UInt64.toNat_add, Finset.card_insert_of_notMem, h]
      omega
  | unary s tr b =>
    by_cases hm : unaryKey s tr b ∈ t.seen.unary
    · simpa [classify, operator, hm, noteKey, ← unaryKey_eq] using h
    · simp [classify, operator, hm, noteKey, ← unaryKey_eq, UInt64.toNat_add,
        Finset.card_insert_of_notMem, h]
      omega
  | ternary =>
    cases hm : t.seen.ternary
    · simp [classify, operator, hm, noteKey, UInt64.toNat_add, h]
      omega
    · simpa [classify, operator, hm, noteKey] using h
  | shortCircuit =>
    cases hm : t.seen.shortCircuit
    · simp [classify, operator, hm, noteKey, UInt64.toNat_add, h]
      omega
    · simpa [classify, operator, hm, noteKey] using h
  | call c n =>
    cases c with
    | none => simpa [classify, operator, noteKey] using h
    | some name =>
      by_cases hm : name ∈ t.seen.calls
      · simpa [classify, operator, hm, noteKey] using h
      · simp [classify, operator, hm, noteKey, UInt64.toNat_add, Finset.card_insert_of_notMem, h]
        omega
  | _ => simpa [classify, operator, noteKey] using h

/-! ### A run of nodes -/

variable {t} {ks : List NodeKind}

/-- **One node keeps the invariant**: after counting `ks`, counting `k` gives the tally of
`ks ++ [k]`. -/
theorem Tracks.classify (h : Tracks t ks) : Tracks (t.classify k) (ks ++ [k]) where
  n1 := by rw [classify_n1, h.n1, Census.operators_append, Nat.mod_add_mod]
  n2 := by rw [classify_n2, h.n2, Census.operands_append, Nat.mod_add_mod]
  mu2 := by rw [classify_mu2, h.mu2, Census.distinctOperands_append, Nat.mod_add_mod]
  mu1 := classify_mu1 t k h.mu1
  binary := by simp [classify_seen, h.binary]
  unary := by simp [classify_seen, h.unary]
  calls := by simp [classify_seen, h.calls]
  ternary := by simp [classify_seen, h.ternary]
  shortCircuit := by simp [classify_seen, h.shortCircuit]

/-- Any run of nodes keeps the invariant. -/
theorem Tracks.foldl (h : Tracks t ks) (rest : List NodeKind) :
    Tracks (rest.foldl Tally.classify t) (ks ++ rest) := by
  induction rest generalizing t ks with
  | nil => simpa using h
  | cons k rest ih => simpa using ih (h.classify k)

/-- The keys a tracking tally has seen are the distinct operators of what it counted. -/
theorem Tracks.seen_size (h : Tracks t ks) : t.seen.size = Census.distinctOperators ks := by
  simp only [Seen.size, Census.distinctOperators, Census.present, h.binary, h.unary, h.calls,
    h.ternary, h.shortCircuit]
  cases ks.any (·.form = .ternary) <;> cases ks.any (·.form = .shortCircuit) <;> rfl

/-- The walk of a body counts its nodes in pre-order. -/
theorem ofBody_eq_foldl (body : List Node) :
    ofBody body = (Node.kinds body).foldl Tally.classify {} := by
  rw [ofBody, Node.walk,
    Outline.walkStack_eq_foldl _ (fun (t : Tally) (n : Node) => t.classify n.kind)
      (fun _ _ => rfl), Node.kinds,
    List.foldl_map]

theorem tracks_ofBody (body : List Node) : Tracks (ofBody body) (Node.kinds body) := by
  rw [ofBody_eq_foldl]
  simpa using tracks_empty.foldl (Node.kinds body)

/-! ### The row of a function -/

variable (f : Function) (body : List Node)

/-- **The counters hold the counts modulo `2⁶⁴`**, for every body and every function: the body's
counts by definition, with the parameters added to `N₂` and `μ₂`, and the potential counts. -/
theorem finish_ofBody_mod :
    ((ofBody body).finish f).counts.n1.toNat = Census.operators (Node.kinds body) % UInt64.size ∧
    ((ofBody body).finish f).counts.n2.toNat =
      (Census.operands (Node.kinds body) + f.paramCount) % UInt64.size ∧
    ((ofBody body).finish f).counts.mu1.toNat =
      Census.distinctOperators (Node.kinds body) % UInt64.size ∧
    ((ofBody body).finish f).counts.mu2.toNat =
      (Census.distinctOperands (Node.kinds body) + f.paramCount) % UInt64.size ∧
    ((ofBody body).finish f).counts.mu1Potential.toNat = 1 ∧
    ((ofBody body).finish f).counts.mu2Potential.toNat = f.paramCount % UInt64.size := by
  have h := tracks_ofBody body
  refine ⟨h.n1, ?_, ?_, ?_, rfl, ?_⟩
  · simp only [finish, UInt64.toNat_add, h.n2, Nat.toUInt64_eq, UInt64.toNat_ofNat',
      Nat.add_mod_mod, Nat.mod_add_mod]
  · rw [← h.seen_size]
    exact h.mu1
  · simp only [finish, UInt64.toNat_add, h.mu2, Nat.toUInt64_eq, UInt64.toNat_ofNat',
      Nat.add_mod_mod, Nat.mod_add_mod]
  · simp only [finish, Nat.toUInt64_eq, UInt64.toNat_ofNat']

/-- **Halstead counts equal their definition.** For every function and every body, when the
counts fit in 64 bits the row holds them exactly: `N₁` the operator nodes at every depth, `N₂`
their operands and the parameters, `μ₁` the distinct operator keys with one for each form of
conditional met, `μ₂` the local variables and the parameters, `μ₁* = 1` and `μ₂*` the
parameters. -/
theorem finish_ofBody_exact
    (hN1 : Census.operators (Node.kinds body) < UInt64.size)
    (hN2 : Census.operands (Node.kinds body) + f.paramCount < UInt64.size)
    (hmu1 : Census.distinctOperators (Node.kinds body) < UInt64.size)
    (hmu2 : Census.distinctOperands (Node.kinds body) + f.paramCount < UInt64.size) :
    ((ofBody body).finish f).counts.n1.toNat = Census.operators (Node.kinds body) ∧
    ((ofBody body).finish f).counts.n2.toNat =
      Census.operands (Node.kinds body) + f.paramCount ∧
    ((ofBody body).finish f).counts.mu1.toNat = Census.distinctOperators (Node.kinds body) ∧
    ((ofBody body).finish f).counts.mu2.toNat =
      Census.distinctOperands (Node.kinds body) + f.paramCount ∧
    ((ofBody body).finish f).counts.mu1Potential.toNat = 1 ∧
    ((ofBody body).finish f).counts.mu2Potential.toNat = f.paramCount := by
  obtain ⟨h1, h2, h3, h4, h5, h6⟩ := finish_ofBody_mod f body
  rw [Nat.mod_eq_of_lt hN1] at h1
  rw [Nat.mod_eq_of_lt hN2] at h2
  rw [Nat.mod_eq_of_lt hmu1] at h3
  rw [Nat.mod_eq_of_lt hmu2] at h4
  rw [Nat.mod_eq_of_lt (by omega)] at h6
  exact ⟨h1, h2, h3, h4, h5, h6⟩

/-- `a = a + g(a, b)` with a bit-field member and a local, in a function of one parameter. -/
theorem finish_ofBody_exact_assign :
    let body : List Node :=
      [.mk (.binary "=" (some "a")) {} [.mk (.binary "+" none) {}
        [.mk (.call (some "g") 2) {} []]], .mk (.localVar "x") {} []]
    let f : Function := ⟨"f", "f", {}, true, 1, true, false, some body⟩
    Census.operators (Node.kinds body) < UInt64.size ∧
    Census.operands (Node.kinds body) + f.paramCount < UInt64.size ∧
    Census.distinctOperators (Node.kinds body) < UInt64.size ∧
    Census.distinctOperands (Node.kinds body) + f.paramCount < UInt64.size ∧
    ((ofBody body).finish f).counts.n1.toNat = Census.operators (Node.kinds body) ∧
    ((ofBody body).finish f).counts.n2.toNat =
      Census.operands (Node.kinds body) + f.paramCount ∧
    ((ofBody body).finish f).counts.mu1.toNat = Census.distinctOperators (Node.kinds body) ∧
    ((ofBody body).finish f).counts.mu2.toNat =
      Census.distinctOperands (Node.kinds body) + f.paramCount ∧
    ((ofBody body).finish f).counts.mu1Potential.toNat = 1 ∧
    ((ofBody body).finish f).counts.mu2Potential.toNat = f.paramCount :=
  ⟨by decide, by decide, by decide, by decide,
    finish_ofBody_exact _ _ (by decide) (by decide) (by decide) (by decide)⟩

end Tally

end Halstead

end SourceAudit
