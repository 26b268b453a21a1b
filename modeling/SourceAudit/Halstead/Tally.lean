import SourceAudit.Ast.Walk
import SourceAudit.Halstead.Counts
/-!
# Counting one function body

Each node of a body, at every depth, adds to the counts:

* a binary operator: one operator, two operands;
* a unary operator: one operator, one operand;
* `c ? a : b`: one operator, three operands; `a ?: b`: one operator, two operands;
* a call: one operator, one operand per argument;
* a local variable: one distinct operand;
* anything else: nothing.

An operator is distinct the first time its key is seen in the function: the bit-field member
it writes if any, else its symbol (a unary operator written after its operand is keyed
`x` followed by the symbol). All conditionals of one form count as one distinct operator,
and a call is distinct once per callee name; a call through anything but a plain name never
is. After the body, each parameter adds a distinct operand and an operand occurrence, and
the potential counts are one operator and one operand per parameter.

Main definitions:
* `Tally.classify`: one node's contribution.
* `Tally.ofBody`, `Tally.finish`.
-/

namespace SourceAudit.Halstead

/-- Keys already counted as distinct in the current function. -/
structure Seen where
  binary : List String := []
  unary : List String := []
  calls : List String := []
  ternary : Bool := false
  shortCircuit : Bool := false
  deriving Repr, Inhabited

/-- The counting state of one function. -/
structure Tally where
  counts : Counts := {}
  seen : Seen := {}
  deriving Repr, Inhabited

namespace Tally

/-- Adds one operator occurrence with its operands, and a distinct operator when `fresh`. -/
def operator (t : Tally) (operands : UInt64) (fresh : Bool) : Tally :=
  { t with counts := { t.counts with
      n1 := t.counts.n1 + 1
      n2 := t.counts.n2 + operands
      mu1 := if fresh then t.counts.mu1 + 1 else t.counts.mu1 } }

/-- The key of a unary operator. -/
def unaryKey (symbol : String) (trailing : Bool) (bitfield : Option String) : String :=
  match bitfield with
  | some member => member
  | none => if trailing then "x" ++ symbol else symbol

/-- One node's contribution. -/
def classify (t : Tally) : NodeKind → Tally
  | .binary symbol bitfield =>
    let key := bitfield.getD symbol
    let fresh := !t.seen.binary.contains key
    let t := if fresh then { t with seen := { t.seen with binary := t.seen.binary ++ [key] } } else t
    t.operator 2 fresh
  | .unary symbol trailing bitfield =>
    let key := unaryKey symbol trailing bitfield
    let fresh := !t.seen.unary.contains key
    let t := if fresh then { t with seen := { t.seen with unary := t.seen.unary ++ [key] } } else t
    t.operator 1 fresh
  | .ternary =>
    let fresh := !t.seen.ternary
    { t with seen := { t.seen with ternary := true } }.operator 3 fresh
  | .shortCircuit =>
    let fresh := !t.seen.shortCircuit
    { t with seen := { t.seen with shortCircuit := true } }.operator 2 fresh
  | .call callee args =>
    match callee with
    | some name =>
      let fresh := !t.seen.calls.contains name
      let t := if fresh then { t with seen := { t.seen with calls := t.seen.calls ++ [name] } } else t
      t.operator args.toUInt64 fresh
    | none => t.operator args.toUInt64 false
  | .localVar _ => { t with counts := { t.counts with mu2 := t.counts.mu2 + 1 } }
  | .record _ => t
  | .other _ => t

/-- The counts of a body: every node, at every depth, classified in pre-order. -/
def ofBody (body : List Node) : Tally :=
  Node.walk body (fun t n => (t.classify n.kind, Flow.continue)) {}

/-- Adds the parameters and the potential counts, giving the function's row. -/
def finish (t : Tally) (f : Function) : Row :=
  let params := f.paramCount.toUInt64
  { name := f.qualifiedName
    counts := { t.counts with
      mu1Potential := 1
      mu2Potential := params
      n2 := t.counts.n2 + params
      mu2 := t.counts.mu2 + params } }

end Tally

end SourceAudit.Halstead
