import SourceAudit.Text.Fixed
import SourceAudit.Text.Caseless
/-!
# Halstead counts and the values derived from them

A function's counts are the distinct operators `μ₁` and operands `μ₂`, the operator and
operand occurrences `N₁` and `N₂`, and the potential counts `μ₁*` and `μ₂*`. The counters are
64-bit words, as the reports have always used; sums wrap.

From the counts, in IEEE double arithmetic: length `N = N₁ + N₂`, vocabulary `μ = μ₁ + μ₂`,
volume `V = N log₂ μ`, potential volume `V* = (2 + μ₂*) log₂ (2 + μ₂*)`, level `L = V*/N`,
difficulty `D = 1/L`, intelligence `I = (1/D) V*`, effort `E = V/L` and time `T = E/18`
(the Stroud number). A row is **degenerate** when one of the seven is not finite, as for an
empty function.

Main definitions:
* `Counts`, `Derived.ofCounts`, `Derived.degenerate`.
* `Row.fields`: the sixteen report fields; a value prints with four places, `nan` when not
  finite.
* `DegeneratePolicy`: keep degenerate rows or drop them.
-/

namespace SourceAudit.Halstead

/-- The raw counts of one function. -/
structure Counts where
  mu1 : UInt64 := 0
  mu2 : UInt64 := 0
  n1 : UInt64 := 0
  n2 : UInt64 := 0
  mu1Potential : UInt64 := 0
  mu2Potential : UInt64 := 0
  deriving Repr, BEq, DecidableEq, Inhabited

/-- The seven derived values. -/
structure Derived where
  volume : Float
  potentialVolume : Float
  level : Float
  difficulty : Float
  intelligence : Float
  effort : Float
  time : Float
  deriving Inhabited

/-- Seconds per elementary mental discrimination. -/
def stroud : Float := 18.0

/-- The Halstead formulas over the counts. -/
def Derived.ofCounts (c : Counts) : Derived :=
  let length := (c.n1 + c.n2).toFloat
  let vocabulary := (c.mu1 + c.mu2).toFloat
  let potential := 2.0 + c.mu2Potential.toFloat
  let volume := length * Float.log2 vocabulary
  let potentialVolume := potential * Float.log2 potential
  let level := potentialVolume / length
  let difficulty := 1.0 / level
  let levelEstimate := 1.0 / difficulty
  let effort := volume / level
  { volume, potentialVolume, level, difficulty, effort
    intelligence := levelEstimate * potentialVolume
    time := effort / stroud }

/-- The values in report order. -/
def Derived.values (d : Derived) : List Float :=
  [d.volume, d.potentialVolume, d.level, d.difficulty, d.intelligence, d.effort, d.time]

/-- Some value is NaN or infinite. -/
def Derived.degenerate (d : Derived) : Bool :=
  d.values.any fun v => !v.isFinite

/-- A derived value in a report: four places, or `nan` when it is not finite. -/
def formatValue (v : Float) : String :=
  if v.isFinite then Fixed.render v 4 else "nan"

/-- The column names of the metrics report. -/
def header : List String :=
  ["function_name", "mu1", "mu2", "N1", "N2", "N", "mu", "mu1'", "mu2'",
   "V", "V*", "L", "D", "I", "E", "T"]

/-- One finished row: a function's qualified name and its counts. -/
structure Row where
  name : String
  counts : Counts
  deriving Inhabited

/-- The derived values of a row. -/
def Row.derived (r : Row) : Derived := Derived.ofCounts r.counts

/-- The sixteen fields of a row, in header order. -/
def Row.fields (r : Row) : List String :=
  let c := r.counts
  [r.name, toString c.mu1, toString c.mu2, toString c.n1, toString c.n2,
   toString (c.n1 + c.n2), toString (c.mu1 + c.mu2),
   toString c.mu1Potential, toString c.mu2Potential] ++
  r.derived.values.map formatValue

/-- What to do with a degenerate row. -/
inductive DegeneratePolicy where
  /-- Keep it; its non-finite values read `nan`. -/
  | sentinel
  /-- Drop it. -/
  | skip
  deriving Repr, BEq, DecidableEq, Inhabited

namespace DegeneratePolicy

/-- The name used in configuration files and outcomes. -/
def name : DegeneratePolicy → String
  | sentinel => "sentinel"
  | skip => "skip"

/-- Reads a policy name, ignoring case: `sentinel` or its synonym `nan`, or `skip`. -/
def ofText? (s : String) : Option DegeneratePolicy :=
  if Text.caselessEq s "sentinel" || Text.caselessEq s "nan" then some .sentinel
  else if Text.caselessEq s "skip" then some .skip
  else none

/-- The complaint about a text that names no policy; the text is shown as given. -/
def unknownMessage (s : String) : String :=
  "unknown degenerate metrics policy: " ++ s

end DegeneratePolicy

end SourceAudit.Halstead
