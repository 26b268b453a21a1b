/-!
# The double nearest to a decimal

A decimal `d · 10^q` is read as the binary double nearest to it: `m · 2^e` with a significand
`m` below `2^53` and an exponent `e` from `-1074` to `971`, a tie going to the even
significand. Normal doubles have `2^52 ≤ m`; below `2^-1022` the exponent stays at `-1074`
and the significand shrinks (subnormals). A decimal at least half a unit beyond the largest
double has no nearest double: it overflows.

The computation is exact: the decimal is the rational `num / den`, its binary order of
magnitude is found from the bit lengths, and the significand is that rational scaled by a power
of two and rounded. Decimals far beyond the range are decided from their digit count alone, so
a huge exponent costs nothing.

Main definitions:
* `Binary64`: a finite double as sign, significand and exponent.
* `Binary64.ofRatio`: the double nearest to a rational, or `none` on overflow.
* `Binary64.nearest`: the double nearest to a decimal, or `none` on overflow.
* `Binary64.mul`, `Binary64.div`, `Binary64.add`: exact product, quotient and sum, rounded.
-/

namespace SourceAudit.Decimal

/-- A finite double: `(-1)^negative · significand · 2^exponent`. -/
structure Binary64 where
  negative : Bool
  significand : Nat
  exponent : Int
  deriving Repr, BEq, DecidableEq, Inhabited

/-- The natural nearest to `num / den`; of two equally near, the even one. -/
def roundHalfEven (num den : Nat) : Nat :=
  let q := num / den
  let r := num % den
  if 2 * r > den then q + 1
  else if 2 * r < den then q
  else if q % 2 == 1 then q + 1 else q

/-- The number of decimal digits of a positive natural. -/
def digitCount (n : Nat) : Nat := (toString n).length

/-- `x · 2^k` for an integer `k`, as a numerator and denominator. -/
def shiftRatio (num den : Nat) (k : Int) : Nat × Nat :=
  if 0 ≤ k then (num * Nat.pow 2 k.toNat, den) else (num, den * Nat.pow 2 (-k).toNat)

/-- The exponent `k` with `2^k ≤ num / den < 2^(k+1)`, for positive `num` and `den`. -/
def binaryOrder (num den : Nat) : Int :=
  let k : Int := (num.log2 : Int) - den.log2
  let (a, b) := shiftRatio den 1 k
  -- `den · 2^k` as `a / b`; the order is `k` when `num / den ≥ 2^k`
  if num * b ≥ a then k else k - 1

/-- **The double nearest to `(-1)^negative · num / den`**, for a positive `den`, or `none` when
it overflows. -/
def Binary64.ofRatio (negative : Bool) (num den : Nat) : Option Binary64 :=
  if num == 0 then some ⟨negative, 0, 0⟩
  else
    let e := max (binaryOrder num den - 52) (-1074)
    let (a, b) := shiftRatio num den (-e)
    let m := roundHalfEven a b
    let (m, e) := if m == Nat.pow 2 53 then (Nat.pow 2 52, e + 1) else (m, e)
    if m == 0 then some ⟨negative, 0, 0⟩
    else if 971 < e then none
    else some ⟨negative, m, e⟩

/-- **The double nearest to `(-1)^negative · digits · 10^exp10`**, or `none` when it
overflows. -/
def Binary64.nearest (negative : Bool) (digits : Nat) (exp10 : Int) : Option Binary64 :=
  if digits == 0 then some ⟨negative, 0, 0⟩
  else
    let n : Int := digitCount digits
    if 310 < n + exp10 then none
    else if n + exp10 < -330 then some ⟨negative, 0, 0⟩
    else
      Binary64.ofRatio negative (digits * Nat.pow 10 (max exp10 0).toNat)
        (Nat.pow 10 (max (-exp10) 0).toNat)

/-- The value of a double as a numerator over a power of two, its sign set aside. -/
def Binary64.ratio (x : Binary64) : Nat × Nat :=
  shiftRatio x.significand 1 x.exponent

/-- The exact product of two doubles, rounded. -/
def Binary64.mul (a b : Binary64) : Option Binary64 :=
  let (p, q) := a.ratio
  let (r, s) := b.ratio
  Binary64.ofRatio false (p * r) (q * s)

/-- The exact quotient of two doubles, rounded; `b` is not zero. -/
def Binary64.div (a b : Binary64) : Binary64 :=
  let (p, q) := a.ratio
  let (r, s) := b.ratio
  (Binary64.ofRatio false (p * s) (q * r)).getD ⟨false, 0, 0⟩

/-- The exact sum of two non-negative doubles, rounded. -/
def Binary64.add (a b : Binary64) : Binary64 :=
  let (p, q) := a.ratio
  let (r, s) := b.ratio
  (Binary64.ofRatio false (p * s + r * q) (q * s)).getD ⟨false, 0, 0⟩

/-- The first of two non-negative doubles is the smaller. -/
def Binary64.lt (a b : Binary64) : Bool :=
  let (p, q) := a.ratio
  let (r, s) := b.ratio
  p * s < r * q

example : Binary64.nearest false 1 0 = some ⟨false, 2 ^ 52, -52⟩ := by decide +kernel

end SourceAudit.Decimal
