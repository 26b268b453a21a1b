/-!
# Fixed-point text of a binary float

A finite double is exactly `m · 2^e` for naturals `m` and an integer `e`. Its text with `p`
places is that rational scaled by `10^p` and rounded to the nearest integer, a tie going to
the even neighbour, then written with every integer digit and exactly `p` fractional digits.
No exponent is ever used, so `1e32` is written with all thirty-three digits.

Everything is exact `Nat` arithmetic on the bits of the float (`Float.toBits`), so the text
depends on the value alone and not on any printing routine.

Main definitions:
* `Fixed.roundHalfEven`: the nearest natural to `num / den`, ties to even.
* `Fixed.scaled`: `|x| · 10^p` rounded.
* `Fixed.render`: the text, with a leading `-` when the sign bit is set.
-/

namespace SourceAudit.Fixed

/-- The sign bit, the significand and the binary exponent of a finite double, so that its
magnitude is `m · 2^e`. Subnormals have the fixed exponent `-1074`. -/
def decode (x : Float) : Bool × Nat × Int :=
  let b : Nat := x.toBits.toNat
  let negative : Bool := b / Nat.pow 2 63 % 2 == 1
  let biased : Nat := b / Nat.pow 2 52 % 2048
  let fraction : Nat := b % Nat.pow 2 52
  if biased == 0 then (negative, fraction, -1074)
  else (negative, fraction + Nat.pow 2 52, (biased : Int) - 1075)

/-- The natural nearest to `num / den`; of two equally near, the even one. -/
def roundHalfEven (num den : Nat) : Nat :=
  let q := num / den
  let r := num % den
  if 2 * r > den then q + 1
  else if 2 * r < den then q
  else if q % 2 == 1 then q + 1 else q

/-- `m · 2^e · 10^p` rounded to a natural, ties to even. -/
def scaled (m : Nat) (e : Int) (p : Nat) : Nat :=
  if 0 ≤ e then m * Nat.pow 2 e.toNat * Nat.pow 10 p
  else roundHalfEven (m * Nat.pow 10 p) (Nat.pow 2 (-e).toNat)

/-- Left-pads a digit string with zeros to at least `n` digits. -/
def padZeros (n : Nat) (s : String) : String :=
  String.ofList (List.replicate (n - s.length) '0') ++ s

/-- The digits of the scaled value `n` with a point before the last `p` of them; at least one
digit stands before the point. -/
def placeDigits (n p : Nat) : String :=
  let digits := padZeros (p + 1) (toString n)
  let whole := digits.length - p
  if p == 0 then digits
  else String.ofList (digits.toList.take whole) ++ "." ++ String.ofList (digits.toList.drop whole)

/-- **The fixed-point text of a finite double** with `p` places. -/
def render (x : Float) (p : Nat) : String :=
  let (negative, m, e) := decode x
  (if negative then "-" else "") ++ placeDigits (scaled m e p) p

end SourceAudit.Fixed
