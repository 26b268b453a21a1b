import SourceAudit.Decimal.Nearest
/-!
# The shortest decimal of a double

A double `v` stands for every real that rounds to it: the interval from the midpoint with its
predecessor to the midpoint with its successor, both ends included when the significand is
even. Its **shortest decimal** has the fewest significant digits of any decimal in that
interval; of two such, the one nearer to `v`, and the larger on a tie. At each digit count `k`
only the two `k`-digit decimals around `v` can be nearest, so they are the ones tried.

The text writes that decimal without an exponent (`1e21` is twenty-two digits, `1e-7` is
`0.0000001`), with a `-` for a negative double, `-0` included.

Main definitions:
* `Binary64.shortest`: the digits and decimal exponent.
* `Binary64.text`: the positional text.
* `Binary64.compactText`: positional near one, with an exponent far from it.
-/

namespace SourceAudit.Decimal

/-- `10^x ≤ num / den`, for an integer `x`. -/
def tenPowLe (x : Int) (num den : Nat) : Bool :=
  if 0 ≤ x then Nat.pow 10 x.toNat * den ≤ num else den ≤ num * Nat.pow 10 (-x).toNat

/-- The exponent `t` with `10^t ≤ num / den < 10^(t+1)`, for positive `num` and `den`. -/
def decimalOrder (num den : Nat) : Int :=
  let guess : Int := (binaryOrder num den * 30103).fdiv 100000
  let up := (List.range 4).foldl (fun t _ => if tenPowLe (t + 1) num den then t + 1 else t) guess
  (List.range 4).foldl (fun t _ => if tenPowLe t num den then t else t - 1) up

/-- `d · 10^q` compared with `num / den`: its sign as `-1`, `0` or `1`. -/
def compareScaled (d : Nat) (q : Int) (num den : Nat) : Int :=
  let lhs := d * Nat.pow 10 (max q 0).toNat * den
  let rhs := num * Nat.pow 10 (max (-q) 0).toNat
  if lhs < rhs then -1 else if lhs == rhs then 0 else 1

/-- Drops trailing zero digits, raising the exponent. -/
def trimZeros (d : Nat) (q : Int) : Nat → Nat × Int
  | 0 => (d, q)
  | n + 1 => if d != 0 && d % 10 == 0 then trimZeros (d / 10) (q + 1) n else (d, q)

/-- **The shortest decimal `d · 10^q` of a positive double**, as `(d, q)`. -/
def Binary64.shortest (x : Binary64) : Nat × Int :=
  let m := x.significand
  let e := x.exponent
  -- the value and the interval ends, all over the denominator `den`
  let scale := Nat.pow 2 (max e 0).toNat
  let den := 4 * Nat.pow 2 (max (-e) 0).toNat
  let value := 4 * m * scale
  let high := (4 * m + 2) * scale
  let low := (if m == Nat.pow 2 52 && -1074 < e then 4 * m - 1 else 4 * m - 2) * scale
  let inclusive := m % 2 == 0
  let inside (d : Nat) (q : Int) : Bool :=
    let lo := compareScaled d q low den
    let hi := compareScaled d q high den
    (if inclusive then 0 ≤ lo else 0 < lo) && (if inclusive then hi ≤ 0 else hi < 0)
  let order := decimalOrder value den
  let pick := (List.range 17).findSome? fun (i : Nat) =>
    let q : Int := order - (i : Int)
    let (a, b) := (value * Nat.pow 10 (max (-q) 0).toNat, den * Nat.pow 10 (max q 0).toNat)
    let below := a / b
    let above := below + 1
    let belowIn := inside below q
    let aboveIn := a % b != 0 && inside above q
    if belowIn && aboveIn then
      some (if 2 * (a % b) < b then below else above, q)
    else if belowIn then some (below, q)
    else if aboveIn then some (above, q)
    else none
  let (d, q) := pick.getD (value / den, 0)
  trimZeros d q 400

/-- The digits `ds` with value `0.ds · 10^point`, written without an exponent. -/
def placePoint (ds : String) (point : Int) : String :=
  let n : Int := ds.length
  if point ≤ 0 then "0." ++ String.ofList (List.replicate (-point).toNat '0') ++ ds
  else if point < n then
    String.ofList (ds.toList.take point.toNat) ++ "." ++ String.ofList (ds.toList.drop point.toNat)
  else ds ++ String.ofList (List.replicate (point - n).toNat '0')

/-- **The positional text of a double**: its shortest decimal, signed. -/
def Binary64.text (x : Binary64) : String :=
  let sign := if x.negative then "-" else ""
  if x.significand == 0 then sign ++ "0"
  else
    let (d, q) := x.shortest
    let ds := toString d
    sign ++ placePoint ds (q + ds.length)

/-- **The compact text of a double**: its shortest decimal positional with at least one
fraction digit when its order of magnitude `p` (the value lies in `[10^(p-1), 10^p)`) is from
`-4` to `16`, and otherwise as one digit, the rest after a point, `e` and `p - 1`. Zero is
`0.0`. -/
def Binary64.compactText (x : Binary64) : String :=
  let sign := if x.negative then "-" else ""
  if x.significand == 0 then sign ++ "0.0"
  else
    let (d, q) := x.shortest
    let ds := toString d
    let n : Int := ds.length
    let p := n + q
    let zeros (k : Int) := String.ofList (List.replicate k.toNat '0')
    let body :=
      if 0 ≤ q && p ≤ 16 then ds ++ zeros q ++ ".0"
      else if 0 < p && p ≤ 16 then
        String.ofList (ds.toList.take p.toNat) ++ "." ++ String.ofList (ds.toList.drop p.toNat)
      else if -5 < p && p ≤ 0 then "0." ++ zeros (-p) ++ ds
      else if n == 1 then ds ++ "e" ++ toString (p - 1)
      else String.ofList (ds.toList.take 1) ++ "." ++ String.ofList (ds.toList.drop 1) ++ "e" ++
        toString (p - 1)
    sign ++ body

end SourceAudit.Decimal
