import SourceAudit.Decimal.Nearest
/-!
# Number literals

Two literal grammars, as the standard number readers take them.

* An **integer in a radix**: an optional sign (`-` only where negatives exist), then at least
  one digit of the radix (letters for digits past 9, either case), nothing else; it must fit
  the type's range.
* A **float**: an optional sign, then `inf`, `infinity` or `nan` in any case, or digits with
  an optional fraction (`1.`, `.5`, `1.5`; not `.`) and an optional exponent `e`/`E` with an
  optional sign and at least one digit. The value is the double nearest to the decimal.

Main definitions:
* `readRadix`: an integer in a radix, within bounds.
* `Float64`, `readFloat`.
-/

namespace SourceAudit.Decimal

/-- The value of a digit in a radix up to 36. -/
def digitIn (radix : Nat) (c : Char) : Option Nat :=
  let v := if c.isDigit then some (c.toNat - '0'.toNat)
    else if 'a' ≤ c && c ≤ 'z' then some (c.toNat - 'a'.toNat + 10)
    else if 'A' ≤ c && c ≤ 'Z' then some (c.toNat - 'A'.toNat + 10)
    else none
  v.bind fun d => if d < radix then some d else none

/-- The natural spelled by the digits, all of the radix and at least one. -/
def digitsValue (radix : Nat) (cs : List Char) : Option Nat :=
  if cs.isEmpty then none
  else cs.foldlM (fun acc c => (digitIn radix c).map fun d => acc * radix + d) 0

/-- **An integer in a radix** within `[lo, hi]`; a `-` sign only when `signed`. -/
def readRadix (s : String) (radix : Nat) (signed : Bool) (lo hi : Int) : Option Int :=
  let cs := s.toList
  let parsed : Option Int := match cs with
    | ['+'] | ['-'] => none
    | '+' :: rest => (digitsValue radix rest).map Int.ofNat
    | '-' :: rest => if signed then (digitsValue radix rest).map fun n => -(n : Int) else none
    | _ => (digitsValue radix cs).map Int.ofNat
  parsed.bind fun v => if lo ≤ v && v ≤ hi then some v else none

/-- A double read from a float literal. -/
inductive Float64 where
  | finite (x : Binary64)
  | infinite (negative : Bool)
  | nan
  deriving Repr, BEq, Inhabited

/-- The float is neither infinite nor not-a-number. -/
def Float64.isFinite : Float64 → Bool
  | .finite _ => true
  | _ => false

/-- Splits a leading run of decimal digits. -/
def splitDigits (cs : List Char) : List Char × List Char :=
  (cs.takeWhile Char.isDigit, cs.dropWhile Char.isDigit)

/-- The natural of a run of decimal digits, zero for none. -/
def decimalValue (cs : List Char) : Nat := cs.foldl (fun a c => a * 10 + (c.toNat - '0'.toNat)) 0

/-- The optional exponent part: nothing, or `e`/`E`, a sign and digits. -/
def readExponent : List Char → Option Int
  | [] => some 0
  | c :: rest =>
    if c == 'e' || c == 'E' then
      let (neg, ds) := match rest with
        | '+' :: ds => (false, ds)
        | '-' :: ds => (true, ds)
        | ds => (false, ds)
      if !ds.isEmpty && ds.all Char.isDigit then
        let v : Int := decimalValue ds
        some (if neg then -v else v)
      else none
    else none

/-- **A float literal.** -/
def readFloat (s : String) : Option Float64 :=
  let (negative, cs) := match s.toList with
    | '+' :: rest => (false, rest)
    | '-' :: rest => (true, rest)
    | cs => (false, cs)
  let word := String.ofList (cs.map Char.toLower)
  if word == "inf" || word == "infinity" then some (.infinite negative)
  else if word == "nan" then some .nan
  else
    let (whole, rest) := splitDigits cs
    let (frac, rest, hasPoint) := match rest with
      | '.' :: r => let (f, r) := splitDigits r; (f, r, true)
      | r => ([], r, false)
    if whole.isEmpty && frac.isEmpty then none
    else if !hasPoint && whole.isEmpty then none
    else
      (readExponent rest).map fun exp =>
        let digits := decimalValue (whole ++ frac)
        match Binary64.nearest negative digits (exp - frac.length) with
        | some x => .finite x
        | none => .infinite negative

end SourceAudit.Decimal
