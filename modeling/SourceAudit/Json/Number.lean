import SourceAudit.Json.Cursor
import SourceAudit.Decimal.Shortest
/-!
# Numbers in JSON text

A number is read in one pass. Its digits are gathered into a 64-bit significand; while that
fits, an integer without fraction or exponent stays an integer (a negative one while its
magnitude is at most `2^63`). Any other number becomes a double computed the fast way, not the
exact way: the significand is rounded to a double, then multiplied or divided by the double
nearest to `10^|e|`, each step rounded. An exponent beyond the table of powers (`10^308`) divides
by `10^308` first; a product that rounds to infinity is "number out of range". Digits beyond the
64-bit significand only raise the exponent, and an exponent beyond 32 bits either overflows (for
a nonzero significand and a positive sign) or gives zero.

A number that is only skipped is checked for its form and never computed.

Main definitions:
* `Number`, `Number.describe`.
* `readNumber`: a number after its sign.
* `skipNumber`: the form of a number after its sign.
-/

namespace SourceAudit.Json

open Decimal

/-- A number as read: a natural, a negative integer `-n`, or a double. -/
inductive Number where
  | unsigned (n : Nat)
  | negative (n : Nat)
  | float (x : Binary64)
  deriving Repr, BEq, Inhabited

/-- The number, named for a message about a value of the wrong kind. -/
def Number.describe : Number → String
  | .unsigned n => "integer `" ++ toString n ++ "`"
  | .negative n => "integer `-" ++ toString n ++ "`"
  | .float x => "floating point `" ++ x.compactText ++ "`"

/-- The largest 64-bit unsigned integer. -/
def wordMax : Nat := Nat.pow 2 64 - 1

/-- The largest 32-bit signed integer. -/
def exponentMax : Nat := Nat.pow 2 31 - 1

/-- Appending `digit` to `acc` would exceed `limit`. -/
def overflows (acc digit limit : Nat) : Bool :=
  limit / 10 ≤ acc && (limit / 10 < acc || limit % 10 < digit)

/-- An integer kept within 32 bits, as exponent arithmetic saturates. -/
def saturate (x : Int) : Int := max (-Int.pow 2 31) (min x exponentMax)

/-- The double nearest to `10^k`, as a table of powers holds it. -/
def tenPower (k : Nat) : Binary64 := (Binary64.nearest false 1 k).getD ⟨false, 0, 0⟩

/-- The significand scaled by `10^exponent` through the table of powers, each step rounded. -/
def scaleByTen : Nat → Binary64 → Int → JsonRead Binary64
  | 0, f, _ => pure f
  | fuel + 1, f, e =>
    if e.natAbs ≤ 308 then
      if 0 ≤ e then
        match f.mul (tenPower e.natAbs) with
        | some r => pure r
        | none => failHere .numberOutOfRange
      else pure (f.div (tenPower e.natAbs))
    else if f.significand == 0 then pure f
    else if 0 ≤ e then failHere .numberOutOfRange
    else scaleByTen fuel (f.div (tenPower 308)) (e + 308)

/-- **The double of `significand · 10^exponent`**, with the sign. -/
def fromParts (positive : Bool) (significand : Nat) (exponent : Int) : JsonRead Binary64 := do
  let f := (Binary64.ofRatio false significand 1).getD ⟨false, 0, 0⟩
  let r ← scaleByTen 8 f exponent
  pure { r with negative := !positive }

/-- Takes decimal digits, at most `fuel` of them. -/
def skipDigits : Nat → JsonRead Unit
  | 0 => pure ()
  | fuel + 1 => do
    if isDigit (← peekOrNull) then
      eat
      skipDigits fuel
    else pure ()

/-- The length of the text, a bound on any run of its bytes. -/
def textFuel : JsonRead Nat := do pure ((← get).bytes.size + 1)

/-- Reads an exponent's digits after the first into a 32-bit value. -/
def exponentDigits (positive zero positiveExp : Bool) :
    Nat → Nat → JsonRead (Option Nat)
  | 0, exp => pure (some exp)
  | fuel + 1, exp => do
    let c ← peekOrNull
    if isDigit c then
      eat
      let d := c.toNat - 48
      if overflows exp d exponentMax then
        if !zero && positiveExp then failHere .numberOutOfRange
        else
          skipDigits (← textFuel)
          pure none
      else exponentDigits positive zero positiveExp fuel (exp * 10 + d)
    else pure (some exp)

/-- Reads an exponent, its `e` next, and computes the double. -/
def readExponent (positive : Bool) (significand : Nat) (start : Int) : JsonRead Binary64 := do
  eat
  let positiveExp ← match ← peekOrNull with
    | 43 => do eat; pure true
    | 45 => do eat; pure false
    | _ => pure true
  match ← next? with
  | none => failHere .eofInValue
  | some c =>
    if !isDigit c then failHere .invalidNumber
    else
      match ← exponentDigits positive (significand == 0) positiveExp (← textFuel) (c.toNat - 48) with
      | none => pure ⟨!positive, 0, 0⟩
      | some exp =>
        let e := if positiveExp then saturate (start + exp) else saturate (start - exp)
        fromParts positive significand e

/-- The rest of a number whose significand is full: later digits are dropped. -/
def afterFullFraction (positive : Bool) (significand : Nat) (exponent : Int) :
    JsonRead Binary64 := do
  skipDigits (← textFuel)
  match ← peekOrNull with
  | 101 | 69 => readExponent positive significand exponent
  | _ => fromParts positive significand exponent

/-- Reads fraction digits into the significand, lowering the exponent; the flag tells that the
significand filled up before the digits ended. -/
def fractionDigits : Nat → Nat → Int → JsonRead (Nat × Int × Bool)
  | 0, sig, after => pure (sig, after, false)
  | fuel + 1, sig, after => do
    let c ← peekOrNull
    if isDigit c then
      let d := c.toNat - 48
      if overflows sig d wordMax then pure (sig, after, true)
      else
        eat
        fractionDigits fuel (sig * 10 + d) (after - 1)
    else pure (sig, after, false)

/-- Reads a fraction, its point next, and computes the double. -/
def readFraction (positive : Bool) (significand : Nat) (before : Int) : JsonRead Binary64 := do
  eat
  let (sig, after, full) ← fractionDigits (← textFuel) significand 0
  if full then afterFullFraction positive sig (before + after)
  else if after == 0 then
    match ← peek? with
    | some _ => failAhead .invalidNumber
    | none => failAhead .eofInValue
  else
    match ← peekOrNull with
    | 101 | 69 => readExponent positive sig (before + after)
    | _ => fromParts positive sig (before + after)

/-- Counts the integer digits beyond a full significand. -/
def longDigits (positive : Bool) (significand : Nat) : Nat → Int → JsonRead Binary64
  | 0, exp => fromParts positive significand exp
  | fuel + 1, exp => do
    let c ← peekOrNull
    if isDigit c then
      eat
      longDigits positive significand fuel (exp + 1)
    else if c == 46 then readFraction positive significand exp
    else if c == 101 || c == 69 then readExponent positive significand exp
    else fromParts positive significand exp

/-- What follows the integer digits: a fraction, an exponent, or nothing. -/
def numberTail (positive : Bool) (significand : Nat) : JsonRead Number := do
  match ← peekOrNull with
  | 46 => .float <$> readFraction positive significand 0
  | 101 | 69 => .float <$> readExponent positive significand 0
  | _ =>
    if positive then pure (.unsigned significand)
    else if 0 < significand && significand ≤ Nat.pow 2 63 then pure (.negative significand)
    else pure (.float { (Binary64.ofRatio false significand 1).getD ⟨false, 0, 0⟩ with
      negative := true })

/-- Reads integer digits after the first into the significand. -/
def integerDigits (positive : Bool) : Nat → Nat → JsonRead Number
  | 0, sig => numberTail positive sig
  | fuel + 1, sig => do
    let c ← peekOrNull
    if isDigit c then
      let d := c.toNat - 48
      if overflows sig d wordMax then .float <$> longDigits positive sig (← textFuel) 0
      else
        eat
        integerDigits positive fuel (sig * 10 + d)
    else numberTail positive sig

/-- **Reads a number**, its sign taken. -/
def readNumber (positive : Bool) : JsonRead Number := do
  match ← next? with
  | none => failHere .eofInValue
  | some c =>
    if c == 48 then
      if isDigit (← peekOrNull) then failAhead .invalidNumber
      else numberTail positive 0
    else if isDigit c then integerDigits positive (← textFuel) (c.toNat - 48)
    else failHere .invalidNumber

/-- Skips an exponent, its `e` next. -/
def skipExponent : JsonRead Unit := do
  eat
  match ← peekOrNull with
  | 43 | 45 => eat
  | _ => pure ()
  match ← next? with
  | some c => if isDigit c then skipDigits (← textFuel) else failHere .invalidNumber
  | none => failHere .invalidNumber

/-- **Skips a number**, its sign taken, checking only its form. -/
def skipNumber : JsonRead Unit := do
  match ← next? with
  | some 48 => if isDigit (← peekOrNull) then failAhead .invalidNumber
  | some c => if 49 ≤ c && c ≤ 57 then skipDigits (← textFuel) else failHere .invalidNumber
  | none => failHere .invalidNumber
  match ← peekOrNull with
  | 46 =>
    eat
    let start := (← get).index
    skipDigits (← textFuel)
    if (← get).index == start then failAhead .invalidNumber
    match ← peekOrNull with
    | 101 | 69 => skipExponent
    | _ => pure ()
  | 101 | 69 => skipExponent
  | _ => pure ()

end SourceAudit.Json
