import SourceAudit.Yaml.Token
import SourceAudit.Decimal.Shortest
import SourceAudit.Decimal.Literal
import SourceAudit.Text.Quoted
/-!
# What a scalar reads as

A plain scalar without a tag is read by the YAML core rules: empty, `~`, `null`, `Null` and
`NULL` are null; `true`/`True`/`TRUE` and the three spellings of false are booleans;
then integers (decimal, `0x`, `0o`, `0b`, an optional `+`, a `-` for negatives; a leading
zero before more digits makes text, as in `007`), first as 64-bit and then as 128-bit
values; then floats (`.inf`, `-.inf`, `.nan` in three spellings each, and finite decimals);
all else is text. A quoted or block scalar is text.

A scalar tagged `!!bool`, `!!int`, `!!float` or `!!null` must read as that type; a plain
scalar with a local tag `!name` reads as an enum variant; any other tag leaves text.

What a scalar reads as also decides how a message describes it when it is not what was
wanted (`integer 5`, `string "yes"`, `unit value`).

Main definitions:
* `Reading`, `Reading.ofScalar`.
* `Reading.unexpected`, `Reading.mismatch`: the words of a type error.
-/

namespace SourceAudit.Yaml

open SourceAudit.Decimal

/-- What a scalar reads as. -/
inductive Reading where
  | unit
  | bool (b : Bool)
  | unsigned (n : Nat)
  | signed (i : Int)
  | wideUnsigned (n : Nat)
  | wideSigned (i : Int)
  | float (x : Float64)
  | str (s : String)
  | enum
  /-- A tagged scalar that does not read as its tag's type, which is described by `expected`. -/
  | invalid (s : String) (expected : String)
  deriving Repr, BEq, Inhabited

/-- The null spellings. -/
def isNull (s : String) : Bool := s == "null" || s == "Null" || s == "NULL" || s == "~"

/-- The boolean spellings. -/
def readBool (s : String) : Option Bool :=
  if s == "true" || s == "True" || s == "TRUE" then some true
  else if s == "false" || s == "False" || s == "FALSE" then some false
  else none

/-- A zero followed by more decimal digits, after an optional sign: text, not a number. -/
def digitsButNotNumber (s : String) : Bool :=
  let cs := match s.toList with
    | '-' :: r | '+' :: r => r
    | cs => cs
  match cs with
  | '0' :: rest => !rest.isEmpty && rest.all Char.isDigit
  | _ => false

/-- The text starts with a sign. -/
def startsWithSign (s : String) : Bool := s.startsWith "+" || s.startsWith "-"

/-- The radix prefixes, with their radices. -/
def radixPrefixes : List (String × Nat) := [("0x", 16), ("0o", 8), ("0b", 2)]

/-- A non-negative integer below `2^bits`: an optional `+`, then a radix prefix or decimal
digits. -/
def readUnsigned (s : String) (bits : Nat) : Option Nat :=
  let hi : Int := Int.pow 2 bits - 1
  let unsigned := if s.startsWith "+" then (s.drop 1).toString else s
  let rec viaPrefix : List (String × Nat) → Option (Option Nat)
    | [] => none
    | (p, radix) :: more =>
      if unsigned.startsWith p then
        let rest := (unsigned.drop p.length).toString
        if startsWithSign rest then some none
        else match readRadix rest radix false 0 hi with
          | some v => some (some v.toNat)
          | none => viaPrefix more
      else viaPrefix more
  match viaPrefix radixPrefixes with
  | some r => r
  | none =>
    if startsWithSign unsigned || digitsButNotNumber s then none
    else (readRadix unsigned 10 false 0 hi).map Int.toNat

/-- A negative integer of `bits` bits: `-`, then a radix prefix or decimal digits. -/
def readNegative (s : String) (bits : Nat) : Option Int :=
  let lo : Int := -Int.pow 2 (bits - 1)
  let hi : Int := Int.pow 2 (bits - 1) - 1
  let viaPrefix := radixPrefixes.findSome? fun (p, radix) =>
    if s.startsWith ("-" ++ p) then readRadix ("-" ++ (s.drop (p.length + 1)).toString) radix true lo hi
    else none
  match viaPrefix with
  | some v => some v
  | none => if digitsButNotNumber s then none else readRadix s 10 true lo hi

/-- An integer, tried as 64-bit unsigned, 64-bit signed, then the 128-bit pair. -/
def readInteger (s : String) : Option Reading :=
  match readUnsigned s 64 with
  | some n => some (.unsigned n)
  | none => match readNegative s 64 with
    | some i => some (.signed i)
    | none => match readUnsigned s 128 with
      | some n => some (.wideUnsigned n)
      | none => (readNegative s 128).map .wideSigned

/-- A float in YAML spelling or as a finite decimal literal. -/
def readYamlFloat (s : String) : Option Float64 :=
  let unsigned := if s.startsWith "+" then some (s.drop 1).toString else some s
  match unsigned with
  | none => none
  | some u =>
    if s.startsWith "+" && startsWithSign u then none
    else if u == ".inf" || u == ".Inf" || u == ".INF" then some (.infinite false)
    else if s == "-.inf" || s == "-.Inf" || s == "-.INF" then some (.infinite true)
    else if s == ".nan" || s == ".NaN" || s == ".NAN" then some .nan
    else match readFloat u with
      | some f => if f.isFinite then some f else none
      | none => none

/-- The tag of the core schema named `name`. -/
def coreTag (name : String) : List UInt8 := ("tag:yaml.org,2002:" ++ name).toUTF8.toList

/-- **What a scalar reads as**, given its tag and style. -/
def Reading.ofScalar (tag : Option (List UInt8)) (style : ScalarStyle) (v : String) : Reading :=
  match tag with
  | some t =>
    if t == coreTag "bool" then
      match readBool v with
      | some b => .bool b
      | none => .invalid v "a boolean"
    else if t == coreTag "int" then (readInteger v).getD (.invalid v "an integer")
    else if t == coreTag "float" then
      match readYamlFloat v with
      | some f => .float f
      | none => .invalid v "a float"
    else if t == coreTag "null" then if isNull v then .unit else .invalid v "null"
    else if t.head? == some 33 && style == .plain then .enum
    else .str v
  | none =>
    if style != .plain then .str v
    else if v.isEmpty || isNull v then .unit
    else match readBool v with
      | some b => .bool b
      | none => match readInteger v with
        | some r => r
        | none =>
          if digitsButNotNumber v then .str v
          else match readYamlFloat v with
            | some f => .float f
            | none => .str v

/-- The text of a double as a message shows it: with a decimal point, or `inf`, `-inf`,
`NaN`. -/
def describeFloat : Float64 → String
  | .finite x => let t := x.text; if t.contains '.' then t else t ++ ".0"
  | .infinite negative => if negative then "-inf" else "inf"
  | .nan => "NaN"

/-- How a type error describes a value that is not what was wanted. -/
def Reading.unexpected : Reading → String
  | .unit => "unit value"
  | .bool b => "boolean `" ++ toString b ++ "`"
  | .unsigned n => "integer `" ++ toString n ++ "`"
  | .signed i => "integer `" ++ toString i ++ "`"
  | .wideUnsigned n => "integer `" ++ toString n ++ "` as u128"
  | .wideSigned i => "integer `" ++ toString i ++ "` as i128"
  | .float x => "floating point `" ++ describeFloat x ++ "`"
  | .str s => "string " ++ Text.quote s
  | .enum => "enum"
  | .invalid s _ => "string " ++ Text.quote s

/-- **The message for a scalar that is not what was wanted**: an invalid value for a tagged
scalar that does not read as its tag's type, an invalid type otherwise. -/
def Reading.mismatch (r : Reading) (expected : String) : String :=
  match r with
  | .invalid s tagExpected => "invalid value: string " ++ Text.quote s ++ ", expected " ++ tagExpected
  | r => "invalid type: " ++ r.unexpected ++ ", expected " ++ expected

end SourceAudit.Yaml
