import SourceAudit.Json.Error
/-!
# Reading JSON text byte by byte

A reader holds the text as bytes and the offset of the next byte. It fails with a fault placed
either at that offset (`failHere`) or one byte further (`failAhead`, used where the reader has
only looked at a byte without taking it). A failed step keeps the offset it reached, because the
typed layer places its own sentences at the offset where the enclosing value was closed
(`placed`).

Strings are read with their escapes: the two-character escapes, and `\u` with four hex digits,
a leading surrogate having to be followed by an escaped trailing one. A raw byte below `0x20`
ends the string with a fault. A string that is only skipped is checked the same way, except
that its surrogates are not paired.

Main definitions:
* `Cursor`, `JsonRead`.
* `failHere`, `failAhead`, `placed`, `attempt`.
* `skipSpace`, `readIdent`, `readString`, `skipString`.
-/

namespace SourceAudit.Json

/-- A JSON text and the offset of the next byte to read. -/
structure Cursor where
  bytes : ByteArray
  index : Nat := 0
  deriving Inhabited

/-- A reading step: it may fail, and the offset it reached is kept either way. -/
abbrev JsonRead := ExceptT JsonError (StateM Cursor)

/-- The next byte, not taken. -/
def peek? : JsonRead (Option UInt8) := do
  let c ← get
  pure c.bytes[c.index]?

/-- The next byte, or `0` at the end. -/
def peekOrNull : JsonRead UInt8 := do
  pure ((← peek?).getD 0)

/-- Takes one byte. -/
def eat : JsonRead Unit := modify fun c => { c with index := c.index + 1 }

/-- Takes and returns the next byte. -/
def next? : JsonRead (Option UInt8) := do
  let b ← peek?
  if b.isSome then eat
  pure b

/-- A fault at the reader's offset. -/
def failHere {α : Type} (f : JsonFault) : JsonRead α := do
  let c ← get
  let (l, col) := placeOf c.bytes c.index
  throw { fault := f, line := l, column := col }

/-- A fault one byte past the reader's offset, or at the end of the text. -/
def failAhead {α : Type} (f : JsonFault) : JsonRead α := do
  let c ← get
  let (l, col) := placeOf c.bytes (min c.bytes.size (c.index + 1))
  throw { fault := f, line := l, column := col }

/-- A sentence without a place gets the reader's offset at the time it is raised. -/
def placed {α : Type} (x : JsonRead α) : JsonRead α :=
  tryCatch x fun e => if e.line == 0 then failHere e.fault else throw e

/-- Runs a step and returns its outcome instead of failing. -/
def attempt {α : Type} (x : JsonRead α) : JsonRead (Except JsonError α) :=
  tryCatch (Except.ok <$> x) fun e => pure (.error e)

/-- A sentence from the typed layer, placed later. -/
def refuse {α : Type} (text : String) : JsonRead α := throw { fault := .message text }

/-- JSON's blank bytes: space, line feed, tab and carriage return. -/
def isSpace (b : UInt8) : Bool := b == 32 || b == 10 || b == 9 || b == 13

/-- The offset of the first byte at or after `i` that is not blank. -/
def spaceEnd (bytes : ByteArray) (i : Nat) : Nat :=
  if h : i < bytes.size then
    if isSpace bytes[i] then spaceEnd bytes (i + 1) else i
  else i
termination_by bytes.size - i

/-- Skips blanks and returns the next byte, not taken. -/
def skipSpace : JsonRead (Option UInt8) := do
  modify fun c => { c with index := spaceEnd c.bytes c.index }
  peek?

/-- The digit is a decimal one. -/
def isDigit (b : UInt8) : Bool := 48 ≤ b && b ≤ 57

/-- Takes the given bytes of a keyword, the first already taken. -/
def readIdent : List UInt8 → JsonRead Unit
  | [] => pure ()
  | b :: rest => do
    match ← next? with
    | none => failHere .eofInValue
    | some c => if c == b then readIdent rest else failHere .expectedIdent

/-- The value of a hex digit. -/
def hexValue (b : UInt8) : Option Nat :=
  if 48 ≤ b && b ≤ 57 then some (b.toNat - 48)
  else if 97 ≤ b && b ≤ 102 then some (b.toNat - 87)
  else if 65 ≤ b && b ≤ 70 then some (b.toNat - 55)
  else none

/-- Takes four hex digits of a `\u` escape; too few bytes left is the end of the string. -/
def readHex : JsonRead Nat := do
  let c ← get
  if c.bytes.size < c.index + 4 then
    set { c with index := c.bytes.size }
    failHere .eofInString
  else
    set { c with index := c.index + 4 }
    let ds := (List.range 4).map fun k => hexValue (c.bytes.get! (c.index + k))
    match ds with
    | [some a, some b, some d, some e] => pure (((a * 16 + b) * 16 + d) * 16 + e)
    | _ => failHere .invalidEscape

/-- The UTF-8 bytes of a code point. -/
def utf8Bytes (n : Nat) : List UInt8 := (toString (Char.ofNat n)).toUTF8.toList

/-- Reads the rest of a `\u` escape into `acc`; a kept string needs its surrogates paired. -/
def readCodeEscape (keep : Bool) (acc : Array UInt8) : JsonRead (Array UInt8) := do
  let n ← readHex
  if !keep then pure acc
  else if 0xDC00 ≤ n && n ≤ 0xDFFF then failHere .loneSurrogate
  else if n < 0xD800 || 0xDBFF < n then pure (acc ++ (utf8Bytes n).toArray)
  else
    let follow (b : UInt8) : JsonRead Unit := do
      match ← peek? with
      | none => failHere .eofInString
      | some c => if c == b then eat else do eat; failHere .unexpectedEndOfHexEscape
    follow 92
    follow 117
    let m ← readHex
    if m < 0xDC00 || 0xDFFF < m then failHere .loneSurrogate
    else pure (acc ++ (utf8Bytes ((n - 0xD800) * 1024 + (m - 0xDC00) + 0x10000)).toArray)

/-- Reads the rest of an escape, its backslash taken. -/
def readEscape (keep : Bool) (acc : Array UInt8) : JsonRead (Array UInt8) := do
  match ← next? with
  | none => failHere .eofInString
  | some c =>
    if c == 34 || c == 92 || c == 47 then pure (acc.push c)
    else if c == 98 then pure (acc.push 8)
    else if c == 102 then pure (acc.push 12)
    else if c == 110 then pure (acc.push 10)
    else if c == 114 then pure (acc.push 13)
    else if c == 116 then pure (acc.push 9)
    else if c == 117 then readCodeEscape keep acc
    else failHere .invalidEscape

/-- Reads string bytes up to the closing quote, at most `fuel` of them. -/
def stringBody (keep : Bool) : Nat → Array UInt8 → JsonRead (Array UInt8)
  | 0, acc => pure acc
  | fuel + 1, acc => do
    match ← next? with
    | none => failHere .eofInString
    | some c =>
      if c == 34 then pure acc
      else if c == 92 then stringBody keep fuel (← readEscape keep acc)
      else if c < 32 then failHere .controlCharacter
      else stringBody keep fuel (acc.push c)

/-- **Reads a string**, its opening quote taken, as its bytes. -/
def readString : JsonRead (Array UInt8) := do
  stringBody true ((← get).bytes.size + 1) #[]

/-- Skips a string, its opening quote taken. -/
def skipString : JsonRead Unit := do
  discard (stringBody false ((← get).bytes.size + 1) #[])

/-- Runs a step on a text from its first byte. -/
def JsonRead.runOn {α : Type} (x : JsonRead α) (text : String) : Except JsonError α :=
  (x.run.run { bytes := text.toUTF8 }).1

example : ((do eat; readString : JsonRead _).runOn "\"a\\u00e9\"").toOption =
    some #[97, 195, 169] := by
  decide +kernel

end SourceAudit.Json
