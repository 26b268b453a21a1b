import SourceAudit.Syntax.Tree
/-!
# Tokens of C and C++ source

The lexer turns the bytes of a file into tokens with their positions. Blanks, escaped
newlines and comments separate tokens and are dropped. A preprocessor directive (`#` and a
word) starts a *directive line*: `#define` is followed by the macro name, its parameter list
when `(` follows the name at once, and the rest of the line as one argument token;
`#include` by its path; `#if` and `#elif` by the tokens of the condition; `#ifdef`-like
directives by a name; other directives by their argument; each of these lines ends in a
newline token. Bytes that start no token become `bad` tokens, one character each.

Which words are keywords, and whether a sign belongs to a number, depends on where a token
stands, so the parser decides those.

Main definitions:
* `TokenKind`, `Token`.
* `lex`: the tokens of a file, ending with `eof`.
-/

namespace SourceAudit.Syntax

/-- What a token is. -/
inductive TokenKind where
  | word
  | number
  | string
  | rawString
  | char
  | systemPath
  | punct
  | directive
  | macroArg
  | lineEnd
  | bad
  | eof
  deriving Repr, BEq, DecidableEq, Inhabited

/-- A token: its kind, its text, where it starts and the byte just after it. -/
structure Token where
  kind : TokenKind
  text : String
  start : Point
  stop : Nat
  deriving Repr, Inhabited

/-- The lexer's cursor: the byte offset and the row and column there. -/
structure Cursor where
  byte : Nat := 0
  row : Nat := 0
  column : Nat := 0
  deriving Repr, Inhabited

/-- The cursor as a point. -/
def Cursor.point (c : Cursor) : Point := ⟨c.byte, c.row, c.column⟩

namespace Lexer

/-- The byte at an offset, or zero past the end. -/
def byteAt (src : ByteArray) (i : Nat) : UInt8 := src[i]?.getD 0

/-- Moves the cursor over `n` bytes, counting rows at each newline byte. -/
def advance (src : ByteArray) (c : Cursor) : Nat → Cursor
  | 0 => c
  | n + 1 =>
    let b := byteAt src c.byte
    let c' := if b == 10 then { byte := c.byte + 1, row := c.row + 1, column := 0 }
      else { c with byte := c.byte + 1, column := c.column + 1 }
    advance src c' n

/-- The code point starting at `i` and its length in bytes, if the bytes there are valid
UTF-8. -/
def decodeAt (src : ByteArray) (i : Nat) : Option (Nat × Nat) :=
  let b0 := (byteAt src i).toNat
  let cont (k : Nat) : Option Nat :=
    if i + k < src.size then
      let b := (byteAt src (i + k)).toNat
      if b / 64 == 2 then some (b % 64) else none
    else none
  if b0 < 0x80 then (if i < src.size then some (b0, 1) else none)
  else if b0 / 32 == 6 then do
    let c1 ← cont 1
    let cp := (b0 % 32) * 64 + c1
    if cp < 0x80 then none else some (cp, 2)
  else if b0 / 16 == 14 then do
    let c1 ← cont 1
    let c2 ← cont 2
    let cp := ((b0 % 16) * 64 + c1) * 64 + c2
    if cp < 0x800 || (0xD800 ≤ cp && cp ≤ 0xDFFF) then none else some (cp, 3)
  else if b0 / 8 == 30 then do
    let c1 ← cont 1
    let c2 ← cont 2
    let c3 ← cont 3
    let cp := (((b0 % 8) * 64 + c1) * 64 + c2) * 64 + c3
    if cp < 0x10000 || cp > 0x10FFFF then none else some (cp, 4)
  else none

/-- Blank code points: ASCII blanks and the Unicode spaces, byte order mark included. -/
def isBlankCode (cp : Nat) : Bool :=
  cp == 32 || (9 ≤ cp && cp ≤ 13) || cp == 0xA0 || cp == 0x1680 ||
  (0x2000 ≤ cp && cp ≤ 0x200A) || cp == 0x2028 || cp == 0x2029 || cp == 0x202F ||
  cp == 0x205F || cp == 0x3000 || cp == 0xFEFF

/-- Non-ASCII code points that cannot be part of a name: controls, Latin-1 punctuation,
general punctuation and symbols, CJK punctuation, private use and specials. -/
def isNonNameCode (cp : Nat) : Bool :=
  (0x80 ≤ cp && cp ≤ 0xBF && cp != 0xAA && cp != 0xB5 && cp != 0xBA) ||
  cp == 0xD7 || cp == 0xF7 || (0x2000 ≤ cp && cp ≤ 0x206F) ||
  (0x2190 ≤ cp && cp ≤ 0x2BFF) || (0x3000 ≤ cp && cp ≤ 0x3004) ||
  (0x3008 ≤ cp && cp ≤ 0x3020) || (0xE000 ≤ cp && cp ≤ 0xF8FF) ||
  (0xFE10 ≤ cp && cp ≤ 0xFE6F) || (0xFF00 ≤ cp && cp ≤ 0xFF0F) ||
  (0xFFF0 ≤ cp && cp ≤ 0xFFFF) || (0x1F000 ≤ cp && cp ≤ 0x1FAFF) || isBlankCode cp

/-- A code point that may start a name. -/
def isNameStart (cp : Nat) : Bool :=
  (65 ≤ cp && cp ≤ 90) || (97 ≤ cp && cp ≤ 122) || cp == 95 || cp == 36 ||
  (cp ≥ 0x80 && !isNonNameCode cp && !(0x300 ≤ cp && cp ≤ 0x36F))

/-- A code point that may continue a name. -/
def isNamePart (cp : Nat) : Bool :=
  isNameStart cp || (48 ≤ cp && cp ≤ 57) || (0x300 ≤ cp && cp ≤ 0x36F)

/-- An ASCII digit byte. -/
def isDigit (b : UInt8) : Bool := 48 ≤ b && b ≤ 57

/-- An ASCII hex digit byte. -/
def isHex (b : UInt8) : Bool := isDigit b || (97 ≤ b && b ≤ 102) || (65 ≤ b && b ≤ 70)

/-- An ASCII letter, digit or underscore. -/
def isWordByte (b : UInt8) : Bool := isDigit b || (97 ≤ b && b ≤ 122) || (65 ≤ b && b ≤ 90) || b == 95

/-- The end of a name starting at `i` (the first code point already checked). -/
def nameEnd (src : ByteArray) (i : Nat) : Nat → Nat
  | 0 => i
  | fuel + 1 =>
    match decodeAt src i with
    | some (cp, n) => if isNamePart cp then nameEnd src (i + n) fuel else i
    | none => i

/-- Skips bytes while `p` holds. -/
def skipWhile (src : ByteArray) (p : UInt8 → Bool) (i : Nat) : Nat → Nat
  | 0 => i
  | fuel + 1 => if i < src.size && p (byteAt src i) then skipWhile src p (i + 1) fuel else i

/-- The end of a number starting at `i`: digits, letters, dots, digit separators, and a sign
right after an exponent letter. -/
def numberEnd (src : ByteArray) (i : Nat) : Nat → Nat
  | 0 => i
  | fuel + 1 =>
    let b := byteAt src i
    if i < src.size && (isWordByte b || b == 46) then
      let isExp := b == 101 || b == 69 || b == 112 || b == 80
      let next := byteAt src (i + 1)
      if isExp && (next == 43 || next == 45) then numberEnd src (i + 2) fuel
      else numberEnd src (i + 1) fuel
    else if i < src.size && b == 39 && isHex (byteAt src (i + 1)) then
      numberEnd src (i + 1) fuel
    else i

/-- The end of a quoted literal whose opening quote is at `i - 1`: up to and including the
closing quote, or up to the end of the line when there is none. -/
def quotedEnd (src : ByteArray) (quote : UInt8) (i : Nat) : Nat → Nat
  | 0 => i
  | fuel + 1 =>
    if i ≥ src.size then i
    else
      let b := byteAt src i
      if b == quote then i + 1
      else if b == 10 then i
      else if b == 92 then quotedEnd src quote (i + 2) fuel
      else quotedEnd src quote (i + 1) fuel

/-- The end of a raw string literal whose `R"` ends at `i`: the delimiter, `(`, anything,
`)`, the delimiter and `"`. -/
def rawEnd (src : ByteArray) (i : Nat) : Option Nat :=
  let delimEnd := skipWhile src (fun b => b != 40 && b != 34 && b != 10 && b != 32 && b != 41 && b != 92) i 17
  if byteAt src delimEnd != 40 then none
  else
    let delim := src.extract i delimEnd
    let closing := ByteArray.mk #[41] ++ delim ++ ByteArray.mk #[34]
    let rec find (j : Nat) : Nat → Option Nat
      | 0 => none
      | fuel + 1 =>
        if j + closing.size > src.size then none
        else if src.extract j (j + closing.size) == closing then some (j + closing.size)
        else find (j + 1) fuel
    find (delimEnd + 1) (src.size + 1)

/-- The end of a block comment starting at `i` (after `/*`), if it is closed. -/
def blockCommentEnd (src : ByteArray) (i : Nat) : Nat → Option Nat
  | 0 => none
  | fuel + 1 =>
    if i + 1 ≥ src.size then none
    else if byteAt src i == 42 && byteAt src (i + 1) == 47 then some (i + 2)
    else blockCommentEnd src (i + 1) fuel

/-- The end of a line comment starting at `i`: before the newline that no backslash
escapes. -/
def lineCommentEnd (src : ByteArray) (i : Nat) : Nat → Nat
  | 0 => i
  | fuel + 1 =>
    if i ≥ src.size then i
    else
      let b := byteAt src i
      if b == 10 then i
      else if b == 92 then
        if byteAt src (i + 1) == 10 then lineCommentEnd src (i + 2) fuel
        else if byteAt src (i + 1) == 13 && byteAt src (i + 2) == 10 then lineCommentEnd src (i + 3) fuel
        else lineCommentEnd src (i + 1) fuel
      else lineCommentEnd src (i + 1) fuel

/-- The punctuation tokens, longest first. -/
def puncts : List String :=
  ["...", "<<=", ">>=", "<=>", "->*", "->", "++", "--", "<<", ">>", "<=", ">=",
   "==", "!=", "&&", "||", "+=", "-=", "*=", "/=", "%=", "&=", "|=", "^=", "::", ".*",
   "\x7b", "\x7d", "(", ")", "[", "]", ";", ",", ":", "?", "~", "!", "+", "-", "*", "/", "%",
   "<", ">", "=", "&", "|", "^", ".", "#", "@", "\\"]

/-- The bytes of a string. -/
def bytesOf (s : String) : ByteArray := s.toUTF8

/-- The longest punctuation token at `i`. In C++ a `>` is always its own token, so that a
template argument list can close on the first of `>>`; the parser joins adjacent ones back
into shift operators. -/
def punctAt (src : ByteArray) (cpp : Bool) (i : Nat) : Option String :=
  let found := puncts.find? fun p =>
    let b := bytesOf p
    (cpp || (p != "::" && p != "<=>" && p != "->*" && p != ".*")) &&
      p != "@" && p != "\\" &&
      i + b.size ≤ src.size && src.extract i (i + b.size) == b
  match found with
  | some ">>" => if cpp then some ">" else some ">>"
  | some ">>=" => if cpp then some ">" else some ">>="
  | other => other

/-- The text of a byte range, or a replacement character when the bytes are not UTF-8. The
parser compares token texts with keywords and punctuation only, which are ASCII. -/
def textOf (src : ByteArray) (a b : Nat) : String :=
  (String.fromUTF8? (src.extract a b)).getD "\uFFFD"


/-- The end of whitespace and comments starting at `i`, never crossing a newline when
`inLine`. -/
def skipBlank (src : ByteArray) (inLine : Bool) (i : Nat) : Nat → Nat
  | 0 => i
  | fuel + 1 =>
    if i ≥ src.size then i
    else
      let b := byteAt src i
      if b == 10 then (if inLine then i else skipBlank src inLine (i + 1) fuel)
      else if b == 32 || b == 9 || b == 11 || b == 12 || b == 13 then skipBlank src inLine (i + 1) fuel
      else if b == 92 && byteAt src (i + 1) == 10 then skipBlank src inLine (i + 2) fuel
      else if b == 92 && byteAt src (i + 1) == 13 && byteAt src (i + 2) == 10 then
        skipBlank src inLine (i + 3) fuel
      else if b == 47 && byteAt src (i + 1) == 47 then
        skipBlank src inLine (lineCommentEnd src (i + 2) (src.size + 1)) fuel
      else if b == 47 && byteAt src (i + 1) == 42 then
        match blockCommentEnd src (i + 2) (src.size + 1) with
        | some j => skipBlank src inLine j fuel
        | none => i
      else if b ≥ 0x80 then
        match decodeAt src i with
        | some (cp, n) => if isBlankCode cp then skipBlank src inLine (i + n) fuel else i
        | none => i
      else i

/-- A word of ASCII letters, digits and underscores at `i`, and its end. -/
def wordAt (src : ByteArray) (i : Nat) : String × Nat :=
  let e := skipWhile src isWordByte i (src.size + 1)
  (textOf src i e, e)

/-- Where a string or character literal with an optional prefix starts at `i`: the prefix
length and the quote byte. -/
def literalMarker (src : ByteArray) (i : Nat) : Option (Nat × UInt8) :=
  let q (k : Nat) : Option (Nat × UInt8) :=
    let b := byteAt src (i + k)
    if b == 34 || b == 39 then some (k, b) else none
  let b0 := byteAt src i
  let b1 := byteAt src (i + 1)
  if b0 == 34 || b0 == 39 then some (0, b0)
  else if b0 == 117 && b1 == 56 then q 2
  else if b0 == 76 || b0 == 117 || b0 == 85 then q 1
  else none

/-- One ordinary token at `i` (after blanks), and where it ends. -/
def tokenAt (src : ByteArray) (cpp : Bool) (i : Nat) : TokenKind × Nat :=
  let b := byteAt src i
  -- raw strings: R"(...)", with an optional encoding prefix
  let rawStart : Option Nat :=
    if !cpp then none
    else if b == 82 && byteAt src (i + 1) == 34 then some (i + 2)
    else if (b == 76 || b == 85) && byteAt src (i + 1) == 82 && byteAt src (i + 2) == 34 then some (i + 3)
    else if b == 117 && byteAt src (i + 1) == 82 && byteAt src (i + 2) == 34 then some (i + 3)
    else if b == 117 && byteAt src (i + 1) == 56 && byteAt src (i + 2) == 82 && byteAt src (i + 3) == 34 then some (i + 4)
    else none
  match rawStart.bind (rawEnd src) with
  | some e => (.rawString, e)
  | none =>
    match literalMarker src i with
    | some (k, quote) => (if quote == 34 then .string else .char, quotedEnd src quote (i + k + 1) (src.size + 1))
    | none =>
      if isDigit b || (b == 46 && isDigit (byteAt src (i + 1))) then
        (.number, numberEnd src i (src.size + 1))
      else
        match decodeAt src i with
        | some (cp, n) =>
          if isNameStart cp then (.word, nameEnd src (i + n) (src.size + 1))
          else
            match punctAt src cpp i with
            | some p => (.punct, i + (bytesOf p).size)
            | none => (.bad, i + n)
        | none => (.bad, i + 1)

end Lexer

open Lexer in
/-- The tokens of a directive line after its `#word`, up to (not including) the newline. -/
def lexLineRest (src : ByteArray) (cpp : Bool) (name : String) (c : Cursor) (fuel : Nat) :
    List Token × Cursor :=
  let rec ordinary (c : Cursor) (acc : List Token) : Nat → List Token × Cursor
    | 0 => (acc.reverse, c)
    | fuel + 1 =>
      let i := skipBlank src true c.byte (src.size + 1)
      let c := advance src c (i - c.byte)
      if i ≥ src.size || byteAt src i == 10 then (acc.reverse, c)
      else
        let (k, e) := tokenAt src cpp i
        let t : Token := ⟨k, textOf src i e, c.point, e⟩
        ordinary (advance src c (e - i)) (t :: acc) fuel
  let restOfLine (c : Cursor) : List Token × Cursor :=
    let i := skipBlank src true c.byte (src.size + 1)
    let c := advance src c (i - c.byte)
    if i ≥ src.size || byteAt src i == 10 then ([], c)
    else
      -- up to the newline that no backslash escapes, not into a block comment
      let rec argEnd (j : Nat) : Nat → Nat
        | 0 => j
        | f + 1 =>
          if j ≥ src.size then j
          else
            let b := byteAt src j
            if b == 10 then j
            else if b == 92 && byteAt src (j + 1) == 10 then argEnd (j + 2) f
            else if b == 92 && byteAt src (j + 1) == 13 && byteAt src (j + 2) == 10 then argEnd (j + 3) f
            else if b == 47 && byteAt src (j + 1) == 42 then j
            else argEnd (j + 1) f
      let e0 := argEnd i (src.size + 1)
      -- a carriage return before the newline is not part of the argument
      let e := if e0 > i && byteAt src (e0 - 1) == 13 && byteAt src e0 == 10 then e0 - 1 else e0
      -- nor are trailing blanks
      let rec trimEnd (j : Nat) : Nat → Nat
        | 0 => j
        | f + 1 => if j > i && (byteAt src (j - 1) == 32 || byteAt src (j - 1) == 9) then trimEnd (j - 1) f else j
      let e := trimEnd e (src.size + 1)
      ([⟨.macroArg, textOf src i e, c.point, e⟩], advance src c (e - i))
  match name with
  | "define" =>
    let i := skipBlank src true c.byte (src.size + 1)
    let c := advance src c (i - c.byte)
    match decodeAt src i with
    | some (cp, _) =>
      if isNameStart cp then
        let e := nameEnd src i (src.size + 1)
        let nameTok : Token := ⟨.word, textOf src i e, c.point, e⟩
        let c := advance src c (e - i)
        if byteAt src e == 40 then
          -- parameters up to the closing parenthesis
          let rec params (c : Cursor) (acc : List Token) : Nat → List Token × Cursor
            | 0 => (acc.reverse, c)
            | f + 1 =>
              let j := skipBlank src true c.byte (src.size + 1)
              let c := advance src c (j - c.byte)
              if j ≥ src.size || byteAt src j == 10 then (acc.reverse, c)
              else
                let (k, e) := tokenAt src cpp j
                let t : Token := ⟨k, textOf src j e, c.point, e⟩
                let c' := advance src c (e - j)
                if t.text == ")" then ((t :: acc).reverse, c') else params c' (t :: acc) f
          let (ps, c) := params c [] fuel
          let (rest, c) := restOfLine c
          (nameTok :: ps ++ rest, c)
        else
          let (rest, c) := restOfLine c
          (nameTok :: rest, c)
      else ordinary c [] fuel
    | none => ordinary c [] fuel
  | "include" =>
    let i := skipBlank src true c.byte (src.size + 1)
    let c := advance src c (i - c.byte)
    if byteAt src i == 60 then
      let e := skipWhile src (fun b => b != 62 && b != 10) (i + 1) (src.size + 1)
      let e := if byteAt src e == 62 then e + 1 else e
      ([⟨.systemPath, textOf src i e, c.point, e⟩], advance src c (e - i))
    else ordinary c [] fuel
  | "if" | "elif" | "ifdef" | "ifndef" | "elifdef" | "elifndef" => ordinary c [] fuel
  | "else" | "endif" => ([], c)
  | _ => restOfLine c

open Lexer in
/-- **The tokens of a file**, in order, ending with an `eof` token at the end of input. -/
def lex (src : ByteArray) (cpp : Bool) : List Token :=
  let rec go (c : Cursor) (acc : List Token) : Nat → List Token
    | 0 => (⟨.eof, "", c.point, c.byte⟩ :: acc).reverse
    | fuel + 1 =>
      let i := skipBlank src false c.byte (src.size + 1)
      let c := advance src c (i - c.byte)
      if i ≥ src.size then (⟨.eof, "", c.point, c.byte⟩ :: acc).reverse
      else if byteAt src i == 35 then
        -- a directive: `#`, blanks and a word
        let j := skipWhile src (fun b => b == 32 || b == 9) (i + 1) (src.size + 1)
        let (name, e) := wordAt src j
        if name.isEmpty then
          go (advance src c 1) (⟨.punct, "#", c.point, i + 1⟩ :: acc) fuel
        else
          let d : Token := ⟨.directive, name, c.point, e⟩
          let c := advance src c (e - i)
          let (rest, c) := lexLineRest src cpp name c (src.size + 1)
          if name == "else" || name == "endif" then go c (d :: acc) fuel
          else
            let acc := rest.reverse ++ d :: acc
            -- the line end, unless the file ends first
            let k := skipBlank src true c.byte (src.size + 1)
            let c := advance src c (k - c.byte)
            if k < src.size && byteAt src k == 10 then
              let nl : Token := ⟨.lineEnd, "\n", c.point, k + 1⟩
              go (advance src c 1) (nl :: acc) fuel
            else if k + 1 < src.size && byteAt src k == 13 && byteAt src (k + 1) == 10 then
              let nl : Token := ⟨.lineEnd, "\n", c.point, k + 2⟩
              go (advance src c 2) (nl :: acc) fuel
            else go c acc fuel
      else
        let (k, e) := tokenAt src cpp i
        let t : Token := ⟨k, textOf src i e, c.point, e⟩
        go (advance src c (e - i)) (t :: acc) fuel
  go {} [] (src.size + 1)

end SourceAudit.Syntax
