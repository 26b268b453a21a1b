import SourceAudit.Json.Number
import SourceAudit.Text.Quoted
/-!
# Skipping a value, and naming one of the wrong kind

A value that the typed layer does not want is skipped: its form is checked (keywords, numbers,
strings, and arrays and objects with their commas, colons and string keys) but nothing is built.
A value of the wrong kind is read just far enough to name it in the message: `null`, a boolean,
a number, a quoted string, or only "sequence" or "map" for a bracket, which is not taken.

Main definitions:
* `skipValue`: skips one value, nested to any depth.
* `unexpected`: the message for a value where the typed layer expected something else.
-/

namespace SourceAudit.Json

mutual

/-- **Skips one value.** -/
def skipValue : Nat → JsonRead Unit
  | 0 => pure ()
  | fuel + 1 => do
    match ← skipSpace with
    | none => failAhead .eofInValue
    | some c =>
      if c == 110 then do eat; readIdent [117, 108, 108]
      else if c == 116 then do eat; readIdent [114, 117, 101]
      else if c == 102 then do eat; readIdent [97, 108, 115, 101]
      else if c == 45 then do eat; skipNumber
      else if isDigit c then skipNumber
      else if c == 34 then do eat; skipString
      else if c == 91 then do eat; skipItems true fuel
      else if c == 123 then do eat; skipMembers true fuel
      else failAhead .expectedValue

/-- Skips the items of an array after `[` or after an item. -/
def skipItems (first : Bool) : Nat → JsonRead Unit
  | 0 => pure ()
  | fuel + 1 => do
    match ← skipSpace with
    | none => failAhead .eofInList
    | some 93 => eat
    | some 44 =>
      if first then do skipValue fuel; skipItems false fuel
      else do eat; skipValue fuel; skipItems false fuel
    | some _ =>
      if first then do skipValue fuel; skipItems false fuel
      else failAhead .expectedListCommaOrEnd

/-- Skips the members of an object after `{` or after a member. -/
def skipMembers (first : Bool) : Nat → JsonRead Unit
  | 0 => pure ()
  | fuel + 1 => do
    match ← skipSpace with
    | none => failAhead .eofInObject
    | some 125 => eat
    | some 44 =>
      if first then do skipMember fuel; skipMembers false fuel
      else do eat; skipMember fuel; skipMembers false fuel
    | some _ =>
      if first then do skipMember fuel; skipMembers false fuel
      else failAhead .expectedObjectCommaOrEnd

/-- Skips a key, its colon and its value. -/
def skipMember : Nat → JsonRead Unit
  | 0 => pure ()
  | fuel + 1 => do
    match ← skipSpace with
    | none => failAhead .eofInObject
    | some 34 => do eat; skipString
    | some _ => failAhead .keyMustBeString
    match ← skipSpace with
    | none => failAhead .eofInObject
    | some 58 => eat
    | some _ => failAhead .expectedColon
    skipValue fuel

end

/-- **The message for a value of the wrong kind**, read just far enough to name it; a fault met
while reading it wins. The message is placed where the reading stopped. -/
def unexpected {α : Type} (expected : String) : JsonRead α := do
  let named ← match ← peekOrNull with
    | 110 => do eat; readIdent [117, 108, 108]; pure "null"
    | 116 => do eat; readIdent [114, 117, 101]; pure "boolean `true`"
    | 102 => do eat; readIdent [97, 108, 115, 101]; pure "boolean `false`"
    | 45 => do eat; pure (← readNumber false).describe
    | 34 => do
      eat
      let bytes ← readString
      pure ("string " ++ Text.quote ((String.fromUTF8? ⟨bytes⟩).getD ""))
    | 91 => pure "sequence"
    | 123 => pure "map"
    | c => if isDigit c then do pure (← readNumber true).describe else failAhead .expectedValue
  failHere (.message ("invalid type: " ++ named ++ ", expected " ++ expected))

end SourceAudit.Json
