import SourceAudit.Decimal.Nearest
/-!
# Suggesting a similar word

When a command line names an option or a command that does not exist, the words that are
similar enough are offered instead. Similarity is the Jaro score of the two words, computed
in doubles the usual way (three quotients summed left to right, then divided by three), and a
word is similar when its score is above `0.7`. Similar words are listed from the least to the
most similar, equal scores keeping their order.

The Jaro score counts the characters of one word that equal a not yet matched character of
the other within a window of half the longer length, less one, around the same position, and
the matched characters that appear in a different order (halved).

Main definitions:
* `jaroMatches`, `jaroTranspositions`, `jaro`.
* `similarWords`: the words above the threshold, least similar first.
-/

namespace SourceAudit.Cli

open Decimal

/-- Matches one character of the first word against the second: the first equal character in
`[lo, hi)` not matched before. -/
def matchOne (c : Char) (b : Array Char) (taken : Array Bool) (lo hi : Nat) : Option Nat :=
  (List.range (hi - lo)).findSome? fun k =>
    let j := lo + k
    if b[j]? == some c && taken[j]? == some false then some j else none

/-- **The matched characters** of two words, as flags over each word. -/
def jaroMatches (a b : Array Char) : Array Bool × Array Bool :=
  let range := max a.size b.size / 2 - 1
  let step (acc : Array Bool × Array Bool) (i : Nat) : Array Bool × Array Bool :=
    let (fa, fb) := acc
    let lo := i - range
    let hi := min b.size (i + range + 1)
    match a[i]? with
    | none => (fa, fb)
    | some c =>
      match matchOne c b fb lo hi with
      | some j => (fa.set! i true, fb.set! j true)
      | none => (fa, fb)
  (List.range a.size).foldl step (Array.replicate a.size false, Array.replicate b.size false)

/-- The matched characters of a word, in order. -/
def matchedChars (w : Array Char) (flags : Array Bool) : List Char :=
  (w.toList.zip flags.toList).filterMap fun (c, f) => if f then some c else none

/-- **Half the number of places** where the matched characters of the two words differ. -/
def jaroTranspositions (a b : Array Char) (fa fb : Array Bool) : Nat :=
  let pairs := (matchedChars a fa).zip (matchedChars b fb)
  (pairs.filter fun (x, y) => x != y).length / 2

/-- A natural as a double. -/
def double (n : Nat) : Binary64 := (Binary64.ofRatio false n 1).getD ⟨false, 0, 0⟩

/-- A quotient of naturals as a double. -/
def quotient (n d : Nat) : Binary64 := (Binary64.ofRatio false n d).getD ⟨false, 0, 0⟩

/-- **The Jaro score of two words**, as a double. -/
def jaro (x y : String) : Binary64 :=
  let a := x.toList.toArray
  let b := y.toList.toArray
  if a.size == 0 && b.size == 0 then double 1
  else if a.size == 0 || b.size == 0 then double 0
  else
    let (fa, fb) := jaroMatches a b
    let m := (fa.toList.filter id).length
    if m == 0 then double 0
    else
      let t := jaroTranspositions a b fa fb
      ((quotient m a.size).add (quotient m b.size) |>.add (quotient (m - t) m)).div (double 3)

/-- The least score that counts as similar, excluded. -/
def similarity : Binary64 := (Binary64.nearest false 7 (-1)).getD ⟨false, 0, 0⟩

/-- Inserts a scored word after every word with a score not above its own. -/
def insertScored (w : Binary64 × String) : List (Binary64 × String) → List (Binary64 × String)
  | [] => [w]
  | v :: rest => if w.1.lt v.1 then w :: v :: rest else v :: insertScored w rest

/-- **The words similar to `v`**, the least similar first. -/
def similarWords (v : String) (words : List String) : List String :=
  let scored := words.filterMap fun w =>
    let j := jaro v w
    if similarity.lt j then some (j, w) else none
  (scored.foldl (fun acc w => insertScored w acc) []).map (·.2)

end SourceAudit.Cli
