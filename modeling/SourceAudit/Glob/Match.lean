import SourceAudit.Glob.Pattern
/-!
# Matching a path against a glob

A glob matches a path when its tokens match the whole of the path's UTF-8 bytes:

* a literal matches its own bytes, `?` one byte and `*` any run of bytes, neither of them a
  line feed;
* a class matches one byte: each character of the class stands for its bytes, and a range
  for the range from the last byte of its low end to the first byte of its high end (so for
  ASCII, the range itself);
* `**/` matches nothing, a `/`, or any run ending in `/`; `/**` a `/` and anything after it;
  `/**/` a `/` or a `/`, anything, and a `/`;
* an alternation matches what any of its non-empty branches match; with no non-empty branch
  it matches nothing at all, and so the empty run;
* the glob `**` alone matches every path without a line feed.

Matching follows the set of positions reachable after each token, so it is exact and needs no
backtracking.

Main definitions:
* `GlobToken.reach`: the positions reachable after a token.
* `Glob`, `Glob.ofText`, `Glob.matches`.
-/

namespace SourceAudit.Glob

/-- The line feed byte, which `?` and `*` never match. -/
def lineFeed : UInt8 := 10

/-- The slash byte. -/
def slashByte : UInt8 := 47

/-- The byte ranges a class stands for. -/
def classBytes (ranges : List (Char × Char)) : List (UInt8 × UInt8) :=
  ranges.flatMap fun (lo, hi) =>
    let a := lo.toString.toUTF8.toList
    let b := hi.toString.toUTF8.toList
    if lo == hi then a.map fun x => (x, x)
    else
      (a.dropLast.map fun x => (x, x)) ++ [(a.getLast?.getD 0, b.head?.getD 0)] ++
        (b.drop 1).map fun x => (x, x)

/-- Positions from `p` on that a run of non-line-feed bytes can end at. -/
def runEnds (input : Array UInt8) (p : Nat) : List Nat :=
  let stop := ((List.range (input.size - p)).find? fun k => input[p + k]? == some lineFeed).map
    (p + ·) |>.getD input.size
  (List.range (stop - p + 1)).map (p + ·)

/-- The byte at `p` is `b`. -/
def byteIs (input : Array UInt8) (p : Nat) (b : UInt8) : Bool := input[p]? == some b

/-- Positions reachable from `p` by `.*/`: after a `/` with no line feed before it. -/
def runToSlash (input : Array UInt8) (p : Nat) : List Nat :=
  (runEnds input p).filterMap fun q => if byteIs input q slashByte then some (q + 1) else none

mutual

/-- **The positions reachable after a token** from each of the given positions. -/
def GlobToken.reach (input : Array UInt8) : GlobToken → List Nat → List Nat
  | .literal c, ps =>
    let bs := c.toString.toUTF8.toList
    ps.filterMap fun p =>
      if (List.range bs.length).all fun k => input[p + k]? == bs[k]? then some (p + bs.length)
      else none
  | .any, ps => ps.filterMap fun p =>
      match input[p]? with
      | some b => if b != lineFeed then some (p + 1) else none
      | none => none
  | .zeroOrMore, ps => ps.flatMap (runEnds input)
  | .recursivePrefix, ps => ps.flatMap fun p =>
      [p] ++ (if byteIs input p slashByte then [p + 1] else []) ++ runToSlash input p
  | .recursiveSuffix, ps => ps.flatMap fun p =>
      if byteIs input p slashByte then runEnds input (p + 1) else []
  | .recursiveZeroOrMore, ps => ps.flatMap fun p =>
      if byteIs input p slashByte then [p + 1] ++ runToSlash input (p + 1) else []
  | .charClass negated ranges, ps =>
    let set := classBytes ranges
    ps.filterMap fun p =>
      match input[p]? with
      | some b => if (set.any fun (lo, hi) => lo ≤ b && b ≤ hi) != negated then some (p + 1) else none
      | none => none
  | .alternates branches, ps =>
    let kept := branches.filter fun b => !b.isEmpty
    if kept.isEmpty then ps
    else (reachAll input branches ps).eraseDups

/-- The positions reachable after each non-empty branch, together. -/
def reachAll (input : Array UInt8) : List (List GlobToken) → List Nat → List Nat
  | [], _ => []
  | b :: more, ps => (if b.isEmpty then [] else reachSeq input b ps) ++ reachAll input more ps

/-- The positions reachable after a sequence of tokens. -/
def reachSeq (input : Array UInt8) : List GlobToken → List Nat → List Nat
  | [], ps => ps
  | t :: more, ps => reachSeq input more (t.reach input ps).eraseDups

end

end SourceAudit.Glob

namespace SourceAudit

/-- A compiled glob: its text and tokens. -/
structure Glob where
  text : String
  tokens : List Glob.GlobToken
  deriving Inhabited

/-- **Reads a glob pattern.** -/
def Glob.ofText (s : String) : Except Glob.GlobError Glob := do
  pure { text := s, tokens := ← Glob.GlobToken.parse s }

/-- **The glob matches the whole path.** -/
def Glob.matches (g : Glob) (path : String) : Bool :=
  let input := path.toUTF8.toList.toArray
  match g.tokens with
  | [.recursivePrefix] => (Glob.runEnds input 0).contains input.size
  | ts => (Glob.reachSeq input ts [0]).contains input.size

end SourceAudit
