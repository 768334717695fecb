import Sentinels.Pattern.Expr
import Sentinels.Pattern.Footprint
import Sentinels.Utf8
import Sentinels.Utf8.Ranges

/-!
# The size of a pattern

The size of a pattern is the memory of the automata that match it on bytes, one for each direction
of reading. Short patterns may be large, since counted repetitions are written out; a pattern
beyond the limit is refused.
-/

set_option autoImplicit false

namespace Sentinels.Pattern

/-- The direction in which a text is read. -/
inductive Direction
  | forward
  | backward
deriving DecidableEq, Repr

/-- The largest size of a pattern. -/
def sizeLimit : Nat := 10485760

/-- The sum of sizes. -/
def total (sizes : List Nat) : Nat := sizes.foldr (fun size rest => size + rest) 0

/--
The size of a set beyond ASCII. Reading forward, equal ends of encodings share their states;
reading backward, a choice leads to each encoding and equal beginnings are shared.
-/
def wideSetSize (direction : Direction) (s : CharSet) : Nat :=
  let sequences := s.ranges.flatMap fun (lo, hi) => Utf8.sequences lo hi
  let nodes := Utf8.nodes 4 sequences
  match direction with
  | .forward =>
    stateSize + total (nodes.eraseDups.map fun node => sparseSize (Utf8.waysOn node).length)
  | .backward =>
    let edges := total (nodes.map fun node => (Utf8.waysOn node).length)
    2 * stateSize + branchSize * sequences.length + stateSize * edges

/-- Puts a text without its first byte to those that begin with the same byte. -/
def addTail (b : UInt8) (tail : List UInt8) :
    List (UInt8 × List (List UInt8)) → List (UInt8 × List (List UInt8))
  | [] => [(b, [tail])]
  | (c, tails) :: rest =>
    if b = c then (c, tail :: tails) :: rest else (c, tails) :: addTail b tail rest

/-- The first bytes of texts, each with the rests behind it. -/
def firstBytes : List (List UInt8) → List (UInt8 × List (List UInt8))
  | [] => []
  | [] :: rest => firstBytes rest
  | (b :: tail) :: rest => addTail b tail (firstBytes rest)

/-- The parts of a list of texts between the empty ones. -/
def partsBetweenEmpty : List (List UInt8) → List (List (List UInt8))
  | [] => [[]]
  | text :: rest =>
    match text, partsBetweenEmpty rest with
    | [], ps => [] :: ps
    | _, p :: ps => (text :: p) :: ps
    | _, [] => [[text]]

/-- The number of empty texts; of those at the beginning at most one counts. -/
def endCount (texts : List (List UInt8)) : Nat :=
  (if texts.head? = some [] then 1 else 0) + (texts.dropWhile List.isEmpty).count []

/--
The size of the tree of some texts, which are shorter than `depth`. Where a text ends, the texts in
front of it in the list are tried before it and those behind it after it, so the ways on from there
are kept in different states.
-/
def textTreeSize : Nat → List (List UInt8) → Nat
  | 0, _ => 0
  | depth + 1, texts =>
    if texts.all List.isEmpty then 0
    else
      let parts := (partsBetweenEmpty texts).filter fun part => !part.isEmpty
      let sizes := parts.map fun part =>
        let ways := firstBytes part
        (if ways.length = 1 then stateSize else sparseSize ways.length) +
          total (ways.map fun (_, tails) => textTreeSize depth tails)
      stateSize + branchSize * (parts.length + endCount texts) + total sizes

/-- The size of an alternation of texts. -/
def textsSize (direction : Direction) (texts : List Text) : Nat :=
  let encodings := texts.map fun text =>
    match direction with
    | .forward => Utf8.encode text
    | .backward => (Utf8.encode text).reverse
  let depth := (encodings.map List.length).foldl max 0 + 1
  stateSize + textTreeSize depth encodings

namespace Expr

/-- Is the expression an alternation? -/
def isAlt : Expr → Bool
  | .alt _ _ => true
  | _ => false

/-- The characters of a text. -/
def text? : Expr → Option Text
  | .text chars => some chars
  | _ => none

/-- The part of an automaton that a set takes. -/
def setFootprint (direction : Direction) (s : CharSet) : Footprint :=
  if s.isAscii then ⟨stateSize + sparseSize s.ranges.length, false⟩
  else ⟨wideSetSize direction s, false⟩

/--
The part of an automaton that an expression takes. `inside` tells that an alternation continues
one that is already counted; its footprint is then that of its branches alone.
-/
def footprint (direction : Direction) (inside : Bool) : Expr → Footprint
  | .empty => .row 1
  | .text chars => .row (Utf8.encode chars).length
  | .set s _ => setFootprint direction s
  | .look _ => .row 1
  | .repetition body min max _ =>
    (footprint direction false body).repeated body.consumes min max
  | .group _ _ body =>
    let part := footprint direction false body
    match direction with
    | .forward => ⟨2 * stateSize + part.linked, false⟩
    | .backward => part
  | .seq first rest =>
    let first := footprint direction false first
    let rest := footprint direction false rest
    match direction with
    | .forward => first.andThen rest
    | .backward => rest.andThen first
  | .alt first rest =>
    let texts := if inside then none else ((Expr.alt first rest).branches).mapM text?
    match texts with
    | some texts => ⟨textsSize direction texts, false⟩
    | none =>
      let behind :=
        if rest.isAlt then (footprint direction true rest).size
        else branchSize + (footprint direction false rest).linked
      let branches := branchSize + (footprint direction false first).linked + behind
      ⟨(if inside then 0 else 2 * stateSize) + branches, false⟩

/-- Does every match begin at the start of the text, as far as conditions in front say so? -/
def startsAtTextStart : Expr → Bool
  | .look l => l == .textStart
  | .repetition body min _ _ => min != 0 && startsAtTextStart body
  | .group _ _ body => startsAtTextStart body
  | .seq first rest => startsAtTextStart first || (first.onlyEmpty && startsAtTextStart rest)
  | .alt first rest => startsAtTextStart first && startsAtTextStart rest
  | _ => false

/-- Does every match end at the end of the text, as far as conditions at the end say so? -/
def endsAtTextEnd : Expr → Bool
  | .look l => l == .textEnd
  | .repetition body min _ _ => min != 0 && endsAtTextEnd body
  | .group _ _ body => endsAtTextEnd body
  | .seq first rest => endsAtTextEnd rest || (rest.onlyEmpty && endsAtTextEnd first)
  | .alt first rest => endsAtTextEnd first && endsAtTextEnd rest
  | _ => false

/--
The size of the automaton that searches for an expression: a loop over any bytes in front unless a
match must begin where the search does, the expression, and a state for success. Reading forward,
the whole match is recorded like a group.
-/
def size (direction : Direction) (e : Expr) : Nat :=
  let anyByte : Footprint := ⟨stateSize + sparseSize 1, false⟩
  let lead (anchored : Bool) := if anchored then stateSize else anyByte.again.linked
  match direction with
  | .forward => lead e.startsAtTextStart + (footprint .forward false (.group 0 none e)).size +
      stateSize
  | .backward => lead e.endsAtTextEnd + (footprint .backward false e).linked + stateSize

/-- Does the expression keep to the limit in both directions? -/
def fits (e : Expr) : Bool := e.size .forward ≤ sizeLimit && e.size .backward ≤ sizeLimit

end Expr

end Sentinels.Pattern
