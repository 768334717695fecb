/-!
# Sets of characters

A set of Unicode scalar values is a list of closed ranges in increasing order. The surrogate code
points are no characters, so U+D7FF and U+E000 are neighbours; yet ranges are joined by code
point, and two ranges that only the surrogates separate stay two. The range between two such
ranges has its ends in the wrong order and is taken in the right one, so a complement may hold
U+D7FF and U+E000 though the set holds them too.
-/

set_option autoImplicit false

namespace Sentinels

/-- A set of characters, as closed ranges of code points in increasing order. -/
structure CharSet where
  ranges : List (Nat × Nat)
deriving DecidableEq, Repr

namespace CharSet

/-- The largest code point. -/
def maxCodePoint : Nat := 0x10FFFF

/-- Looks a code point up in increasing ranges; the search ends at the first range above it. -/
def inRanges (n : Nat) : List (Nat × Nat) → Bool
  | [] => false
  | (lo, hi) :: rest => if n < lo then false else Nat.ble n hi || inRanges n rest

/-- Is the character in the set? -/
def contains (s : CharSet) (c : Char) : Bool :=
  inRanges c.toNat s.ranges

/-- The set without members. -/
def empty : CharSet := ⟨[]⟩

/-- The set of all characters. -/
def full : CharSet := ⟨[(0, maxCodePoint)]⟩

/-- The code points from `lo` to `hi`. -/
def ofRange (lo hi : Nat) : CharSet :=
  if lo ≤ hi then ⟨[(lo, hi)]⟩ else ⟨[]⟩

/-- The set with one member. -/
def singleton (c : Char) : CharSet := ⟨[(c.toNat, c.toNat)]⟩

/-- The range between two ends, which may come in either order. -/
def between (m n : Nat) : Nat × Nat := (min m n, max m n)

/-- The scalar value behind another. -/
def next (n : Nat) : Nat := if n = 0xD7FF then 0xE000 else n + 1

/-- The scalar value in front of another. -/
def previous (n : Nat) : Nat := if n = 0xE000 then 0xD7FF else n - 1

/-- Puts the range from `lo` to `hi` among increasing ranges and joins it with what it meets. -/
def insertRange (lo hi : Nat) : List (Nat × Nat) → List (Nat × Nat)
  | [] => [(lo, hi)]
  | (a, b) :: rest =>
    if hi + 1 < a then (lo, hi) :: (a, b) :: rest
    else if b + 1 < lo then (a, b) :: insertRange lo hi rest
    else insertRange (min lo a) (max hi b) rest

/-- The set of the code points that lie in one of the ranges, which may come in any order. -/
def ofRanges (ranges : List (Nat × Nat)) : CharSet :=
  ⟨ranges.foldr (fun (lo, hi) acc => if lo ≤ hi then insertRange lo hi acc else acc) []⟩

/-- The members of either set. -/
def union (s t : CharSet) : CharSet := ofRanges (s.ranges ++ t.ranges)

/-- The set with its ranges joined where they overlap or touch. -/
def joined (s : CharSet) : CharSet := ofRanges s.ranges

/-- The ranges above a range that ends at `last` which increasing ranges leave out. -/
def gapsAbove (last : Nat) : List (Nat × Nat) → List (Nat × Nat)
  | [] => if last < maxCodePoint then [(next last, maxCodePoint)] else []
  | (lo, hi) :: rest => between (next last) (previous lo) :: gapsAbove hi rest

/-- The characters outside the set. -/
def compl (s : CharSet) : CharSet :=
  match s.ranges with
  | [] => full
  | (lo, hi) :: rest =>
    ⟨(if lo = 0 then [] else [(0, previous lo)]) ++ gapsAbove hi rest⟩

/-- The range that two ranges have in common. -/
def common? (r s : Nat × Nat) : Option (Nat × Nat) :=
  if max r.1 s.1 ≤ min r.2 s.2 then some (max r.1 s.1, min r.2 s.2) else none

/-- The members of both sets. -/
def inter (s t : CharSet) : CharSet :=
  ⟨s.ranges.flatMap fun r => t.ranges.filterMap (common? r)⟩

/-- What increasing ranges leave of the range from `a` to `b`. -/
def cutRange (a b : Nat) : List (Nat × Nat) → List (Nat × Nat)
  | [] => [(a, b)]
  | (c, d) :: rest =>
    if d < a then cutRange a b rest
    else if b < c then [(a, b)]
    else
      let below := if a < c then [(a, previous c)] else []
      if d < b then below ++ cutRange (next d) b rest else below

/-- The members of the first set that are not in the second. -/
def diff (s t : CharSet) : CharSet :=
  ⟨s.ranges.flatMap fun (a, b) => cutRange a b t.ranges⟩

/-- The members of exactly one of the sets. -/
def symmDiff (s t : CharSet) : CharSet := (s.union t).diff (s.inter t)

/-- The complement if `negated` holds, else the set itself. -/
def negateIf (negated : Bool) (s : CharSet) : CharSet :=
  if negated then s.compl else s

/-- Are all members below U+0080? -/
def isAscii (s : CharSet) : Bool := s.ranges.all fun (_, hi) => hi < 0x80

/-- The only member of a set that has exactly one. -/
def single? (s : CharSet) : Option Char :=
  match s.ranges with
  | [(lo, hi)] => if lo = hi then some (Char.ofNat lo) else none
  | _ => none

/-- The set of one character has no other member. -/
@[simp] theorem contains_singleton (c d : Char) :
    (singleton c).contains d = decide (d = c) := by
  have h : d = c ↔ d.toNat = c.toNat := ⟨fun h => h ▸ rfl, Char.toNat_inj.mp⟩
  rw [Bool.eq_iff_iff]
  simp only [contains, singleton, inRanges, h, Bool.or_false, decide_eq_true_eq]
  split
  · simp only [Bool.false_eq_true, false_iff]
    omega
  · rw [Nat.ble_eq]
    omega

/-- The value of a hexadecimal digit; any other character counts as zero. -/
def hexDigitValue (c : Char) : Nat :=
  if '0' ≤ c ∧ c ≤ '9' then c.toNat - '0'.toNat
  else if 'A' ≤ c ∧ c ≤ 'F' then c.toNat - 'A'.toNat + 10
  else if 'a' ≤ c ∧ c ≤ 'f' then c.toNat - 'a'.toNat + 10
  else 0

/--
Reads ranges such as `41-5A 5F` one character at a time. The state holds the digits read so far
(`value`) and, behind a hyphen, the lower end (`low`).
-/
def readRanges (low : Option Nat) (value : Nat) : List Char → List (Nat × Nat)
  | [] => [(low.getD value, value)]
  | ' ' :: rest => (low.getD value, value) :: readRanges none 0 rest
  | '-' :: rest => readRanges (some value) 0 rest
  | c :: rest => readRanges low (value * 16 + hexDigitValue c) rest

/-- The set written as lines of increasing hexadecimal ranges with blanks between them. -/
def ofHex (lines : List String) : CharSet :=
  ⟨lines.flatMap fun line => readRanges none 0 line.toList⟩

end CharSet

end Sentinels
