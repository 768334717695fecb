import Sentinels.Text
import Sentinels.Unicode.CombiningClass
import Sentinels.Unicode.Composite
import Sentinels.Unicode.SequenceMapping
import Sentinels.Unicode.SingleMapping

/-!
# Compatibility composition

The normal form of a text is found in three steps: each character is replaced by its full
compatibility decomposition, the marks behind each starter are put in the order of their combining
classes, and starters are joined with the marks behind them wherever a primary composite exists.
Characters of class zero are the starters; they bound what the second and the third step move.
-/

set_option autoImplicit false

namespace Sentinels.Unicode

namespace Hangul

/-- The first precomposed syllable. -/
def syllableBase : Nat := 0xAC00

/-- The number of precomposed syllables. -/
def syllableCount : Nat := 11172

/-- The first leading consonant. -/
def leadBase : Nat := 0x1100

/-- The first vowel. -/
def vowelBase : Nat := 0x1161

/-- One below the first trailing consonant. -/
def trailBase : Nat := 0x11A7

/--
A precomposed syllable is taken apart into a lead, a vowel and possibly a trailing consonant.
-/
def decompose? (n : Nat) : Option (List Nat) :=
  if syllableBase ≤ n ∧ n < syllableBase + syllableCount then
    let index := n - syllableBase
    let leadAndVowel := [leadBase + index / 588, vowelBase + index % 588 / 28]
    some (if index % 28 = 0 then leadAndVowel else leadAndVowel ++ [trailBase + index % 28])
  else none

/-- A lead and a vowel form a syllable; so do a syllable without trailing consonant and one. -/
def compose? (first second : Nat) : Option Nat :=
  if leadBase ≤ first ∧ first < leadBase + 19 ∧ vowelBase ≤ second ∧ second < vowelBase + 21 then
    some (syllableBase + (first - leadBase) * 588 + (second - vowelBase) * 28)
  else if syllableBase ≤ first ∧ first < syllableBase + syllableCount ∧
      (first - syllableBase) % 28 = 0 ∧ trailBase < second ∧ second < trailBase + 28 then
    some (first + (second - trailBase))
  else none

end Hangul

/-- The code points of the full compatibility decomposition of a code point. -/
def decomposition (n : Nat) : List Nat :=
  if n < 0x80 then [n]
  else match Hangul.decompose? n with
    | some parts => parts
    | none => match singleMapping? n with
      | some m => [m]
      | none => (sequenceMapping? n).getD [n]

/-- Replaces each character by its full compatibility decomposition. -/
def decompose (text : Text) : Text :=
  text.flatMap fun c => (decomposition c.toNat).map Char.ofNat

/-- Puts a character in front of an ordered text, behind those marks whose class is lower. -/
def insertOrdered (c : Char) : Text → Text
  | [] => [c]
  | d :: rest =>
    if combiningClass d ≠ 0 ∧ combiningClass d < combiningClass c then d :: insertOrdered c rest
    else c :: d :: rest

/--
Puts the marks behind each starter in the order of their classes; equal classes stay in place.
-/
def reorder (text : Text) : Text :=
  text.foldr insertOrdered []

/-- The primary composite of two characters. -/
def composite? (first second : Char) : Option Char :=
  match Hangul.compose? first.toNat second.toNat with
  | some n => some (Char.ofNat n)
  | none => (compositeIn first.toNat second.toNat compositePairs).map Char.ofNat

/--
Composes an ordered text behind a starter. `marks` holds, last first, the marks behind the starter
that stay as they are, and `blocking` is the class of the last of them. A character can join the
starter if no mark stands between them, or if all marks between them have a lower class.
-/
def composeFrom (starter : Char) (marks : List Char) (blocking : Nat) : Text → Text
  | [] => starter :: marks.reverse
  | c :: rest =>
    match if marks.isEmpty || Nat.blt blocking (combiningClass c) then composite? starter c
      else none with
    | some joined => composeFrom joined marks blocking rest
    | none =>
      if combiningClass c = 0 then starter :: (marks.reverse ++ composeFrom c [] 0 rest)
      else composeFrom starter (c :: marks) (combiningClass c) rest

/-- Joins the starters of an ordered text with the marks behind them. -/
def compose : Text → Text
  | [] => []
  | c :: rest =>
    if combiningClass c = 0 then composeFrom c [] 0 rest else c :: compose rest

/-- The compatibility composition of a text (normal form KC). -/
def normalForm (text : Text) : Text :=
  compose (reorder (decompose text))

end Sentinels.Unicode
