import Sentinels.CharSet

/-!
# Encodings of ranges

The encodings of the characters of a range are described by sequences of byte ranges: a sequence
stands for every choice of one byte out of each of its ranges. For that a range is cut in front of
the surrogates, where encodings grow longer, and at the ends of blocks whose characters differ in
their last bytes only.
-/

set_option autoImplicit false

namespace Sentinels.Utf8

/-- Ranges of bytes, one for each byte of an encoding. -/
abbrev ByteRanges := List (Nat × Nat)

/-- The bytes that encode a code point. -/
def bytesOf (n : Nat) : List Nat :=
  if n < 0x80 then [n]
  else if n < 0x800 then [0xC0 + n / 0x40, 0x80 + n % 0x40]
  else if n < 0x10000 then [0xE0 + n / 0x1000, 0x80 + n / 0x40 % 0x40, 0x80 + n % 0x40]
  else
    [0xF0 + n / 0x40000, 0x80 + n / 0x1000 % 0x40, 0x80 + n / 0x40 % 0x40, 0x80 + n % 0x40]

/-- The parts of a range on the two sides of the surrogates. -/
def besideSurrogates (lo hi : Nat) : List (Nat × Nat) :=
  if lo < 0xE000 ∧ 0xD7FF < hi then [(lo, 0xD7FF), (0xE000, hi)] else [(lo, hi)]

/-- A range, cut behind a code point if it reaches beyond it. -/
def cutBehind (last : Nat) (r : Nat × Nat) : List (Nat × Nat) :=
  if r.1 ≤ last ∧ last < r.2 then [(r.1, last), (last + 1, r.2)] else [r]

/--
A range cut at blocks of the given sizes, which increase: the parts of the first and of the last
block, and between them whole blocks, which are cut at blocks of the next size.
-/
def cutAtBlocks (lo hi : Nat) : List Nat → List (Nat × Nat)
  | [] => [(lo, hi)]
  | size :: sizes =>
    if lo / size = hi / size then [(lo, hi)]
    else
      let start := if lo % size = 0 then lo else (lo / size + 1) * size
      let stop := if (hi + 1) % size = 0 then hi + 1 else hi / size * size
      (if lo < start then [(lo, start - 1)] else []) ++
        (if start < stop then cutAtBlocks start (stop - 1) sizes else []) ++
        (if stop ≤ hi then [(stop, hi)] else [])

/-- The byte ranges of a range whose encodings have one length and lie in one block. -/
def byteRanges (r : Nat × Nat) : ByteRanges := (bytesOf r.1).zip (bytesOf r.2)

/-- The byte ranges of the characters from `lo` to `hi`, in increasing order. -/
def sequences (lo hi : Nat) : List ByteRanges :=
  let lengths := (besideSurrogates lo hi).flatMap fun r =>
    ((cutBehind 0x7F r).flatMap (cutBehind 0x7FF)).flatMap (cutBehind 0xFFFF)
  let blocks := lengths.flatMap fun (lo, hi) =>
    if hi < 0x80 then [(lo, hi)] else cutAtBlocks lo hi [0x40, 0x1000, 0x40000]
  blocks.map byteRanges

/--
The ways on from a set of byte ranges: each first range with the rests behind it. Sequences that
begin alike stand side by side.
-/
def waysOn : List ByteRanges → List ((Nat × Nat) × List ByteRanges)
  | [] => []
  | [] :: rest => waysOn rest
  | (r :: tail) :: rest =>
    match waysOn rest with
    | (s, tails) :: more =>
      if r = s then (s, tail :: tails) :: more else (r, [tail]) :: (s, tails) :: more
    | [] => [(r, [tail])]

/--
The nodes of the tree of some sequences, which are no longer than `depth`. A node is what is left
of the sequences that begin alike; the leaves, where nothing is left, are not listed.
-/
def nodes : Nat → List ByteRanges → List (List ByteRanges)
  | 0, _ => []
  | depth + 1, sequences =>
    let ways := waysOn sequences
    if ways.isEmpty then [] else sequences :: ways.flatMap fun (_, tails) => nodes depth tails

end Sentinels.Utf8
