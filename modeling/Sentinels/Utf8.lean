import Sentinels.Text

/-!
# UTF-8

Bytes are split from left to right into well-formed sequences and maximal invalid subparts. A lead
byte fixes how many bytes follow it and which values the first of them may take; every later one
lies between 80 and BF. The first byte that does not fit ends an invalid subpart in front of it
and begins anew. Reading a document puts one replacement character for each invalid subpart, and
reading a configuration refuses the bytes if there is any.
-/

set_option autoImplicit false

namespace Sentinels.Utf8

/--
A sequence that has begun: its bits so far, the bytes still missing, and the bounds of the next.
-/
structure Pending where
  value : Nat
  missing : Nat
  low : Nat
  high : Nat
deriving DecidableEq, Repr

/-- What one step finds: a character, or an invalid subpart (`none`). -/
abbrev Piece := Option Char

/-- The sequence that a lead byte begins. -/
def lead? (b : Nat) : Option Pending :=
  if 0xC2 ≤ b ∧ b ≤ 0xDF then some ⟨b - 0xC0, 1, 0x80, 0xBF⟩
  else if b = 0xE0 then some ⟨0, 2, 0xA0, 0xBF⟩
  else if b = 0xED then some ⟨0xD, 2, 0x80, 0x9F⟩
  else if 0xE1 ≤ b ∧ b ≤ 0xEF then some ⟨b - 0xE0, 2, 0x80, 0xBF⟩
  else if b = 0xF0 then some ⟨0, 3, 0x90, 0xBF⟩
  else if b = 0xF4 then some ⟨4, 3, 0x80, 0x8F⟩
  else if 0xF1 ≤ b ∧ b ≤ 0xF3 then some ⟨b - 0xF0, 3, 0x80, 0xBF⟩
  else none

/-- Reads a byte that no sequence waits for. -/
def start (b : Nat) : Option Pending × List Piece :=
  if b < 0x80 then (none, [some (Char.ofNat b)])
  else match lead? b with
    | some p => (some p, [])
    | none => (none, [none])

/-- Adds a byte that lies within the bounds to a sequence that has begun. -/
def Pending.extend (p : Pending) (b : Nat) : Option Pending × List Piece :=
  let value := p.value * 64 + (b - 0x80)
  if p.missing = 1 then (none, [some (Char.ofNat value)])
  else (some ⟨value, p.missing - 1, 0x80, 0xBF⟩, [])

/-- Reads one byte. -/
def step (pending : Option Pending) (b : Nat) : Option Pending × List Piece :=
  match pending with
  | none => start b
  | some p =>
    if p.low ≤ b ∧ b ≤ p.high then p.extend b
    else
      let (next, found) := start b
      (next, none :: found)

/-- The pieces of the bytes behind a sequence that has begun. -/
def piecesFrom (pending : Option Pending) : List UInt8 → List Piece
  | [] => if pending.isSome then [none] else []
  | b :: rest =>
    let (next, found) := step pending b.toNat
    found ++ piecesFrom next rest

/-- The well-formed sequences and the invalid subparts of the bytes, from left to right. -/
def pieces (bytes : List UInt8) : List Piece :=
  piecesFrom none bytes

/-- The character that stands for an invalid subpart. -/
def replacement : Char := '\uFFFD'

/-- Decodes bytes; each invalid subpart becomes a replacement character. -/
def decodeLossy (bytes : List UInt8) : Text :=
  (pieces bytes).map fun piece => piece.getD replacement

/-- Decodes bytes that hold no invalid subpart. -/
def decode? (bytes : List UInt8) : Option Text :=
  if (pieces bytes).all Option.isSome then some ((pieces bytes).filterMap id) else none

/-- The bytes of a text. -/
def encode (text : Text) : List UInt8 :=
  text.flatMap String.utf8EncodeChar

end Sentinels.Utf8
