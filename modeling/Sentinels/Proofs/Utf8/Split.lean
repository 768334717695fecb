import Sentinels.Proofs.Utf8.Sequence
import Sentinels.Source

/-!
# Splitting bytes into sequences and invalid subparts

Where bytes begin with no well-formed sequence, the longest part that begins one is an invalid
subpart, and a byte that begins none is one by itself. So any bytes split from left to right into
well-formed sequences and invalid subparts, and they do so in one way (`Splits.unique`). The decoder
finds this split. It follows that a document can be cut in front of any byte but a continuation,
and that its bytes of seven bits are exactly the characters of seven bits that are read.
-/

set_option autoImplicit false

namespace Sentinels.Utf8

/-! ## Parts -/

/--
Is `part` the invalid subpart that the bytes begin with? No well-formed sequence stands there, and
`part` is the longest beginning that either is a single byte or begins a well-formed sequence.
-/
structure IsInvalidSubpart (part bytes : List UInt8) : Prop where
  ne_nil : part ≠ []
  isPrefix : part <+: bytes
  ill_formed : ∀ c, ¬ String.utf8EncodeChar c <+: bytes
  begins : part.length = 1 ∨ ∃ c, part <+: String.utf8EncodeChar c
  longest : ∀ s, s <+: bytes → (s.length = 1 ∨ ∃ c, s <+: String.utf8EncodeChar c) →
    s.length ≤ part.length

/-- A well-formed sequence, given by its character, or an invalid subpart. -/
inductive Part
  | sequence (c : Char)
  | invalid (bytes : List UInt8)

namespace Part

/-- The bytes of a part. -/
def bytes : Part → List UInt8
  | sequence c => String.utf8EncodeChar c
  | invalid bytes => bytes

/-- The character that is read for a part. -/
def char : Part → Char
  | sequence c => c
  | invalid _ => '\uFFFD'

/-- What the decoder finds for a part. -/
def piece : Part → Piece
  | sequence c => some c
  | invalid _ => none

/-- Is this the part that the bytes begin with? -/
def Begins : Part → List UInt8 → Prop
  | sequence c, bytes => String.utf8EncodeChar c <+: bytes
  | invalid part, bytes => IsInvalidSubpart part bytes

end Part

/-- The parts of bytes, from left to right. -/
inductive Splits : List UInt8 → List Part → Prop
  | done : Splits [] []
  | next {part : Part} {rest : List UInt8} {parts : List Part}
    (hpart : part.Begins (part.bytes ++ rest)) (hrest : Splits rest parts) :
    Splits (part.bytes ++ rest) (part :: parts)

/-- A part has a byte. -/
theorem Part.Begins.bytes_ne_nil {part : Part} {bytes : List UInt8} (h : part.Begins bytes) :
    part.bytes ≠ [] := by
  cases part with
  | sequence c => exact utf8EncodeChar_ne_nil c
  | invalid s => exact IsInvalidSubpart.ne_nil h

/-- No well-formed sequence is a beginning of another one. -/
theorem eq_of_isPrefix_of_isPrefix {c d : Char} {bytes : List UInt8}
    (hc : String.utf8EncodeChar c <+: bytes) (hd : String.utf8EncodeChar d <+: bytes) : c = d := by
  obtain ⟨s, hs⟩ := hc
  obtain ⟨t, ht⟩ := hd
  have hpieces := piecesFrom_utf8EncodeChar c s
  rw [hs, ← ht, piecesFrom_utf8EncodeChar d t] at hpieces
  exact (Option.some.inj (List.cons.inj hpieces).1).symm

/-- Bytes begin with one part. -/
theorem Part.Begins.unique {part part' : Part} {bytes : List UInt8} (h : part.Begins bytes)
    (h' : part'.Begins bytes) : part = part' := by
  cases part with
  | sequence c =>
    cases part' with
    | sequence d => rw [eq_of_isPrefix_of_isPrefix h h']
    | invalid t => exact absurd h (IsInvalidSubpart.ill_formed h' c)
  | invalid s =>
    cases part' with
    | sequence d => exact absurd h' (IsInvalidSubpart.ill_formed h d)
    | invalid t =>
      obtain ⟨-, hs, -, hbegins, hlongest⟩ := h
      obtain ⟨-, ht, -, hbegins', hlongest'⟩ := h'
      have hlength : s.length = t.length :=
        Nat.le_antisymm (hlongest' s hs hbegins) (hlongest t ht hbegins')
      rw [List.prefix_iff_eq_take.1 hs, List.prefix_iff_eq_take.1 ht, hlength]

/-- Bytes split in one way. -/
theorem Splits.unique {bytes : List UInt8} {parts parts' : List Part} (h : Splits bytes parts)
    (h' : Splits bytes parts') : parts = parts' := by
  induction h generalizing parts' with
  | done =>
    generalize hbytes : ([] : List UInt8) = bytes at h'
    cases h' with
    | done => rfl
    | next hpart => exact absurd (List.append_eq_nil_iff.1 hbytes.symm).1 hpart.bytes_ne_nil
  | @next part rest parts hpart hrest ih =>
    generalize hbytes : part.bytes ++ rest = bytes at h'
    cases h' with
    | done => exact absurd (List.append_eq_nil_iff.1 hbytes).1 hpart.bytes_ne_nil
    | @next part' rest' parts' hpart' hrest' =>
      rw [hbytes] at hpart
      obtain rfl := hpart.unique hpart'
      obtain rfl := List.append_cancel_left hbytes
      rw [ih hrest']

/-! ## What the decoder finds -/

/-- A part that the decoder finds at the beginning of bytes, and what it finds behind it. -/
def FindsFirst (bytes : List UInt8) : Prop :=
  ∃ (part : Part) (rest : List UInt8), bytes = part.bytes ++ rest ∧ part.Begins bytes ∧
    pieces bytes = part.piece :: pieces rest

/-- A beginning ends within the first part or reaches into the rest. -/
theorem isPrefix_append_cases {s part rest : List UInt8} (h : s <+: part ++ rest) :
    s <+: part ∨ ∃ more, more <+: rest ∧ s = part ++ more := by
  rcases List.prefix_or_prefix_of_prefix h (List.prefix_append part rest) with hshort | hlong
  · exact Or.inl hshort
  · obtain ⟨more, rfl⟩ := hlong
    exact Or.inr ⟨more, (List.prefix_append_right_inj part).1 h, rfl⟩

/-- A beginning with which the next byte makes no well-formed one is an invalid subpart. -/
theorem findsFirst_invalid {part rest : List UInt8} (hne : part ≠ [])
    (hbegins : part.length = 1 ∨ ∃ c, part <+: String.utf8EncodeChar c)
    (hpieces : pieces (part ++ rest) = none :: pieces rest)
    (hends : ∀ b tail c, rest.head? = some b → part ++ b :: tail ≠ String.utf8EncodeChar c) :
    FindsFirst (part ++ rest) := by
  refine ⟨.invalid part, rest, rfl, ?_, hpieces⟩
  refine ⟨hne, List.prefix_append part rest, ?_, hbegins, ?_⟩
  · rintro c ⟨more, hmore⟩
    have hchar := piecesFrom_utf8EncodeChar c more
    rw [hmore] at hchar
    exact absurd (hchar.symm.trans hpieces) (by simp)
  · intro s hs hs'
    rcases isPrefix_append_cases hs with hshort | ⟨more, hmore, rfl⟩
    · exact hshort.length_le
    · cases more with
      | nil => simp
      | cons b more =>
        -- a longer beginning goes on with the next byte, which no well-formed sequence does
        obtain ⟨behind, hbehind⟩ := hmore
        rcases hs' with hlength | ⟨c, tail, hc⟩
        · have hpositive := List.length_pos_iff.2 hne
          rw [List.length_append, List.length_cons] at hlength
          omega
        · rw [List.append_assoc, List.cons_append] at hc
          exact absurd hc (hends b _ c (by rw [← hbehind]; rfl))

/-- A sequence that has begun is completed, or it is an invalid subpart. -/
theorem Begun.findsFirst {seen : List UInt8} {p : Pending} (h : Begun seen p) (hne : seen ≠ [])
    (rest : List UInt8) : FindsFirst (seen ++ rest) := by
  induction rest generalizing seen p with
  | nil =>
    apply findsFirst_invalid hne (Or.inr h.begins)
    · exact h.run []
    · intro b tail c hb
      exact absurd hb (by simp)
  | cons b rest ih =>
    by_cases hbounds : p.low ≤ b.toNat ∧ b.toNat ≤ p.high
    · obtain ⟨hlow, hhigh⟩ := hbounds
      by_cases hmissing : p.missing = 1
      · obtain ⟨c, hc, hfinds⟩ := h.exists_char hlow hhigh hmissing
        have hsplit : seen ++ b :: rest = String.utf8EncodeChar c ++ rest := by
          rw [← hc, List.append_assoc, List.singleton_append]
        refine ⟨.sequence c, rest, hsplit, ?_, ?_⟩
        · rw [hsplit]
          exact List.prefix_append _ rest
        · rw [h.run]
          exact hfinds rest
      · have hnext := ih (h.next hlow hhigh hmissing) (by simp)
        rwa [List.append_assoc, List.singleton_append] at hnext
    · apply findsFirst_invalid hne (Or.inr h.begins)
      · rw [h.run]
        exact piecesFrom_outside hbounds rest
      · intro x tail c hx hc
        obtain rfl := Option.some.inj hx
        exact hbounds (h.within hc)

/-- A byte of seven bits is what its character is written as. -/
theorem utf8EncodeChar_ascii {b : UInt8} (h : b.toNat < 0x80) :
    String.utf8EncodeChar (Char.ofNat b.toNat) = [b] := by
  have hvalue : (Char.ofNat b.toNat).toNat = b.toNat := toNat_ofNat (Or.inl (by omega))
  rcases utf8EncodeChar_cases (Char.ofNat b.toNat) with ⟨-, heq⟩ | ⟨hlarge, -⟩
  · rw [heq, byte_eq hvalue]
  · omega

/-- The decoder finds a part at the beginning of any bytes. -/
theorem findsFirst_cons (b : UInt8) (rest : List UInt8) : FindsFirst (b :: rest) := by
  by_cases hascii : b.toNat < 0x80
  · have hbyte := utf8EncodeChar_ascii hascii
    have hsplit : b :: rest = String.utf8EncodeChar (Char.ofNat b.toNat) ++ rest := by
      rw [hbyte, List.singleton_append]
    refine ⟨.sequence (Char.ofNat b.toNat), rest, hsplit, ?_, piecesFrom_ascii hascii rest⟩
    rw [hsplit]
    exact List.prefix_append _ rest
  · cases hlead : lead? b.toNat with
    | some p => exact (begun_lead (by omega) hlead).findsFirst (List.cons_ne_nil b []) rest
    | none =>
      have hpieces : ∀ rest, pieces (b :: rest) = none :: pieces rest := by
        intro rest
        simp [pieces, piecesFrom, step, start, hascii, hlead]
      show FindsFirst ([b] ++ rest)
      apply findsFirst_invalid (List.cons_ne_nil b []) (Or.inl rfl) (hpieces rest)
      intro x tail c _ hc
      have hchar := piecesFrom_utf8EncodeChar c []
      rw [← hc, List.append_nil] at hchar
      exact absurd (hchar.symm.trans (hpieces (x :: tail))) (by simp)

/-- The decoder finds a split of all bytes. -/
theorem exists_splits (bytes : List UInt8) :
    ∃ parts, Splits bytes parts ∧ pieces bytes = parts.map Part.piece := by
  induction hlength : bytes.length using Nat.strong_induction_on generalizing bytes with
  | _ n ih =>
    cases bytes with
    | nil => exact ⟨[], .done, rfl⟩
    | cons b tail =>
      obtain ⟨part, rest, hsplit, hpart, hpieces⟩ := findsFirst_cons b tail
      have hpositive := List.length_pos_iff.2 hpart.bytes_ne_nil
      have hless : rest.length < n := by
        rw [← hlength, hsplit, List.length_append]
        omega
      obtain ⟨parts, hrest, hparts⟩ := ih rest.length hless rest rfl
      refine ⟨part :: parts, ?_, ?_⟩
      · rw [hsplit] at hpart ⊢
        exact .next hpart hrest
      · rw [hpieces, hparts, List.map_cons]

/-- The replacement character stands for an invalid subpart. -/
theorem Part.getD_piece (part : Part) : part.piece.getD replacement = part.char := by
  cases part <;> rfl

/-- Each part is read as its character. -/
theorem Splits.decodeLossy {bytes : List UInt8} {parts : List Part} (h : Splits bytes parts) :
    decodeLossy bytes = parts.map Part.char := by
  obtain ⟨found, hfound, hpieces⟩ := exists_splits bytes
  rw [h.unique hfound, Utf8.decodeLossy, hpieces, List.map_map]
  apply List.map_congr_left
  intro part _
  exact part.getD_piece

/-- What was encoded is read back. -/
theorem decodeLossy_encode (text : Text) : decodeLossy (encode text) = text := by
  rw [decodeLossy, pieces_encode, List.map_map]
  exact List.map_id text

/-! ## Cutting bytes -/

/-- Bytes that may stand behind a cut: they begin with no continuation. -/
def IsCut (bytes : List UInt8) : Prop :=
  ∀ b, bytes.head? = some b → b.toNat < 0x80 ∨ 0xBF < b.toNat

/-- No character is written across a cut. -/
theorem IsCut.eq_nil_of_isPrefix {s t behind : List UInt8} {c : Char} (h : IsCut behind)
    (ht : t <+: behind) (hs : s ≠ []) (hc : s ++ t <+: String.utf8EncodeChar c) : t = [] := by
  cases t with
  | nil => rfl
  | cons b t =>
    obtain ⟨more, hmore⟩ := hc
    rw [List.append_assoc, List.cons_append] at hmore
    obtain ⟨hlow, hhigh⟩ := isContinuation_of_append hmore hs
    obtain ⟨rest, rfl⟩ := ht
    rcases h b rfl with hless | hlarger <;> omega

/-- The first part in front of a cut is the first part without what stands behind the cut. -/
theorem Part.Begins.append {part : Part} {bytes behind : List UInt8} (h : part.Begins bytes)
    (hcut : IsCut behind) : part.Begins (bytes ++ behind) := by
  cases part with
  | sequence c => exact List.IsPrefix.trans h (List.prefix_append bytes behind)
  | invalid part =>
    obtain ⟨hne, hpart, hill, hbegins, hlongest⟩ := h
    have hbytes : bytes ≠ [] := by
      rintro rfl
      exact hne (List.prefix_nil.1 hpart)
    -- what stands across the cut begins no character
    have hwithin : ∀ s, s <+: bytes ++ behind →
        (s.length = 1 ∨ ∃ c, s <+: String.utf8EncodeChar c) → s <+: bytes := by
      intro s hs hs'
      rcases isPrefix_append_cases hs with hshort | ⟨t, ht, rfl⟩
      · exact hshort
      · rcases hs' with hlength | ⟨c, hc⟩
        · have hpositive := List.length_pos_iff.2 hbytes
          rw [List.length_append] at hlength
          rw [List.eq_nil_of_length_eq_zero (show t.length = 0 by omega), List.append_nil]
        · rw [hcut.eq_nil_of_isPrefix ht hbytes hc, List.append_nil]
    refine ⟨hne, hpart.trans (List.prefix_append bytes behind), ?_, hbegins, ?_⟩
    · intro c hc
      exact hill c (hwithin _ hc (Or.inr ⟨c, List.prefix_rfl⟩))
    · intro s hs hs'
      exact hlongest s (hwithin s hs hs') hs'

/-- The parts in front of a cut and behind it are the parts of the whole. -/
theorem Splits.append {front behind : List UInt8} {parts others : List Part}
    (h : Splits front parts) (hbehind : Splits behind others) (hcut : IsCut behind) :
    Splits (front ++ behind) (parts ++ others) := by
  induction h with
  | done => exact hbehind
  | @next part rest parts hpart _ ih =>
    rw [List.append_assoc]
    apply Splits.next _ ih
    rw [← List.append_assoc]
    exact hpart.append hcut

/-- What stands in front of a cut and behind it is read one by one. -/
theorem decodeLossy_append {front behind : List UInt8} (hcut : IsCut behind) :
    decodeLossy (front ++ behind) = decodeLossy front ++ decodeLossy behind := by
  obtain ⟨parts, hparts, -⟩ := exists_splits front
  obtain ⟨others, hothers, -⟩ := exists_splits behind
  rw [(hparts.append hothers hcut).decodeLossy, hparts.decodeLossy, hothers.decodeLossy,
    List.map_append]

/-! ## Bytes of seven bits -/

/-- No byte of seven bits is part of an invalid subpart. -/
theorem IsInvalidSubpart.large {part bytes : List UInt8} (h : IsInvalidSubpart part bytes) :
    ∀ b ∈ part, 0x80 ≤ b.toNat := by
  intro b hb
  by_contra hsmall
  obtain ⟨s, t, rfl⟩ := List.append_of_mem hb
  cases s with
  | nil =>
    apply h.ill_formed (Char.ofNat b.toNat)
    rw [utf8EncodeChar_ascii (by omega)]
    exact List.IsPrefix.trans ⟨t, rfl⟩ h.isPrefix
  | cons a s =>
    rcases h.begins with hlength | ⟨c, more, hc⟩
    · simp at hlength
    · rw [List.append_assoc, List.cons_append] at hc
      obtain ⟨hlow, -⟩ := isContinuation_of_append hc (List.cons_ne_nil a s)
      omega

/-- Is this character one of seven bits? -/
def isAscii (c : Char) : Bool := decide (c.toNat < 0x80)

/-- The characters that the bytes of seven bits are. -/
def asciiChars (bytes : List UInt8) : Text :=
  (bytes.filter fun b => decide (b.toNat < 0x80)).map fun b => Char.ofNat b.toNat

/-- The bytes of seven bits are picked one by one. -/
theorem asciiChars_append (bytes rest : List UInt8) :
    asciiChars (bytes ++ rest) = asciiChars bytes ++ asciiChars rest := by
  simp [asciiChars]

/-- Bytes of eight bits give no such characters. -/
theorem asciiChars_eq_nil {bytes : List UInt8} (h : ∀ b ∈ bytes, 0x80 ≤ b.toNat) :
    asciiChars bytes = [] := by
  unfold asciiChars
  rw [List.map_eq_nil_iff, List.filter_eq_nil_iff]
  intro b hb
  have hlarge := h b hb
  simp only [decide_eq_true_eq]
  omega

/-- A part is read as a character of seven bits if it is the byte of one. -/
theorem Part.Begins.asciiChars {part : Part} {bytes : List UInt8} (h : part.Begins bytes) :
    asciiChars part.bytes = [part.char].filter isAscii := by
  cases part with
  | invalid part => exact asciiChars_eq_nil (IsInvalidSubpart.large h)
  | sequence c =>
    show Utf8.asciiChars (String.utf8EncodeChar c) = [c].filter isAscii
    rcases utf8EncodeChar_cases c with ⟨hsmall, heq⟩ | ⟨hlarge, lead, tail, heq, hlead, htail⟩
    · have hbyte := toNat_byte (show c.toNat < 256 by omega)
      rw [heq, List.filter_cons_of_pos (by simpa [isAscii] using hsmall)]
      simp [Utf8.asciiChars, hbyte, hsmall]
    · rw [heq, List.filter_cons_of_neg (by simpa [isAscii] using hlarge), List.filter_nil]
      apply asciiChars_eq_nil
      intro b hb
      rcases List.mem_cons.1 hb with rfl | hmem
      · exact hlead
      · exact (htail b hmem).1

/-- The characters of seven bits that are read are the bytes of seven bits. -/
theorem Splits.asciiChars {bytes : List UInt8} {parts : List Part} (h : Splits bytes parts) :
    asciiChars bytes = (parts.map Part.char).filter isAscii := by
  induction h with
  | done => rfl
  | @next part rest parts hpart _ ih =>
    rw [asciiChars_append, hpart.asciiChars, ih, List.map_cons, ← List.filter_append,
      List.singleton_append]

end Sentinels.Utf8

/-! ## Documents -/

namespace Sentinels.Document

open Utf8

/--
Any bytes are a document. It is read as the characters of its well-formed sequences, with one
replacement character for each invalid subpart. So what was encoded is read back, documents can be
cut in front of any byte but a continuation, and the bytes of seven bits are exactly the characters
of seven bits, in their order.
-/
theorem ofFile_decodes (path : Text) :
    (∀ bytes, ofFile path (.ok bytes) = .ok (decodeLossy bytes)) ∧
    (∀ bytes, ∃ parts, Splits bytes parts ∧ (∀ others, Splits bytes others → others = parts) ∧
      decodeLossy bytes = parts.map Utf8.Part.char) ∧
    (∀ text, decodeLossy (encode text) = text) ∧
    (∀ front behind, (∀ b, behind.head? = some b → b.toNat < 0x80 ∨ 0xBF < b.toNat) →
      decodeLossy (front ++ behind) = decodeLossy front ++ decodeLossy behind) ∧
    ∀ bytes, (decodeLossy bytes).filter isAscii = asciiChars bytes := by
  refine ⟨fun _ => rfl, ?_, decodeLossy_encode, fun _ _ => decodeLossy_append, ?_⟩
  · intro bytes
    obtain ⟨parts, hparts, -⟩ := exists_splits bytes
    exact ⟨parts, hparts, fun _ hothers => hothers.unique hparts, hparts.decodeLossy⟩
  · intro bytes
    obtain ⟨parts, hparts, -⟩ := exists_splits bytes
    rw [hparts.asciiChars, hparts.decodeLossy]

/-- A document in Latin-1 keeps its markup. -/
example :
    ofFile "api.html".toList (.ok [0x3C, 0x62, 0x3E, 0xE9, 0x3C, 0x2F, 0x62, 0x3E]) =
      .ok "<b>\uFFFD</b>".toList := by
  decide

end Sentinels.Document
