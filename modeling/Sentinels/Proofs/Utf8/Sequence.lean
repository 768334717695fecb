import Sentinels.Proofs.Utf8
import Mathlib.Data.List.Infix
import Mathlib.Tactic.SplitIfs

/-!
# Well-formed sequences

A sequence of bytes is well-formed if a character is written so. The bounds that the decoder sets
for the bytes behind a lead byte are the right ones: a sequence that has begun can be completed to a
well-formed one, each completion within the bounds is well-formed, and no other one is
(`Begun`). What is written for a character of seven bits is one byte, and no byte of another
character is that small.
-/

set_option autoImplicit false

namespace Sentinels.Utf8

/-! ## Bytes of a character -/

/-- A byte that may stand behind another one in a well-formed sequence. -/
def IsContinuation (b : UInt8) : Prop := 0x80 ≤ b.toNat ∧ b.toNat ≤ 0xBF

/-- A valid code point is that of its character. -/
theorem toNat_ofNat {n : Nat} (h : n.isValidChar) : (Char.ofNat n).toNat = n := by
  unfold Char.ofNat
  rw [dif_pos h]
  rfl

/-- A small number is that of its byte. -/
theorem toNat_byte {n : Nat} (h : n < 256) : (UInt8.ofNat n).toNat = n := by
  rw [UInt8.toNat_ofNat']
  omega

/-- A byte is found again from its number. -/
theorem byte_eq {b : UInt8} {n : Nat} (h : n = b.toNat) : UInt8.ofNat n = b := by
  rw [h, UInt8.ofNat_toNat]

/-- A character is written as one byte, or as a lead byte with continuations behind it. -/
theorem utf8EncodeChar_cases (c : Char) :
    (c.toNat < 0x80 ∧ String.utf8EncodeChar c = [UInt8.ofNat c.toNat]) ∨
      (0x80 ≤ c.toNat ∧ ∃ lead tail, String.utf8EncodeChar c = lead :: tail ∧
        0x80 ≤ lead.toNat ∧ ∀ b ∈ tail, IsContinuation b) := by
  have hvalue : c.val.toNat = c.toNat := rfl
  have hcontinuation : ∀ n, IsContinuation (UInt8.ofNat (n % 64 + 128)) := by
    intro n
    unfold IsContinuation
    rw [toNat_byte (by omega)]
    omega
  unfold String.utf8EncodeChar
  simp only [hvalue]
  split
  · next hsmall => exact Or.inl ⟨by omega, rfl⟩
  · next hlarge =>
    refine Or.inr ⟨by omega, ?_⟩
    split
    · refine ⟨_, _, rfl, by rw [toNat_byte (by omega)]; omega, ?_⟩
      simp only [List.mem_singleton, forall_eq]
      exact hcontinuation _
    · split
      · refine ⟨_, _, rfl, by rw [toNat_byte (by omega)]; omega, ?_⟩
        simp only [List.mem_cons, List.not_mem_nil, or_false, forall_eq_or_imp, forall_eq]
        exact ⟨hcontinuation _, hcontinuation _⟩
      · refine ⟨_, _, rfl, by rw [toNat_byte (by omega)]; omega, ?_⟩
        simp only [List.mem_cons, List.not_mem_nil, or_false, forall_eq_or_imp, forall_eq]
        exact ⟨hcontinuation _, hcontinuation _, hcontinuation _⟩

/-- A character is written as one byte at least. -/
theorem utf8EncodeChar_ne_nil (c : Char) : String.utf8EncodeChar c ≠ [] := by
  rcases utf8EncodeChar_cases c with ⟨-, heq⟩ | ⟨-, lead, tail, heq, -⟩
  · rw [heq]
    exact List.cons_ne_nil _ _
  · rw [heq]
    exact List.cons_ne_nil _ _

/-- Behind the first byte of a character stand continuations. -/
theorem isContinuation_of_append {c : Char} {s t : List UInt8} {b : UInt8}
    (h : s ++ b :: t = String.utf8EncodeChar c) (hs : s ≠ []) : IsContinuation b := by
  obtain ⟨a, s, rfl⟩ := List.exists_cons_of_ne_nil hs
  rcases utf8EncodeChar_cases c with ⟨-, heq⟩ | ⟨-, lead, tail, heq, -, hall⟩
  · rw [heq] at h
    simp at h
  · rw [heq] at h
    obtain ⟨-, rfl⟩ := List.cons.inj h
    exact hall b (by simp)

/-! ## Which sequences are written -/

/-- Two bytes within their bounds are written for a character. -/
theorem exists_eq_two {a b : UInt8} (ha : 0xC2 ≤ a.toNat) (ha' : a.toNat ≤ 0xDF)
    (hb : IsContinuation b) : ∃ c, [a, b] = String.utf8EncodeChar c := by
  obtain ⟨hlow, hhigh⟩ := hb
  have hvalid : ((a.toNat - 0xC0) * 64 + (b.toNat - 0x80)).isValidChar := Or.inl (by omega)
  refine ⟨Char.ofNat ((a.toNat - 0xC0) * 64 + (b.toNat - 0x80)), ?_⟩
  have hvalue := toNat_ofNat hvalid
  generalize Char.ofNat _ = c at hvalue
  have hnat : c.val.toNat = c.toNat := rfl
  unfold String.utf8EncodeChar
  simp only [hnat]
  rw [if_neg (by omega), if_pos (by omega), byte_eq (b := a) (by omega),
    byte_eq (b := b) (by omega)]

/-- So are three bytes, if they make no overlong form and no surrogate. -/
theorem exists_eq_three {a b d : UInt8} (ha : 0xE0 ≤ a.toNat) (ha' : a.toNat ≤ 0xEF)
    (hb : IsContinuation b) (hshort : a.toNat = 0xE0 → 0xA0 ≤ b.toNat)
    (hsurrogate : a.toNat = 0xED → b.toNat ≤ 0x9F) (hd : IsContinuation d) :
    ∃ c, [a, b, d] = String.utf8EncodeChar c := by
  obtain ⟨hb, hb'⟩ := hb
  obtain ⟨hd, hd'⟩ := hd
  have hvalid :
      (((a.toNat - 0xE0) * 64 + (b.toNat - 0x80)) * 64 + (d.toNat - 0x80)).isValidChar := by
    unfold Nat.isValidChar
    omega
  refine ⟨Char.ofNat (((a.toNat - 0xE0) * 64 + (b.toNat - 0x80)) * 64 + (d.toNat - 0x80)), ?_⟩
  have hvalue := toNat_ofNat hvalid
  generalize Char.ofNat _ = c at hvalue
  have hnat : c.val.toNat = c.toNat := rfl
  unfold String.utf8EncodeChar
  simp only [hnat]
  rw [if_neg (by omega), if_neg (by omega), if_pos (by omega), byte_eq (b := a) (by omega),
    byte_eq (b := b) (by omega), byte_eq (b := d) (by omega)]

/-- So are four bytes, if they make no overlong form and no value beyond the last code point. -/
theorem exists_eq_four {a b d e : UInt8} (ha : 0xF0 ≤ a.toNat) (ha' : a.toNat ≤ 0xF4)
    (hb : IsContinuation b) (hshort : a.toNat = 0xF0 → 0x90 ≤ b.toNat)
    (hlarge : a.toNat = 0xF4 → b.toNat ≤ 0x8F) (hd : IsContinuation d) (he : IsContinuation e) :
    ∃ c, [a, b, d, e] = String.utf8EncodeChar c := by
  obtain ⟨hb, hb'⟩ := hb
  obtain ⟨hd, hd'⟩ := hd
  obtain ⟨he, he'⟩ := he
  have hvalid : ((((a.toNat - 0xF0) * 64 + (b.toNat - 0x80)) * 64 + (d.toNat - 0x80)) * 64 +
      (e.toNat - 0x80)).isValidChar := by
    unfold Nat.isValidChar
    omega
  refine ⟨Char.ofNat ((((a.toNat - 0xF0) * 64 + (b.toNat - 0x80)) * 64 + (d.toNat - 0x80)) * 64 +
    (e.toNat - 0x80)), ?_⟩
  have hvalue := toNat_ofNat hvalid
  generalize Char.ofNat _ = c at hvalue
  have hnat : c.val.toNat = c.toNat := rfl
  unfold String.utf8EncodeChar
  simp only [hnat]
  rw [if_neg (by omega), if_neg (by omega), if_neg (by omega), byte_eq (b := a) (by omega),
    byte_eq (b := b) (by omega), byte_eq (b := d) (by omega), byte_eq (b := e) (by omega)]

/-! ## Sequences that have begun -/

/-- What a lead byte says of the bytes behind it. -/
theorem lead?_cases {a : Nat} {p : Pending} (h : lead? a = some p) :
    (0xC2 ≤ a ∧ a ≤ 0xDF ∧ p.missing = 1 ∧ p.low = 0x80 ∧ p.high = 0xBF) ∨
    (0xE0 ≤ a ∧ a ≤ 0xEF ∧ p.missing = 2 ∧ 0x80 ≤ p.low ∧ p.low ≤ p.high ∧ p.high ≤ 0xBF ∧
      (a ≠ 0xE0 ∨ 0xA0 ≤ p.low) ∧ (a ≠ 0xED ∨ p.high ≤ 0x9F)) ∨
    (0xF0 ≤ a ∧ a ≤ 0xF4 ∧ p.missing = 3 ∧ 0x80 ≤ p.low ∧ p.low ≤ p.high ∧ p.high ≤ 0xBF ∧
      (a ≠ 0xF0 ∨ 0x90 ≤ p.low) ∧ (a ≠ 0xF4 ∨ p.high ≤ 0x8F)) := by
  obtain ⟨value, missing, low, high⟩ := p
  dsimp only
  unfold lead? at h
  split_ifs at h
  all_goals
    simp only [Option.some.injEq, Pending.mk.injEq] at h
    omega

/--
The decoder has read the bytes `seen` and waits for more. Its bounds are those of continuations, and
what completes the bytes within the bounds makes them a well-formed sequence.
-/
structure Begun (seen : List UInt8) (p : Pending) : Prop where
  run : ∀ rest, pieces (seen ++ rest) = piecesFrom (some p) rest
  bounds : 0x80 ≤ p.low ∧ p.low ≤ p.high ∧ p.high ≤ 0xBF
  missing_pos : 0 < p.missing
  completes : ∀ (b : UInt8) (tail : List UInt8), p.low ≤ b.toNat → b.toNat ≤ p.high →
    tail.length + 1 = p.missing → (∀ x ∈ tail, IsContinuation x) →
      ∃ c, seen ++ b :: tail = String.utf8EncodeChar c

/-- A sequence has begun with its lead byte. -/
theorem begun_lead {a : UInt8} {p : Pending} (ha : 0x80 ≤ a.toNat) (h : lead? a.toNat = some p) :
    Begun [a] p := by
  have hrun : ∀ rest, pieces ([a] ++ rest) = piecesFrom (some p) rest := piecesFrom_lead ha h
  rcases lead?_cases h with ⟨hlow, hhigh, hmissing, hp⟩ |
    ⟨hlow, hhigh, hmissing, hp, hp', hp'', hshort, hsurrogate⟩ |
    ⟨hlow, hhigh, hmissing, hp, hp', hp'', hshort, hlarge⟩
  · refine ⟨hrun, by omega, by omega, ?_⟩
    intro b tail hb hb' htail _
    obtain rfl : tail = [] := List.eq_nil_of_length_eq_zero (by omega)
    exact exists_eq_two hlow hhigh ⟨by omega, by omega⟩
  · refine ⟨hrun, ⟨hp, hp', hp''⟩, by omega, ?_⟩
    intro b tail hb hb' htail hall
    obtain ⟨x, rfl⟩ := List.length_eq_one_iff.1 (show tail.length = 1 by omega)
    exact exists_eq_three hlow hhigh ⟨by omega, by omega⟩ (by omega) (by omega)
      (hall x List.mem_cons_self)
  · refine ⟨hrun, ⟨hp, hp', hp''⟩, by omega, ?_⟩
    intro b tail hb hb' htail hall
    obtain ⟨x, y, rfl⟩ := List.length_eq_two.1 (show tail.length = 2 by omega)
    exact exists_eq_four hlow hhigh ⟨by omega, by omega⟩ (by omega) (by omega)
      (hall x (by simp)) (hall y (by simp))

/-- A byte out of bounds ends an invalid subpart and is read anew. -/
theorem piecesFrom_outside {p : Pending} {b : UInt8} (h : ¬ (p.low ≤ b.toNat ∧ b.toNat ≤ p.high))
    (rest : List UInt8) : piecesFrom (some p) (b :: rest) = none :: pieces (b :: rest) := by
  simp [pieces, piecesFrom, step, h]

namespace Begun

variable {seen : List UInt8} {p : Pending} (h : Begun seen p)

include h

/-- A byte within the bounds that is not the last one missing leaves the sequence begun. -/
theorem next {b : UInt8} (hlow : p.low ≤ b.toNat) (hhigh : b.toNat ≤ p.high)
    (hmissing : p.missing ≠ 1) :
    Begun (seen ++ [b]) ⟨p.value * 64 + (b.toNat - 0x80), p.missing - 1, 0x80, 0xBF⟩ where
  run := by
    intro rest
    rw [List.append_assoc, List.singleton_append, h.run, piecesFrom_next hlow hhigh hmissing]
  bounds := by simp
  missing_pos := by
    have hpositive := h.missing_pos
    simp only
    omega
  completes := by
    intro x tail hx hx' htail hall
    rw [List.append_assoc, List.singleton_append]
    apply h.completes b (x :: tail) hlow hhigh
    · have hpositive := h.missing_pos
      simp only [List.length_cons] at htail ⊢
      omega
    · intro y hy
      rcases List.mem_cons.1 hy with rfl | hmem
      · exact ⟨hx, hx'⟩
      · exact hall y hmem

/-- The last byte completes a character, which the decoder finds. -/
theorem exists_char {b : UInt8} (hlow : p.low ≤ b.toNat) (hhigh : b.toNat ≤ p.high)
    (hmissing : p.missing = 1) :
    ∃ c, seen ++ [b] = String.utf8EncodeChar c ∧
      ∀ rest, piecesFrom (some p) (b :: rest) = some c :: pieces rest := by
  obtain ⟨c, hc⟩ := h.completes b [] hlow hhigh hmissing.symm (by simp)
  refine ⟨c, hc, ?_⟩
  intro rest
  have hsplit : seen ++ b :: rest = String.utf8EncodeChar c ++ rest := by
    rw [← hc, List.append_assoc, List.singleton_append]
  rw [← h.run, hsplit]
  exact piecesFrom_utf8EncodeChar c rest

/-- No well-formed sequence goes on out of bounds. -/
theorem within {c : Char} {b : UInt8} {tail : List UInt8}
    (hc : seen ++ b :: tail = String.utf8EncodeChar c) :
    p.low ≤ b.toNat ∧ b.toNat ≤ p.high := by
  by_contra houtside
  have hpieces := h.run (b :: tail)
  have hchar := piecesFrom_utf8EncodeChar c []
  rw [piecesFrom_outside houtside, hc] at hpieces
  rw [List.append_nil] at hchar
  exact absurd (hchar.symm.trans hpieces) (by simp)

/-- What has begun can be completed. -/
theorem begins : ∃ c, seen <+: String.utf8EncodeChar c := by
  obtain ⟨hlow, hbounds, hhigh⟩ := h.bounds
  have hpositive := h.missing_pos
  have hbyte := toNat_byte (show p.low < 256 by omega)
  have htail : ∀ x ∈ List.replicate (p.missing - 1) (0x80 : UInt8), IsContinuation x := by
    intro x hx
    rw [List.eq_of_mem_replicate hx]
    exact ⟨by decide, by decide⟩
  obtain ⟨c, hc⟩ := h.completes (UInt8.ofNat p.low) (List.replicate (p.missing - 1) 0x80)
    (by omega) (by omega) (by rw [List.length_replicate]; omega) htail
  exact ⟨c, _, hc⟩

end Begun

end Sentinels.Utf8
