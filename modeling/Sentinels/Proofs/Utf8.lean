import Sentinels.Utf8

/-!
# Decoding what was encoded

The bytes of a text hold no invalid subpart, and decoding them gives the text. A character is
followed through the decoder byte by byte: the first one begins a sequence whose bounds the second
one keeps, since neither overlong forms nor surrogates are written.
-/

set_option autoImplicit false

namespace Sentinels.Utf8

/-! ## Steps of the decoder -/

/-- A byte of seven bits is a character. -/
theorem piecesFrom_ascii {b : UInt8} (h : b.toNat < 0x80) (rest : List UInt8) :
    piecesFrom none (b :: rest) = some (Char.ofNat b.toNat) :: piecesFrom none rest := by
  simp [piecesFrom, step, start, h]

/-- A lead byte begins its sequence. -/
theorem piecesFrom_lead {b : UInt8} {p : Pending} (hb : 0x80 ≤ b.toNat)
    (h : lead? b.toNat = some p) (rest : List UInt8) :
    piecesFrom none (b :: rest) = piecesFrom (some p) rest := by
  simp [piecesFrom, step, start, h, show ¬ b.toNat < 0x80 by omega]

/-- A byte within the bounds goes on with a sequence of which more is missing. -/
theorem piecesFrom_next {b : UInt8} {p : Pending} (hlow : p.low ≤ b.toNat)
    (hhigh : b.toNat ≤ p.high) (hmissing : p.missing ≠ 1) (rest : List UInt8) :
    piecesFrom (some p) (b :: rest) =
      piecesFrom (some ⟨p.value * 64 + (b.toNat - 0x80), p.missing - 1, 0x80, 0xBF⟩) rest := by
  simp [piecesFrom, step, Pending.extend, hlow, hhigh, hmissing]

/-- The last byte of a sequence completes a character. -/
theorem piecesFrom_last {b : UInt8} {p : Pending} (hlow : p.low ≤ b.toNat)
    (hhigh : b.toNat ≤ p.high) (hmissing : p.missing = 1) (rest : List UInt8) :
    piecesFrom (some p) (b :: rest) =
      some (Char.ofNat (p.value * 64 + (b.toNat - 0x80))) :: piecesFrom none rest := by
  simp [piecesFrom, step, Pending.extend, hlow, hhigh, hmissing]

/-! ## Lead bytes -/

/-- A lead byte of two bytes admits every second byte. -/
theorem lead?_two {b : Nat} (hlow : 0xC2 ≤ b) (hhigh : b ≤ 0xDF) :
    lead? b = some ⟨b - 0xC0, 1, 0x80, 0xBF⟩ := by
  simp [lead?, hlow, hhigh]

/-- A lead byte of three bytes admits a second byte that makes no overlong form and no surrogate. -/
theorem lead?_three {b next : Nat} (hlow : 0xE0 ≤ b) (hhigh : b ≤ 0xEF) (hnext : 0x80 ≤ next)
    (hnext' : next ≤ 0xBF) (hshort : b = 0xE0 → 0xA0 ≤ next) (hsurrogate : b = 0xED → next ≤ 0x9F) :
    ∃ low high, lead? b = some ⟨b - 0xE0, 2, low, high⟩ ∧ low ≤ next ∧ next ≤ high := by
  unfold lead?
  rw [if_neg (by omega)]
  by_cases hE0 : b = 0xE0
  · exact ⟨0xA0, 0xBF, by simp [hE0], hshort hE0, hnext'⟩
  · by_cases hED : b = 0xED
    · exact ⟨0x80, 0x9F, by simp [hED], hnext, hsurrogate hED⟩
    · refine ⟨0x80, 0xBF, ?_, hnext, hnext'⟩
      rw [if_neg hE0, if_neg hED, if_pos (by omega)]

/--
A lead byte of four bytes admits a second byte that makes no overlong form and no value beyond the
last code point.
-/
theorem lead?_four {b next : Nat} (hlow : 0xF0 ≤ b) (hhigh : b ≤ 0xF4) (hnext : 0x80 ≤ next)
    (hnext' : next ≤ 0xBF) (hshort : b = 0xF0 → 0x90 ≤ next) (hlarge : b = 0xF4 → next ≤ 0x8F) :
    ∃ low high, lead? b = some ⟨b - 0xF0, 3, low, high⟩ ∧ low ≤ next ∧ next ≤ high := by
  unfold lead?
  rw [if_neg (by omega), if_neg (by omega), if_neg (by omega), if_neg (by omega)]
  by_cases hF0 : b = 0xF0
  · exact ⟨0x90, 0xBF, by simp [hF0], hshort hF0, hnext'⟩
  · by_cases hF4 : b = 0xF4
    · exact ⟨0x80, 0x8F, by simp [hF4], hnext, hlarge hF4⟩
    · refine ⟨0x80, 0xBF, ?_, hnext, hnext'⟩
      rw [if_neg hF0, if_neg hF4, if_pos (by omega)]

/-! ## Sequences -/

/-- A sequence of two bytes is a character. -/
theorem piecesFrom_two {a b : UInt8} (ha : 0xC2 ≤ a.toNat) (ha' : a.toNat ≤ 0xDF)
    (hb : 0x80 ≤ b.toNat) (hb' : b.toNat ≤ 0xBF) (rest : List UInt8) :
    piecesFrom none (a :: b :: rest) =
      some (Char.ofNat ((a.toNat - 0xC0) * 64 + (b.toNat - 0x80))) :: piecesFrom none rest := by
  rw [piecesFrom_lead (by omega) (lead?_two ha ha'), piecesFrom_last hb hb' rfl]

/-- A sequence of three bytes is a character. -/
theorem piecesFrom_three {a b c : UInt8} (ha : 0xE0 ≤ a.toNat) (ha' : a.toNat ≤ 0xEF)
    (hb : 0x80 ≤ b.toNat) (hb' : b.toNat ≤ 0xBF) (hshort : a.toNat = 0xE0 → 0xA0 ≤ b.toNat)
    (hsurrogate : a.toNat = 0xED → b.toNat ≤ 0x9F) (hc : 0x80 ≤ c.toNat) (hc' : c.toNat ≤ 0xBF)
    (rest : List UInt8) :
    piecesFrom none (a :: b :: c :: rest) =
      some (Char.ofNat (((a.toNat - 0xE0) * 64 + (b.toNat - 0x80)) * 64 + (c.toNat - 0x80))) ::
        piecesFrom none rest := by
  obtain ⟨low, high, hlead, hlow, hhigh⟩ := lead?_three ha ha' hb hb' hshort hsurrogate
  rw [piecesFrom_lead (by omega) hlead, piecesFrom_next hlow hhigh (by simp),
    piecesFrom_last hc hc' rfl]

/-- A sequence of four bytes is a character. -/
theorem piecesFrom_four {a b c d : UInt8} (ha : 0xF0 ≤ a.toNat) (ha' : a.toNat ≤ 0xF4)
    (hb : 0x80 ≤ b.toNat) (hb' : b.toNat ≤ 0xBF) (hshort : a.toNat = 0xF0 → 0x90 ≤ b.toNat)
    (hlarge : a.toNat = 0xF4 → b.toNat ≤ 0x8F) (hc : 0x80 ≤ c.toNat) (hc' : c.toNat ≤ 0xBF)
    (hd : 0x80 ≤ d.toNat) (hd' : d.toNat ≤ 0xBF) (rest : List UInt8) :
    piecesFrom none (a :: b :: c :: d :: rest) =
      some (Char.ofNat ((((a.toNat - 0xF0) * 64 + (b.toNat - 0x80)) * 64 + (c.toNat - 0x80)) * 64 +
        (d.toNat - 0x80))) :: piecesFrom none rest := by
  obtain ⟨low, high, hlead, hlow, hhigh⟩ := lead?_four ha ha' hb hb' hshort hlarge
  rw [piecesFrom_lead (by omega) hlead, piecesFrom_next hlow hhigh (by simp),
    piecesFrom_next hc hc' (by simp), piecesFrom_last hd hd' rfl]

/-! ## Characters and texts -/

/-- A character is no surrogate and no larger than the last code point. -/
theorem toNat_char_bounds (c : Char) :
    c.toNat < 0xD800 ∨ 0xDFFF < c.toNat ∧ c.toNat < 0x110000 :=
  c.valid

/-- The bytes of a character are decoded to it. -/
theorem piecesFrom_utf8EncodeChar (c : Char) (rest : List UInt8) :
    piecesFrom none (String.utf8EncodeChar c ++ rest) = some c :: piecesFrom none rest := by
  have hbounds := toNat_char_bounds c
  have hvalue : c.val.toNat = c.toNat := rfl
  have hchar : ∀ n, n = c.toNat → Char.ofNat n = c := fun n hn => by rw [hn, Char.ofNat_toNat]
  have hbyte : ∀ n, n < 256 → (UInt8.ofNat n).toNat = n := fun n hn => by
    rw [UInt8.toNat_ofNat']
    omega
  unfold String.utf8EncodeChar
  simp only [hvalue]
  split
  · have ha := hbyte c.toNat (by omega)
    exact (piecesFrom_ascii (by omega) rest).trans (by rw [hchar _ ha])
  · split
    · have ha := hbyte (c.toNat / 64 % 32 + 192) (by omega)
      have hb := hbyte (c.toNat % 64 + 128) (by omega)
      exact (piecesFrom_two (by omega) (by omega) (by omega) (by omega) rest).trans
        (by rw [hchar _ (by omega)])
    · split
      · have ha := hbyte (c.toNat / 4096 % 16 + 224) (by omega)
        have hb := hbyte (c.toNat / 64 % 64 + 128) (by omega)
        have hc := hbyte (c.toNat % 64 + 128) (by omega)
        exact (piecesFrom_three (by omega) (by omega) (by omega) (by omega) (by omega) (by omega)
          (by omega) (by omega) rest).trans (by rw [hchar _ (by omega)])
      · have ha := hbyte (c.toNat / 262144 % 8 + 240) (by omega)
        have hb := hbyte (c.toNat / 4096 % 64 + 128) (by omega)
        have hc := hbyte (c.toNat / 64 % 64 + 128) (by omega)
        have hd := hbyte (c.toNat % 64 + 128) (by omega)
        exact (piecesFrom_four (by omega) (by omega) (by omega) (by omega) (by omega) (by omega)
          (by omega) (by omega) (by omega) (by omega) rest).trans (by rw [hchar _ (by omega)])

/-- The pieces of an encoded text are its characters. -/
theorem pieces_encode (text : Text) : pieces (encode text) = text.map some := by
  induction text with
  | nil => rfl
  | cons c text ih =>
    have hcons : encode (c :: text) = String.utf8EncodeChar c ++ encode text := rfl
    rw [pieces, hcons, piecesFrom_utf8EncodeChar, ← pieces, ih, List.map_cons]

/-- Decoding gives back what was encoded. -/
theorem decode?_encode (text : Text) : decode? (encode text) = some text := by
  rw [decode?, pieces_encode]
  simp

end Sentinels.Utf8
