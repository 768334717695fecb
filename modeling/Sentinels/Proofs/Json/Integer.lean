import Sentinels.Proofs.Json.Typed

/-!
# Integer literals

Every literal of the grammar without a fraction and an exponent is read as the integer that it
denotes, or refused. It is refused if the integer has no form with sign of 64 bits, and so is minus
zero; no other integer is read in its place.
-/

set_option autoImplicit false

namespace Sentinels.Json

/-! ## Literals and their values -/

/-- Is the text a number without a fraction and an exponent? -/
def IsIntegerLiteral (text : Text) : Prop :=
  ∃ sign whole, text = sign ++ whole ∧ (sign = [] ∨ sign = ['-']) ∧ IsWhole whole

/-- The integer that a literal denotes. -/
def integerValue : Text → Int
  | '-' :: digits => -(Nat.ofDigitChars 10 digits 0 : Int)
  | digits => Nat.ofDigitChars 10 digits 0

/-- Does the literal spell an integer of 64 bits with sign? Minus zero does not. -/
def FitsInteger (literal : Text) : Prop :=
  literal ≠ ['-', '0'] ∧ -9223372036854775808 ≤ integerValue literal ∧
    integerValue literal ≤ 9223372036854775807

/-- The value of digits without sign. -/
theorem integerValue_whole {whole : Text} (h : IsWhole whole) :
    integerValue whole = Nat.ofDigitChars 10 whole 0 := by
  obtain ⟨c, digits, rfl, hc⟩ := exists_cons_of_isWhole h
  unfold integerValue
  split
  · next heq =>
    obtain ⟨rfl, -⟩ := List.cons.inj heq
    exact absurd hc (by decide)
  · rfl

/-- The integer part of a number is the decimal text of its value, which is positive unless it is
the digit zero. -/
theorem ofNat_ofDigitChars_whole {whole : Text} (h : IsWhole whole) :
    (whole = ['0'] ∨ 0 < Nat.ofDigitChars 10 whole 0) ∧
      Text.ofNat (Nat.ofDigitChars 10 whole 0) = whole := by
  rcases h with rfl | ⟨hdigits, hhead⟩
  · exact ⟨.inl rfl, rfl⟩
  · have hdigit : ∀ c ∈ whole, c.isDigit = true := fun c hc =>
      isDigit_of_isDigits hdigits hc
    obtain ⟨hpos, htext⟩ := Text.ofNat_ofDigitChars hdigits.1 hdigit hhead
    exact ⟨.inr hpos, htext⟩

/-- A literal other than minus zero is the decimal text of its value. -/
theorem ofInt_integerValue {literal : Text} (h : IsIntegerLiteral literal)
    (hzero : literal ≠ ['-', '0']) : Text.ofInt (integerValue literal) = literal := by
  obtain ⟨sign, whole, rfl, rfl | rfl, hwhole⟩ := h
  · rw [List.nil_append, integerValue_whole hwhole]
    exact (ofNat_ofDigitChars_whole hwhole).2
  · obtain ⟨hpos, htext⟩ := ofNat_ofDigitChars_whole hwhole
    have hpos := hpos.resolve_left fun heq => hzero (by rw [heq]; rfl)
    obtain ⟨n, hn⟩ := Nat.exists_eq_succ_of_ne_zero (Nat.ne_of_gt hpos)
    change Text.ofInt (-(Nat.ofDigitChars 10 whole 0 : Int)) = '-' :: whole
    rw [hn] at htext ⊢
    exact congrArg ('-' :: ·) htext

/-- A literal of an integer of 64 bits is the spelling of its value. -/
theorem spellsInteger_integerValue {literal : Text} (h : IsIntegerLiteral literal)
    (hfits : FitsInteger literal) : SpellsInteger literal (integerValue literal) := by
  obtain ⟨hzero, hlow, hhigh⟩ := hfits
  have hspells := SpellsInteger.decimal hlow hhigh
  rwa [ofInt_integerValue h hzero] at hspells

/-! ## Literals that are refused -/

/-- Digits whose value does not fit are not all collected. -/
theorem collect_unused_pos {digits : Text} {significand : Nat}
    (hfits : significand ≤ maxSignificand)
    (h : maxSignificand < Nat.ofDigitChars 10 digits significand) :
    0 < (collect significand digits).2 := by
  induction digits generalizing significand with
  | nil => exact absurd h (Nat.not_lt.2 hfits)
  | cons d digits ih =>
    have hnext : significand * 10 + digitValue d = 10 * significand + (d.toNat - '0'.toNat) := by
      rw [digitValue, Nat.mul_comm]
    rw [Nat.ofDigitChars_cons, ← hnext] at h
    rw [collect]
    by_cases hlarge : maxSignificand < significand * 10 + digitValue d
    · simp only [if_pos hlarge, List.length_cons]
      exact Nat.succ_pos _
    · simp only [if_neg hlarge]
      exact ih (Nat.not_lt.1 hlarge) h

/-- No floating point number is accepted as an integer. -/
theorem acceptInteger_floating (negative : Bool) (significand : Nat) (exponent : Int)
    (rest : Text) :
    ∃ stop, (leaving rest (floating negative significand exponent)).bind acceptInteger =
      .error stop := by
  unfold floating
  cases magnitude significand exponent with
  | error fault => exact ⟨_, rfl⟩
  | ok x => exact ⟨_, rfl⟩

/-- Is the magnitude beyond the integers of 64 bits with this sign? -/
def BeyondInteger (negative : Bool) (n : Nat) : Prop :=
  if negative then n = 0 ∨ 9223372036854775808 < n else 9223372036854775807 < n

/-- A magnitude beyond the integers of 64 bits is not accepted. -/
theorem acceptInteger_whole {negative : Bool} {n : Nat} (h : BeyondInteger negative n)
    (rest : Text) :
    ∃ stop, (leaving rest (whole negative n)).bind acceptInteger = .error stop := by
  cases negative with
  | true =>
    have hbeyond : n = 0 ∨ 9223372036854775808 < n := h
    have hwhole : whole true n = floating true n 0 := by
      rw [whole, if_pos rfl, if_neg]
      rintro ⟨hpos, hle⟩
      have hle : n ≤ 9223372036854775808 := hle
      omega
    rw [hwhole]
    exact acceptInteger_floating true n 0 rest
  | false =>
    have hbeyond : 9223372036854775807 < n := h
    have hmax : ¬ (n : Int) ≤ maxInteger := by
      rw [maxInteger]
      omega
    exact ⟨_, if_neg hmax⟩

/-- A number beyond the integers of 64 bits is not accepted, however many digits it has. -/
theorem acceptInteger_readNumber {negative : Bool} {digits rest : Text} (h : IsWhole digits)
    (hrest : Delimited rest) (hbeyond : BeyondInteger negative (Nat.ofDigitChars 10 digits 0)) :
    ∃ stop, (readNumber negative (digits ++ rest)).bind acceptInteger = .error stop := by
  have hhead : ∀ c ∈ rest.head?, isDigit c = false :=
    fun c hc => (not_number_of_mem_delimiters c (hrest c hc)).1
  rw [readNumber_whole h hhead, readTail_delimited hrest]
  by_cases hfits : Nat.ofDigitChars 10 digits 0 ≤ maxSignificand
  · rw [collect_eq hfits, if_pos rfl]
    exact acceptInteger_whole hbeyond rest
  · have hunused := collect_unused_pos (Nat.zero_le _) (Nat.not_le.1 hfits)
    rw [if_neg (Nat.ne_of_gt hunused)]
    exact acceptInteger_floating ..

/-- A literal that spells no integer of 64 bits is refused. -/
theorem readInteger_of_not_fits {blanks literal rest : Text} (hblanks : IsBlanks blanks)
    (h : IsIntegerLiteral literal) (hfits : ¬ FitsInteger literal) (hrest : Delimited rest) :
    ∃ stop, readInteger (blanks ++ (literal ++ rest)) = .error stop := by
  obtain ⟨sign, digits, rfl, rfl | rfl, hwhole⟩ := h
  · have hbeyond : BeyondInteger false (Nat.ofDigitChars 10 digits 0) := by
      by_contra hsmall
      have hsmall : ¬ 9223372036854775807 < Nat.ofDigitChars 10 digits 0 := hsmall
      refine hfits ⟨?_, ?_⟩
      · rintro rfl
        exact absurd hwhole (by simp [IsWhole, IsDigits])
      · rw [List.nil_append, integerValue_whole hwhole]
        omega
    obtain ⟨stop, hstop⟩ := acceptInteger_readNumber hwhole hrest hbeyond
    obtain ⟨d, ds, rfl, hd⟩ := exists_cons_of_isWhole hwhole
    rw [List.nil_append, List.cons_append, readInteger_digit hblanks hd]
    exact ⟨stop, hstop⟩
  · have hbeyond : BeyondInteger true (Nat.ofDigitChars 10 digits 0) := by
      by_contra hsmall
      have hsmall : ¬ (Nat.ofDigitChars 10 digits 0 = 0 ∨
          9223372036854775808 < Nat.ofDigitChars 10 digits 0) := hsmall
      refine hfits ⟨?_, ?_⟩
      · intro hzero
        obtain rfl : digits = ['0'] := (List.cons.inj hzero).2
        exact hsmall (.inl rfl)
      · change -9223372036854775808 ≤ -(Nat.ofDigitChars 10 digits 0 : Int) ∧
          -(Nat.ofDigitChars 10 digits 0 : Int) ≤ 9223372036854775807
        omega
    obtain ⟨stop, hstop⟩ := acceptInteger_readNumber hwhole hrest hbeyond
    rw [List.singleton_append, List.cons_append, readInteger, skipBlanks_append_cons hblanks rfl]
    exact ⟨stop, hstop⟩

end Sentinels.Json
