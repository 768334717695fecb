import Sentinels.Text
import Mathlib.Data.List.Induction
import Mathlib.Data.Nat.Digits.Defs

/-!
# Decimal texts

Numbers are told apart by their decimal texts, and these are integers in the sense of a document: a
minus sign, which may be missing, and digits.
-/

set_option autoImplicit false

namespace Sentinels.Text

/-! ## Natural numbers -/

/-- A decimal text holds digits only. -/
theorem isDigit_of_mem_ofNat {n : Nat} {c : Char} (h : c ∈ ofNat n) : c.isDigit = true :=
  Nat.isDigit_of_mem_toDigits (by decide) (by decide) h

/-- A decimal text has a digit. -/
theorem ofNat_ne_nil (n : Nat) : ofNat n ≠ [] := Nat.toDigits_ne_nil

/-- Natural numbers are told apart by their decimal texts. -/
theorem ofNat_injective : Function.Injective ofNat := by
  intro m n h
  have hvalue := congrArg (Nat.ofDigitChars 10 · 0) h
  have hread : ∀ k, Nat.ofDigitChars 10 (ofNat k) 0 = k :=
    fun k => Nat.ofDigitChars_toDigits (by decide) (by decide)
  simpa only [hread] using hvalue

/-- The decimal text of a positive number begins with another digit than zero. -/
theorem head?_ofNat {n : Nat} (h : 0 < n) : (ofNat n).head? ≠ some '0' := by
  induction n using Nat.strong_induction_on with
  | h n ih =>
    rw [ofNat]
    by_cases hn : n < 10
    · rw [Nat.toDigits_of_lt_base hn]
      exact (by decide : ∀ k < 10, 0 < k → [k.digitChar].head? ≠ some '0') n hn h
    · have hhead := ih (n / 10) (by omega) (by omega)
      obtain ⟨c, cs, hcs⟩ := List.exists_cons_of_ne_nil (ofNat_ne_nil (n / 10))
      rw [hcs] at hhead
      rw [Nat.toDigits_of_base_le (by decide) (by omega), ← ofNat, hcs]
      exact hhead

/-- A digit is the character of its value. -/
theorem digitChar_of_isDigit {d : Char} (h : d.isDigit = true) :
    d.toNat - '0'.toNat < 10 ∧ (d.toNat - '0'.toNat).digitChar = d := by
  obtain ⟨hlow, hhigh⟩ := Char.isDigit_iff_toNat.1 h
  have hchar : ∀ n < 10, n.digitChar = Char.ofNat (n + '0'.toNat) := by decide
  have hlt : d.toNat - '0'.toNat < 10 := by
    rw [show '9'.toNat = '0'.toNat + 9 from rfl] at hhigh
    omega
  refine ⟨hlt, ?_⟩
  rw [hchar _ hlt, Nat.sub_add_cancel hlow, Char.ofNat_toNat]

/-- Digits that do not begin with a zero are the decimal text of a positive number. -/
theorem ofNat_ofDigitChars {digits : Text} (hne : digits ≠ [])
    (hdigits : ∀ c ∈ digits, c.isDigit = true) (hhead : digits.head? ≠ some '0') :
    0 < Nat.ofDigitChars 10 digits 0 ∧ ofNat (Nat.ofDigitChars 10 digits 0) = digits := by
  -- a decimal text grows at its end, so the last digit is split off
  induction digits using List.reverseRecOn with
  | nil => exact absurd rfl hne
  | append_singleton digits d ih =>
    obtain ⟨hlt, hchar⟩ := digitChar_of_isDigit (hdigits d (by simp))
    have hlast : ofNat (d.toNat - '0'.toNat) = [d] := by
      rw [ofNat, Nat.toDigits_of_lt_base hlt, hchar]
    rw [Nat.ofDigitChars_append, Nat.ofDigitChars_cons, Nat.ofDigitChars_nil]
    by_cases hempty : digits = []
    · subst hempty
      have hpos : d.toNat - '0'.toNat ≠ 0 := by
        intro hzero
        rw [Nat.digitChar_eq_zero.2 hzero] at hchar
        exact hhead (hchar ▸ rfl)
      rw [Nat.ofDigitChars_nil, Nat.mul_zero, Nat.zero_add]
      exact ⟨Nat.pos_of_ne_zero hpos, hlast⟩
    · have hfirst : digits.head? ≠ some '0' := by
        intro hzero
        exact hhead (by rw [List.head?_append, hzero, Option.some_or])
      obtain ⟨hpos, htext⟩ := ih hempty (fun c hc => hdigits c (List.mem_append_left _ hc)) hfirst
      refine ⟨by omega, ?_⟩
      rw [ofNat, ← Nat.toDigits_append_toDigits (by decide) hpos hlt, ← ofNat, ← ofNat, htext,
        hlast]

/-! ## Integers -/

/-- Is the text an integer, that is, digits behind a minus sign or without one? -/
def IsInteger (text : Text) : Prop :=
  ∃ sign digits : Text, text = sign ++ digits ∧ (sign = [] ∨ sign = ['-']) ∧
    digits ≠ [] ∧ ∀ c ∈ digits, c.isDigit = true

/-- The characters of an integer are digits or a minus sign. -/
theorem IsInteger.eq_or_isDigit {text : Text} (h : IsInteger text) {c : Char} (hc : c ∈ text) :
    c = '-' ∨ c.isDigit = true := by
  obtain ⟨sign, digits, rfl, hsign, -, hdigits⟩ := h
  rcases List.mem_append.1 hc with hmem | hmem
  · rcases hsign with rfl | rfl
    · exact absurd hmem List.not_mem_nil
    · exact Or.inl (List.mem_singleton.1 hmem)
  · exact Or.inr (hdigits c hmem)

/-- The decimal text of an integer is one. -/
theorem isInteger_ofInt (n : Int) : IsInteger (ofInt n) := by
  cases n with
  | ofNat n => exact ⟨[], ofNat n, rfl, Or.inl rfl, ofNat_ne_nil n, fun _ => isDigit_of_mem_ofNat⟩
  | negSucc n =>
    exact ⟨['-'], ofNat (n + 1), rfl, Or.inr rfl, ofNat_ne_nil _, fun _ => isDigit_of_mem_ofNat⟩

end Sentinels.Text
