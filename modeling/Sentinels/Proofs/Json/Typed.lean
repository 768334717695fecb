import Sentinels.Proofs.Decimal
import Sentinels.Proofs.Json.Lexeme
import Sentinels.Proofs.Text

/-!
# Values of a wanted type are read

A spelling of a value is read as this value, with blanks in front of it and whatever may follow.
The steps through a list or an object are read likewise: the next item or key, and the end.
-/

set_option autoImplicit false

namespace Sentinels.Json

/-! ## Strings and truth values -/

/-- A string is read as its content. -/
theorem readStringValue_spelling {blanks text content : Text} (hblanks : IsBlanks blanks)
    (h : SpellsString text content) (rest : Text) :
    readStringValue (blanks ++ (text ++ rest)) = .ok (content, rest) := by
  obtain ⟨h⟩ := h
  simp only [List.cons_append, List.append_assoc, List.nil_append]
  rw [readStringValue, skipBlanks_append_cons hblanks rfl]
  exact readString_spelling h rest

/-- A truth value is read. -/
theorem readBoolean_spelling {blanks text : Text} {b : Bool} (hblanks : IsBlanks blanks)
    (h : SpellsBoolean text b) (rest : Text) :
    readBoolean (blanks ++ (text ++ rest)) = .ok (b, rest) := by
  cases h
  all_goals
    rw [List.cons_append, readBoolean, skipBlanks_append_cons hblanks rfl]
    simp only [readWord_append]
    rfl

/-! ## Integers -/

/-- More digits make no smaller number. -/
theorem le_ofDigitChars (digits : Text) (n : Nat) : n ≤ Nat.ofDigitChars 10 digits n := by
  induction digits generalizing n with
  | nil => exact le_rfl
  | cons d digits ih =>
    rw [Nat.ofDigitChars_cons]
    exact le_trans (by omega) (ih _)

/-- Digits are collected as long as their value fits. -/
theorem collect_eq {digits : Text} {significand : Nat}
    (h : Nat.ofDigitChars 10 digits significand ≤ maxSignificand) :
    collect significand digits = (Nat.ofDigitChars 10 digits significand, 0) := by
  induction digits generalizing significand with
  | nil => rfl
  | cons d digits ih =>
    have hnext : significand * 10 + digitValue d = 10 * significand + (d.toNat - '0'.toNat) := by
      rw [digitValue, Nat.mul_comm]
    rw [Nat.ofDigitChars_cons] at h ⊢
    have hfits := Nat.not_lt.2 ((le_ofDigitChars digits _).trans h)
    rw [collect]
    simp only [hnext]
    rw [if_neg hfits, ih h]

/-- What may follow the integer part of a number is missing in front of a delimiter. -/
theorem readTail_delimited {rest : Text} (h : Delimited rest) (negative : Bool) (n unused : Nat) :
    readTail negative n unused rest =
      leaving rest (if unused = 0 then whole negative n else floating negative n unused) := by
  cases rest with
  | nil => simp only [readTail]
  | cons c rest =>
    obtain ⟨-, hmark, hpoint⟩ := not_number_of_mem_delimiters c (h c rfl)
    simp only [readTail, if_neg hpoint, hmark, Bool.false_eq_true, if_false]

/-- A decimal text is a row of digits. -/
theorem isDigits_ofNat (n : Nat) : IsDigits (Text.ofNat n) := by
  refine ⟨Text.ofNat_ne_nil n, fun c hc => ?_⟩
  have hdigit : isDigit c = true := Text.isDigit_of_mem_ofNat hc
  simpa [isDigit] using hdigit

/-- A decimal text is the integer part of a number. -/
theorem isWhole_ofNat (n : Nat) : IsWhole (Text.ofNat n) := by
  cases n with
  | zero => exact .inl rfl
  | succ n => exact .inr ⟨isDigits_ofNat (n + 1), Text.head?_ofNat (Nat.succ_pos n)⟩

/-- The integer part of a number is read, and then what may follow it. -/
theorem readNumber_whole {whole : Text} (h : IsWhole whole) {rest : Text}
    (hrest : ∀ c ∈ rest.head?, isDigit c = false) (negative : Bool) :
    readNumber negative (whole ++ rest) =
      readTail negative (collect 0 whole).1 (collect 0 whole).2 rest := by
  rcases h with rfl | ⟨hdigits, hzero⟩
  · rw [List.singleton_append, readNumber.eq_def]
    simp only [if_true]
    cases rest with
    | nil => rfl
    | cons d rest =>
      simp only [hrest d rfl, Bool.false_eq_true, if_false]
      rfl
  · obtain ⟨d, ds, rfl⟩ := List.exists_cons_of_ne_nil hdigits.1
    have hd : isDigit d = true := isDigit_of_isDigits hdigits List.mem_cons_self
    have hd' : d ≠ '0' := fun h => hzero (by rw [h]; rfl)
    rw [List.cons_append, readNumber.eq_def]
    simp only [if_neg hd', if_pos hd]
    rw [← List.cons_append, takeWhile_isDigit hdigits hrest, dropWhile_isDigit hdigits hrest]

/-- A decimal text is read as its number. -/
theorem readNumber_ofNat {n : Nat} (hn : n ≤ maxSignificand) {rest : Text}
    (hrest : Delimited rest) (negative : Bool) :
    readNumber negative (Text.ofNat n ++ rest) = leaving rest (whole negative n) := by
  have hhead : ∀ c ∈ rest.head?, isDigit c = false :=
    fun c hc => (not_number_of_mem_delimiters c (hrest c hc)).1
  have hvalue : Nat.ofDigitChars 10 (Text.ofNat n) 0 = n :=
    Nat.ofDigitChars_toDigits (by decide) (by decide)
  have hcollect : collect 0 (Text.ofNat n) = (n, 0) := by
    rw [collect_eq (by rw [hvalue]; exact hn), hvalue]
  rw [readNumber_whole (isWhole_ofNat n) hhead, hcollect, readTail_delimited hrest, if_pos rfl]

/-- The largest significand is beyond the integers of 64 bits with sign. -/
theorem le_maxSignificand {n : Nat} (h : n ≤ 9223372036854775808) : n ≤ maxSignificand :=
  h.trans (by decide)

/-- A number without sign is accepted up to the largest integer. -/
theorem acceptInteger_ofNat {n : Nat} (h : n ≤ 9223372036854775807) (rest : Text) :
    (leaving rest (whole false n)).bind acceptInteger = .ok (Int.ofNat n, rest) := by
  have hmax : (n : Int) ≤ maxInteger := by
    rw [maxInteger]
    omega
  exact if_pos hmax

/-- A number behind a minus sign is accepted down to the least integer. -/
theorem acceptInteger_negSucc {n : Nat} (h : n + 1 ≤ 9223372036854775808) (rest : Text) :
    (leaving rest (whole true (n + 1))).bind acceptInteger = .ok (Int.negSucc n, rest) := by
  have hwhole : whole true (n + 1) = .ok (.integer (Int.negSucc n)) := by
    rw [whole, if_pos rfl, if_pos ⟨Nat.succ_pos n, h⟩]
    rfl
  have hmax : Int.negSucc n ≤ maxInteger := by
    rw [maxInteger]
    omega
  simp only [hwhole, leaving, Except.bind, acceptInteger, if_pos hmax]

/-- A number without sign is read as an integer. -/
theorem readInteger_digit {blanks : Text} (hblanks : IsBlanks blanks) {d : Char}
    (hd : isDigit d = true) (rest : Text) :
    readInteger (blanks ++ d :: rest) = (readNumber false (d :: rest)).bind acceptInteger := by
  rw [readInteger, skipBlanks_append_cons hblanks
    (isBlank_eq_false (notMem_delimiters_of_isDigit hd))]
  split
  · next h => exact absurd h (List.cons_ne_nil _ _)
  · next h =>
    obtain ⟨rfl, -⟩ := List.cons.inj h
    exact absurd hd (by decide)
  · next h =>
    obtain ⟨rfl, rfl⟩ := List.cons.inj h
    exact if_pos hd

/-- An integer of 64 bits with sign is read. -/
theorem readInteger_spelling {blanks text : Text} {n : Int} (hblanks : IsBlanks blanks)
    (h : SpellsInteger text n) {rest : Text} (hrest : Delimited rest) :
    readInteger (blanks ++ (text ++ rest)) = .ok (n, rest) := by
  obtain ⟨hlow, hhigh⟩ := h
  cases n with
  | ofNat n =>
    have hn : n ≤ 9223372036854775807 := by
      rw [Int.ofNat_eq_natCast] at hhigh
      omega
    have hdigits := isDigits_ofNat n
    have hread := readNumber_ofNat (le_maxSignificand (hn.trans (by decide))) hrest false
    rw [Text.ofInt]
    obtain ⟨d, ds, hds⟩ := List.exists_cons_of_ne_nil hdigits.1
    have hd : isDigit d = true := isDigit_of_isDigits hdigits (hds ▸ List.mem_cons_self)
    rw [hds, List.cons_append] at hread ⊢
    rw [readInteger_digit hblanks hd, hread, acceptInteger_ofNat hn]
  | negSucc n =>
    have hn : n + 1 ≤ 9223372036854775808 := by omega
    have hread := readNumber_ofNat (le_maxSignificand hn) hrest true
    rw [Text.ofInt, List.cons_append, readInteger, skipBlanks_append_cons hblanks rfl]
    simp only [hread, acceptInteger_negSucc hn]

/-! ## Lists of strings -/

/-- A list that ends here has no next item. -/
theorem nextItem_closer {blanks : Text} (h : IsBlanks blanks) (first : Bool) (rest : Text) :
    nextItem first (blanks ++ ']' :: rest) = .ok none := by
  rw [nextItem, skipBlanks_append_cons h rfl]
  rfl

/-- The end of a list is read. -/
theorem endList_closer {blanks : Text} (h : IsBlanks blanks) (rest : Text) :
    endList (blanks ++ ']' :: rest) = .ok rest := by
  rw [endList, skipBlanks_append_cons h rfl]
  rfl

/-- The first value of a list is the next item. -/
theorem nextItem_first {before : Text} (hbefore : IsBlanks before) {c : Char}
    (hc : c ∉ delimiters) (rest : Text) :
    nextItem true (before ++ c :: rest) = .ok (some (c :: rest)) := by
  have hcloser : c ≠ ']' := fun h => hc (h ▸ by decide)
  rw [nextItem, skipBlanks_append_cons hbefore (isBlank_eq_false hc)]
  simp only [if_neg hcloser, if_true]

/-- A value behind a comma is the next item. -/
theorem nextItem_comma {blanks before : Text} (hblanks : IsBlanks blanks)
    (hbefore : IsBlanks before) {c : Char} (hc : c ∉ delimiters) (rest : Text) :
    nextItem false (blanks ++ ',' :: (before ++ c :: rest)) = .ok (some (c :: rest)) := by
  have hcloser : c ≠ ']' := fun h => hc (h ▸ by decide)
  have hcomma : ',' ≠ ']' := by decide
  rw [nextItem, skipBlanks_append_cons hblanks rfl]
  simp only [if_neg hcomma, Bool.false_eq_true, if_false, if_true,
    skipBlanks_append_cons hbefore (isBlank_eq_false hc), if_neg hcloser]

/-- A quotation mark ends no value. -/
theorem quote_notMem_delimiters : '"' ∉ delimiters := by decide

/-- The strings behind another one are read up to the end of their list. -/
theorem readStringsFrom_behindCommas {texts contents : List Text}
    (h : List.Forall₂ SpellsItem texts contents) {blanks : Text} (hblanks : IsBlanks blanks)
    {fuel : Nat} (hfuel : texts.length < fuel) (rest : Text) :
    readStringsFrom fuel false (blanks ++ (behindCommas texts ++ ']' :: rest)) =
      .ok (contents, rest) := by
  induction h generalizing blanks fuel with
  | nil =>
    obtain ⟨fuel, rfl⟩ := Nat.exists_eq_succ_of_ne_zero (Nat.ne_of_gt hfuel)
    rw [behindCommas_nil, List.nil_append, readStringsFrom, nextItem_closer hblanks]
    simp only [endList_closer hblanks]
    rfl
  | cons hitem _ ih =>
    obtain ⟨hbefore, ⟨hspelling⟩, hbehind⟩ := hitem
    obtain ⟨fuel, rfl⟩ := Nat.exists_eq_succ_of_ne_zero (Nat.ne_zero_of_lt hfuel)
    have hread := readStringValue_spelling isBlanks_nil (.quoted hspelling)
    have hlater := ih hbehind (Nat.lt_of_succ_lt_succ hfuel)
    simp only [behindCommas_cons, List.cons_append, List.append_assoc, List.nil_append] at hread ⊢
    rw [readStringsFrom, nextItem_comma hblanks hbefore quote_notMem_delimiters]
    simp only [hread, hlater, Except.map]

/-- A list of strings is read as its contents. -/
theorem readStrings_spelling {blanks text : Text} {contents : List Text}
    (hblanks : IsBlanks blanks) (h : SpellsList text contents) (rest : Text) :
    readStrings (blanks ++ (text ++ rest)) = .ok (contents, rest) := by
  cases h with
  | empty h =>
    simp only [List.cons_append, List.append_assoc, List.nil_append]
    rw [readStrings, skipBlanks_append_cons hblanks rfl]
    simp only [readStringsFrom, nextItem_closer h, endList_closer h]
    rfl
  | items hne h =>
    cases h with
    | nil => exact absurd rfl hne
    | @cons _ _ texts contents hitem h =>
      obtain ⟨hbefore, ⟨hspelling⟩, hbehind⟩ := hitem
      have hread := readStringValue_spelling isBlanks_nil (.quoted hspelling)
      simp only [join_comma_cons, List.cons_append, List.append_assoc, List.nil_append] at hread ⊢
      rw [readStrings, skipBlanks_append_cons hblanks rfl]
      simp only [readStringsFrom, nextItem_first hbefore quote_notMem_delimiters, hread]
      rw [readStringsFrom_behindCommas h hbehind]
      · rfl
      · have hlength := length_le_behindCommas texts
        simp only [List.length_append, List.length_cons]
        omega

/-! ## Objects -/

/-- An object that ends here has no next key. -/
theorem nextKey_closer {blanks : Text} (h : IsBlanks blanks) (first : Bool) (rest : Text) :
    nextKey first (blanks ++ '}' :: rest) = .ok none := by
  rw [nextKey, skipBlanks_append_cons h rfl]
  rfl

/-- The end of an object is read. -/
theorem endObject_closer {blanks : Text} (h : IsBlanks blanks) (rest : Text) :
    endObject (blanks ++ '}' :: rest) = .ok rest := by
  rw [endObject, skipBlanks_append_cons h rfl]
  rfl

/-- The first key of an object is read as its content. -/
theorem nextKey_first {before spelling key : Text} (hbefore : IsBlanks before)
    (h : Spells spelling key) (rest : Text) :
    nextKey true (before ++ '"' :: (spelling ++ '"' :: rest)) = .ok (some (key, rest)) := by
  rw [nextKey, skipBlanks_append_cons hbefore rfl]
  simp [readString_spelling h, Except.map]

/-- A key behind a comma is read as its content. -/
theorem nextKey_comma {blanks before spelling key : Text} (hblanks : IsBlanks blanks)
    (hbefore : IsBlanks before) (h : Spells spelling key) (rest : Text) :
    nextKey false (blanks ++ ',' :: (before ++ '"' :: (spelling ++ '"' :: rest))) =
      .ok (some (key, rest)) := by
  have hkey : ∀ text, skipBlanks (before ++ '"' :: text) = '"' :: text :=
    skipBlanks_append_cons hbefore rfl
  rw [nextKey, skipBlanks_append_cons hblanks rfl]
  simp [hkey, readString_spelling h, Except.map]

/-! ## Separators -/

/-- What stands in front of the first item of a list or an object, and of a later one. -/
inductive Separator : Bool → Text → Prop
  | first : Separator true []
  | comma {blanks : Text} (h : IsBlanks blanks) : Separator false (blanks ++ [','])

/-- A value behind a separator is the next item. -/
theorem nextItem_separator {first : Bool} {front before : Text} (h : Separator first front)
    (hbefore : IsBlanks before) {c : Char} (hc : c ∉ delimiters) (rest : Text) :
    nextItem first (front ++ (before ++ c :: rest)) = .ok (some (c :: rest)) := by
  cases h with
  | first => exact nextItem_first hbefore hc rest
  | comma hblanks =>
    rw [List.append_assoc]
    exact nextItem_comma hblanks hbefore hc rest

/-- A key behind a separator is read as its content. -/
theorem nextKey_separator {first : Bool} {front before spelling key : Text}
    (h : Separator first front) (hbefore : IsBlanks before) (hspelling : Spells spelling key)
    (rest : Text) :
    nextKey first (front ++ (before ++ '"' :: (spelling ++ '"' :: rest))) =
      .ok (some (key, rest)) := by
  cases h with
  | first => exact nextKey_first hbefore hspelling rest
  | comma hblanks =>
    rw [List.append_assoc]
    exact nextKey_comma hblanks hbefore hspelling rest

/-- An item in front of others is followed by a separator. -/
theorem join_comma_append (t : Text) {ts : List Text} (h : ts ≠ []) :
    Text.join [','] (t :: ts) = t ++ ',' :: Text.join [','] ts := by
  obtain ⟨t', ts, rfl⟩ := List.exists_cons_of_ne_nil h
  rw [Text.join_cons_cons, List.append_assoc]
  rfl

/-- Only blanks may stand behind a text. -/
theorem endText_blanks {blanks : Text} (h : IsBlanks blanks) : endText blanks = .ok () := by
  rw [endText, ← List.append_nil blanks, skipBlanks_append h]
  rfl

end Sentinels.Json
