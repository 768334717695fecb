import Sentinels.Proofs.Json.Grammar
import Sentinels.Proofs.Text

/-!
# Readers and the lexemes of the grammar

Each reader of a lexeme, given a text that begins with a lexeme of the grammar, reads it and leaves
what stands behind it. A string ends at its quotation mark, so anything may follow it; a number
ends where no character follows that could belong to it.
-/

set_option autoImplicit false

namespace Sentinels.Json

/-! ## Blanks -/

/-- No blanks are blanks. -/
theorem isBlanks_nil : IsBlanks [] := fun _ h => absurd h List.not_mem_nil

/-- Blanks are what the reader skips. -/
theorem isBlank_of_isBlanks {blanks : Text} (h : IsBlanks blanks) {c : Char} (hc : c ∈ blanks) :
    isBlank c = true := by
  rcases h c hc with rfl | rfl | rfl | rfl <;> rfl

/-- Blanks are skipped together with those behind them. -/
theorem skipBlanks_append {blanks : Text} (h : IsBlanks blanks) (rest : Text) :
    skipBlanks (blanks ++ rest) = skipBlanks rest :=
  List.dropWhile_append_of_pos fun _ => isBlank_of_isBlanks h

/-- Nothing is skipped in front of another character. -/
theorem skipBlanks_cons {c : Char} (h : isBlank c = false) (rest : Text) :
    skipBlanks (c :: rest) = c :: rest :=
  List.dropWhile_cons_of_neg (by simp [h])

/-- Blanks are skipped up to another character. -/
theorem skipBlanks_append_cons {blanks : Text} (h : IsBlanks blanks) {c : Char}
    (hc : isBlank c = false) (rest : Text) : skipBlanks (blanks ++ c :: rest) = c :: rest := by
  rw [skipBlanks_append h, skipBlanks_cons hc]

/-! ## What may stand behind a value -/

/-- The characters that may stand behind a value. -/
def delimiters : Text := [' ', '\t', '\n', '\r', ',', ']', '}']

/-- Does the text end here, or go on with a character that no value goes on with? -/
def Delimited (rest : Text) : Prop := ∀ c ∈ rest.head?, c ∈ delimiters

/-- A value may end in front of a delimiter. -/
theorem delimited_cons {c : Char} (h : c ∈ delimiters) (rest : Text) : Delimited (c :: rest) := by
  simpa [Delimited] using h

/-- Blanks may stand behind a value, and what may stand behind it may as well stand behind them. -/
theorem delimited_append {blanks rest : Text} (h : IsBlanks blanks) (hrest : Delimited rest) :
    Delimited (blanks ++ rest) := by
  cases blanks with
  | nil => exact hrest
  | cons b blanks =>
    refine delimited_cons ?_ _
    rcases h b List.mem_cons_self with rfl | rfl | rfl | rfl <;> decide

/-- A character that may stand behind a value belongs to no number. -/
theorem not_number_of_mem_delimiters :
    ∀ c ∈ delimiters, isDigit c = false ∧ isExponentMark c = false ∧ c ≠ '.' := by
  simp [delimiters, isDigit, isExponentMark]

/-- A character that is no blank and ends no value is skipped by nothing. -/
theorem isBlank_eq_false {c : Char} (h : c ∉ delimiters) : isBlank c = false := by
  by_contra hblank
  refine h ?_
  simp only [isBlank, Bool.not_eq_false, Bool.or_eq_true, beq_iff_eq] at hblank
  rcases hblank with ((rfl | rfl) | rfl) | rfl <;> decide

/-! ## Words and punctuation -/

/-- A word is read, whatever stands behind it. -/
theorem readWord_append (word rest : Text) : readWord word (word ++ rest) = .ok rest := by
  induction word with
  | nil => rw [List.nil_append, readWord]
  | cons w word ih => rw [List.cons_append, readWord, if_pos rfl, ih]

/-- A colon is read together with the blanks in front of it. -/
theorem readColon_append {blanks : Text} (h : IsBlanks blanks) (rest : Text) :
    readColon (blanks ++ ':' :: rest) = .ok rest := by
  rw [readColon, skipBlanks_append_cons h rfl]
  rfl

/-- The texts of items, each behind a comma. -/
def behindCommas (texts : List Text) : Text := texts.flatMap (',' :: ·)

/-- No items need no commas. -/
@[simp] theorem behindCommas_nil : behindCommas [] = [] := rfl

/-- Each item stands behind a comma. -/
@[simp] theorem behindCommas_cons (t : Text) (ts : List Text) :
    behindCommas (t :: ts) = ',' :: (t ++ behindCommas ts) := rfl

/-- There are no more items than characters. -/
theorem length_le_behindCommas (ts : List Text) : ts.length ≤ (behindCommas ts).length := by
  induction ts with
  | nil => exact le_rfl
  | cons t ts ih =>
    simp only [behindCommas_cons, List.length_cons, List.length_append]
    omega

/-- The items behind the first one stand behind commas. -/
theorem join_comma_cons (t : Text) (ts : List Text) :
    Text.join [','] (t :: ts) = t ++ behindCommas ts := Text.join_cons [','] t ts

/-- There are no more items than characters, the last one apart. -/
theorem length_le_join (ts : List Text) : ts.length ≤ (Text.join [','] ts).length + 1 := by
  cases ts with
  | nil => exact Nat.zero_le _
  | cons t ts =>
    have hlength := length_le_behindCommas ts
    rw [join_comma_cons, List.length_append, List.length_cons]
    omega

/-! ## Strings -/

/-- A hexadecimal digit has its value. -/
theorem hexDigit?_of_isHexDigit {c : Char} {value : Nat} (h : IsHexDigit c value) :
    hexDigit? c = some value := by
  rcases h with h | h
  · obtain ⟨hvalue, rfl⟩ := List.getElem?_eq_some_iff.1 h
    exact (by decide : ∀ i : Fin 16, hexDigit? (smallDigits.get i) = some i.val) ⟨value, hvalue⟩
  · obtain ⟨hvalue, rfl⟩ := List.getElem?_eq_some_iff.1 h
    exact (by decide : ∀ i : Fin 16, hexDigit? (capitalDigits.get i) = some i.val) ⟨value, hvalue⟩

/-- The digits of a code unit are four characters that are read as its value. -/
theorem hexQuad?_of_spellsUnit {digits : Text} {value : Nat} (h : SpellsUnit digits value) :
    ∃ h₁ h₂ h₃ h₄, digits = [h₁, h₂, h₃, h₄] ∧ hexQuad? h₁ h₂ h₃ h₄ = some value := by
  obtain ⟨ha, hb, hc, hd⟩ := h
  refine ⟨_, _, _, _, rfl, ?_⟩
  simp only [hexQuad?, hexDigit?_of_isHexDigit ha, hexDigit?_of_isHexDigit hb,
    hexDigit?_of_isHexDigit hc, hexDigit?_of_isHexDigit hd, Option.some.injEq]
  omega

/-- A short escape is the letter's character. -/
theorem simpleEscape?_of_mem :
    ∀ e ∈ shortEscapes, simpleEscape? e.1 = some e.2 ∧ e.1 ≠ 'u' := by
  decide

/-- The reader of strings takes one spelling of a character after the other. -/
theorem readString_append {spelling : Text} {c : Char} (h : SpellsChar spelling c) (rest : Text) :
    readString (spelling ++ rest) = prepend c (readString rest) := by
  cases h with
  | plain h =>
    obtain ⟨hcontrol, hquote, hbackslash⟩ := h
    rw [List.singleton_append, readString.eq_def]
    simp only [if_neg hquote, if_neg hbackslash, if_neg (Nat.not_lt.2 hcontrol)]
  | short h =>
    obtain ⟨hescape, hu⟩ := simpleEscape?_of_mem _ h
    rw [readString.eq_def]
    simp [hescape, hu]
  | unit h =>
    obtain ⟨h₁, h₂, h₃, h₄, rfl, hquad⟩ := hexQuad?_of_spellsUnit h
    -- a character is no surrogate, so the code unit stands for itself
    have hvalid : c.toNat < 0xD800 ∨ 0xDFFF < c.toNat ∧ c.toNat < 0x110000 := c.valid
    have htrail : isTrailingSurrogate c.toNat = false := by
      simp [isTrailingSurrogate]
      omega
    have hlead : isLeadingSurrogate c.toNat = false := by
      simp [isLeadingSurrogate]
      omega
    rw [readString.eq_def]
    simp [hquad, htrail, hlead, Char.ofNat_toNat]
  | @pair _ _ lead trail _ hfirst hsecond hlead hlead' htrail htrail' hc =>
    obtain ⟨h₁, h₂, h₃, h₄, rfl, hquad⟩ := hexQuad?_of_spellsUnit hfirst
    obtain ⟨k₁, k₂, k₃, k₄, rfl, hquad'⟩ := hexQuad?_of_spellsUnit hsecond
    have hfirst : isTrailingSurrogate lead = false := by
      simp [isTrailingSurrogate]
      omega
    have hleads : isLeadingSurrogate lead = true := by simp [isLeadingSurrogate, hlead, hlead']
    have htrails : isTrailingSurrogate trail = true := by
      simp [isTrailingSurrogate, htrail, htrail']
    have hvalue : (lead - 0xD800) * 0x400 + (trail - 0xDC00) + 0x10000 = c.toNat := by omega
    have hpair : surrogatePair lead trail = c := by
      rw [surrogatePair, hvalue, Char.ofNat_toNat]
    rw [readString.eq_def]
    simp [hquad, hquad', hfirst, hleads, htrails, hpair]

/-- A string is read up to its closing quotation mark. -/
theorem readString_spelling {spelling content : Text} (h : Spells spelling content)
    (rest : Text) : readString (spelling ++ '"' :: rest) = .ok (content, rest) := by
  induction h with
  | nil => rw [List.nil_append, readString.eq_def]; rfl
  | cons h _ ih => rw [List.append_assoc, readString_append h, ih, prepend, Except.map]

/-- A string is passed over up to its closing quotation mark. -/
theorem skipString_append {text : Text} (h : IsString text) (rest : Text) :
    skipString (text ++ '"' :: rest) = .ok rest := by
  induction h with
  | nil => rw [List.nil_append, skipString.eq_def]; rfl
  | plain h _ ih =>
    obtain ⟨hcontrol, hquote, hbackslash⟩ := h
    rw [List.cons_append, skipString.eq_def]
    simp only [if_neg hquote, if_neg hbackslash, if_neg (Nat.not_lt.2 hcontrol), ih]
  | short h _ ih =>
    obtain ⟨hescape, hu⟩ := simpleEscape?_of_mem _ h
    rw [skipString.eq_def]
    simp [hescape, hu, ih]
  | unit h _ ih =>
    obtain ⟨h₁, h₂, h₃, h₄, rfl, hquad⟩ := hexQuad?_of_spellsUnit h
    rw [skipString.eq_def]
    simp [hquad, ih]

/-! ## Numbers -/

/-- The digits of a number are what the reader takes for digits. -/
theorem isDigit_of_isDigits {digits : Text} (h : IsDigits digits) {c : Char} (hc : c ∈ digits) :
    isDigit c = true := by
  simp [isDigit, h.2 c hc]

/-- The integer part of a number begins with a digit. -/
theorem exists_cons_of_isWhole {whole : Text} (h : IsWhole whole) :
    ∃ c digits, whole = c :: digits ∧ isDigit c = true := by
  rcases h with rfl | ⟨hdigits, -⟩
  · exact ⟨'0', [], rfl, rfl⟩
  · obtain ⟨c, digits, rfl⟩ := List.exists_cons_of_ne_nil hdigits.1
    exact ⟨c, digits, rfl, isDigit_of_isDigits hdigits List.mem_cons_self⟩

/-- A digit ends no value. -/
theorem notMem_delimiters_of_isDigit {c : Char} (h : isDigit c = true) : c ∉ delimiters := by
  intro hc
  rw [(not_number_of_mem_delimiters c hc).1] at h
  exact Bool.false_ne_true h

/-- Digits are taken up to a character that is none. -/
theorem takeWhile_isDigit {digits rest : Text} (h : IsDigits digits)
    (hrest : ∀ c ∈ rest.head?, isDigit c = false) :
    (digits ++ rest).takeWhile isDigit = digits := by
  rw [List.takeWhile_append_of_pos fun c => isDigit_of_isDigits h]
  cases rest with
  | nil => rw [List.takeWhile_nil, List.append_nil]
  | cons c rest => rw [List.takeWhile_cons_of_neg (by simp [hrest c rfl]), List.append_nil]

/-- Behind digits a character that is none is left. -/
theorem dropWhile_isDigit {digits rest : Text} (h : IsDigits digits)
    (hrest : ∀ c ∈ rest.head?, isDigit c = false) : (digits ++ rest).dropWhile isDigit = rest := by
  rw [List.dropWhile_append_of_pos fun c => isDigit_of_isDigits h]
  cases rest with
  | nil => rfl
  | cons c rest => exact List.dropWhile_cons_of_neg (by simp [hrest c rfl])

/-- A row of digits is passed over. -/
theorem skipDigits_append {digits rest : Text} (h : IsDigits digits)
    (hrest : ∀ c ∈ rest.head?, isDigit c = false) : skipDigits (digits ++ rest) = .ok rest := by
  obtain ⟨c, digits, rfl⟩ := List.exists_cons_of_ne_nil h.1
  have hc : isDigit c = true := isDigit_of_isDigits h List.mem_cons_self
  rw [List.cons_append, skipDigits, if_pos hc, ← List.cons_append, dropWhile_isDigit h hrest]

/-- Neither an exponent nor what may stand behind a value goes on with digits or a point. -/
theorem head?_exponent {exponent rest : Text} (h : IsExponent exponent) (hrest : Delimited rest) :
    ∀ c ∈ (exponent ++ rest).head?, isDigit c = false ∧ c ≠ '.' := by
  intro c hc
  rcases h with rfl | ⟨mark, sign, digits, rfl, hmark, -⟩
  · have hnumber := not_number_of_mem_delimiters c (hrest c hc)
    exact ⟨hnumber.1, hnumber.2.2⟩
  · obtain rfl : mark = c := Option.some.inj hc
    rcases hmark with rfl | rfl <;> decide

/-- A fraction does not go on with digits of the integer part. -/
theorem head?_fraction {fraction exponent rest : Text} (hfraction : IsFraction fraction)
    (hexponent : IsExponent exponent) (hrest : Delimited rest) :
    ∀ c ∈ (fraction ++ (exponent ++ rest)).head?, isDigit c = false := by
  intro c hc
  rcases hfraction with rfl | ⟨digits, rfl, -⟩
  · exact (head?_exponent hexponent hrest c hc).1
  · obtain rfl : '.' = c := Option.some.inj hc
    rfl

/-- An exponent is passed over, or nothing if there is none. -/
theorem skipExponent_append {exponent rest : Text} (h : IsExponent exponent)
    (hrest : Delimited rest) : skipExponent (exponent ++ rest) = .ok rest := by
  rcases h with rfl | ⟨mark, sign, digits, rfl, hmark, hsign, hdigits⟩
  · cases rest with
    | nil => rfl
    | cons c rest =>
      have hmark : isExponentMark c = false := (not_number_of_mem_delimiters c (hrest c rfl)).2.1
      simp [skipExponent, hmark]
  · have hmark : isExponentMark mark = true := by rcases hmark with rfl | rfl <;> rfl
    have hread := skipDigits_append hdigits fun c hc =>
      (not_number_of_mem_delimiters c (hrest c hc)).1
    rcases hsign with rfl | rfl | rfl
    · -- without a sign, the first digit is not taken for one
      obtain ⟨d, tail, rfl⟩ := List.exists_cons_of_ne_nil hdigits.1
      have hd := hdigits.2 d List.mem_cons_self
      have hplus : d ≠ '+' := by rintro rfl; exact absurd hd (by decide)
      have hminus : d ≠ '-' := by rintro rfl; exact absurd hd (by decide)
      simpa [skipExponent, hmark, hplus, hminus] using hread
    · simpa [skipExponent, hmark] using hread
    · simpa [skipExponent, hmark] using hread

/-- A fraction and an exponent are passed over, as far as there are any. -/
theorem skipTail_append {fraction exponent rest : Text} (hfraction : IsFraction fraction)
    (hexponent : IsExponent exponent) (hrest : Delimited rest) :
    skipTail (fraction ++ (exponent ++ rest)) = .ok rest := by
  have hread := skipExponent_append hexponent hrest
  have hhead := head?_exponent hexponent hrest
  rcases hfraction with rfl | ⟨digits, rfl, hdigits⟩
  · rw [List.nil_append, skipTail]
    · exact hread
    · intro behind hpoint
      exact (hhead '.' (by rw [hpoint]; rfl)).2 rfl
  · rw [List.cons_append, skipTail, skipDigits_append hdigits fun c hc => (hhead c hc).1]
    exact hread

/-- A number is passed over behind its sign. -/
theorem skipNumber_append {whole fraction exponent rest : Text} (hwhole : IsWhole whole)
    (hfraction : IsFraction fraction) (hexponent : IsExponent exponent)
    (hrest : Delimited rest) :
    skipNumber (whole ++ (fraction ++ (exponent ++ rest))) = .ok rest := by
  have hread := skipTail_append hfraction hexponent hrest
  have hhead := head?_fraction hfraction hexponent hrest
  generalize fraction ++ (exponent ++ rest) = tail at *
  rcases hwhole with rfl | ⟨hdigits, hzero⟩
  · cases tail with
    | nil => exact hread
    | cons d tail => simpa [skipNumber, hhead d rfl] using hread
  · obtain ⟨d, digits, rfl⟩ := List.exists_cons_of_ne_nil hdigits.1
    have hd : isDigit d = true := isDigit_of_isDigits hdigits List.mem_cons_self
    have hd' : d ≠ '0' := fun h => hzero (by rw [h]; rfl)
    rw [List.cons_append, skipNumber.eq_def]
    simp only [if_neg hd', if_pos hd]
    rw [← List.cons_append, dropWhile_isDigit hdigits hhead, hread]

end Sentinels.Json
