import Sentinels.Proofs.Decimal
import Sentinels.Proofs.Pattern.Reading
import Sentinels.Sentinel
import Mathlib.Data.List.Infix

/-!
# The integers of a description

The default sentinel pattern finds integers: behind a blank or a colon stand a sign, which may be
missing, and all the digits that follow, and no other part of a word comes next. An integer holds no
place where another one could be announced, so the search passes none of them: the integers of a
text are those of all its ends (`codes_eq`).
-/

set_option autoImplicit false

namespace Sentinels.Sentinel

open Pattern

/-! ## The pattern -/

/-- An integer with its sign, as an expression. -/
def codeExpr : Expr :=
  .seq (Expr.text ['-']).option (.repetition (.set ⟨[('0'.toNat, '9'.toNat)]⟩ false) 1 none true)

/-- The default sentinel pattern as an expression. -/
def expr : Expr :=
  .seq (.set ⟨[(' '.toNat, ' '.toNat), (':'.toNat, ':'.toNat)]⟩ false)
    (.seq (.group 1 (some PatternSet.valueGroup) codeExpr) (.look (.word .boundary true)))

/-- The default sentinel pattern stands for this expression. -/
theorem exprOf_defaultSentinelPattern :
    exprOf Config.defaultSentinelPattern = .ok expr := by
  decide +kernel

/-- The default sentinel pattern compiles. -/
theorem compile_defaultSentinelPattern :
    compile Config.defaultSentinelPattern = .ok (ofExpr Config.defaultSentinelPattern expr) :=
  compile_eq_ok_iff.2 ⟨expr, exprOf_defaultSentinelPattern, by decide +kernel, rfl⟩

/-- The expression belongs to the fragment on which the search is exact. -/
theorem flat_expr : Expr.Flat expr :=
  .seq (.set _ _) (.seq (.group (.seq (.option (.text _)) (.plus _ _))) (.look _))

/-! ## Integers in a text -/

/-- The digits that a text begins with, if there are any and no other part of a word follows. -/
def digits? (text : Text) : Option Text :=
  if text.head?.any Char.isDigit ∧
      ¬ (text.dropWhile Char.isDigit).head?.any (isWordChar true) then
    some (text.takeWhile Char.isDigit)
  else none

/-- The integer that a text begins with. -/
def integer? : Text → Option Text
  | '-' :: rest => (digits? rest).map ('-' :: ·)
  | text => digits? text

/-- Is an integer announced by the character? -/
def Announces (x : Char) : Prop := x = ' ' ∨ x = ':'

instance : DecidablePred Announces := fun x => inferInstanceAs (Decidable (x = ' ' ∨ x = ':'))

/-- The integer that is announced at the beginning of a text. -/
def announced? : Text → Option Text
  | [] => none
  | x :: rest => if Announces x then integer? rest else none

/-- The digits behind a minus sign make up an integer with it. -/
theorem integer?_minus (rest : Text) : integer? ('-' :: rest) = (digits? rest).map ('-' :: ·) := rfl

/-- Without a minus sign the digits make up the integer. -/
theorem integer?_of_head?_ne {text : Text} (h : text.head? ≠ some '-') :
    integer? text = digits? text := by
  unfold integer?
  split
  · exact absurd rfl h
  · rfl

/-- A minus sign is no digit. -/
theorem digits?_minus (rest : Text) : digits? ('-' :: rest) = none := by
  have hminus : Char.isDigit '-' = false := by decide
  simp [digits?, hminus]

/-- The digits that are found are a beginning of the text, and there are some. -/
theorem digits?_eq_some {text run : Text} (h : digits? text = some run) :
    run <+: text ∧ run ≠ [] ∧ ∀ x ∈ run, x.isDigit = true := by
  unfold digits? at h
  split at h
  · next hfound =>
    obtain rfl := Option.some.inj h
    refine ⟨List.takeWhile_prefix _, ?_, fun x hx => List.mem_takeWhile_imp hx⟩
    cases text with
    | nil => simp at hfound
    | cons x text =>
      have hx : x.isDigit = true := by simpa using hfound.1
      simp [hx]
  · simp at h

/-- An integer is a beginning of the text, and nothing in it announces another one. -/
theorem integer?_eq_some {text value : Text} (h : integer? text = some value) :
    value <+: text ∧ ∀ x ∈ value, ¬ Announces x := by
  have hdigit : ∀ x : Char, x.isDigit = true → ¬ Announces x := by
    rintro x hx (rfl | rfl)
    · exact absurd hx (by decide)
    · exact absurd hx (by decide)
  by_cases hminus : text.head? = some '-'
  · obtain ⟨rest, rfl⟩ := List.head?_eq_some_iff.1 hminus
    rw [integer?_minus] at h
    obtain ⟨run, hrun, rfl⟩ := Option.map_eq_some_iff.1 h
    obtain ⟨hthere, -, hall⟩ := digits?_eq_some hrun
    refine ⟨List.cons_prefix_cons.2 ⟨rfl, hthere⟩, fun x hx => ?_⟩
    rcases List.mem_cons.1 hx with rfl | hx
    · decide
    · exact hdigit x (hall x hx)
  · rw [integer?_of_head?_ne hminus] at h
    obtain ⟨hthere, -, hall⟩ := digits?_eq_some h
    exact ⟨hthere, fun x hx => hdigit x (hall x hx)⟩

/-- What is found as an integer is one. -/
theorem isInteger_of_integer? {text value : Text} (h : integer? text = some value) :
    value.IsInteger := by
  by_cases hminus : text.head? = some '-'
  · obtain ⟨rest, rfl⟩ := List.head?_eq_some_iff.1 hminus
    rw [integer?_minus] at h
    obtain ⟨run, hrun, rfl⟩ := Option.map_eq_some_iff.1 h
    exact ⟨['-'], run, rfl, Or.inr rfl, (digits?_eq_some hrun).2⟩
  · rw [integer?_of_head?_ne hminus] at h
    exact ⟨[], value, rfl, Or.inl rfl, (digits?_eq_some h).2⟩

/-- An announced integer stands behind the first character. -/
theorem announced?_eq_some {text value : Text} (h : announced? text = some value) :
    (∃ x rest, text = x :: (value ++ rest)) ∧ ∀ y ∈ value, ¬ Announces y := by
  cases text with
  | nil => simp [announced?] at h
  | cons x text =>
    rw [announced?] at h
    split at h
    · obtain ⟨⟨rest, rfl⟩, hplain⟩ := integer?_eq_some h
      exact ⟨⟨x, rest, rfl⟩, hplain⟩
    · simp at h

/-! ## What the expression matches -/

section Matching

/-- The digits as a set. -/
theorem contains_digits (x : Char) :
    CharSet.contains ⟨[('0'.toNat, '9'.toNat)]⟩ x = x.isDigit := by
  have hlow : '0'.toNat = 48 := rfl
  have hhigh : '9'.toNat = 57 := rfl
  have hdigit : x.isDigit = true ↔ 48 ≤ x.toNat ∧ x.toNat ≤ 57 := by
    simp only [Char.isDigit, ge_iff_le, Bool.and_eq_true, decide_eq_true_eq, UInt32.le_iff_toNat_le]
    rfl
  rw [Bool.eq_iff_iff, hdigit]
  simp only [CharSet.contains, CharSet.inRanges, hlow, hhigh]
  by_cases h : x.toNat < 48
  · simp [h]
  · simp [h]
    omega

/-- What announces an integer, as a set. -/
theorem contains_announcing (x : Char) :
    CharSet.contains ⟨[(' '.toNat, ' '.toNat), (':'.toNat, ':'.toNat)]⟩ x =
      decide (Announces x) := by
  have hblank : x = ' ' ↔ x.toNat = 32 := ⟨fun h => h ▸ rfl, fun h => Char.toNat_inj.1 h⟩
  have hcolon : x = ':' ↔ x.toNat = 58 := ⟨fun h => h ▸ rfl, fun h => Char.toNat_inj.1 h⟩
  have hblank' : ' '.toNat = 32 := rfl
  have hcolon' : ':'.toNat = 58 := rfl
  rw [Bool.eq_iff_iff, decide_eq_true_eq, Announces, hblank, hcolon]
  simp only [CharSet.contains, CharSet.inRanges, hblank', hcolon']
  by_cases h : x.toNat < 32
  · simp [h]
    omega
  · by_cases h' : x.toNat < 58
    · simp [h, h']
      omega
    · simp [h, h']
      omega

/-- A digit is part of a word. -/
theorem isWordChar_of_isDigit {o : Option Char} (h : o.any Char.isDigit = true) :
    o.any (isWordChar true) = true := by
  cases o with
  | none => simp at h
  | some x =>
    have hx : x.isDigit = true := h
    simp [isWordChar, Char.isAlphanum, hx]

variable {next : Cursor → Option Hit} {c : Cursor}

/-- The digits are taken as a whole, up to a boundary. -/
theorem matchThen_digits :
    (Expr.repetition (.set ⟨[('0'.toNat, '9'.toNat)]⟩ false) 1 none true).matchThen
        ((Expr.look (.word .boundary true)).matchThen next) c =
      (digits? c.rest).bind fun run => next (c.skip run.length) := by
  have hset : CharSet.contains ⟨[('0'.toNat, '9'.toNat)]⟩ = Char.isDigit := funext contains_digits
  -- Behind a digit the boundary is there if no part of a word follows.
  have hlook : ∀ d : Cursor, d.prev.any Char.isDigit = true →
      Look.holds d (.word .boundary true) = !d.rest.head?.any (isWordChar true) := by
    intro d hd
    simp only [Look.holds, WordLook.holds, isWordChar_of_isDigit hd, Bool.true_bne]
  rw [Expr.matchThen_plus]
  · rw [hset, digits?]
    by_cases hhead : c.rest.head?.any Char.isDigit = true
    · have hlength := Cursor.runLength_eq_succ hhead
      have hprev : (c.pastRun Char.isDigit).prev.any Char.isDigit = true := by
        rw [Cursor.pastRun, hlength]
        exact Cursor.any_prev_skip (by omega)
      have hskip : c.skip (c.rest.takeWhile Char.isDigit).length = c.pastRun Char.isDigit := rfl
      rw [if_pos hhead, Expr.matchThen_look, hlook _ hprev, Cursor.pastRun_rest]
      by_cases hmore : (c.rest.dropWhile Char.isDigit).head?.any (isWordChar true) = true
      · simp [hmore]
      · simp [hhead, hmore, hskip]
    · simp [hhead]
  · intro i hpos hi
    rw [hset] at hi
    obtain ⟨n, rfl⟩ := Nat.exists_eq_succ_of_ne_zero hpos.ne'
    have hprev := Cursor.any_prev_skip (Nat.lt_of_succ_lt hi)
    have hhead := isWordChar_of_isDigit (Cursor.any_head?_skip hi)
    rw [Expr.matchThen_look, hlook _ hprev, hhead]
    rfl

/-- The integer is taken with its sign, up to a boundary. -/
theorem matchThen_codeExpr :
    codeExpr.matchThen ((Expr.look (.word .boundary true)).matchThen next) c =
      (integer? c.rest).bind fun value => next (c.skip value.length) := by
  rw [codeExpr, Expr.matchThen_seq, Expr.matchThen_option, Expr.matchThen_text, matchThen_digits,
    matchThen_digits]
  by_cases hminus : c.rest.head? = some '-'
  · obtain ⟨rest, hrest⟩ := List.head?_eq_some_iff.1 hminus
    have hthere : ['-'] <+: c.rest := ⟨rest, hrest.symm⟩
    have hbehind : (c.skip ['-'].length).rest = rest := by simp [hrest]
    rw [if_pos hthere, hbehind, hrest, digits?_minus, integer?_minus]
    cases digits? rest with
    | none => rfl
    | some run => simp [Nat.add_comm]
  · have hthere : ¬ ['-'] <+: c.rest := by
      rintro ⟨rest, hrest⟩
      exact hminus (by rw [← hrest]; rfl)
    rw [if_neg hthere, integer?_of_head?_ne hminus, Option.none_or]

/-- The expression matches an announced integer and keeps it. -/
theorem first?_expr :
    expr.first? c = (announced? c.rest).map fun value =>
      ⟨c.skip (value.length + 1),
        [(PatternSet.valueGroup, ⟨c.skip 1, c.skip (value.length + 1)⟩)]⟩ := by
  -- The group ends where the boundary is.
  have hkeep : (fun d => ((Expr.look (.word .boundary true)).matchThen
        (fun e => some (.here e)) d).map (Hit.after [(PatternSet.valueGroup, ⟨c.skip 1, d⟩)])) =
      (Expr.look (.word .boundary true)).matchThen
        fun e => some ⟨e, [(PatternSet.valueGroup, ⟨c.skip 1, e⟩)]⟩ := by
    funext d
    rw [Expr.matchThen_look, Expr.matchThen_look]
    split <;> rfl
  rw [Expr.first?_eq_matchThen, expr, Expr.matchThen_seq, Expr.matchThen_set, Expr.matchThen_seq,
    Expr.matchThen_group, hkeep, matchThen_codeExpr]
  cases hrest : c.rest with
  | nil => rfl
  | cons x rest =>
    have hbehind : (c.skip 1).rest = rest := by simp [hrest]
    rw [List.head?_cons, Option.any_some, contains_announcing, announced?, hbehind]
    by_cases hx : Announces x
    · simp only [hx, decide_true, if_true]
      cases integer? rest with
      | none => rfl
      | some value => simp [Nat.add_comm]
    · simp [hx]

/-- No match is empty. -/
theorem neverEmpty_expr : expr.NeverEmpty := by
  intro c hit hfound
  rw [first?_expr] at hfound
  obtain ⟨value, -, rfl⟩ := Option.map_eq_some_iff.1 hfound
  simp

/-- A match keeps the announced integer and ends behind it. -/
theorem exists_of_first? {hit : Hit} (hfound : expr.first? c = some hit) :
    ∃ x value, announced? c.rest = some value ∧ c.rest = x :: (value ++ hit.stop.rest) ∧
      Match.group? ⟨c, hit.stop, hit.captures⟩ PatternSet.valueGroup = some value := by
  rw [first?_expr] at hfound
  obtain ⟨value, hvalue, rfl⟩ := Option.map_eq_some_iff.1 hfound
  obtain ⟨⟨x, rest, hrest⟩, -⟩ := announced?_eq_some hvalue
  have htaken : (c.skip 1).textTo (c.skip (value.length + 1)) = value := by
    rw [Nat.add_comm, ← Cursor.skip_skip, Cursor.textTo_skip, Cursor.skip_rest, hrest]
    simp
  refine ⟨x, value, hvalue, ?_, ?_⟩
  · simp [hrest]
  · rw [Match.group?, List.lookup_cons_self, Option.map_some, Capture.text, htaken]

end Matching

/-! ## The integers of a text -/

/-- The integers of a text, from left to right. -/
def integers (text : Text) : List Text := text.tails.filterMap announced?

/-- The integers of a text are the one announced by its first character and those of the rest. -/
theorem integers_cons (x : Char) (text : Text) :
    integers (x :: text) = (announced? (x :: text)).toList ++ integers text := by
  rw [integers, List.tails, List.filterMap_cons]
  cases announced? (x :: text) <;> rfl

/-- What announces no integer is passed. -/
theorem integers_append_of_forall {s : Text} (h : ∀ x ∈ s, ¬ Announces x) (t : Text) :
    integers (s ++ t) = integers t := by
  induction s with
  | nil => rfl
  | cons x s ih =>
    have hx := h x List.mem_cons_self
    rw [List.cons_append, integers_cons, announced?, if_neg hx,
      ih fun y hy => h y (List.mem_cons_of_mem x hy)]
    rfl

/-- From a position on, the matches keep the integers that are left. -/
theorem filterMap_group?_of_scans {c : Cursor} {ms : List Match} (h : Scans expr.first? c ms) :
    (ms.filterMap fun m => m.group? PatternSet.valueGroup) = integers c.rest := by
  induction h with
  | done hrest _ => rw [hrest]; rfl
  | @pass c ms hrest hnone _ ih =>
    obtain ⟨x, rest, hx⟩ := List.exists_cons_of_ne_nil hrest
    rw [first?_expr, Option.map_eq_none_iff] at hnone
    have hbehind : (c.skip 1).rest = rest := by simp [hx]
    rw [ih, hbehind, hx, integers_cons, ← hx, hnone]
    rfl
  | @take c hit ms hfind _ ih =>
    obtain ⟨x, value, hvalue, hrest, hgroup⟩ := exists_of_first? hfind
    have hplain := (announced?_eq_some hvalue).2
    simp only [List.filterMap_cons, hgroup, ih]
    rw [hrest, integers_cons, ← hrest, hvalue, integers_append_of_forall hplain]
    rfl

/-- The integers that the default pattern finds in a text. -/
theorem codes_eq (text : Text) :
    codes (ofExpr Config.defaultSentinelPattern expr) text = (integers text).map .code := by
  have hscans := flat_expr.findAll_scans neverEmpty_expr Config.defaultSentinelPattern text
  have hvalues := filterMap_group?_of_scans hscans
  rw [Cursor.start] at hvalues
  rw [codes, ← hvalues, List.map_filterMap]

end Sentinels.Sentinel
