import Sentinels.Extraction
import Sentinels.Proofs.Sentinel.Integers
import Sentinels.Proofs.Text
import Mathlib.Data.List.Sort

/-!
# The rule for sentinels

What is read from a block can be said without a pattern. An integer counts wherever a blank or a
colon stands in front of it and no other part of a word behind it. The integers that count, the
name, the return type and two phrases then decide what the block yields (`ruled`), and this is what
the default pattern computes (`ofBlock?_follows_rule`).
-/

set_option autoImplicit false

namespace Sentinels.Sentinel

open Pattern

/-! ## Integers by their positions -/

/--
Is `value` an integer that is announced at position `i`? A blank or a colon stands there and the
integer follows. All its digits are taken: behind it the text ends or goes on with a character that
is no ASCII letter, no digit and no underscore.
-/
def AnnouncedAt (text : Text) (i : Nat) (value : Text) : Prop :=
  ∃ before x behind, text = before ++ x :: (value ++ behind) ∧ before.length = i ∧
    (x = ' ' ∨ x = ':') ∧ value.IsInteger ∧
    ∀ y, behind.head? = some y → ¬ (y.isAlphanum = true ∨ y = '_')

/-- Are these all announced integers of a text with their positions, from left to right? -/
structure AreAnnounced (text : Text) (found : List (Nat × Text)) : Prop where
  increasing : found.Pairwise fun p q => p.1 < q.1
  mem_iff : ∀ i value, (i, value) ∈ found ↔ AnnouncedAt text i value

section Integers

variable {text run value : Text}

/-- Does a text begin with no part of an ASCII word? -/
def EndsWord (behind : Text) : Prop := ¬ behind.head?.any (isWordChar true)

/-- A text begins with no part of a word if its first character, should it have one, is none. -/
theorem endsWord_iff {behind : Text} :
    EndsWord behind ↔ ∀ y, behind.head? = some y → ¬ (y.isAlphanum = true ∨ y = '_') := by
  unfold EndsWord
  cases behind with
  | nil => simp
  | cons y behind => simp [isWordChar]

/-- A run of digits is taken if it is as long as can be and a word ends with it. -/
theorem digits?_eq_some_iff :
    digits? text = some run ↔ ∃ behind, text = run ++ behind ∧ run ≠ [] ∧
      (∀ x ∈ run, x.isDigit = true) ∧ EndsWord behind := by
  constructor
  · intro h
    obtain ⟨-, hne, hall⟩ := digits?_eq_some h
    unfold digits? at h
    split at h
    · next hfound =>
      obtain rfl := Option.some.inj h
      exact ⟨_, List.takeWhile_append_dropWhile.symm, hne, hall, hfound.2⟩
    · simp at h
  · rintro ⟨behind, rfl, hne, hall, hends⟩
    -- No digit follows the run, since digits are parts of words.
    have hstop : behind.head?.any Char.isDigit ≠ true := mt isWordChar_of_isDigit hends
    have hbehind : behind.takeWhile Char.isDigit = [] ∧ behind.dropWhile Char.isDigit = behind := by
      cases behind with
      | nil => exact ⟨rfl, rfl⟩
      | cons y behind =>
        have hy : ¬ y.isDigit = true := hstop
        exact ⟨List.takeWhile_cons_of_neg hy, List.dropWhile_cons_of_neg hy⟩
    have hfirst : (run ++ behind).head?.any Char.isDigit = true := by
      obtain ⟨x, run, rfl⟩ := List.exists_cons_of_ne_nil hne
      exact hall x List.mem_cons_self
    unfold digits?
    rw [List.takeWhile_append_of_pos hall, List.dropWhile_append_of_pos hall, hbehind.1, hbehind.2,
      List.append_nil]
    exact if_pos ⟨hfirst, hends⟩

/-- An integer is taken if a word ends with it. -/
theorem integer?_eq_some_iff :
    integer? text = some value ↔
      ∃ behind, text = value ++ behind ∧ value.IsInteger ∧ EndsWord behind := by
  constructor
  · intro h
    have hvalue := isInteger_of_integer? h
    by_cases hminus : text.head? = some '-'
    · obtain ⟨rest, rfl⟩ := List.head?_eq_some_iff.1 hminus
      rw [integer?_minus] at h
      obtain ⟨run, hrun, rfl⟩ := Option.map_eq_some_iff.1 h
      obtain ⟨behind, rfl, -, -, hends⟩ := digits?_eq_some_iff.1 hrun
      exact ⟨behind, rfl, hvalue, hends⟩
    · rw [integer?_of_head?_ne hminus] at h
      obtain ⟨behind, rfl, -, -, hends⟩ := digits?_eq_some_iff.1 h
      exact ⟨behind, rfl, hvalue, hends⟩
  · rintro ⟨behind, rfl, ⟨sign, digits, rfl, hsign, hne, hall⟩, hends⟩
    have hdigits : digits? (digits ++ behind) = some digits :=
      digits?_eq_some_iff.2 ⟨behind, rfl, hne, hall, hends⟩
    rcases hsign with rfl | rfl
    · have hhead : (digits ++ behind).head? ≠ some '-' := by
        obtain ⟨x, digits, rfl⟩ := List.exists_cons_of_ne_nil hne
        intro hminus
        have hx : x.isDigit = true := hall x List.mem_cons_self
        rw [show x = '-' from Option.some.inj hminus] at hx
        exact absurd hx (by decide)
      rw [List.nil_append, integer?_of_head?_ne hhead]
      exact hdigits
    · rw [List.append_assoc, List.singleton_append, integer?_minus, hdigits]
      rfl

/-- The integer that is read at a position is the one announced there. -/
theorem announced?_drop_eq_some_iff {i : Nat} :
    announced? (text.drop i) = some value ↔ AnnouncedAt text i value := by
  constructor
  · intro h
    cases hdrop : text.drop i with
    | nil => simp [hdrop, announced?] at h
    | cons x rest =>
      rw [hdrop, announced?] at h
      split at h
      · next hx =>
        obtain ⟨behind, rfl, hvalue, hends⟩ := integer?_eq_some_iff.1 h
        have hlength : i < text.length := by
          by_contra hle
          rw [List.drop_eq_nil_of_le (Nat.le_of_not_lt hle)] at hdrop
          exact List.cons_ne_nil x _ hdrop.symm
        refine ⟨text.take i, x, behind, ?_, List.length_take_of_le hlength.le, hx, hvalue,
          endsWord_iff.1 hends⟩
        rw [← hdrop, List.take_append_drop]
      · simp at h
  · rintro ⟨before, x, behind, rfl, rfl, hx, hvalue, hends⟩
    have hannounces : Announces x := hx
    rw [List.drop_left, announced?, if_pos hannounces]
    exact integer?_eq_some_iff.2 ⟨behind, rfl, hvalue, endsWord_iff.2 hends⟩

end Integers

/-- The announced integers of a text with their positions, which are counted from `i` on. -/
def announcedFrom (i : Nat) : Text → List (Nat × Text)
  | [] => []
  | x :: rest => ((announced? (x :: rest)).map (i, ·)).toList ++ announcedFrom (i + 1) rest

/-- Positions are counted on from the first one. -/
theorem mem_announcedFrom {i j : Nat} {text value : Text} :
    (j, value) ∈ announcedFrom i text ↔
      ∃ n, j = i + n ∧ announced? (text.drop n) = some value := by
  induction text generalizing i with
  | nil => simp [announcedFrom, announced?]
  | cons x rest ih =>
    rw [announcedFrom, List.mem_append, ih, Option.mem_toList, Option.map_eq_some_iff]
    constructor
    · rintro (⟨value, hvalue, heq⟩ | ⟨n, rfl, hn⟩)
      · obtain ⟨rfl, rfl⟩ := Prod.mk.inj heq
        exact ⟨0, rfl, hvalue⟩
      · exact ⟨n + 1, by omega, hn⟩
    · rintro ⟨n, rfl, hn⟩
      cases n with
      | zero => exact Or.inl ⟨value, hn, rfl⟩
      | succ n => exact Or.inr ⟨n, by omega, hn⟩

/-- The positions increase. -/
theorem pairwise_announcedFrom (i : Nat) (text : Text) :
    (announcedFrom i text).Pairwise fun p q => p.1 < q.1 := by
  induction text generalizing i with
  | nil => exact List.Pairwise.nil
  | cons x rest ih =>
    rw [announcedFrom, List.pairwise_append]
    refine ⟨?_, ih (i + 1), ?_⟩
    · cases announced? (x :: rest) with
      | none => exact List.Pairwise.nil
      | some value => exact List.pairwise_singleton _ _
    · rintro ⟨j, value⟩ hp ⟨k, other⟩ hq
      rw [Option.mem_toList, Option.map_eq_some_iff] at hp
      obtain ⟨value, -, heq⟩ := hp
      obtain ⟨n, rfl, -⟩ := mem_announcedFrom.1 hq
      obtain ⟨rfl, -⟩ := Prod.mk.inj heq
      show i < i + 1 + n
      omega

/-- Without their positions these are the integers that the pattern finds. -/
theorem map_snd_announcedFrom (i : Nat) (text : Text) :
    (announcedFrom i text).map Prod.snd = integers text := by
  induction text generalizing i with
  | nil => rfl
  | cons x rest ih =>
    rw [announcedFrom, List.map_append, ih, integers_cons]
    cases announced? (x :: rest) with
    | none => rfl
    | some value => rfl

/-- Reading at each position gives all announced integers. -/
theorem areAnnounced_announcedFrom (text : Text) : AreAnnounced text (announcedFrom 0 text) where
  increasing := pairwise_announcedFrom 0 text
  mem_iff := by
    intro i value
    rw [mem_announcedFrom, ← announced?_drop_eq_some_iff]
    constructor
    · rintro ⟨n, rfl, hn⟩
      rwa [Nat.zero_add]
    · intro h
      exact ⟨i, (Nat.zero_add i).symm, h⟩

example : announcedFrom 0 ": 1:2 3 --5 10abc".toList = [(1, ['1']), (3, ['2']), (5, ['3'])] := by
  decide

/-- A text has one list of announced integers. -/
theorem AreAnnounced.unique {text : Text} {found found' : List (Nat × Text)}
    (h : AreAnnounced text found) (h' : AreAnnounced text found') : found = found' := by
  have hirrefl : Std.Irrefl fun p q : Nat × Text => p.1 < q.1 := ⟨fun p => Nat.lt_irrefl p.1⟩
  have hantisymm : Std.Antisymm fun p q : Nat × Text => p.1 < q.1 :=
    ⟨fun _ _ hlt hgt => absurd hgt (Nat.lt_asymm hlt)⟩
  apply List.Pairwise.eq_of_mem_iff h.increasing h'.increasing
  rintro ⟨i, value⟩
  rw [h.mem_iff, h'.mem_iff]

/-- The announced integers are those that the pattern finds. -/
theorem AreAnnounced.map_snd_eq {text : Text} {found : List (Nat × Text)}
    (h : AreAnnounced text found) : found.map Prod.snd = integers text := by
  rw [h.unique (areAnnounced_announcedFrom text), map_snd_announcedFrom]

/-! ## The rule -/

/--
What a block yields whose note describes the returned value by `returns`, where `codes` are the
integers that count. An unbounded description yields nothing. Without integers the return type may
yield the null pointer and a phrase the catch-all code, each for itself. A predicate with one
integer yields zero as well.
-/
def ruled (config : Config) (block : Block) (returns : Text) (codes : List Text) : List Sentinel :=
  if config.unboundedPhrase <:+: returns then []
  else if codes = [] then
    (if config.pointerSuffix <:+ block.returnType then [.null] else []) ++
      (if config.genericFailPhrase <:+: returns then [.generic] else [])
  else if codes.length = 1 ∧ ∃ marker ∈ config.predicateMarkers, marker <:+: block.name then
    codes.map .code ++ [.code ['0']]
  else codes.map .code

section Rule

variable (config : Config) (block : Block)

/-- The null pointer and the catch-all code, each on its own condition. -/
theorem fallback_eq_ruled (returns : Text) :
    fallback config block.returnType returns =
      (if config.pointerSuffix <:+ block.returnType then [.null] else []) ++
        (if config.genericFailPhrase <:+: returns then [.generic] else []) := by
  unfold fallback
  simp only [List.isSuffixOf_iff_suffix, Text.hasInfix_iff]

/-- The values read from a description are those of the rule. -/
theorem ofReturns_eq_ruled (returns : Text) :
    ofReturns config (ofExpr Config.defaultSentinelPattern expr) block returns =
      ruled config block returns (integers returns) := by
  have hmarks : marksPredicate config block.name = true ↔
      ∃ marker ∈ config.predicateMarkers, marker <:+: block.name := by
    simp [marksPredicate, Text.hasInfix_iff]
  unfold ofReturns ruled
  rw [codes_eq, fallback_eq_ruled]
  simp only [Text.hasInfix_iff, hmarks]
  cases integers returns with
  | nil => simp
  | cons first others =>
    cases others with
    | nil => simp
    | cons second others => simp

/-- What the rule gives for a block, if its note says what is returned. -/
def ruled? : Option (List Sentinel) :=
  match block.annotation with
  | none => none
  | some note =>
    if note.isEmpty then none
    else (Text.suffixFrom? config.returnsMarker note).map fun returns =>
      ruled config block returns (integers returns)

/-- The default sentinel pattern reads from a block what the rule gives. -/
theorem ofBlock?_eq_ruled? :
    ofBlock? config (ofExpr Config.defaultSentinelPattern expr) block = ruled? config block := by
  unfold ofBlock? ruled?
  cases block.annotation with
  | none => rfl
  | some note => simp only [ofReturns_eq_ruled]

/-- Nothing is read without a note, or with one that says nothing of what is returned. -/
theorem ofBlock?_eq_none_iff {pattern : Pattern} :
    ofBlock? config pattern block = none ↔
      ∀ note, block.annotation = some note → note = [] ∨ ¬ config.returnsMarker <:+: note := by
  unfold ofBlock?
  cases block.annotation with
  | none => simp
  | some note =>
    have hmissing : Text.suffixFrom? config.returnsMarker note = none ↔
        ¬ config.returnsMarker <:+: note := by
      rw [← Text.hasInfix_iff, Text.hasInfix, Option.not_isSome_iff_eq_none]
    by_cases hempty : note = []
    · simp [hempty]
    · simp [hempty, hmissing]

/-- Otherwise the values are read from the note, from the first marker on. -/
theorem ofBlock?_eq_some_iff {pattern : Pattern} {values : List Sentinel} :
    ofBlock? config pattern block = some values ↔
      ∃ note returns, block.annotation = some note ∧ note ≠ [] ∧
        Text.IsFrom config.returnsMarker note returns ∧
        values = ofReturns config pattern block returns := by
  unfold ofBlock?
  cases block.annotation with
  | none => simp
  | some note =>
    by_cases hempty : note = []
    · simp [hempty]
    · simp only [List.isEmpty_iff, hempty, if_false, Option.map_eq_some_iff,
        Text.suffixFrom?_eq_some_iff]
      constructor
      · rintro ⟨returns, hfrom, rfl⟩
        exact ⟨note, returns, rfl, hempty, hfrom, rfl⟩
      · rintro ⟨_, returns, hnote, -, hfrom, rfl⟩
        obtain rfl := Option.some.inj hnote
        exact ⟨returns, hfrom, rfl⟩

/-- Under the default sentinel pattern blocks give the values of the rule. -/
theorem ofBlocks_eq_foldl (blocks : List Block) :
    Extraction.ofBlocks config (ofExpr Config.defaultSentinelPattern expr) blocks =
      blocks.foldl (fun found block =>
        ⟨Extraction.record found.table block.name (ruled? config block),
          if block.isSilentVoid then found.voidCount + 1 else found.voidCount⟩)
        .empty := by
  unfold Extraction.ofBlocks
  congr 1
  funext found block
  rw [Extraction.add, ofBlock?_eq_ruled?]

end Rule

/--
**The default sentinel pattern computes the documented rule,** under every configuration and for
every block. Nothing is read exactly from the blocks whose note is missing, empty or without the
returns marker. From any other block those values are read that the rule gives for the note from the
first marker on and for all integers that are announced there, in the order of their positions.
-/
theorem ofBlock?_follows_rule :
    ∃ pattern, compile Config.defaultSentinelPattern = .ok pattern ∧
      ∀ (config : Config) (block : Block),
        (ofBlock? config pattern block = none ↔
          ∀ note, block.annotation = some note → note = [] ∨ ¬ config.returnsMarker <:+: note) ∧
        ∀ values, ofBlock? config pattern block = some values ↔
          ∃ note returns found, block.annotation = some note ∧ note ≠ [] ∧
            Text.IsFrom config.returnsMarker note returns ∧ AreAnnounced returns found ∧
            values = ruled config block returns (found.map Prod.snd) := by
  refine ⟨_, compile_defaultSentinelPattern, ?_⟩
  intro config block
  refine ⟨ofBlock?_eq_none_iff config block, ?_⟩
  intro values
  rw [ofBlock?_eq_some_iff]
  constructor
  · rintro ⟨note, returns, hnote, hne, hfrom, rfl⟩
    refine ⟨note, returns, _, hnote, hne, hfrom, areAnnounced_announcedFrom returns, ?_⟩
    rw [map_snd_announcedFrom, ofReturns_eq_ruled]
  · rintro ⟨note, returns, found, hnote, hne, hfrom, hfound, rfl⟩
    refine ⟨note, returns, hnote, hne, hfrom, ?_⟩
    rw [hfound.map_snd_eq, ofReturns_eq_ruled]

end Sentinels.Sentinel
