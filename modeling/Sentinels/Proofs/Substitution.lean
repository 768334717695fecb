import Sentinels.Proofs.Block.Match
import Sentinels.Sentinel

/-!
# Patterns of one's own

The patterns of blocks and of sentinels may be replaced by others, which may match the empty text or
have groups that take no part in a match. Whatever they are, the blocks of a text come from matches
that follow one another in it, all that is kept of a match is a part of the text, and so are the
codes that are read from a note (`kept_parts_stand_in_text`).
-/

set_option autoImplicit false

namespace Sentinels

open Pattern

/-! ## Sentinels -/

namespace Sentinel

/-- The texts of the codes that a pattern finds. -/
def captured (pattern : Pattern) (text : Text) : List Text :=
  (pattern.findAll text).filterMap fun m => m.group? PatternSet.valueGroup

/-- The codes are those texts. -/
theorem codes_eq_map_captured (pattern : Pattern) (text : Text) :
    codes pattern text = (captured pattern text).map .code := by
  rw [codes, captured, List.map_filterMap]

/-- There are at most as many codes as matches. -/
theorem length_captured_le (pattern : Pattern) (text : Text) :
    (captured pattern text).length ≤ text.length + 1 :=
  (List.length_filterMap_le _ _).trans (length_findAll_le pattern text)

/-- Every code stands in the text. -/
theorem isInfix_of_mem_captured {pattern : Pattern} {text code : Text}
    (h : code ∈ captured pattern text) : code <:+: text := by
  obtain ⟨m, hm, htaken⟩ := List.mem_filterMap.1 h
  exact (liesIn_of_mem_findAll hm).group?_isInfix htaken

/-- Without codes only the other sentinels are concluded. -/
theorem mem_fallback {config : Config} {returnType returns : Text} {value : Sentinel}
    (h : value ∈ fallback config returnType returns) : value = .null ∨ value = .generic := by
  unfold fallback at h
  rcases List.mem_append.1 h with hnull | hgeneric
  · split at hnull
    · exact Or.inl (List.mem_singleton.1 hnull)
    · simp at hnull
  · split at hgeneric
    · exact Or.inr (List.mem_singleton.1 hgeneric)
    · simp at hgeneric

/--
Are these the values that are read from a description with the given codes? To a single code a zero
may be added; only without codes there may be others.
-/
def AreRead (codes : List Text) (values : List Sentinel) : Prop :=
  values = codes.map .code ∨
    codes.length = 1 ∧ values = codes.map .code ++ [.code ['0']] ∨
      codes = [] ∧ ∀ value ∈ values, value = .null ∨ value = .generic

/-- The values of a description are read from some of its codes. -/
theorem exists_areRead (config : Config) (pattern : Pattern) (block : Block) (returns : Text) :
    ∃ codes : List Text, codes.Sublist (captured pattern returns) ∧
      AreRead codes (ofReturns config pattern block returns) := by
  unfold ofReturns
  split
  · exact ⟨[], List.nil_sublist _, Or.inl rfl⟩
  · rw [codes_eq_map_captured]
    refine ⟨captured pattern returns, List.Sublist.refl _, ?_⟩
    cases captured pattern returns with
    | nil => exact Or.inr (Or.inr ⟨rfl, fun _ hvalue => mem_fallback hvalue⟩)
    | cons first others =>
      cases others with
      | nil =>
        simp only [List.map_cons, List.map_nil]
        split
        · exact Or.inr (Or.inl ⟨rfl, rfl⟩)
        · exact Or.inl rfl
      | cons second others => exact Or.inl rfl

/-- The values of a block are read from its note behind the first marker. -/
theorem exists_returns_of_ofBlock? {config : Config} {pattern : Pattern} {block : Block}
    {values : List Sentinel} (h : ofBlock? config pattern block = some values) :
    ∃ note returns, block.annotation = some note ∧
      Text.IsFrom config.returnsMarker note returns ∧
        ofReturns config pattern block returns = values := by
  unfold ofBlock? at h
  cases hnote : block.annotation with
  | none => simp [hnote] at h
  | some note =>
    simp only [hnote] at h
    split at h
    · simp at h
    · obtain ⟨returns, hreturns, hvalues⟩ := Option.map_eq_some_iff.1 h
      exact ⟨note, returns, rfl, Text.isFrom_of_suffixFrom? hreturns, hvalues⟩

end Sentinel

/--
**What patterns of one's own keep stands in the text.** The blocks of a text come from matches that
lie in it from left to right without overlap, and an empty match does not begin where the match
before it ends, so there is at most one block more than there are characters. What a group took
stands inside its match; the return type, the note and the name of a block stand in the text, and
the name does not end in white space. The codes that are read from a note stand in it behind the
first marker, and there is at most one more of them than there are characters.
-/
theorem kept_parts_stand_in_text (config : Config) (patterns : PatternSet) :
    (∀ text : Text,
      Block.findAll config patterns.block text =
          (patterns.block.findAll text).map (Block.ofMatch config) ∧
        (patterns.block.findAll text).Pairwise (fun m n => m.stop.pos ≤ n.start.pos ∧
          (n.start.pos = n.stop.pos → m.stop.pos < n.start.pos)) ∧
        (Block.findAll config patterns.block text).length ≤ text.length + 1 ∧
        ∀ m ∈ patterns.block.findAll text,
          (m.start.pos ≤ m.stop.pos ∧ m.stop.pos ≤ text.length) ∧
          (∀ group taken, m.group? group = some taken →
            ∃ first last, m.start.pos ≤ first ∧ first ≤ last ∧ last ≤ m.stop.pos ∧
              taken = (text.take last).drop first) ∧
          (Block.ofMatch config m).returnType <:+: text ∧
          (m.group? PatternSet.returnTypeGroup = none →
            (Block.ofMatch config m).returnType = []) ∧
          (∀ note, Block.annotation (Block.ofMatch config m) = some note →
            m.group? PatternSet.noteGroup = some note ∧ note <:+: text) ∧
          (Block.ofMatch config m).name <:+: text ∧
          ∀ c, (Block.ofMatch config m).name.getLast? = some c →
            Unicode.isWhiteSpace c = false) ∧
      ∀ (block : Block) (values : List Sentinel),
        Sentinel.ofBlock? config patterns.sentinel block = some values →
          ∃ note returns, block.annotation = some note ∧
            Text.IsFrom config.returnsMarker note returns ∧
            ∃ codes : List Text, codes.length ≤ returns.length + 1 ∧
              (∀ code ∈ codes, code <:+: returns) ∧ Sentinel.AreRead codes values := by
  refine ⟨fun text => ⟨rfl, findAll_pairwise patterns.block text, ?_, ?_⟩, ?_⟩
  · rw [Block.findAll, List.length_map]
    exact length_findAll_le patterns.block text
  · intro m hmem
    have hm : m.LiesIn text := liesIn_of_mem_findAll hmem
    refine ⟨⟨hm.start_le_stop, hm.stop_liesIn.pos_le⟩, ?_, ?_, ?_, ?_, ?_, ?_⟩
    · intro group taken htaken
      exact hm.exists_group?_eq htaken
    · exact Block.returnType_ofMatch_isInfix config hm
    · intro hnone
      simp [Block.ofMatch, hnone]
    · intro note hnote
      obtain ⟨htaken, -⟩ := Block.group?_of_annotation hnote
      exact ⟨htaken, hm.group?_isInfix htaken⟩
    · exact Block.name_ofMatch_isInfix config hm
    · exact Block.isWhiteSpace_getLast?_name config m
  · intro block values hvalues
    obtain ⟨note, returns, hnote, hfrom, rfl⟩ := Sentinel.exists_returns_of_ofBlock? hvalues
    obtain ⟨codes, hcodes, hread⟩ :=
      Sentinel.exists_areRead config patterns.sentinel block returns
    refine ⟨note, returns, hnote, hfrom, codes, ?_, ?_, hread⟩
    · exact hcodes.length_le.trans (Sentinel.length_captured_le patterns.sentinel returns)
    · intro code hcode
      exact Sentinel.isInfix_of_mem_captured (hcodes.subset hcode)

end Sentinels
