import Sentinels.Proofs.LineEnd.Block
import Sentinels.Proofs.Sentinel.Integers

/-!
# Sentinels and line ends

A line end ends an integer in either spelling and belongs to none. So the integers of a note do not
depend on the spelling, and neither does anything else that is read from a block, as long as the
texts that a configuration looks for stand in one line each (`ofBlock?_crlf`).
-/

set_option autoImplicit false

namespace Sentinels

open Pattern
open Text (crlf_cons)

/-- Do the texts that a configuration looks for in names and notes stand in one line each? -/
structure Config.IsOneLine (config : Config) : Prop where
  excludedNames : ∀ part ∈ config.excludedNames, part.OneLine
  predicateMarkers : ∀ marker ∈ config.predicateMarkers, marker.OneLine
  returnsMarker : config.returnsMarker.OneLine
  unboundedPhrase : config.unboundedPhrase.OneLine
  genericFailPhrase : config.genericFailPhrase.OneLine

/-- Those of the default configuration do. -/
theorem Config.isOneLine_default : Config.default.IsOneLine where
  excludedNames := by decide
  predicateMarkers := by decide
  returnsMarker := by decide
  unboundedPhrase := by decide
  genericFailPhrase := by decide

namespace Sentinel

/-! ## Integers -/

section Integers

variable (text : Text)

/-- The digits that a text begins with end at a line end, in whichever spelling. -/
theorem digits?_crlf : digits? text.crlf = digits? text := by
  have hdigit : Char.isDigit '\r' = Char.isDigit '\n' := by decide
  have hword : isWordChar true '\r' = isWordChar true '\n' := by decide
  have hplain : '\n' ∉ text.takeWhile Char.isDigit := by
    intro hmem
    exact absurd (List.mem_takeWhile_imp hmem) (by decide)
  simp only [digits?, Text.any_head?_crlf hdigit, Text.dropWhile_crlf hdigit,
    Text.any_head?_crlf hword, Text.takeWhile_crlf hdigit, Text.crlf_of_notMem hplain]

/-- The integer that a text begins with ends at a line end, in whichever spelling. -/
theorem integer?_crlf : integer? text.crlf = integer? text := by
  by_cases hminus : text.head? = some '-'
  · obtain ⟨rest, rfl⟩ := List.head?_eq_some_iff.1 hminus
    rw [crlf_cons (by decide), integer?_minus, integer?_minus, digits?_crlf]
  · have hminus' : text.crlf.head? ≠ some '-' :=
      mt (Text.head?_crlf_eq_some_iff (by decide) (by decide)).1 hminus
    rw [integer?_of_head?_ne hminus, integer?_of_head?_ne hminus', digits?_crlf]

/-- A text has the same integers with either spelling of its line ends. -/
theorem integers_crlf : integers text.crlf = integers text := by
  induction text with
  | nil => rfl
  | cons c text ih =>
    by_cases hc : c = '\n'
    · have hline : ∀ x ∈ ['\r', '\n'], ¬ Announces x := by simp [Announces]
      have hfeed : ∀ x ∈ ['\n'], ¬ Announces x := by simp [Announces]
      rw [hc, Text.crlf_feed]
      exact (integers_append_of_forall hline (Text.crlf text)).trans
        (ih.trans (integers_append_of_forall hfeed text).symm)
    · rw [crlf_cons hc, integers_cons, integers_cons, ih, announced?, announced?, integer?_crlf]

/-- The default pattern finds the same integers with either spelling of the line ends. -/
theorem codes_crlf :
    codes (ofExpr Config.defaultSentinelPattern expr) text.crlf =
      codes (ofExpr Config.defaultSentinelPattern expr) text := by
  rw [codes_eq, codes_eq, integers_crlf]

end Integers

/-! ## Blocks -/

section Blocks

variable {config : Config} (hconfig : config.IsOneLine) (block : Block)

include hconfig

/-- What is concluded without integers does not depend on the line ends. -/
theorem fallback_crlf (returnType returns : Text) :
    fallback config returnType returns.crlf = fallback config returnType returns := by
  rw [fallback, fallback, Text.hasInfix_crlf hconfig.genericFailPhrase]

/-- Neither do the sentinels of a description. -/
theorem ofReturns_crlf (returns : Text) :
    ofReturns config (ofExpr Config.defaultSentinelPattern expr) block.crlf returns.crlf =
      ofReturns config (ofExpr Config.defaultSentinelPattern expr) block returns := by
  have hmarks : marksPredicate config block.crlf.name = marksPredicate config block.name :=
    Text.any_hasInfix_crlf block.name hconfig.predicateMarkers
  have htype : block.crlf.returnType = block.returnType := rfl
  simp only [ofReturns, Text.hasInfix_crlf hconfig.unboundedPhrase, codes_crlf, hmarks, htype,
    fallback_crlf hconfig]

/-- A block has the same sentinels with either spelling of its line ends. -/
theorem ofBlock?_crlf :
    ofBlock? config (ofExpr Config.defaultSentinelPattern expr) block.crlf =
      ofBlock? config (ofExpr Config.defaultSentinelPattern expr) block := by
  have hnote : block.crlf.annotation = block.annotation.map Text.crlf := rfl
  unfold ofBlock?
  rw [hnote]
  cases block.annotation with
  | none => rfl
  | some note =>
    simp only [Option.map_some, Text.isEmpty_crlf, Text.suffixFrom?_crlf hconfig.returnsMarker,
      Option.map_map, Function.comp_def, ofReturns_crlf hconfig]

end Blocks

end Sentinel

/-- A silent block stays silent, and no other one becomes silent. -/
theorem Block.isSilentVoid_crlf (block : Block) : block.crlf.isSilentVoid = block.isSilentVoid := by
  have hnote : block.crlf.annotation = block.annotation.map Text.crlf := rfl
  have htype : block.crlf.returnType = block.returnType := rfl
  unfold isSilentVoid hasAnnotation
  rw [hnote, htype]
  cases block.annotation with
  | none => rfl
  | some note => simp only [Option.map_some, Text.isEmpty_crlf]

end Sentinels
