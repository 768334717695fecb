import Sentinels.Block
import Sentinels.Proofs.Pattern.Progress
import Sentinels.Proofs.Text

/-!
# The block of a match

What the block of a match holds follows from what the groups of the match took, whatever pattern
matched. The name loses the white space at its end; a note is kept unless the name is excluded.
-/

set_option autoImplicit false

namespace Sentinels.Block

open Pattern

variable {config : Config} {text : Text} {m : Match}

/-- A name is excluded if one of the excluded names occurs in it. -/
theorem hasExcludedPart_iff {name : Text} :
    hasExcludedPart config name = true ↔ ∃ part ∈ config.excludedNames, part <:+: name := by
  simp [hasExcludedPart, Text.hasInfix_iff]

/-- The name of a block is what its group took, without the white space at the end. -/
theorem name_ofMatch (config : Config) (m : Match) :
    (ofMatch config m).name =
      ((m.group? PatternSet.nameGroup).getD []).rdropWhile Unicode.isWhiteSpace :=
  Text.trimEnd_eq_rdropWhile _ _

/-- The note of a block is what its group took, unless the name is excluded. -/
theorem annotation_ofMatch (config : Config) (m : Match) :
    Block.annotation (ofMatch config m) =
      if hasExcludedPart config (ofMatch config m).name then none
      else m.group? PatternSet.noteGroup := rfl

/-- The name of a block stands in the text of the match. -/
theorem name_ofMatch_isInfix (config : Config) (hm : m.LiesIn text) :
    (ofMatch config m).name <:+: text := by
  have htrim : (ofMatch config m).name <+: (m.group? PatternSet.nameGroup).getD [] :=
    Text.trimEnd_isPrefix _ _
  refine htrim.isInfix.trans ?_
  cases htaken : m.group? PatternSet.nameGroup with
  | none => exact List.nil_infix
  | some taken => exact hm.group?_isInfix htaken

/-- The name of a block does not end in white space. -/
theorem isWhiteSpace_getLast?_name (config : Config) (m : Match) :
    ∀ c, (ofMatch config m).name.getLast? = some c → Unicode.isWhiteSpace c = false := by
  intro c hc
  rw [name_ofMatch] at hc
  have hne : ((m.group? PatternSet.nameGroup).getD []).rdropWhile Unicode.isWhiteSpace ≠ [] := by
    intro hnil
    simp [hnil] at hc
  have hlast := List.rdropWhile_last_not Unicode.isWhiteSpace _ hne
  rw [List.getLast?_eq_some_getLast hne] at hc
  rw [← Option.some.inj hc]
  exact Bool.eq_false_iff.2 hlast

/-- The return type of a block stands in the text of the match; without a group it is empty. -/
theorem returnType_ofMatch_isInfix (config : Config) (hm : m.LiesIn text) :
    (ofMatch config m).returnType <:+: text := by
  have htype : (ofMatch config m).returnType = (m.group? PatternSet.returnTypeGroup).getD [] := rfl
  rw [htype]
  cases htaken : m.group? PatternSet.returnTypeGroup with
  | none => exact List.nil_infix
  | some taken => exact hm.group?_isInfix htaken

/-- A note that is kept is what its group took, and the name is not excluded. -/
theorem group?_of_annotation {note : Text} (h : Block.annotation (ofMatch config m) = some note) :
    m.group? PatternSet.noteGroup = some note ∧
      ∀ part ∈ config.excludedNames, ¬ part <:+: (ofMatch config m).name := by
  rw [annotation_ofMatch] at h
  split at h
  · simp at h
  · next hnot =>
    refine ⟨h, fun part hpart hinfix => hnot ?_⟩
    exact hasExcludedPart_iff.2 ⟨part, hpart, hinfix⟩

end Sentinels.Block
