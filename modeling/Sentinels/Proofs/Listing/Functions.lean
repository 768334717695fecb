import Sentinels.Proofs.Block.Match
import Sentinels.Proofs.Block.Sequence
import Sentinels.Proofs.Defaults
import Sentinels.Proofs.Extraction.GroupBy
import Sentinels.Proofs.Sentinel.Rule
import Sentinels.Report

/-!
# The functions of a listing

A listing defines one array for each function and pairs each function with its array in a row. Under
every configuration the arrays and the rows are those of the same functions, none of which is
listed twice, is without sentinels or has an excluded name; the number at the end counts the silent
functions, and a function with an excluded name is silent whatever its note is
(`tabulate_lists_functions_once`).
-/

set_option autoImplicit false

namespace Sentinels

open Pattern

/-! ## Excluded names -/

section Excluded

variable {config : Config} {pattern : Pattern} {m : Match}

/-- Nothing is read from a block without a note. -/
theorem Extraction.Contributes.exists_annotation {block : Block}
    (h : Extraction.Contributes config pattern block) : ∃ note, block.annotation = some note := by
  obtain ⟨first, rest, hread⟩ := h
  cases hnote : block.annotation with
  | none => simp [Sentinel.ofBlock?, hnote] at hread
  | some note => exact ⟨note, rfl⟩

/-- A block with an excluded name has no note, so it contributes nothing. -/
theorem Extraction.Contributes.not_isInfix
    (h : Extraction.Contributes config pattern (Block.ofMatch config m)) :
    ∀ part ∈ config.excludedNames, ¬ part <:+: (Block.ofMatch config m).name := by
  obtain ⟨note, hnote⟩ := h.exists_annotation
  exact (Block.group?_of_annotation hnote).2

/-- Does a match describe a function that returns nothing and of which nothing is said? -/
def Block.IsSilentMatch (config : Config) (m : Match) : Prop :=
  m.group? PatternSet.returnTypeGroup = some "void".toList ∧
    ((∃ part ∈ config.excludedNames, part <:+:
        ((m.group? PatternSet.nameGroup).getD []).rdropWhile Unicode.isWhiteSpace) ∨
      m.group? PatternSet.noteGroup = none ∨ m.group? PatternSet.noteGroup = some [])

instance (config : Config) : DecidablePred (Block.IsSilentMatch config) := fun m => by
  unfold Block.IsSilentMatch
  infer_instance

/-- The silent blocks are those of the silent matches. -/
theorem Block.isSilentVoid_ofMatch :
    Extraction.IsSilentVoid (Block.ofMatch config m) ↔ Block.IsSilentMatch config m := by
  have hvoid : (Block.ofMatch config m).returnType = "void".toList ↔
      m.group? PatternSet.returnTypeGroup = some "void".toList := by
    have htype : (Block.ofMatch config m).returnType =
        (m.group? PatternSet.returnTypeGroup).getD [] := rfl
    rw [htype]
    cases m.group? PatternSet.returnTypeGroup <;> simp
  have hnote : (Block.annotation (Block.ofMatch config m) = none ∨
      Block.annotation (Block.ofMatch config m) = some []) ↔
      (∃ part ∈ config.excludedNames, part <:+: (Block.ofMatch config m).name) ∨
        m.group? PatternSet.noteGroup = none ∨ m.group? PatternSet.noteGroup = some [] := by
    rw [Block.annotation_ofMatch, ← Block.hasExcludedPart_iff]
    by_cases hexcluded : Block.hasExcludedPart config (Block.ofMatch config m).name = true <;>
      simp [hexcluded]
  unfold Extraction.IsSilentVoid Block.IsSilentMatch
  rw [hvoid, hnote, Block.name_ofMatch]

end Excluded

/-! ## The lines of a listing -/

/-- The listing of a table and a count. -/
theorem Listing.text_mk (config : Config) (table : Table) (count : Nat) :
    Listing.text config ⟨table, count⟩ = Text.join ['\n']
        (["#include \"".toList ++ config.header ++ "\"".toList] ++
          table.map (fun entry => "int ".toList ++ entry.1 ++ config.arraySuffix ++
            "[] = \x7b".toList ++ Text.join ", ".toList
              (entry.2.map Sentinel.text ++ [Text.ofInt config.terminator]) ++ "\x7d;".toList) ++
          [[], "struct ".toList ++ config.structType ++ " ".toList ++ config.tableName ++
            "[] = \x7b".toList] ++
          table.map (fun entry => "\x7b \"".toList ++ entry.1 ++ "\", ".toList ++
            entry.1 ++ config.arraySuffix ++ " \x7d,".toList) ++
          ["\x7d;".toList, "/* void functions without return annotation: ".toList ++
            Text.ofNat count ++ " */".toList]) ++ ['\n'] := by
  have hopen : "[] = \x7b".toList = "[] = ".toList ++ ['{'] := rfl
  unfold Listing.text Listing.lines Listing.arrayLine Listing.row Listing.items Listing.arrayName
    Listing.includeLine Listing.tableLine Listing.countLine
  simp only [hopen, List.append_assoc]
  rfl

/-- The output of a run whose patterns compile. -/
theorem tabulate_of_ofConfig {config : Config} {patterns : PatternSet} (document : Text)
    (h : PatternSet.ofConfig config = .ok patterns) :
    tabulate config document = .ok (Listing.text config
      (Extraction.ofBlocks config patterns.sentinel (Block.findAll config patterns.block
        (Document.withoutTags patterns.tags
          (if config.normalize then Document.normalized document else document))))) := by
  rw [tabulate, report, h]
  rfl

/-! ## The table of a text -/

section Table

variable (config : Config) (patterns : PatternSet) (text : Text)

/-- The functions in the table of a text have sentinels, and none of their names is excluded. -/
theorem Extraction.mem_grouped_findAll {name : Text} {values : List Sentinel}
    (h : (name, values) ∈
      grouped config patterns.sentinel (Block.findAll config patterns.block text)) :
    values ≠ [] ∧ ∀ part ∈ config.excludedNames, ¬ part <:+: name := by
  obtain ⟨key, hkey, heq⟩ := List.mem_map.1 h
  obtain ⟨rfl, rfl⟩ := Prod.mk.inj heq
  refine ⟨valuesOf_ne_nil config patterns.sentinel hkey, ?_⟩
  obtain ⟨block, hblock, hgives, rfl⟩ := (mem_contributors config patterns.sentinel).1 hkey
  obtain ⟨m, -, rfl⟩ := List.mem_map.1 hblock
  exact hgives.not_isInfix

/-- The silent blocks of a text are as many as the silent matches. -/
theorem Block.countP_isSilentVoid_findAll (pattern : Pattern) :
    (Block.findAll config pattern text).countP Extraction.IsSilentVoid =
      (pattern.findAll text).countP (Block.IsSilentMatch config) := by
  rw [Block.findAll, List.countP_map]
  refine List.countP_congr fun m _ => ?_
  simp only [Function.comp_apply, decide_eq_true_eq]
  exact Block.isSilentVoid_ofMatch

end Table

/--
**The functions of a listing.** Under every configuration whose patterns compile, the lines for a
document define one array for each entry of a table and list the names of the same entries as rows
in the same order. No name occurs twice, there is a sentinel in front of each terminator, and no
name has an excluded part. The number at the end is that of the matches with the return type `void`
whose name is excluded or whose note is missing or empty.
-/
theorem tabulate_lists_functions_once (config : Config) (patterns : PatternSet) (document : Text)
    (hpatterns : PatternSet.ofConfig config = .ok patterns) :
    ∃ (table : Table) (count : Nat),
      tabulate config document = .ok (Text.join ['\n']
        (["#include \"".toList ++ config.header ++ "\"".toList] ++
          table.map (fun entry => "int ".toList ++ entry.1 ++ config.arraySuffix ++
            "[] = \x7b".toList ++ Text.join ", ".toList
              (entry.2.map Sentinel.text ++ [Text.ofInt config.terminator]) ++ "\x7d;".toList) ++
          [[], "struct ".toList ++ config.structType ++ " ".toList ++ config.tableName ++
            "[] = \x7b".toList] ++
          table.map (fun entry => "\x7b \"".toList ++ entry.1 ++ "\", ".toList ++
            entry.1 ++ config.arraySuffix ++ " \x7d,".toList) ++
          ["\x7d;".toList, "/* void functions without return annotation: ".toList ++
            Text.ofNat count ++ " */".toList]) ++ ['\n']) ∧
      table.names.Nodup ∧
      (∀ name values, (name, values) ∈ table →
        values ≠ [] ∧ ∀ part ∈ config.excludedNames, ¬ part <:+: name) ∧
      count = (patterns.block.findAll (Document.withoutTags patterns.tags
        (if config.normalize then Document.normalized document else document))).countP
          (Block.IsSilentMatch config) := by
  have houtput := tabulate_of_ofConfig document hpatterns
  generalize Document.withoutTags patterns.tags
    (if config.normalize then Document.normalized document else document) = text at houtput ⊢
  rw [Extraction.ofBlocks_eq, Listing.text_mk] at houtput
  refine ⟨_, _, houtput, ?_, ?_, Block.countP_isSilentVoid_findAll config text patterns.block⟩
  · rw [Extraction.names_grouped]
    exact Extraction.contributors_nodup config patterns.sentinel _
  · intro name values hentry
    exact Extraction.mem_grouped_findAll config patterns text hentry

/-- A configuration with a table and a terminator of its own. -/
def tableConfig : Config := { Config.default with tableName := "table".toList, terminator := 0 }

/-- Entries of a function, of one without a note and of one with an excluded name. -/
def tableEntries : List Block.Entry :=
  [ { name := "get".toList
      description := ⟨"int get".toList, "Gets.".toList, false, by decide, by decide⟩
      division := some ⟨" class=note".toList, "Returns: -1 or -2".toList, by decide, by decide⟩
      name_plain := by decide },
    { name := "set".toList
      description := ⟨"void set".toList, "Sets.".toList, false, by decide, by decide⟩
      division := none
      name_plain := by decide },
    { name := "isUCSI".toList
      description := ⟨"void isUCSI".toList, "Asks.".toList, false, by decide, by decide⟩
      division := some ⟨" class=note".toList, "Returns: 1".toList, by decide, by decide⟩
      name_plain := by decide } ]

/--
The page of these entries lists one function. The other two are counted, the one with an excluded
name in spite of its note.
-/
theorem tabulate_lists_functions_once_tableEntries :
    ∃ (table : Table) (count : Nat),
      tabulate tableConfig (tableEntries.flatMap Block.Entry.section) =
        .ok (Listing.text tableConfig ⟨table, count⟩) ∧
      Listing.text tableConfig ⟨table, count⟩ = Text.join ['\n']
        ["#include \"std_errors_head.h\"".toList,
          "int get_man_errors[] = \x7b-1, -2, 0\x7d;".toList,
          [],
          "struct sys_errors table[] = \x7b".toList,
          "\x7b \"get\", get_man_errors \x7d,".toList,
          "\x7d;".toList,
          "/* void functions without return annotation: 2 */".toList] ++ ['\n'] ∧
      table.names.Nodup ∧ count = 2 := by
  obtain ⟨tags, hdefault, hscan⟩ := PatternSet.exists_ofConfig_default
  have hpatterns : PatternSet.ofConfig tableConfig = .ok ⟨tags,
      ofExpr Config.defaultBlockPattern Block.expr,
      ofExpr Config.defaultSentinelPattern Sentinel.expr⟩ := hdefault
  obtain ⟨table, count, houtput, hnodup, -, hcount⟩ := tabulate_lists_functions_once tableConfig _
    (tableEntries.flatMap Block.Entry.section) hpatterns
  rw [← Listing.text_mk] at houtput
  have hstripped : Document.withoutTags tags (tableEntries.flatMap Block.Entry.section) =
      tableEntries.flatMap Block.Entry.section := by
    rw [hscan]
    decide +kernel
  have hblocks : Block.findAll tableConfig (ofExpr Config.defaultBlockPattern Block.expr)
      (tableEntries.flatMap Block.Entry.section) =
        [⟨"get".toList, "int".toList, some "Returns: -1 or -2".toList⟩,
          ⟨"set".toList, "void".toList, none⟩, ⟨"isUCSI".toList, "void".toList, none⟩] := by
    rw [Block.findAll_sections]
    decide +kernel
  have hlisting := tabulate_of_ofConfig (tableEntries.flatMap Block.Entry.section) hpatterns
  have hplain : (if tableConfig.normalize = true then
      Document.normalized (tableEntries.flatMap Block.Entry.section)
    else tableEntries.flatMap Block.Entry.section) = tableEntries.flatMap Block.Entry.section :=
    rfl
  rw [hplain, hstripped] at hlisting hcount
  rw [hblocks, Sentinel.ofBlocks_eq_foldl] at hlisting
  refine ⟨table, count, houtput, ?_, hnodup, ?_⟩
  · rw [← Except.ok.inj (hlisting.symm.trans houtput)]
    decide +kernel
  · rw [hcount, ← Block.countP_isSilentVoid_findAll, hblocks]
    rfl

end Sentinels
