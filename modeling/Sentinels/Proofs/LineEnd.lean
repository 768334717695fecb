import Sentinels.Proofs.Defaults
import Sentinels.Proofs.Extraction.Rename
import Sentinels.Proofs.LineEnd.Document
import Sentinels.Proofs.LineEnd.Sentinel

/-!
# Documents with carriage returns

A document may end its lines with a line feed alone or with a carriage return in front of it. Under
the default configuration every step of a run treats the two spellings alike: what is left without
tags, the blocks and the table differ in the line ends within texts and names, and the listing is
the same unless a name holds a line end (`report_crlf`).
-/

set_option autoImplicit false

namespace Sentinels

open Pattern

/-- The names of inline tags stand in one line. -/
theorem Document.oneLine_of_mem : ∀ name ∈ Config.defaultStrippedTags, name.OneLine := by
  decide

/-- No carriage return is brought in when tags are removed. -/
theorem Document.notMem_flatMap_rest {x : Char} {text : Text} (h : x ∉ text) (names : List Text) :
    x ∉ (scan names text).flatMap Piece.rest := by
  have hsublist := flatMap_rest_sublist (scan names text)
  rw [flatMap_text_scan] at hsublist
  exact fun hmem => h (hsublist.subset hmem)

/-- A rewritten block is read like the block, under the rewritten name. -/
theorem Extraction.isRenamed_crlf {config : Config} (hconfig : config.IsOneLine) (block : Block) :
    IsRenamed config (ofExpr Config.defaultSentinelPattern Sentinel.expr) Text.crlf block
      block.crlf where
  name_eq := rfl
  values_eq := Sentinel.ofBlock?_crlf hconfig block
  silent_eq := block.isSilentVoid_crlf

/-- A rewritten block whose name stands in one line is read like the block. -/
theorem Extraction.isRenamed_id_crlf {config : Config} (hconfig : config.IsOneLine) {block : Block}
    (hname : '\n' ∉ block.name) :
    IsRenamed config (ofExpr Config.defaultSentinelPattern Sentinel.expr) id block
      block.crlf where
  name_eq := Text.crlf_of_notMem hname
  values_eq := Sentinel.ofBlock?_crlf hconfig block
  silent_eq := block.isSilentVoid_crlf

/--
**Line ends may be spelled in two ways.** If a document without carriage returns gets one in front
of every line feed, then what is left without tags, the names and the notes of the blocks and the
names in the table get them as well, and nothing else changes. So the listing stays the same if no
name of a block holds a line feed.
-/
theorem report_crlf (document : Text) (hreturn : '\r' ∉ document) :
    ∃ feeds returns : Report, report .default document = .ok feeds ∧
      report .default document.crlf = .ok returns ∧
      returns.stripped = feeds.stripped.crlf ∧
      returns.blocks = feeds.blocks.map Block.crlf ∧
      returns.extraction = feeds.extraction.rename Text.crlf ∧
      ((∀ block ∈ feeds.blocks, '\n' ∉ block.name) →
        ∃ listing, tabulate .default document = .ok listing ∧
          tabulate .default document.crlf = .ok listing) := by
  obtain ⟨feeds, hfeeds⟩ := Report.exists_isDefault document
  obtain ⟨returns, hreturns⟩ := Report.exists_isDefault document.crlf
  have hstripped : returns.stripped = feeds.stripped.crlf := by
    rw [hreturns.stripped_eq, hfeeds.stripped_eq]
    exact Document.flatMap_rest_scan_crlf Document.oneLine_of_mem document
  have hplain : '\r' ∉ feeds.stripped := by
    rw [hfeeds.stripped_eq]
    exact Document.notMem_flatMap_rest hreturn Config.defaultStrippedTags
  have hblocks : returns.blocks = feeds.blocks.map Block.crlf := by
    rw [hreturns.blocks_eq, hfeeds.blocks_eq, hstripped]
    exact Block.findAll_crlf Config.isOneLine_default.excludedNames hplain
  have hextraction : returns.extraction = feeds.extraction.rename Text.crlf := by
    rw [hreturns.extraction_eq, hfeeds.extraction_eq, hblocks]
    exact Extraction.ofBlocks_rename Text.crlf_injective fun block _ =>
      Extraction.isRenamed_crlf Config.isOneLine_default block
  refine ⟨feeds, returns, hfeeds.report_eq, hreturns.report_eq, hstripped, hblocks, hextraction,
    fun hnames => ⟨_, hfeeds.tabulate_eq, ?_⟩⟩
  have hsame : returns.extraction = feeds.extraction := by
    have hrenamed := Extraction.ofBlocks_rename Function.injective_id fun block hblock =>
      Extraction.isRenamed_id_crlf Config.isOneLine_default (hnames block hblock)
    rw [hreturns.extraction_eq, hblocks, hrenamed, hfeeds.extraction_eq, Extraction.rename_id]
  rw [hreturns.tabulate_eq, hsame]

/-- A page with line ends in a prototype, in a tag, behind a paragraph and in a note. -/
theorem report_crlf_page :
    ∃ (page : Text) (feeds returns : Report),
      page = "Function: F</h3><pre class=\"programlisting\">int\nF</pre>".toList ++
        "<p>A<br\n></p>\n<div>Returns: -1\n</div>\n".toList ∧
      report .default page = .ok feeds ∧ report .default page.crlf = .ok returns ∧
      feeds.blocks = [⟨"F".toList, "int".toList, some "Returns: -1\n".toList⟩] ∧
      returns.blocks = [⟨"F".toList, "int".toList, some "Returns: -1\r\n".toList⟩] ∧
      ∃ listing, tabulate .default page = .ok listing ∧
        tabulate .default page.crlf = .ok listing := by
  generalize hpage : "Function: F</h3><pre class=\"programlisting\">int\nF</pre>".toList ++
    "<p>A<br\n></p>\n<div>Returns: -1\n</div>\n".toList = page
  have hreturn : '\r' ∉ page := by
    rw [← hpage]
    decide
  obtain ⟨feeds, returns, hfeeds, hreturns, -, hblocks, -, hlisting⟩ := report_crlf page hreturn
  have hdefault := Report.isDefault_of_report_eq hfeeds
  let entry : Block.Entry :=
    { name := "F".toList
      description := ⟨"int\nF".toList, "A".toList, false, by decide, by decide⟩
      division := some ⟨[], "Returns: -1\n".toList, by decide, by decide⟩
      name_plain := by decide }
  have hstripped : feeds.stripped = [] ++ (entry.text ++ ['\n']) := by
    rw [hdefault.stripped_eq, ← hpage]
    decide +kernel
  have hone : feeds.blocks = [⟨"F".toList, "int".toList, some "Returns: -1\n".toList⟩] := by
    rw [hdefault.blocks_eq_singleton entry (by decide) (by decide) hstripped]
    decide +kernel
  refine ⟨page, feeds, returns, rfl, hfeeds, hreturns, hone, ?_, hlisting ?_⟩
  · rw [hblocks, hone]
    decide
  · rw [hone]
    decide

end Sentinels
