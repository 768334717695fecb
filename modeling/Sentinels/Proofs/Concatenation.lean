import Sentinels.Proofs.Block.Seam
import Sentinels.Proofs.Defaults
import Sentinels.Proofs.Extraction.Merge
import Sentinels.Proofs.Sentinel.Rule

/-!
# Documents in a row

A document that ends with its last tag may be followed by another one: under the default
configuration nothing is read across the seam. The tags of the first document are removed as if it
stood alone, its last tag is kept, so its blocks are found as if it stood alone, and the extraction
of both is merged from those of the two (`report_append`).
-/

set_option autoImplicit false

namespace Sentinels

open Pattern

namespace Document

/-- No inline tag has a bracket in its name. -/
theorem bracket_notMem_of_mem : ∀ name ∈ Config.defaultStrippedTags, '>' ∉ name := by
  decide

/-- The last tag of a page is no inline tag. -/
theorem leaves_pageEnd : Leaves Config.defaultStrippedTags Block.pageEnd Block.pageEnd :=
  leaves_closing (show '<' ∉ '/' :: 'h' :: "tml>".toList by decide) (by decide) (by decide)

/-- A page whose brackets are closed one after the other is left with its last tag. -/
theorem pageEnd_isSuffix_flatMap_rest {page : Text} (h : Bracketed page)
    (hend : Block.pageEnd <:+ page) :
    Block.pageEnd <:+ (scan Config.defaultStrippedTags page).flatMap Piece.rest := by
  obtain ⟨front, rfl⟩ := hend
  have hfront : Closed front := (Bracketed.of_append h).closed
  have hleft := (hfront.leaves bracket_notMem_of_mem).append leaves_pageEnd
  rw [hleft.flatMap_rest]
  exact List.suffix_append _ _

end Document

/--
**Documents in a row.** If every bracket of a document is closed before the next one is opened and
the document ends with its last tag, then a run over it and any text behind it finds the blocks of
the one and then those of the other. Its listing is that of the merged extraction: the counts are
added, the names of the document come first, then those of the text behind it that are new, and
under each name the values of the document come first.
-/
theorem report_append (document behind : Text) (hbrackets : Document.Bracketed document)
    (hend : "</html>".toList <:+ document) :
    ∃ first second both : Report, report .default document = .ok first ∧
      report .default behind = .ok second ∧ report .default (document ++ behind) = .ok both ∧
      both.stripped = first.stripped ++ second.stripped ∧
      both.blocks = first.blocks ++ second.blocks ∧
      both.extraction = first.extraction.merge second.extraction ∧
      tabulate .default (document ++ behind) =
        .ok (Listing.text .default (first.extraction.merge second.extraction)) := by
  obtain ⟨first, hfirst⟩ := Report.exists_isDefault document
  obtain ⟨second, hsecond⟩ := Report.exists_isDefault behind
  obtain ⟨both, hboth⟩ := Report.exists_isDefault (document ++ behind)
  have hstripped : both.stripped = first.stripped ++ second.stripped := by
    rw [hboth.stripped_eq, hfirst.stripped_eq, hsecond.stripped_eq,
      Document.scan_append Document.bracket_notMem_of_mem hbrackets.closed, List.flatMap_append]
  have hpage : Document.Bracketed first.stripped := by
    rw [hfirst.stripped_eq]
    exact hbrackets.flatMap_rest
  have hlast : Block.pageEnd <:+ first.stripped := by
    rw [hfirst.stripped_eq]
    exact Document.pageEnd_isSuffix_flatMap_rest hbrackets hend
  have hblocks : both.blocks = first.blocks ++ second.blocks := by
    rw [hboth.blocks_eq, hfirst.blocks_eq, hsecond.blocks_eq, hstripped]
    exact Block.findAll_append hpage hlast .default second.stripped
  have hextraction : both.extraction = first.extraction.merge second.extraction := by
    rw [hboth.extraction_eq, hfirst.extraction_eq, hsecond.extraction_eq, hblocks]
    exact Extraction.ofBlocks_append .default _ first.blocks second.blocks
  refine ⟨first, second, both, hfirst.report_eq, hsecond.report_eq, hboth.report_eq, hstripped,
    hblocks, hextraction, ?_⟩
  rw [hboth.tabulate_eq, hextraction]

/-- An entry with an attribute in the division of its note. -/
def attributedEntry : Block.Entry where
  name := ['F']
  description := ⟨"int\nF(a)".toList, "A.".toList, false, by decide, by decide⟩
  division := some ⟨" id=x".toList, "Returns: -1".toList, by decide, by decide⟩
  name_plain := by decide

/-- Another entry for the same function, with another attribute. -/
def laterEntry : Block.Entry where
  name := ['F']
  description := ⟨"int\tF".toList, ['B'], false, by decide, by decide⟩
  division := some ⟨" id=y".toList, "Returns 2".toList, by decide, by decide⟩
  name_plain := by decide

/--
Two pages with a function of the same name, the first with an inline tag, both with an attribute:
the values of the second page come behind those of the first.
-/
theorem report_append_pages :
    ∃ (page behind : Text) (first second both : Report),
      page = "<h3>Function: F</h3><pre class=\"programlisting\">int\nF(a)</pre>".toList ++
        "<p>A<br>.</p>\n<div id=x>Returns: -1</div>\n</html>".toList ∧
      behind = "Function: F</h3><pre class=\"programlisting\">int\tF</pre>".toList ++
        "<p>B</p>\n<div id=y>Returns 2</div>\n".toList ∧
      report .default page = .ok first ∧ report .default behind = .ok second ∧
      report .default (page ++ behind) = .ok both ∧
      both.blocks = [⟨['F'], "int".toList, some "Returns: -1".toList⟩,
        ⟨['F'], "int".toList, some "Returns 2".toList⟩] ∧
      first.extraction.table = [(['F'], [.code "-1".toList])] ∧
      second.extraction.table = [(['F'], [.code ['2']])] ∧
      tabulate .default (page ++ behind) =
        .ok (Listing.text .default ⟨[(['F'], [.code "-1".toList, .code ['2']])], 0⟩) := by
  generalize hpage : "<h3>Function: F</h3><pre class=\"programlisting\">int\nF(a)</pre>".toList ++
    "<p>A<br>.</p>\n<div id=x>Returns: -1</div>\n</html>".toList = page
  generalize hbehind : "Function: F</h3><pre class=\"programlisting\">int\tF</pre>".toList ++
    "<p>B</p>\n<div id=y>Returns 2</div>\n".toList = behind
  have hbrackets : Document.Bracketed page := by
    rw [← hpage]
    decide
  have hend : "</html>".toList <:+ page := by
    rw [← hpage]
    decide
  obtain ⟨first, second, both, hfirst, hsecond, hboth, -, hblocks, -, hlisting⟩ :=
    report_append page behind hbrackets hend
  have hisFirst := Report.isDefault_of_report_eq hfirst
  have hisSecond := Report.isDefault_of_report_eq hsecond
  have hfirstBlocks : first.blocks = [⟨['F'], "int".toList, some "Returns: -1".toList⟩] := by
    have hstripped :
        first.stripped = "<h3>".toList ++ (attributedEntry.text ++ '\n' :: "</html>".toList) := by
      rw [hisFirst.stripped_eq, ← hpage]
      decide +kernel
    rw [hisFirst.blocks_eq_singleton attributedEntry (by decide) (by decide) hstripped]
    decide +kernel
  have hsecondBlocks : second.blocks = [⟨['F'], "int".toList, some "Returns 2".toList⟩] := by
    have hstripped : second.stripped = [] ++ (laterEntry.text ++ ['\n']) := by
      rw [hisSecond.stripped_eq, ← hbehind]
      decide +kernel
    rw [hisSecond.blocks_eq_singleton laterEntry (by decide) (by decide) hstripped]
    decide +kernel
  have hfirstFound : first.extraction = ⟨[(['F'], [.code "-1".toList])], 0⟩ := by
    rw [hisFirst.extraction_eq, hfirstBlocks, Sentinel.ofBlocks_eq_foldl]
    decide +kernel
  have hsecondFound : second.extraction = ⟨[(['F'], [.code ['2']])], 0⟩ := by
    rw [hisSecond.extraction_eq, hsecondBlocks, Sentinel.ofBlocks_eq_foldl]
    decide +kernel
  refine ⟨page, behind, first, second, both, rfl, rfl, hfirst, hsecond, hboth, ?_, ?_, ?_, ?_⟩
  · rw [hblocks, hfirstBlocks, hsecondBlocks]
    rfl
  · rw [hfirstFound]
  · rw [hsecondFound]
  · rw [hlisting, hfirstFound, hsecondFound]
    rfl

end Sentinels
