import Sentinels.Proofs.Block.Sequence
import Sentinels.Proofs.Defaults
import Sentinels.Proofs.Document.Decoration
import Sentinels.Proofs.Sentinel.Rule
import Sentinels.Proofs.Text

/-!
# The round trip of a page

A page that is written from records, with inline tags anywhere in their texts, is read back: the
inline tags are removed and the tags of the page are kept, then each record is found as one entry.
The scan for entries is at the beginning of a record again after each of them, whatever the records
hold, so the listing of the page is that of the records (`tabulate_page`).
-/

set_option autoImplicit false

namespace Sentinels

open Pattern

/-! ## Records -/

/-- What is said of a function, with inline tags anywhere in the texts. -/
structure Record where
  name : Text
  heading : Document.Decorated
  prototype : Document.Decorated
  description : Document.Decorated
  note : Option Document.Decorated
  heading_plain : heading.plain = Block.prompt ++ name

namespace Record

open Document

/-- What the division of a note begins with. -/
def noteStart : Text := "<div class=\"note\">".toList

/-- A note as it is written, if there is one. -/
def noteText (note : Option Decorated) : Text :=
  note.elim [] fun parts => noteStart ++ parts.text ++ Block.divisionEnd

/-- The record as it is written on a page. -/
def text (r : Record) : Text :=
  Block.headingStart ++ r.heading.text ++ Block.headingEnd ++ r.prototype.text ++
    Block.prototypeEnd ++ r.description.text ++ Block.paragraphEnd ++ ['\n'] ++
      noteText r.note ++ ['\n']

/-- The block that is read from the record. -/
def block (r : Record) : Block :=
  let name := r.name.rdropWhile Unicode.isWhiteSpace
  { name
    returnType := (r.prototype.plain.dropWhile Unicode.isWhiteSpace).takeWhile
      fun x => !Unicode.isWhiteSpace x
    annotation := if "UCSI".toList <:+: name then none else r.note.map Decorated.plain }

/-- The entry that is left of the record without inline tags. -/
def entry (r : Record) : Block.Entry where
  name := r.name
  description :=
    { prototype := r.prototype.plain
      paragraph := r.description.plain
      carriageReturn := false
      prototype_plain := r.prototype.bracket_notMem_plain
      paragraph_plain := r.description.bracket_notMem_plain }
  division := r.note.map fun parts =>
    { attributes := " class=\"note\"".toList
      note := parts.plain
      attributes_open := by decide
      note_plain := parts.bracket_notMem_plain }
  name_plain := fun hmem =>
    r.heading.bracket_notMem_plain (r.heading_plain ▸ List.mem_append_right Block.prompt hmem)

/-- The block of a record is that of its entry. -/
theorem block_entry (r : Record) : r.entry.block .default = r.block := by
  have hexcluded : ∀ name, Block.hasExcludedPart .default name = true ↔
      "UCSI".toList <:+: name := by
    intro name
    rw [← Text.hasInfix_iff]
    exact (Bool.or_false _).congr_left
  have hnote : r.entry.division.map Block.Division.note = r.note.map Decorated.plain := by
    rw [entry, Option.map_map]
    rfl
  simp only [Block.Entry.block, block, hnote, show r.entry.name = r.name from rfl, hexcluded,
    Text.trimEnd_eq_rdropWhile]
  rfl

/-- The tags of a page are left: the names of inline tags begin with other letters. -/
theorem leaves_pageTag {x : Char} {text : Text} (hx : x ∈ ['h', 'p', 'd'])
    (hplain : '<' ∉ x :: text) :
    Leaves Config.defaultStrippedTags ('<' :: x :: text) ('<' :: x :: text) ∧
      Leaves Config.defaultStrippedTags ('<' :: '/' :: x :: text) ('<' :: '/' :: x :: text) := by
  have hall : (['h', 'p', 'd'].all fun x =>
      Config.defaultStrippedTags.all fun name => name.head?.any (· != x)) = true := by
    decide
  have hinitial : ∀ name ∈ Config.defaultStrippedTags, name.head?.any (· != x) = true :=
    List.all_eq_true.1 (List.all_eq_true.1 hall x hx)
  have hslash : x ≠ '/' := by
    rintro rfl
    exact absurd hx (by decide)
  have hclosing : '<' ∉ '/' :: x :: text := by
    rw [List.mem_cons, not_or]
    exact ⟨by decide, hplain⟩
  exact ⟨leaves_opening hplain hslash hinitial,
    leaves_closing hclosing InlineTag.head?_ne_slash hinitial⟩

/-- The division of a note is left without inline tags. -/
theorem leaves_noteText (r : Record) :
    Leaves Config.defaultStrippedTags (noteText r.note)
      (r.entry.division.elim [] Block.Division.text) := by
  have hstart : Leaves Config.defaultStrippedTags noteStart noteStart :=
    (leaves_pageTag (by decide) (show '<' ∉ 'd' :: "iv class=\"note\">".toList by decide)).1
  have hend : Leaves Config.defaultStrippedTags Block.divisionEnd Block.divisionEnd :=
    (leaves_pageTag (by decide) (show '<' ∉ 'd' :: "iv>".toList by decide)).2
  rw [entry]
  cases r.note with
  | none => exact leaves_nil
  | some parts => exact (hstart.append parts.leaves).append hend

/-- Nothing but the entry is left of a record. -/
theorem leaves_section (r : Record) :
    Leaves Config.defaultStrippedTags r.text r.entry.section := by
  have hheading := leaves_pageTag (by decide) (show '<' ∉ 'h' :: "3>".toList by decide)
  have hprogram := leaves_pageTag (by decide)
    (show '<' ∉ 'p' :: "re class=\"programlisting\">".toList by decide)
  have hprototype := leaves_pageTag (by decide) (show '<' ∉ 'p' :: "re>".toList by decide)
  have hparagraph := leaves_pageTag (by decide) (show '<' ∉ 'p' :: ">".toList by decide)
  have hline : Leaves Config.defaultStrippedTags ['\n'] ['\n'] := leaves_plain (by decide)
  have hwhole := ((((((((hheading.1.append r.heading.leaves).append
    (hheading.2.append hprogram.1)).append r.prototype.leaves).append
    (hprototype.2.append hparagraph.1)).append r.description.leaves).append
    hparagraph.2).append hline).append r.leaves_noteText).append hline
  have hsection : r.entry.section = Block.headingStart ++ r.heading.plain ++ Block.headingEnd ++
      r.prototype.plain ++ Block.prototypeEnd ++ r.description.plain ++ Block.paragraphEnd ++
        ['\n'] ++ r.entry.division.elim [] Block.Division.text ++ ['\n'] := by
    simp [Block.Entry.section, Block.Entry.text, Block.Entry.heading, Block.Entry.body,
      Block.Description.text, Block.Description.body, r.heading_plain, entry, Block.lineEnd]
  rw [hsection]
  exact hwhole

end Record

/--
**A page is read back.** Whatever the texts of the records hold but brackets, and wherever inline
tags stand in them, the run over the page succeeds, and its listing is that of the records.
-/
theorem tabulate_page (records : List Record) :
    ∃ sentinels, compile Config.defaultSentinelPattern = .ok sentinels ∧
      tabulate .default (records.flatMap Record.text) =
        .ok (Text.join ['\n'] (Listing.lines .default
          (Extraction.ofBlocks .default sentinels (records.map Record.block))) ++ ['\n']) := by
  have hleft := (Document.leaves_flatMap fun r (_ : r ∈ records) => r.leaves_section).flatMap_rest
  have hblocks : (records.map Record.entry).map (Block.Entry.block .default) =
      records.map Record.block := by
    rw [List.map_map]
    exact List.map_congr_left fun r _ => r.block_entry
  refine ⟨_, Sentinel.compile_defaultSentinelPattern, ?_⟩
  rw [tabulate_default, hleft, ← List.flatMap_map, Block.findAll_sections, hblocks]
  rfl

namespace Record

open Document.Decorated

/-- A function whose name marks a predicate; tags stand inside of words, one with an attribute. -/
def predicate : Record where
  name := "xmlHasProp".toList
  heading := ofPlain "Func".toList (by decide) ++
    ofTag ⟨false, ['a'], " name=\"x\"".toList, by decide, by decide, by decide +kernel⟩ ++
      ofPlain "tion: xmlHas".toList (by decide) ++
        ofTag (.bare true ['a'] (by decide)) ++ ofPlain "Prop".toList (by decide)
  prototype := ofPlain "in".toList (by decide) ++
    ofTag (.bare false ['t', 't'] (by decide)) ++
      ofPlain "t\txml".toList (by decide) ++
        ofTag (.bare true ['t', 't'] (by decide)) ++
          ofPlain "HasProp()".toList (by decide)
  description := ofPlain "Sear".toList (by decide) ++
    ofTag ⟨false, ['b', 'r'], ['/'], by decide, by decide, by decide +kernel⟩ ++
      ofPlain "ches.".toList (by decide)
  note := some (ofPlain "Re".toList (by decide) ++
    ofTag (.bare false ['i'] (by decide)) ++
      ofPlain "turns: -".toList (by decide) ++
        ofTag (.bare true ['i'] (by decide)) ++ ofPlain ['1'] (by decide))
  heading_plain := rfl

/-- A function that returns nothing, with a tag that is not closed and without a note. -/
def procedure : Record where
  name := "xmlFree".toList
  heading := ofPlain "Function: xmlFree".toList (by decide)
  prototype := ofPlain "vo".toList (by decide) ++
    ofTag (.bare false "span".toList (by decide)) ++
      ofPlain "id xmlFree()".toList (by decide)
  description := []
  note := none
  heading_plain := rfl

end Record

/--
A page of two records with inline tags inside of words: a predicate whose note gives a code, and a
function without a note that returns nothing.
-/
theorem tabulate_page_decorated :
    ∃ records : List Record,
      records.flatMap Record.text =
        "<h3>Func<a name=\"x\">tion: xmlHas</a>Prop</h3><pre class=\"programlisting\">".toList ++
          "in<tt>t\txml</tt>HasProp()</pre><p>Sear<br/>ches.</p>\n".toList ++
          "<div class=\"note\">Re<i>turns: -</i>1</div>\n".toList ++
          "<h3>Function: xmlFree</h3><pre class=\"programlisting\">".toList ++
          "vo<span>id xmlFree()</pre><p></p>\n\n".toList ∧
      tabulate .default (records.flatMap Record.text) = .ok (Text.join ['\n']
        ["#include \"std_errors_head.h\"".toList,
          "int xmlHasProp_man_errors[] = \x7b-1, 0, 12345\x7d;".toList,
          [],
          "struct sys_errors errors_man[] = \x7b".toList,
          "\x7b \"xmlHasProp\", xmlHasProp_man_errors \x7d,".toList,
          "\x7d;".toList,
          "/* void functions without return annotation: 1 */".toList] ++ ['\n']) := by
  obtain ⟨sentinels, hcompile, hlisting⟩ := tabulate_page [.predicate, .procedure]
  obtain rfl := Except.ok.inj (Sentinel.compile_defaultSentinelPattern.symm.trans hcompile)
  have hblocks : [Record.predicate, .procedure].map Record.block =
      [⟨"xmlHasProp".toList, "int".toList, some "Returns: -1".toList⟩,
        ⟨"xmlFree".toList, "void".toList, none⟩] := by
    decide +kernel
  have hfound : Extraction.ofBlocks .default
      (ofExpr Config.defaultSentinelPattern Sentinel.expr)
        ([Record.predicate, .procedure].map Record.block) =
      ⟨[("xmlHasProp".toList, [.code "-1".toList, .code ['0']])], 1⟩ := by
    rw [hblocks, Sentinel.ofBlocks_eq_foldl]
    decide +kernel
  refine ⟨[.predicate, .procedure], by decide +kernel, ?_⟩
  rw [hlisting, hfound]
  rfl

end Sentinels
