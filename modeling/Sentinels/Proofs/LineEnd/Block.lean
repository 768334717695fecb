import Sentinels.Proofs.Block.Sequence
import Sentinels.Proofs.LineEnd.Text

/-!
# Entries and line ends

The rewriting of a text takes its entries to those of the rewritten text: each part of an entry is
rewritten, and the line of its description then ends with a carriage return and a line feed. No
other entry begins there, for what is read in the rewritten text comes from parts of the text. So
the blocks are the same but for the line ends in their names and notes (`findAll_crlf`).
-/

set_option autoImplicit false

namespace Sentinels.Block

open Pattern
open Text (crlf_cons crlf_append)

/-! ## Parts of an entry -/

/-- The division with its line ends rewritten. -/
def Division.crlf (d : Division) : Division where
  attributes := Text.crlf d.attributes
  note := Text.crlf d.note
  attributes_open := Text.notMem_crlf (by decide) d.attributes_open
  note_plain := Text.notMem_crlf (by decide) d.note_plain

/-- The description with its line ends rewritten. -/
def Description.crlf (d : Description) : Description where
  prototype := Text.crlf d.prototype
  paragraph := Text.crlf d.paragraph
  carriageReturn := true
  prototype_plain := Text.notMem_crlf (by decide) d.prototype_plain
  paragraph_plain := Text.notMem_crlf (by decide) d.paragraph_plain

/-- The entry with its line ends rewritten. -/
def Entry.crlf (e : Entry) : Entry where
  name := Text.crlf e.name
  description := e.description.crlf
  division := e.division.map Division.crlf
  name_plain := Text.notMem_crlf (by decide) e.name_plain

/-- A rewritten division is written as the rewriting of the division. -/
theorem Division.text_crlf (d : Division) : d.crlf.text = Text.crlf d.text := by
  have hstart : Text.crlf divisionStart = divisionStart := Text.crlf_of_notMem (by decide)
  have hend : Text.crlf divisionEnd = divisionEnd := Text.crlf_of_notMem (by decide)
  rw [Division.text, Division.text, crlf_append, crlf_append, crlf_append, hstart, hend,
    crlf_cons (by decide)]
  rfl

/-- A rewritten description is written as the rewriting of one that ends with a line feed. -/
theorem Description.text_crlf {d : Description} (hline : d.carriageReturn = false) :
    d.crlf.text = Text.crlf d.text := by
  have hheading : Text.crlf headingEnd = headingEnd := Text.crlf_of_notMem (by decide)
  have hprototype : Text.crlf prototypeEnd = prototypeEnd := Text.crlf_of_notMem (by decide)
  have hparagraph : Text.crlf paragraphEnd = paragraphEnd := Text.crlf_of_notMem (by decide)
  have hfeed : Text.crlf (lineEnd false) = lineEnd true := rfl
  simp only [Description.text, Description.body, hline, crlf_append, hheading, hprototype,
    hparagraph, hfeed]
  rfl

/-- A rewritten heading is written as the rewriting of the heading. -/
theorem Entry.heading_crlf (e : Entry) : e.crlf.heading = Text.crlf e.heading := by
  have hprompt : Text.crlf prompt = prompt := Text.crlf_of_notMem (by decide)
  rw [Entry.heading, Entry.heading, crlf_append, hprompt]
  rfl

/-- A rewritten entry is written as the rewriting of one that ends its line with a line feed. -/
theorem Entry.text_crlf {e : Entry} (hline : e.description.carriageReturn = false) :
    e.crlf.text = Text.crlf e.text := by
  have hdivision : e.crlf.division.elim [] Division.text =
      Text.crlf (e.division.elim [] Division.text) := by
    rw [Entry.crlf]
    cases e.division with
    | none => rfl
    | some division => exact division.text_crlf
  have hdescription : e.crlf.description = e.description.crlf := rfl
  rw [Entry.text, Entry.text, Entry.body, Entry.body, crlf_append, crlf_append, e.heading_crlf,
    hdescription, Description.text_crlf hline, hdivision]

/-! ## What begins in the rewritten text -/

section Begins

variable {text rest u : Text}

/-- The divisions that begin the rewritten text are those that begin the text, rewritten. -/
theorem Division.isPrefix_crlf_iff {d' : Division} :
    d'.text <+: rest.crlf ↔ ∃ d : Division, d.text <+: rest ∧ d' = d.crlf := by
  constructor
  · rintro ⟨u, hu⟩
    have hsplit : rest.crlf = divisionStart ++ (d'.attributes ++ (['>'] ++
        (d'.note ++ (divisionEnd ++ u)))) := by
      rw [← hu]
      simp [Division.text]
    obtain ⟨inner, rfl, hinner⟩ :=
      Text.exists_of_crlf_eq_oneLine_append (m := divisionStart) (by decide) hsplit
    obtain ⟨attributes, behind, rfl, hattributes, hbehind⟩ :=
      Text.exists_of_crlf_eq_append (m := ['>']) (by decide) (by decide) hinner
    obtain ⟨note, more, rfl, hnote, -⟩ :=
      Text.exists_of_crlf_eq_append (m := divisionEnd) (by decide) (by decide) hbehind
    obtain ⟨_, _, hopen, hplain⟩ := d'
    subst hattributes hnote
    refine ⟨⟨attributes, note, ?_, ?_⟩, ⟨more, by simp [Division.text]⟩, rfl⟩
    · exact mt (Text.mem_crlf_iff (by decide)).2 hopen
    · exact mt (Text.mem_crlf_iff (by decide)).2 hplain
  · rintro ⟨d, ⟨more, rfl⟩, rfl⟩
    rw [crlf_append, ← d.text_crlf]
    exact List.prefix_append _ _

/-- The division behind the rewritten line is that behind the line, rewritten. -/
theorem divisionAt_crlf_iff {division' : Option Division} :
    DivisionAt rest.crlf division' ↔
      ∃ division, DivisionAt rest division ∧ division' = division.map Division.crlf := by
  constructor
  · intro h
    cases division' with
    | none =>
      refine ⟨none, fun d hd => ?_, rfl⟩
      exact h d.crlf (Division.isPrefix_crlf_iff.2 ⟨d, hd, rfl⟩)
    | some d' =>
      obtain ⟨d, hd, rfl⟩ := Division.isPrefix_crlf_iff.1 h
      exact ⟨some d, hd, rfl⟩
  · rintro ⟨division, h, rfl⟩
    cases division with
    | none =>
      intro d' hd'
      obtain ⟨d, hd, -⟩ := Division.isPrefix_crlf_iff.1 hd'
      exact h d hd
    | some d => exact Division.isPrefix_crlf_iff.2 ⟨d, h, rfl⟩

/-- A line that ends in the rewritten text ended with a line feed and ends with both now. -/
theorem exists_of_crlf_eq_lineEnd_append {carriageReturn : Bool}
    (h : text.crlf = lineEnd carriageReturn ++ u) :
    carriageReturn = true ∧ ∃ rest : Text, text = '\n' :: rest ∧ rest.crlf = u := by
  cases carriageReturn with
  | false => exact absurd (congrArg List.head? h) (Text.head?_crlf_ne text)
  | true =>
    refine ⟨rfl, ?_⟩
    have hends : text.crlf = '\r' :: '\n' :: u := h
    cases text with
    | nil => simp at hends
    | cons c text =>
      by_cases hc : c = '\n'
      · rw [hc, Text.crlf_feed] at hends
        exact ⟨text, by rw [hc], (List.cons.inj (List.cons.inj hends).2).2⟩
      · rw [crlf_cons hc] at hends
        exact absurd (congrArg List.head? (List.cons.inj hends).2) (Text.head?_crlf_ne text)

/-- The entries that begin the rewritten text are those that begin the text, rewritten. -/
theorem Entry.begins_crlf_iff {e' : Entry} :
    e'.Begins text.crlf ↔
      ∃ e : Entry, e.Begins text ∧ e.description.carriageReturn = false ∧ e' = e.crlf := by
  constructor
  · rintro ⟨u, hu, hdivision'⟩
    have hsplit : text.crlf = prompt ++ (e'.name ++ (headingEnd ++ (e'.description.prototype ++
        (prototypeEnd ++ (e'.description.paragraph ++ (paragraphEnd ++
          (lineEnd e'.description.carriageReturn ++ u))))))) := by
      rw [hu]
      simp [Entry.heading, Description.text, Description.body]
    -- The tags of the entry stand in the text, so the text is cut at the same places.
    obtain ⟨heading, rfl, hheading⟩ :=
      Text.exists_of_crlf_eq_oneLine_append (m := prompt) (by decide) hsplit
    obtain ⟨name, description, rfl, hname, hdescription⟩ :=
      Text.exists_of_crlf_eq_append (m := headingEnd) (by decide) (by decide) hheading
    obtain ⟨prototype, behind, rfl, hprototype, hbehind⟩ :=
      Text.exists_of_crlf_eq_append (m := prototypeEnd) (by decide) (by decide) hdescription
    obtain ⟨paragraph, line, rfl, hparagraph, hline⟩ :=
      Text.exists_of_crlf_eq_append (m := paragraphEnd) (by decide) (by decide) hbehind
    obtain ⟨hreturn, rest, rfl, rfl⟩ := exists_of_crlf_eq_lineEnd_append hline
    obtain ⟨division, hdivision, hmap⟩ := divisionAt_crlf_iff.1 hdivision'
    obtain ⟨_, ⟨_, _, _, hprototype', hparagraph'⟩, _, hname'⟩ := e'
    subst hname hprototype hparagraph hreturn hmap
    refine ⟨⟨name, ⟨prototype, paragraph, false, ?_, ?_⟩, division, ?_⟩,
      ⟨rest, ?_, hdivision⟩, rfl, rfl⟩
    · exact mt (Text.mem_crlf_iff (by decide)).2 hprototype'
    · exact mt (Text.mem_crlf_iff (by decide)).2 hparagraph'
    · exact mt (Text.mem_crlf_iff (by decide)).2 hname'
    · simp [Entry.heading, Description.text, Description.body, lineEnd]
  · rintro ⟨e, ⟨rest, rfl, hdivision⟩, hline, rfl⟩
    refine ⟨rest.crlf, ?_, divisionAt_crlf_iff.2 ⟨e.division, hdivision, rfl⟩⟩
    have hdescription : e.crlf.description = e.description.crlf := rfl
    rw [crlf_append, crlf_append, e.heading_crlf, hdescription, Description.text_crlf hline]

end Begins

/-! ## The entries of the rewritten text -/

/-- In a text without carriage returns lines end with a line feed alone. -/
theorem Entry.Begins.carriageReturn_eq_false {e : Entry} {text : Text} (h : e.Begins text)
    (hreturn : '\r' ∉ text) : e.description.carriageReturn = false := by
  obtain ⟨rest, rfl, -⟩ := h
  by_contra hline
  have hends : lineEnd e.description.carriageReturn = ['\r', '\n'] := by
    rw [lineEnd, if_pos (Bool.eq_true_of_not_eq_false hline)]
  exact hreturn (by simp [Description.text, Description.body, hends])

/-- The entries of the rewritten text are those of the text, rewritten. -/
theorem EntriesOf.crlf {text : Text} {entries : List Entry} (h : EntriesOf text entries)
    (hreturn : '\r' ∉ text) : EntriesOf text.crlf (entries.map Entry.crlf) := by
  induction h with
  | done => exact .done
  | @pass x text entries hnone _ ih =>
    have hrest := ih fun hmem => hreturn (List.mem_cons_of_mem x hmem)
    by_cases hx : x = '\n'
    · -- No entry begins at a line end, in whichever spelling.
      rw [hx]
      exact hrest.append_left (s := ['\r', '\n']) (by decide)
    · have hnone' : ∀ e' : Entry, ¬ e'.Begins (x :: text.crlf) := by
        intro e' he'
        rw [← crlf_cons hx] at he'
        obtain ⟨e, he, -⟩ := Entry.begins_crlf_iff.1 he'
        exact hnone e he
      rw [crlf_cons hx]
      exact .pass hnone' hrest
  | @take e rest entries hbegins _ ih =>
    have hline := hbegins.carriageReturn_eq_false hreturn
    have hbegins' := Entry.begins_crlf_iff.2 ⟨e, hbegins, hline, rfl⟩
    have hrest := ih fun hmem => hreturn (List.mem_append_right _ hmem)
    rw [crlf_append, ← Entry.text_crlf hline] at hbegins' ⊢
    exact .take hbegins' hrest

/-! ## The blocks of the rewritten text -/

/-- Both characters of a line end are white space. -/
theorem isWhiteSpace_return_eq_feed :
    Unicode.isWhiteSpace '\r' = Unicode.isWhiteSpace '\n' := by
  decide

/-- The block with the line ends in its name and its note rewritten. -/
def crlf (block : Block) : Block where
  name := block.name.crlf
  returnType := block.returnType
  annotation := block.annotation.map Text.crlf

section Blocks

variable {config : Config} (hnames : ∀ part ∈ config.excludedNames, part.OneLine)

/-- The first word of a prototype ends at a line end, in whichever spelling. -/
theorem Description.returnType_crlf (d : Description) : d.crlf.returnType = d.returnType := by
  have hspace : (!Unicode.isWhiteSpace '\r') = !Unicode.isWhiteSpace '\n' :=
    congrArg not isWhiteSpace_return_eq_feed
  have hprototype : d.crlf.prototype = d.prototype.crlf := rfl
  rw [Description.returnType, hprototype, Text.dropWhile_crlf isWhiteSpace_return_eq_feed,
    Text.takeWhile_crlf (p := fun x => !Unicode.isWhiteSpace x) hspace, Text.crlf_of_notMem]
  · rfl
  · intro hmem
    exact absurd (List.mem_takeWhile_imp hmem) (by decide)

include hnames

/-- The block of a rewritten entry is the block of the entry, rewritten. -/
theorem Entry.block_crlf (e : Entry) : e.crlf.block config = (e.block config).crlf := by
  have hname : e.crlf.name.trimEnd Unicode.isWhiteSpace =
      (e.name.trimEnd Unicode.isWhiteSpace).crlf :=
    Text.trimEnd_crlf isWhiteSpace_return_eq_feed e.name
  have hexcluded : hasExcludedPart config (e.name.trimEnd Unicode.isWhiteSpace).crlf =
      hasExcludedPart config (e.name.trimEnd Unicode.isWhiteSpace) :=
    Text.any_hasInfix_crlf _ hnames
  have hnote : e.crlf.division.map Division.note =
      (e.division.map Division.note).map Text.crlf := by
    rw [Entry.crlf]
    cases e.division with
    | none => rfl
    | some division => rfl
  have htype : e.crlf.description.returnType = e.description.returnType :=
    e.description.returnType_crlf
  simp only [Entry.block, Block.crlf, hname, hexcluded, hnote, htype]
  split <;> rfl

/-- The blocks of the rewritten text are those of the text, rewritten. -/
theorem findAll_crlf {text : Text} (hreturn : '\r' ∉ text) :
    findAll config (ofExpr Config.defaultBlockPattern expr) text.crlf =
      (findAll config (ofExpr Config.defaultBlockPattern expr) text).map crlf := by
  obtain ⟨entries, hentries⟩ := exists_entriesOf text
  have hblocks : ∀ e ∈ entries, e.crlf.block config = (e.block config).crlf :=
    fun e _ => e.block_crlf hnames
  rw [(hentries.crlf hreturn).findAll_eq, hentries.findAll_eq, List.map_map, List.map_map]
  exact List.map_congr_left hblocks

end Blocks

end Sentinels.Block
