import Sentinels.Proofs.Block.Expression
import Sentinels.Proofs.Block.Heading
import Sentinels.Proofs.Block.Match
import Mathlib.Data.List.Sort

/-!
# The blocks of a document

The blocks that the default pattern finds are those of the grammar: one for each end of a heading,
from left to right. A match begins at the first place from which a heading leads to such an end, and
since entries do not overlap, the scan meets the ends one after the other.
-/

set_option autoImplicit false

namespace Sentinels.Block

open Pattern

/-! ## Ends of headings -/

/-- The text without tags that ends at a position, as far back as it goes. -/
def runBefore (text : Text) (stop : Nat) : Text := (text.take stop).rtakeWhile (· != '<')

/-- Does a heading end at a position? A description follows and a name is announced before it. -/
def IsHeadingEnd (text : Text) (stop : Nat) : Prop :=
  DescriptionAt (text.drop stop) ∧ prompt <:+: runBefore text stop

/-- Is `name` what follows the first announcement of a name in a text? -/
def IsNameIn (run name : Text) : Prop :=
  ∃ front, run = front ++ prompt ++ name ∧
    ∀ front' name', run = front' ++ prompt ++ name' → front.length ≤ front'.length

/-- Is this the block of the entry whose heading ends at a position? -/
def IsBlockAt (config : Config) (text : Text) (stop : Nat) (block : Block) : Prop :=
  ∃ (d : Description) (rest name : Text), text.drop stop = d.text ++ rest ∧
    IsNameIn (runBefore text stop) name ∧
    block.name = name.rdropWhile Unicode.isWhiteSpace ∧
    block.returnType =
      (d.prototype.dropWhile Unicode.isWhiteSpace).takeWhile (fun x => !Unicode.isWhiteSpace x) ∧
    ∀ note, block.annotation = some note ↔
      (∃ division : Division, division.text <+: rest ∧ division.note = note) ∧
        ∀ part ∈ config.excludedNames, ¬ part <:+: block.name

/-- What a text announces first. -/
theorem exists_isNameIn {run : Text} (h : prompt <:+: run) : ∃ name, IsNameIn run name := by
  classical
  have hexists : ∃ n front name, run = front ++ prompt ++ name ∧ front.length = n := by
    obtain ⟨front, name, hrun⟩ := h
    exact ⟨front.length, front, name, hrun.symm, rfl⟩
  obtain ⟨front, name, hrun, hlength⟩ := Nat.find_spec hexists
  refine ⟨name, front, hrun, fun front' name' hrun' => ?_⟩
  rw [hlength]
  exact Nat.find_min' hexists ⟨front', name', hrun', rfl⟩

/-- A text without tags that ends at a position is the end of the longest one. -/
theorem isSuffix_runBefore {text run : Text} {stop : Nat} (hrun : run <:+ text.take stop)
    (hplain : '<' ∉ run) : run <:+ runBefore text stop := by
  obtain ⟨front, hfront⟩ := hrun
  have hall : ∀ x ∈ run.reverse, (x != '<') = true := by
    intro x hx
    rw [bne_iff_ne]
    exact ne_of_mem_of_not_mem (List.mem_reverse.1 hx) hplain
  rw [← List.reverse_prefix, runBefore, List.rtakeWhile, List.reverse_reverse, ← hfront,
    List.reverse_append, List.takeWhile_append_of_pos hall]
  exact List.prefix_append ..

/-- Where a name is announced, a heading begins that ends at the same position. -/
theorem exists_start_of_run {text front name : Text} {stop : Nat} (hstop : stop ≤ text.length)
    (hrun : runBefore text stop = front ++ prompt ++ name) :
    ∃ start, start + (prompt ++ name).length = stop ∧
      text.drop start = prompt ++ name ++ text.drop stop ∧ '<' ∉ name ∧
        start + (runBefore text stop).length = stop + front.length := by
  obtain ⟨pre, hpre⟩ := (List.rtakeWhile_suffix (· != '<') (text.take stop))
  rw [← runBefore, hrun] at hpre
  have hlength := congrArg List.length hpre
  simp only [List.length_append, List.length_take, Nat.min_eq_left hstop] at hlength
  refine ⟨pre.length + front.length, ?_, ?_, fun hmem => ?_, ?_⟩
  · rw [List.length_append]
    omega
  · conv_lhs => rw [← List.take_append_drop stop text, ← hpre]
    rw [← List.length_append]
    simp
  · have hname : '<' ∈ runBefore text stop := by
      rw [hrun]
      exact List.mem_append_right _ hmem
    simpa using List.mem_rtakeWhile_imp hname
  · rw [hrun, List.length_append, List.length_append]
    omega

/-- Every rest of a text has a division in front or none. -/
theorem exists_divisionAt (rest : Text) : ∃ division, DivisionAt rest division := by
  by_cases h : ∃ division : Division, division.text <+: rest
  · obtain ⟨division, hdivision⟩ := h
    exact ⟨some division, hdivision⟩
  · exact ⟨none, fun division hdivision => h ⟨division, hdivision⟩⟩

/-- Two divisions that begin the same text have the same note. -/
theorem Division.note_eq {d d' : Division} {rest : Text} (h : d.text <+: rest)
    (h' : d'.text <+: rest) : d.note = d'.note := by
  obtain ⟨more, rfl⟩ := h
  obtain ⟨more', heq⟩ := h'
  have hend : divisionEnd = '<' :: "/div>".toList := rfl
  simp only [Division.text, List.append_assoc, List.cons_append, hend] at heq
  obtain ⟨-, heq⟩ := Text.eq_of_append_cons_eq d'.attributes_open d.attributes_open
    (List.append_cancel_left heq)
  exact (Text.eq_of_append_cons_eq d'.note_plain d.note_plain heq).1.symm

section Entries

variable {e : Entry} {text : Text} {start stop : Nat}

/-- An entry is found at the end of its heading. -/
theorem Entry.Begins.isHeadingEnd (h : e.Begins (text.drop start)) :
    IsHeadingEnd text (start + e.heading.length) ∧
      e.heading <:+ runBefore text (start + e.heading.length) := by
  obtain ⟨rest, hrest, hdescription⟩ := h.exists_description
  have hbehind : text.drop (start + e.heading.length) = rest := by
    rw [← List.drop_drop, hrest, List.drop_left]
  have hsuffix : e.heading <:+ text.take (start + e.heading.length) := by
    rw [List.take_add, hrest, List.take_left]
    exact List.suffix_append ..
  have hrun := isSuffix_runBefore hsuffix e.heading_plain
  have hprompt : prompt <:+: e.heading := (List.prefix_append prompt e.name).isInfix
  exact ⟨⟨hbehind ▸ hdescription, hprompt.trans hrun.isInfix⟩, hrun⟩

/-- Is the entry the first of those whose headings end at a position? -/
def Entry.IsFirst (e : Entry) (text : Text) (start stop : Nat) : Prop :=
  e.Begins (text.drop start) ∧ start + e.heading.length = stop ∧
    ∀ (e' : Entry) (start' : Nat), e'.Begins (text.drop start') →
      start' + e'.heading.length = stop → start ≤ start'

/-- There is a first entry for each end of a heading. -/
theorem IsHeadingEnd.exists_isFirst (h : IsHeadingEnd text stop) :
    ∃ (e : Entry) (start : Nat), e.IsFirst text start stop := by
  obtain ⟨⟨d, rest, hrest⟩, hprompt⟩ := h
  obtain ⟨name, front, hrun, hleast⟩ := exists_isNameIn hprompt
  obtain ⟨division, hdivision⟩ := exists_divisionAt rest
  have hstop := DescriptionAt.le_length ⟨d, rest, hrest⟩
  obtain ⟨start, hlength, hdrop, hplain, hfront⟩ := exists_start_of_run hstop hrun
  refine ⟨⟨name, d, division, hplain⟩, start, ⟨rest, ?_, hdivision⟩, hlength, ?_⟩
  · rw [hdrop, hrest, Entry.heading, ← List.append_assoc]
  · intro e' start' hbegins hstop'
    obtain ⟨front', hfront'⟩ := (hstop' ▸ hbegins.isHeadingEnd).2
    have hle := hleast front' e'.name (by rw [← hfront', Entry.heading, List.append_assoc])
    have hlength' := congrArg List.length hfront'
    rw [List.length_append] at hlength'
    omega

/-- The name of the first entry is what follows the first announcement. -/
theorem Entry.IsFirst.isNameIn (h : e.IsFirst text start stop) :
    IsNameIn (runBefore text stop) e.name := by
  obtain ⟨hbegins, hlength, hleast⟩ := h
  obtain ⟨hend, front, hfront⟩ := hlength ▸ hbegins.isHeadingEnd
  rw [Entry.heading, ← List.append_assoc] at hfront
  refine ⟨front, hfront.symm, fun front' name' hrun' => ?_⟩
  obtain ⟨rest, hrest, hdescription⟩ := hbegins.exists_description
  obtain ⟨start', hlength', hdrop', hplain', hfront'⟩ :=
    exists_start_of_run hend.1.le_length hrun'
  obtain ⟨more, hmore, hdivision⟩ := hbegins
  have hbehind : text.drop stop = e.description.text ++ more := by
    rw [← hlength, ← List.drop_drop, hmore, List.append_assoc, List.drop_left]
  have hle := hleast ⟨name', e.description, e.division, hplain'⟩ start'
    ⟨more, by rw [hdrop', hbehind, Entry.heading, ← List.append_assoc], hdivision⟩ hlength'
  have hrun := congrArg List.length hfront
  simp only [List.length_append, Entry.heading] at hrun hlength
  omega

/-- The block of the first entry is that of the end of its heading. -/
theorem Entry.IsFirst.isBlockAt (h : e.IsFirst text start stop) (config : Config) :
    IsBlockAt config text stop (e.block config) := by
  have hname := h.isNameIn
  obtain ⟨⟨rest, hrest, hdivision⟩, hlength, -⟩ := h
  have hbehind : text.drop stop = e.description.text ++ rest := by
    rw [← hlength, ← List.drop_drop, hrest, List.append_assoc, List.drop_left]
  refine ⟨e.description, rest, e.name, hbehind, hname, Text.trimEnd_eq_rdropWhile _ _, rfl,
    fun note => ?_⟩
  have hnote : e.division.map Division.note = some note ↔
      ∃ division : Division, division.text <+: rest ∧ division.note = note := by
    cases hcase : e.division with
    | none =>
      rw [hcase] at hdivision
      simpa using fun division hprefix => absurd hprefix (hdivision division)
    | some division =>
      rw [hcase] at hdivision
      constructor
      · exact fun heq => ⟨division, hdivision, Option.some.inj heq⟩
      · rintro ⟨division', hdivision', rfl⟩
        exact congrArg some (Division.note_eq hdivision hdivision')
  simp only [Entry.block]
  split
  · next hpart =>
    obtain ⟨part, hmem, hinfix⟩ := hasExcludedPart_iff.1 hpart
    simpa using fun _ _ _ => ⟨part, hmem, hinfix⟩
  · next hpart =>
    rw [hnote]
    refine (and_iff_left fun part hmem hinfix => hpart ?_).symm
    exact hasExcludedPart_iff.2 ⟨part, hmem, hinfix⟩

/-- Of two first entries the one whose heading ends first ends before the other begins. -/
theorem Entry.IsFirst.add_length_le {e' : Entry} {start' stop' : Nat}
    (h : e.IsFirst text start stop) (h' : e'.IsFirst text start' stop') (hlt : stop < stop') :
    start + e.text.length ≤ start' := by
  obtain ⟨hbegins, hlength, -⟩ := h
  obtain ⟨hbegins', hlength', -⟩ := h'
  exact hbegins.add_length_le hbegins' (by omega)

end Entries

/-! ## The scan -/

section Scan

variable {e : Entry} {text : Text} {pos start stop : Nat} {stops : List Nat}

/--
What the scan has to find from a position on. No entry is cut in two by the position: every entry
behind it has its end among the stops, and each stop belongs to an entry that begins there or later.
-/
structure Ahead (text : Text) (pos : Nat) (stops : List Nat) : Prop where
  sorted : stops.Pairwise (· < ·)
  stop_mem : ∀ (e : Entry) (start : Nat), pos ≤ start → e.Begins (text.drop start) →
    start + e.heading.length ∈ stops
  exists_first : ∀ stop ∈ stops, ∃ (e : Entry) (start : Nat),
    e.IsFirst text start stop ∧ pos ≤ start

/-- From the beginning of a text on, all ends of headings are ahead. -/
theorem ahead_zero (hsorted : stops.Pairwise (· < ·))
    (hstops : ∀ stop, stop ∈ stops ↔ IsHeadingEnd text stop) : Ahead text 0 stops where
  sorted := hsorted
  stop_mem e start _ hbegins := (hstops _).2 hbegins.isHeadingEnd.1
  exists_first stop hstop := by
    obtain ⟨e, start, hfirst⟩ := ((hstops stop).1 hstop).exists_isFirst
    exact ⟨e, start, hfirst, Nat.zero_le start⟩

/-- No entry begins earlier than the first entry of the next stop. -/
theorem Ahead.not_begins (h : Ahead text pos (stop :: stops)) (hfirst : e.IsFirst text start stop)
    {early : Nat} (hpos : pos ≤ early) (hearly : early < start) (e' : Entry) :
    ¬ e'.Begins (text.drop early) := by
  intro hbegins
  rcases List.mem_cons.1 (h.stop_mem e' early hpos hbegins) with heq | hlater
  · have hle := hfirst.2.2 e' early hbegins heq
    omega
  · -- The first entry of a later stop would begin behind that of the next one.
    obtain ⟨e₂, start₂, hfirst₂, -⟩ := h.exists_first _ (List.mem_cons_of_mem stop hlater)
    have hle := hfirst₂.2.2 e' early hbegins rfl
    have hbehind := hfirst.add_length_le hfirst₂ (List.rel_of_pairwise_cons h.sorted hlater)
    omega

/-- Behind the first entry of the next stop the other stops are ahead. -/
theorem Ahead.tail (h : Ahead text pos (stop :: stops)) (hfirst : e.IsFirst text start stop)
    (hstart : pos ≤ start) : Ahead text (start + e.text.length) stops where
  sorted := h.sorted.of_cons
  stop_mem e' start' hle hbegins := by
    refine (List.mem_cons.1 (h.stop_mem e' start' (by omega) hbegins)).resolve_left fun heq => ?_
    have hlength := hfirst.2.1
    have htext : e.heading.length ≤ e.text.length := by
      rw [Entry.text, List.length_append]
      exact Nat.le_add_right ..
    have hpositive := e'.length_heading_pos
    omega
  exists_first later hlater := by
    obtain ⟨e', start', hfirst', -⟩ := h.exists_first later (List.mem_cons_of_mem stop hlater)
    exact ⟨e', start', hfirst',
      hfirst.add_length_le hfirst' (List.rel_of_pairwise_cons h.sorted hlater)⟩

variable {c : Cursor}

/-- What the pattern matches behind a position is an entry that begins there. -/
theorem exists_begins_of_first? {hit : Hit} (hc : c.LiesIn text)
    (hfound : expr.first? c = some hit) : ∃ e : Entry, e.Begins (text.drop c.pos) := by
  obtain ⟨e, hread⟩ := first?_eq_some_iff.1 hfound
  exact ⟨e, hc.rest_eq ▸ hread.begins⟩

/-- From a position on, the scan finds the entries of the stops that are ahead. -/
theorem exists_scans (config : Config) (h : Ahead text c.pos stops) (hc : c.LiesIn text) :
    ∃ ms, Scans expr.first? c ms ∧
      List.Forall₂ (IsBlockAt config text) stops (ms.map (ofMatch config)) := by
  induction stops generalizing c with
  | nil =>
    refine ⟨[], .nil_of_forall fun i hi => ?_, .nil⟩
    refine Option.eq_none_iff_forall_ne_some.2 fun hit hfound => ?_
    obtain ⟨e, hbegins⟩ := exists_begins_of_first? (hc.skip hi) hfound
    exact absurd (h.stop_mem e _ (Nat.le_add_right c.pos i) hbegins) List.not_mem_nil
  | cons stop stops ih =>
    obtain ⟨e, start, hfirst, hstart⟩ := h.exists_first stop List.mem_cons_self
    obtain ⟨n, rfl⟩ := Nat.exists_eq_add_of_le hstart
    have hn : n ≤ c.rest.length := by
      have hle := hfirst.1.isHeadingEnd.1.1.le_length
      have hlen := hc.pos_add_length
      omega
    have hhere := hc.skip hn
    have hbegins : e.Begins (c.skip n).rest := by
      rw [hhere.rest_eq]
      exact hfirst.1
    obtain ⟨hit, hread⟩ := hbegins.exists_read
    have hfound := first?_eq_some_iff.2 ⟨e, hread⟩
    have hend : hit.stop.pos = c.pos + n + e.text.length := by
      rw [hread.reads.2, Cursor.skip_pos, Cursor.skip_pos]
    obtain ⟨ms, hscans, hblocks⟩ :=
      ih (hend ▸ h.tail hfirst hstart) (Expr.liesIn_of_first? hhere hfound)
    have hpassed : ∀ i < n, expr.first? (c.skip i) = none := by
      intro i hi
      refine Option.eq_none_iff_forall_ne_some.2 fun other hother => ?_
      obtain ⟨e', hearly⟩ := exists_begins_of_first? (hc.skip (by omega)) hother
      exact h.not_begins hfirst (Nat.le_add_right c.pos i) (by omega) e' hearly
    refine ⟨⟨c.skip n, hit.stop, hit.captures⟩ :: ms,
      .pass_many hn hpassed (.take hfound hscans), ?_⟩
    rw [List.map_cons, hread.ofMatch_eq config]
    exact .cons (hfirst.isBlockAt config) hblocks

end Scan

/--
**The default pattern finds the blocks of the grammar.** It compiles, and under every configuration
the blocks of a text are, from left to right, those of the ends of its headings: one for each.
-/
theorem findAll_defaultBlockPattern :
    ∃ pattern, compile Config.defaultBlockPattern = .ok pattern ∧
      ∀ (config : Config) (text : Text), ∃ stops : List Nat, stops.Pairwise (· < ·) ∧
        (∀ stop, stop ∈ stops ↔ IsHeadingEnd text stop) ∧
          List.Forall₂ (IsBlockAt config text) stops (findAll config pattern text) := by
  classical
  refine ⟨_, compile_defaultBlockPattern, fun config text => ?_⟩
  have hmem : ∀ stop, stop ∈ (List.range (text.length + 1)).filter (IsHeadingEnd text) ↔
      IsHeadingEnd text stop := by
    intro stop
    simp only [List.mem_filter, List.mem_range, decide_eq_true_eq, and_iff_right_iff_imp]
    exact fun h => Nat.lt_succ_of_le h.1.le_length
  obtain ⟨ms, hscans, hblocks⟩ := exists_scans config
    (ahead_zero (List.pairwise_lt_range.filter _) hmem) (Cursor.liesIn_start text)
  refine ⟨_, List.pairwise_lt_range.filter _, hmem, ?_⟩
  rw [findAll, (findAll_scans text).unique hscans]
  exact hblocks

end Sentinels.Block
