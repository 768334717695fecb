import Sentinels.Proofs.Block.Entry
import Sentinels.Proofs.CharSet
import Sentinels.Proofs.Pattern.Reading

/-!
# The default block pattern

The default block pattern is read as an expression whose parts are those of an entry. It matches at
a position exactly if an entry can be read there (`first?_eq_some_iff`), and the block that is made
of the match is that of the entry.
-/

set_option autoImplicit false

namespace Sentinels.Block

open Pattern

/-- The characters that do not open a tag. -/
def notOpening : CharSet := (CharSet.singleton '<').compl

/-- The characters that do not close a tag. -/
def notClosing : CharSet := (CharSet.singleton '>').compl

/-- The characters of a word in a prototype. -/
def wordSet : CharSet := (Unicode.whiteSpace.union (CharSet.singleton '<')).compl

/-- A note goes on up to the next tag. -/
@[simp] theorem contains_notOpening (x : Char) : notOpening.contains x = (x != '<') :=
  CharSet.contains_compl_singleton (by decide) x

/-- A tag goes on up to its bracket. -/
@[simp] theorem contains_notClosing (x : Char) : notClosing.contains x = (x != '>') :=
  CharSet.contains_compl_singleton (by decide) x

/-- A word ends at white space and at the next tag. -/
@[simp] theorem contains_wordSet (x : Char) :
    wordSet.contains x = (!Unicode.isWhiteSpace x && x != '<') := by
  have hspace : CharSet.Separated Unicode.whiteSpace.ranges := by
    unfold CharSet.Separated
    decide
  have hunion : CharSet.Separated (Unicode.whiteSpace.union (CharSet.singleton '<')).ranges := by
    unfold CharSet.Separated
    decide +kernel
  rw [wordSet, CharSet.contains_compl hunion (by decide +kernel),
    CharSet.contains_union hspace (CharSet.separated_singleton _), Bool.not_or]
  simp [bne, beq_eq_decide, Unicode.isWhiteSpace]

/-- A division with a note, as an expression. -/
def divisionExpr : Expr :=
  .seq (.text divisionStart) (.seq (.span notClosing) (.seq (.text ['>'])
    (.seq (.group 3 (some PatternSet.noteGroup) (.span notOpening)) (.text divisionEnd))))

/-- A description and what may come behind it, as an expression. -/
def descriptionExpr : Expr :=
  .seq (.text headingEnd) (.seq (.span Unicode.whiteSpace)
    (.seq (.group 2 (some PatternSet.returnTypeGroup) (.span wordSet)) (.seq (.span notOpening)
      (.seq (.text prototypeEnd) (.seq (.span notOpening) (.seq (.text paragraphEnd)
        (.seq (Expr.text ['\r']).option (.seq (.text ['\n']) divisionExpr.option))))))))

/-- The default block pattern as an expression. -/
def expr : Expr :=
  .seq (.text prompt)
    (.seq (.group 1 (some PatternSet.nameGroup) (.span notOpening)) descriptionExpr)

/-- The default block pattern stands for this expression. -/
theorem exprOf_defaultBlockPattern : exprOf Config.defaultBlockPattern = .ok expr := by
  decide +kernel

/-- The default block pattern compiles. -/
theorem compile_defaultBlockPattern :
    compile Config.defaultBlockPattern = .ok (ofExpr Config.defaultBlockPattern expr) :=
  compile_eq_ok_iff.2 ⟨expr, exprOf_defaultBlockPattern, by decide +kernel, rfl⟩

/-- The expression belongs to the fragment on which the search is exact. -/
theorem flat_expr : Expr.Flat expr := by
  have hdivision : Expr.Flat divisionExpr :=
    .seq (.text _) (.seq (.star _ _) (.seq (.text _) (.seq (.group (.star _ _)) (.text _))))
  exact .seq (.text _) (.seq (.group (.star _ _)) (.seq (.text _) (.seq (.star _ _)
    (.seq (.group (.star _ _)) (.seq (.star _ _) (.seq (.text _) (.seq (.star _ _)
      (.seq (.text _) (.seq (.option (.text _)) (.seq (.text _) (.option hdivision)))))))))))

/-! ## What the expression matches -/

/-- Is this the hit of a division behind a position? It keeps the note. -/
def Division.Read (d : Division) (c : Cursor) (hit : Hit) : Prop :=
  ∃ start stop, c.Reads (divisionStart ++ d.attributes ++ ['>']) start ∧ start.Reads d.note stop ∧
    stop.Reads divisionEnd hit.stop ∧ hit.captures = [(PatternSet.noteGroup, ⟨start, stop⟩)]

/-- Is this the hit of a division that may be missing? -/
def Closes (division : Option Division) (c : Cursor) (hit : Hit) : Prop :=
  match division with
  | some division => division.Read c hit
  | none => DivisionAt c.rest none ∧ hit = .here c

/-- The first word behind a position, in front of the next tag. -/
def firstWord (c : Cursor) : Capture :=
  ⟨c.pastRun Unicode.whiteSpace.contains,
    (c.pastRun Unicode.whiteSpace.contains).pastRun wordSet.contains⟩

/-- Is this the hit of a description and what comes behind its line? It keeps the first word. -/
def Description.Read (d : Description) (division : Option Division) (c : Cursor) (hit : Hit) :
    Prop :=
  ∃ start line inner, c.Reads headingEnd start ∧ start.Reads d.body line ∧
    Closes division line inner ∧ hit = inner.after [(PatternSet.returnTypeGroup, firstWord start)]

/-- Is this the hit of an entry? It keeps the name as well. -/
def Entry.Read (e : Entry) (c : Cursor) (hit : Hit) : Prop :=
  ∃ start stop inner, c.Reads prompt start ∧ start.Reads e.name stop ∧
    e.description.Read e.division stop inner ∧
      hit = inner.after [(PatternSet.nameGroup, ⟨start, stop⟩)]

section Matching

variable {next : Cursor → Option Hit} {c : Cursor} {hit : Hit}

/-- The division matches where one begins. -/
theorem matchThen_divisionExpr_eq_some :
    divisionExpr.matchThen (fun d => some (.here d)) c = some hit ↔
      ∃ division : Division, division.Read c hit := by
  have hclosing : ['>'].head? = some '>' := rfl
  have hend : divisionEnd.head? = some '<' := rfl
  simp only [divisionExpr, Expr.matchThen_seq, Expr.matchThen_text_eq_some,
    Expr.matchThen_span_eq_some contains_notClosing (Expr.matchThen_text_eq_none hclosing),
    Expr.matchThen_group_span_eq_some contains_notOpening (Expr.matchThen_text_eq_none hend)]
  constructor
  · rintro ⟨front, hfront, attributes, close, hopen, hclose, start, hstart, note, stop, inner,
      hplain, hstop, ⟨last, hlast, heq⟩, rfl⟩
    obtain rfl := Option.some.inj heq
    refine ⟨⟨attributes, note, hopen, hplain⟩, start, stop, ?_, hstop, hlast, rfl⟩
    exact Cursor.reads_append.2 ⟨close, Cursor.reads_append.2 ⟨front, hfront, hclose⟩, hstart⟩
  · rintro ⟨division, start, stop, hread, hstop, hlast, hcaptures⟩
    obtain ⟨close, hread, hstart⟩ := Cursor.reads_append.1 hread
    obtain ⟨front, hfront, hclose⟩ := Cursor.reads_append.1 hread
    refine ⟨front, hfront, division.attributes, close, division.attributes_open, hclose, start,
      hstart, division.note, stop, .here hit.stop, division.note_plain, hstop,
      ⟨hit.stop, hlast, rfl⟩, ?_⟩
    obtain ⟨last, captures⟩ := hit
    simp_all [Hit.after]

/-- A division stands where it can be read. -/
theorem text_isPrefix_iff_exists_read {division : Division} :
    division.text <+: c.rest ↔ ∃ hit, division.Read c hit := by
  have htext : division.text =
      (divisionStart ++ division.attributes ++ ['>']) ++ division.note ++ divisionEnd := by
    simp [Division.text]
  rw [htext, Cursor.isPrefix_iff_exists_reads]
  constructor
  · rintro ⟨last, hread⟩
    obtain ⟨stop, hread, hlast⟩ := Cursor.reads_append.1 hread
    obtain ⟨start, hstart, hstop⟩ := Cursor.reads_append.1 hread
    exact ⟨⟨last, [(PatternSet.noteGroup, ⟨start, stop⟩)]⟩, start, stop, hstart, hstop, hlast, rfl⟩
  · rintro ⟨hit, start, stop, hstart, hstop, hlast, -⟩
    have hnote := Cursor.reads_append.2 ⟨start, hstart, hstop⟩
    exact ⟨hit.stop, Cursor.reads_append.2 ⟨stop, hnote, hlast⟩⟩

/-- Behind the line there is a division or none, and either way the expression succeeds. -/
theorem matchThen_division_option_eq_some :
    divisionExpr.option.matchThen (fun d => some (.here d)) c = some hit ↔
      ∃ division, Closes division c hit := by
  rw [Expr.matchThen_option, Option.or_eq_some_iff, matchThen_divisionExpr_eq_some]
  constructor
  · rintro (⟨division, h⟩ | ⟨hnone, h⟩)
    · exact ⟨some division, h⟩
    · refine ⟨none, fun division hprefix => ?_, (Option.some.inj h).symm⟩
      obtain ⟨found, hfound⟩ := text_isPrefix_iff_exists_read.1 hprefix
      rw [matchThen_divisionExpr_eq_some.2 ⟨division, hfound⟩] at hnone
      simp at hnone
  · rintro ⟨_ | division, h⟩
    · refine Or.inr ⟨?_, congrArg some h.2.symm⟩
      refine Option.eq_none_iff_forall_ne_some.2 fun found hfound => ?_
      obtain ⟨division, hdivision⟩ := matchThen_divisionExpr_eq_some.1 hfound
      exact h.1 division (text_isPrefix_iff_exists_read.2 ⟨found, hdivision⟩)
    · exact Or.inl ⟨division, h⟩

/-- A line ends with a line feed, in front of which a carriage return may stand. -/
theorem matchThen_lineEnd_eq_some {next : Cursor → Option Hit} :
    (Expr.text ['\r']).option.matchThen ((Expr.text ['\n']).matchThen next) c = some hit ↔
      ∃ carriageReturn line, c.Reads (lineEnd carriageReturn) line ∧ next line = some hit := by
  simp only [Expr.matchThen_option, Option.or_eq_some_iff, Expr.matchThen_text_eq_some]
  constructor
  · rintro (⟨d, hreturn, line, hfeed, h⟩ | ⟨-, line, hfeed, h⟩)
    · exact ⟨true, line, Cursor.reads_append.2 ⟨d, hreturn, hfeed⟩, h⟩
    · exact ⟨false, line, hfeed, h⟩
  · rintro ⟨_ | _, line, hread, h⟩
    · refine Or.inr ⟨?_, line, hread, h⟩
      refine Expr.matchThen_text_eq_none rfl c ?_
      rw [hread.1]
      simp [lineEnd]
    · rw [show lineEnd true = ['\r'] ++ ['\n'] from rfl] at hread
      obtain ⟨d, hreturn, hfeed⟩ := Cursor.reads_append.1 hread
      exact Or.inl ⟨d, hreturn, line, hfeed, h⟩

/-- Up to a tag a word goes as far as up to the next white space. -/
theorem takeWhile_wordSet {run more : Text} (hrun : '<' ∉ run) :
    (run ++ '<' :: more).takeWhile wordSet.contains =
      run.takeWhile fun x => !Unicode.isWhiteSpace x := by
  induction run with
  | nil => simp
  | cons x run ih =>
    obtain ⟨hx, hrun⟩ := not_or.1 (mt List.mem_cons.2 hrun)
    have hx' : x ≠ '<' := fun heq => hx heq.symm
    by_cases hspace : Unicode.isWhiteSpace x = true <;> simp [hspace, hx', ih hrun]

/-- The first word in front of a tag. -/
theorem takeWhile_wordSet_dropWhile {run more : Text} (hrun : '<' ∉ run) :
    ((run ++ '<' :: more).dropWhile Unicode.isWhiteSpace).takeWhile wordSet.contains =
      (run.dropWhile Unicode.isWhiteSpace).takeWhile fun x => !Unicode.isWhiteSpace x := by
  have hopening : Unicode.isWhiteSpace '<' = false := by decide
  induction run with
  | nil => simp [hopening]
  | cons x run ih =>
    by_cases hspace : Unicode.isWhiteSpace x = true
    · simpa [hspace] using ih fun hmem => hrun (List.mem_cons_of_mem x hmem)
    · rw [List.cons_append, List.dropWhile_cons_of_neg hspace, List.dropWhile_cons_of_neg hspace,
        ← List.cons_append, takeWhile_wordSet hrun]

/-- What only goes on at the next tag goes on there from each position in front of the tag. -/
theorem matchThen_star_pastRun {next : Cursor → Option Hit} {s : CharSet}
    (hs : ∀ x, s.contains x = true → notOpening.contains x = true)
    (rest : Cursor → Cursor → Captures) (c : Cursor) :
    (Expr.span s).matchThen
        (fun d => (next (d.pastRun notOpening.contains)).map (Hit.after (rest c d))) c =
      (next (c.pastRun notOpening.contains)).map (Hit.after (rest c (c.pastRun s.contains))) := by
  have hsame : ∀ i ≤ c.runLength s.contains,
      (c.skip i).pastRun notOpening.contains = c.pastRun notOpening.contains := fun i hi =>
    Cursor.pastRun_skip (hi.trans (Cursor.runLength_mono hs c))
  rw [Expr.span, Expr.matchThen_star, hsame _ le_rfl]
  · rfl
  · intro hstuck i hi
    rw [hsame _ le_rfl, Option.map_eq_none_iff] at hstuck
    rw [hsame i hi.le, hstuck, Option.map_none]

/-- The first word in a text in front of a tag. -/
theorem firstWord_text {run : Text} {d : Cursor} (hrun : '<' ∉ run) (hread : c.Reads run d)
    (hd : d.rest.head? = some '<') :
    (firstWord c).text =
      (run.dropWhile Unicode.isWhiteSpace).takeWhile fun x => !Unicode.isWhiteSpace x := by
  obtain ⟨more, hmore⟩ := List.head?_eq_some_iff.1 hd
  have hrest : (c.pastRun Unicode.whiteSpace.contains).rest =
      (run ++ '<' :: more).dropWhile Unicode.isWhiteSpace := by
    rw [Cursor.pastRun_rest, hread.1, hmore]
    rfl
  rw [Capture.text, firstWord, (Cursor.reads_pastRun wordSet.contains _).textTo, hrest,
    takeWhile_wordSet_dropWhile hrun]

/-- The prototype is read up to the next tag, and its first word is kept. -/
theorem matchThen_prototype_eq_some {next : Cursor → Option Hit}
    (hnext : ∀ d : Cursor, d.rest.head? ≠ some '<' → next d = none) :
    (Expr.span Unicode.whiteSpace).matchThen
        ((Expr.group 2 (some PatternSet.returnTypeGroup) (.span wordSet)).matchThen
          ((Expr.span notOpening).matchThen next)) c = some hit ↔
      ∃ run d inner, '<' ∉ run ∧ c.Reads run d ∧ next d = some inner ∧
        hit = inner.after [(PatternSet.returnTypeGroup, firstWord c)] := by
  have hspace : ∀ x, Unicode.whiteSpace.contains x = true → notOpening.contains x = true := by
    intro x hx
    rw [contains_notOpening, bne_iff_ne]
    rintro rfl
    exact absurd hx (by decide)
  have hword : ∀ x, wordSet.contains x = true → notOpening.contains x = true := by
    intro x hx
    rw [contains_wordSet, Bool.and_eq_true] at hx
    rw [contains_notOpening]
    exact hx.2
  have htoTag : (Expr.span notOpening).matchThen next =
      fun d => next (d.pastRun notOpening.contains) :=
    funext (Expr.matchThen_span_until contains_notOpening hnext)
  have hgroup : (Expr.group 2 (some PatternSet.returnTypeGroup) (.span wordSet)).matchThen
      (fun d => next (d.pastRun notOpening.contains)) =
      fun d => (next (d.pastRun notOpening.contains)).map
        (Hit.after [(PatternSet.returnTypeGroup, ⟨d, d.pastRun wordSet.contains⟩)]) := by
    funext d
    rw [Expr.matchThen_group]
    exact matchThen_star_pastRun hword
      (fun b e => [(PatternSet.returnTypeGroup, ⟨b, e⟩)]) d
  rw [htoTag, hgroup, matchThen_star_pastRun hspace
    (fun _ e => [(PatternSet.returnTypeGroup, ⟨e, e.pastRun wordSet.contains⟩)]) c,
    Option.map_eq_some_iff]
  constructor
  · rintro ⟨inner, h, rfl⟩
    refine ⟨_, _, inner, fun hmem => ?_, c.reads_pastRun notOpening.contains, h, rfl⟩
    simpa using List.mem_takeWhile_imp hmem
  · rintro ⟨run, d, inner, hrun, hread, h, rfl⟩
    exact ⟨inner, Expr.pastRun_eq_of_next contains_notOpening hnext hrun hread h ▸ h, rfl⟩

/-- A description matches where one begins, with the division that stands behind it. -/
theorem matchThen_descriptionExpr_eq_some :
    descriptionExpr.matchThen (fun d => some (.here d)) c = some hit ↔
      ∃ (d : Description) (division : Option Division), d.Read division c hit := by
  have hprototype : prototypeEnd.head? = some '<' := rfl
  have hparagraph : paragraphEnd.head? = some '<' := rfl
  simp only [descriptionExpr, Expr.matchThen_seq, Expr.matchThen_text_eq_some,
    matchThen_prototype_eq_some (Expr.matchThen_text_eq_none hprototype),
    Expr.matchThen_span_eq_some contains_notOpening (Expr.matchThen_text_eq_none hparagraph),
    matchThen_lineEnd_eq_some, matchThen_division_option_eq_some]
  constructor
  · rintro ⟨start, hstart, run, d1, inner, hrun, hread, ⟨d2, hd2, paragraph, d3, hplain, hd3, d4,
      hd4, carriageReturn, line, hline, division, hclose⟩, rfl⟩
    refine ⟨⟨run, paragraph, carriageReturn, hrun, hplain⟩, division, start, line, inner, hstart,
      ?_, hclose, rfl⟩
    exact Cursor.reads_append.2 ⟨d4, Cursor.reads_append.2 ⟨d3, Cursor.reads_append.2
      ⟨d2, Cursor.reads_append.2 ⟨d1, hread, hd2⟩, hd3⟩, hd4⟩, hline⟩
  · rintro ⟨d, division, start, line, inner, hstart, hbody, hclose, rfl⟩
    obtain ⟨d4, hbody, hline⟩ := Cursor.reads_append.1 hbody
    obtain ⟨d3, hbody, hd4⟩ := Cursor.reads_append.1 hbody
    obtain ⟨d2, hbody, hd3⟩ := Cursor.reads_append.1 hbody
    obtain ⟨d1, hread, hd2⟩ := Cursor.reads_append.1 hbody
    exact ⟨start, hstart, d.prototype, d1, inner, d.prototype_plain, hread, ⟨d2, hd2, d.paragraph,
      d3, d.paragraph_plain, hd3, d4, hd4, d.carriageReturn, line, hline, division, hclose⟩, rfl⟩

/-- The default block pattern matches where an entry begins. -/
theorem first?_eq_some_iff : expr.first? c = some hit ↔ ∃ e : Entry, e.Read c hit := by
  have hheading : ∀ d : Cursor, d.rest.head? ≠ some '<' →
      descriptionExpr.matchThen (fun d => some (.here d)) d = none := by
    intro d hd
    rw [descriptionExpr, Expr.matchThen_seq]
    exact Expr.matchThen_text_eq_none rfl d hd
  simp only [Expr.first?_eq_matchThen, expr, Expr.matchThen_seq, Expr.matchThen_text_eq_some,
    Expr.matchThen_group_span_eq_some contains_notOpening hheading,
    matchThen_descriptionExpr_eq_some]
  constructor
  · rintro ⟨start, hstart, name, stop, inner, hplain, hname, ⟨d, division, hread⟩, rfl⟩
    exact ⟨⟨name, d, division, hplain⟩, start, stop, inner, hstart, hname, hread, rfl⟩
  · rintro ⟨e, start, stop, inner, hstart, hname, hread, rfl⟩
    exact ⟨start, hstart, e.name, stop, inner, e.name_plain, hname, ⟨_, _, hread⟩, rfl⟩

end Matching

/-! ## Reading entries -/

section Reading

variable {e : Entry} {division : Option Division} {c : Cursor} {hit : Hit}

/-- What closes an entry is the division that stands there. -/
theorem Closes.divisionAt (h : Closes division c hit) : DivisionAt c.rest division := by
  cases division with
  | none => exact h.1
  | some division => exact text_isPrefix_iff_exists_read.2 ⟨hit, h⟩

/-- A division is read to its end. -/
theorem Closes.reads (h : Closes division c hit) :
    c.Reads (division.elim [] Division.text) hit.stop := by
  cases division with
  | none => exact ⟨by simp [h.2], by simp [h.2]⟩
  | some division =>
    obtain ⟨start, stop, hstart, hstop, hlast, -⟩ := h
    have hread := Cursor.reads_append.2 ⟨stop, Cursor.reads_append.2 ⟨start, hstart, hstop⟩, hlast⟩
    simpa [Division.text] using hread

/-- Whatever stands behind a line closes the entry. -/
theorem exists_closes (h : DivisionAt c.rest division) : ∃ hit, Closes division c hit := by
  cases division with
  | none => exact ⟨.here c, h, rfl⟩
  | some division => exact text_isPrefix_iff_exists_read.1 h

/-- An entry that is read begins there. -/
theorem Entry.Read.begins (h : e.Read c hit) : e.Begins c.rest := by
  obtain ⟨start, stop, inner, hprompt, hname, ⟨body, line, last, hbody, hline, hclose, -⟩, -⟩ := h
  refine ⟨line.rest, ?_, hclose.divisionAt⟩
  rw [hprompt.1, hname.1, hbody.1, hline.1, Description.text, Entry.heading]
  simp only [List.append_assoc]

/-- An entry that begins somewhere can be read there. -/
theorem Entry.Begins.exists_read (h : e.Begins c.rest) : ∃ hit, e.Read c hit := by
  obtain ⟨rest, hrest, hdivision⟩ := h
  obtain ⟨line, hread, rfl⟩ := Cursor.exists_reads.1 hrest
  obtain ⟨stop, hread, hdescription⟩ := Cursor.reads_append.1 hread
  obtain ⟨start, hprompt, hname⟩ := Cursor.reads_append.1 hread
  obtain ⟨body, hbody, hline⟩ := Cursor.reads_append.1 hdescription
  obtain ⟨last, hclose⟩ := exists_closes hdivision
  exact ⟨_, start, stop, _, hprompt, hname, ⟨body, line, last, hbody, hline, hclose, rfl⟩, rfl⟩

/-- An entry is read to its end. -/
theorem Entry.Read.reads (h : e.Read c hit) : c.Reads e.text hit.stop := by
  obtain ⟨start, stop, inner, hprompt, hname, hdescription, rfl⟩ := h
  obtain ⟨body, line, last, hbody, hline, hclose, rfl⟩ := hdescription
  exact Cursor.reads_append.2 ⟨stop, Cursor.reads_append.2 ⟨start, hprompt, hname⟩,
    Cursor.reads_append.2 ⟨line, Cursor.reads_append.2 ⟨body, hbody, hline⟩, hclose.reads⟩⟩

/-- The note that is kept is that of the division. -/
theorem Closes.note (h : Closes division c hit) :
    (hit.captures.lookup PatternSet.noteGroup).map Capture.text = division.map Division.note := by
  cases division with
  | none => simp [h.2]
  | some division =>
    obtain ⟨start, stop, -, hstop, -, hcaptures⟩ := h
    simp [hcaptures, Capture.text, hstop.textTo]

/-- A division keeps nothing but the note. -/
theorem Closes.lookup_eq_none (h : Closes division c hit) {name : Text}
    (hname : (name == PatternSet.noteGroup) = false) : hit.captures.lookup name = none := by
  cases division with
  | none => simp [h.2]
  | some division =>
    obtain ⟨start, stop, -, -, -, hcaptures⟩ := h
    simp only [hcaptures, List.lookup_cons, hname, List.lookup_nil]

/-- The first word that is kept is that of the prototype. -/
theorem firstWord_text_of_reads {d : Description} {line : Cursor} (h : c.Reads d.body line) :
    (firstWord c).text = d.returnType := by
  rw [Description.body, List.append_assoc, List.append_assoc, List.append_assoc] at h
  obtain ⟨tag, hprototype, htag⟩ := Cursor.reads_append.1 h
  refine firstWord_text d.prototype_plain hprototype ?_
  rw [htag.1]
  rfl

/-- What the groups of a match took: the note, the first word and the name. -/
theorem group?_of_closes (h : Closes division c hit) (start : Cursor) (word name : Capture) :
    let m : Match := ⟨start, hit.stop, hit.captures ++ [(PatternSet.returnTypeGroup, word)] ++
      [(PatternSet.nameGroup, name)]⟩
    m.group? PatternSet.nameGroup = some name.text ∧
      m.group? PatternSet.returnTypeGroup = some word.text ∧
        m.group? PatternSet.noteGroup = division.map Division.note := by
  have hothers : List.lookup PatternSet.noteGroup
      [(PatternSet.returnTypeGroup, word), (PatternSet.nameGroup, name)] = none := rfl
  refine ⟨?_, ?_, ?_⟩
  · rw [Match.group?, List.append_assoc, List.lookup_append, h.lookup_eq_none (by decide)]
    rfl
  · rw [Match.group?, List.append_assoc, List.lookup_append, h.lookup_eq_none (by decide)]
    rfl
  · rw [Match.group?, List.append_assoc, List.lookup_append, List.singleton_append, hothers,
      Option.or_none, h.note]

/-- The block of a match is that of the entry which was read. -/
theorem Entry.Read.ofMatch_eq (h : e.Read c hit) (config : Config) :
    ofMatch config ⟨c, hit.stop, hit.captures⟩ = e.block config := by
  obtain ⟨start, stop, inner, -, hname, ⟨body, line, last, -, hline, hclose, rfl⟩, rfl⟩ := h
  obtain ⟨hnameGroup, hwordGroup, hnoteGroup⟩ :=
    group?_of_closes hclose c (firstWord body) ⟨start, stop⟩
  simp only [ofMatch, Entry.block, Hit.after_stop, Hit.after_captures, hnameGroup, hwordGroup,
    hnoteGroup, Option.getD_some, Capture.text, hname.textTo]
  rw [← firstWord_text_of_reads hline, Capture.text]

/-- Every match of the default block pattern takes at least the words in front of the name. -/
theorem neverEmpty_expr : expr.NeverEmpty := by
  intro c hit hfound
  obtain ⟨e, hread⟩ := first?_eq_some_iff.1 hfound
  rw [hread.reads.2, Cursor.skip_pos]
  have hlength : 0 < e.text.length := by
    simp only [Entry.text, Entry.heading, List.length_append, show prompt.length = 10 from rfl]
    omega
  omega

/-- The matches of the default block pattern are those of a scan from left to right. -/
theorem findAll_scans (text : Text) :
    Scans expr.first? (.start text) ((ofExpr Config.defaultBlockPattern expr).findAll text) :=
  flat_expr.findAll_scans neverEmpty_expr _ text

end Reading

end Sentinels.Block
