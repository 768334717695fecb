import Sentinels.Proofs.Block.Sequence
import Sentinels.Proofs.Document.Bracket

/-!
# Pages in a row

A page that ends with its last tag and whose brackets are closed one after the other keeps its
entries for itself when another text follows it. The last tag is none of those of an entry, so
neither a heading nor a description goes on behind it; the attributes of a division could hold it,
but the bracket that opens such a division is closed before.
-/

set_option autoImplicit false

namespace Sentinels.Block

open Pattern

/-- What a page ends with. -/
def pageEnd : Text := "</html>".toList

/-- The characters of the last tag. -/
theorem pageEnd_eq : pageEnd = '<' :: "/html>".toList := rfl

section Avoidance

variable {text behind : Text}

/-- A page does not end in a text without tags. -/
theorem avoids_pageEnd_plain (h : '<' ∉ text) : Avoids (pageEnd <+: ·) text behind := by
  refine avoids_of_notMem (x := '<') (fun u hu => ?_) h
  obtain ⟨rest, rfl⟩ := hu
  rfl

/-- A page does not end in a tag that begins otherwise than its last one. -/
theorem avoids_pageEnd_tag {x : Char} (hx : x ≠ '/') (h : '<' ∉ x :: text) :
    Avoids (pageEnd <+: ·) ('<' :: x :: text) behind := by
  refine ⟨?_, avoids_pageEnd_plain h⟩
  rintro ⟨rest, hrest⟩
  have heq : '/' :: _ = x :: (text ++ behind) := (List.cons.inj hrest).2
  exact hx (List.cons.inj heq).1.symm

/-- A page does not end in a closing tag with another name. -/
theorem avoids_pageEnd_closing {x y : Char} (hxy : x ≠ 'h' ∨ y ≠ 't')
    (h : '<' ∉ '/' :: x :: y :: text) :
    Avoids (pageEnd <+: ·) ('<' :: '/' :: x :: y :: text) behind := by
  refine ⟨?_, avoids_pageEnd_plain h⟩
  rintro ⟨rest, hrest⟩
  have heq : 'h' :: 't' :: _ = x :: y :: (text ++ behind) :=
    (List.cons.inj (List.cons.inj hrest).2).2
  obtain ⟨hx, htail⟩ := List.cons.inj heq
  rcases hxy with hne | hne
  · exact hne hx.symm
  · exact hne (List.cons.inj htail).1.symm

/-- A page does not end in a description. -/
theorem Description.avoids_pageEnd (d : Description) :
    Avoids (pageEnd <+: ·) d.text behind := by
  have hheading : headingEnd = '<' :: '/' :: 'h' :: '3' :: ['>'] ++
      '<' :: 'p' :: "re class=\"programlisting\">".toList := rfl
  have hprototype : prototypeEnd =
      '<' :: '/' :: 'p' :: 'r' :: "e>".toList ++ '<' :: 'p' :: ">".toList := rfl
  have hparagraph : paragraphEnd = '<' :: '/' :: 'p' :: '>' :: [] := rfl
  have hline : '<' ∉ lineEnd d.carriageReturn := by cases d.carriageReturn <;> decide
  rw [Description.text, Description.body, hheading, hprototype, hparagraph]
  simp only [avoids_append]
  refine ⟨⟨?_, ?_⟩, ⟨⟨⟨?_, ?_, ?_⟩, ?_⟩, ?_⟩, ?_⟩
  · exact avoids_pageEnd_closing (Or.inr (by decide)) (by decide)
  · exact avoids_pageEnd_tag (by decide) (by decide)
  · exact avoids_pageEnd_plain d.prototype_plain
  · exact avoids_pageEnd_closing (Or.inl (by decide)) (by decide)
  · exact avoids_pageEnd_tag (by decide) (by decide)
  · exact avoids_pageEnd_plain d.paragraph_plain
  · exact avoids_pageEnd_closing (Or.inl (by decide)) (by decide)
  · exact avoids_pageEnd_plain hline

/-- A page ends neither in the heading nor in the description of an entry. -/
theorem Entry.avoids_pageEnd (e : Entry) :
    Avoids (pageEnd <+: ·) (e.heading ++ e.description.text) behind :=
  avoids_append.2 ⟨avoids_pageEnd_plain e.heading_plain, e.description.avoids_pageEnd⟩

end Avoidance

section Seam

open Document (Bracketed)

variable {e : Entry} {s t u y : Text}

/-- An entry that begins on a page has its description on the page. -/
theorem Entry.begins_append_pageEnd_iff :
    e.Begins (u ++ (pageEnd ++ t)) ↔
      ∃ y, u = e.heading ++ e.description.text ++ y ∧
        DivisionAt (y ++ (pageEnd ++ t)) e.division := by
  constructor
  · rintro ⟨rest, hrest, hdivision⟩
    rcases List.append_eq_append_iff.1 hrest with ⟨x, hx, hbehind⟩ | ⟨y, hy, hbehind⟩
    · cases x with
      | nil =>
        refine ⟨[], by simpa using hx.symm, ?_⟩
        rw [List.nil_append, hbehind]
        exact hdivision
      | cons x₁ x =>
        -- The page would end in the heading or in the description.
        have havoids : Avoids (pageEnd <+: ·) (e.heading ++ e.description.text) rest :=
          e.avoids_pageEnd
        rw [hx] at havoids
        refine absurd ?_ (havoids.not_of_append (List.cons_ne_nil x₁ x))
        exact hbehind ▸ List.prefix_append pageEnd t
    · exact ⟨y, hy, hbehind ▸ hdivision⟩
  · rintro ⟨y, rfl, hdivision⟩
    exact ⟨y ++ (pageEnd ++ t), by simp, hdivision⟩

/-- A division that begins on a page has its end on the page. -/
theorem Division.text_isPrefix_of_append {d : Division} (hy : Bracketed y)
    (h : d.text <+: y ++ (pageEnd ++ t)) : d.text <+: y := by
  obtain ⟨z, hz⟩ := h
  rcases List.append_eq_append_iff.1 hz with ⟨more, hmore, -⟩ | ⟨x, hx, hbehind⟩
  · exact ⟨more, hmore.symm⟩
  · cases x with
    | nil => exact ⟨[], by simpa using hx⟩
    | cons x₁ x =>
      exfalso
      rw [pageEnd_eq, List.cons_append, List.cons_append] at hbehind
      obtain ⟨rfl, hhtml⟩ := List.cons.inj hbehind
      have htext : d.text = '<' :: (("div".toList ++ d.attributes) ++
          '>' :: (d.note ++ '<' :: "/div>".toList)) := by
        simp [Division.text, show divisionStart = '<' :: "div".toList from rfl,
          show divisionEnd = '<' :: "/div>".toList from rfl]
      rw [htext] at hx
      cases y with
      | nil =>
        -- The last tag would be the one that opens the division.
        have hopen := (List.cons.inj hx).2
        rw [← hopen] at hhtml
        exact absurd (List.cons.inj hhtml).1 (by decide)
      | cons y₁ y =>
        -- The opening tag is closed on the page, so the last tag would stand in the note.
        rw [List.cons_append] at hx
        obtain ⟨rfl, hrest⟩ := List.cons.inj hx
        obtain ⟨inner, more, rfl, hinner⟩ :=
          List.eq_append_cons_of_mem (hy y List.suffix_rfl).1
        have hattributes : '>' ∉ "div".toList ++ d.attributes := by
          rw [List.mem_append, not_or]
          exact ⟨by decide, d.attributes_open⟩
        have hsplit : inner ++ '>' :: more ++ '<' :: x = inner ++ '>' :: (more ++ '<' :: x) := by
          rw [List.append_assoc, List.cons_append]
        obtain ⟨-, hnote⟩ := Text.eq_of_append_cons_eq hattributes hinner (hrest.trans hsplit)
        by_cases hmore : '<' ∈ more
        · obtain ⟨front, last, rfl, hfront⟩ := List.eq_append_cons_of_mem hmore
          rw [List.append_assoc, List.cons_append] at hnote
          obtain ⟨-, hend⟩ := Text.eq_of_append_cons_eq d.note_plain hfront hnote
          have hmem : '<' ∈ "/div>".toList := by
            rw [hend]
            simp
          exact absurd hmem (by decide)
        · obtain ⟨-, hend⟩ := Text.eq_of_append_cons_eq d.note_plain hmore hnote
          rw [← hend] at hhtml
          have hname := (List.cons.inj hhtml).2
          exact absurd (List.cons.inj hname).1 (by decide)

/-- What follows a page does not change which division begins on it. -/
theorem divisionAt_append_pageEnd_iff {division : Option Division} (hy : Bracketed y) :
    DivisionAt (y ++ (pageEnd ++ t)) division ↔ DivisionAt y division := by
  cases division with
  | none =>
    constructor
    · exact fun h d hd => h d (hd.trans (List.prefix_append y _))
    · exact fun h d hd => h d (Division.text_isPrefix_of_append hy hd)
  | some d =>
    exact ⟨Division.text_isPrefix_of_append hy, fun hd => hd.trans (List.prefix_append y _)⟩

/-- What follows a page does not change which entries begin on it. -/
theorem Entry.begins_append_iff (hs : Bracketed s) (hend : pageEnd <:+ s) (hu : u <:+ s)
    (hne : u ≠ []) : e.Begins (u ++ t) ↔ e.Begins u := by
  rcases List.suffix_or_suffix_of_suffix hu hend with hinside | ⟨front, rfl⟩
  · -- No entry begins in the last tag.
    obtain ⟨x, u, rfl⟩ := List.exists_cons_of_ne_nil hne
    have hx : x ≠ 'F' := by
      rintro rfl
      exact absurd (hinside.subset List.mem_cons_self) (by decide)
    have hnone : ∀ behind, ¬ e.Begins (x :: u ++ behind) := fun behind h =>
      hx (Option.some.inj h.head?)
    exact iff_of_false (hnone t) (by simpa using hnone [])
  · have hfront : Bracketed front := (hs.of_suffix hu).of_append
    have hwhole := Entry.begins_append_pageEnd_iff (e := e) (u := front) (t := [])
    rw [List.append_nil] at hwhole
    rw [List.append_assoc, Entry.begins_append_pageEnd_iff, hwhole]
    refine exists_congr fun y => and_congr_right fun hy => ?_
    have hyBracketed : Bracketed y := hfront.of_suffix (hy ▸ List.suffix_append _ y)
    have hpage : DivisionAt (y ++ pageEnd) e.division ↔ DivisionAt y e.division := by
      simpa using divisionAt_append_pageEnd_iff (t := []) hyBracketed
    rw [divisionAt_append_pageEnd_iff hyBracketed, hpage]

/-- The blocks of a page and of what follows it are found for themselves. -/
theorem findAll_append (hs : Bracketed s) (hend : pageEnd <:+ s) (config : Config) (t : Text) :
    findAll config (ofExpr Config.defaultBlockPattern expr) (s ++ t) =
      findAll config (ofExpr Config.defaultBlockPattern expr) s ++
        findAll config (ofExpr Config.defaultBlockPattern expr) t := by
  obtain ⟨entries, hentries⟩ := exists_entriesOf s
  obtain ⟨others, hothers⟩ := exists_entriesOf t
  have hboth := hentries.append hothers fun u hu hne e => Entry.begins_append_iff hs hend hu hne
  rw [hboth.findAll_eq, hentries.findAll_eq, hothers.findAll_eq, List.map_append]

end Seam

end Sentinels.Block
