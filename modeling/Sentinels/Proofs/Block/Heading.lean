import Sentinels.Proofs.Block.Entry
import Sentinels.Proofs.Text

/-!
# Where headings end

The entries of a page are told apart by the ends of their headings: a description begins there, and
the text in front of it, as far back as the last tag, holds the words that open a heading. Of the
entries with one heading end the one that begins first is meant. Such entries do not overlap: the
tags of an entry are none that could end another heading, and what an entry ends with does not begin
one.
-/

set_option autoImplicit false

namespace Sentinels.Block

/-! ## Texts without an occurrence -/

/-- Does a property of texts hold at no position of a text with another text behind it? -/
def Avoids (P : Text → Prop) : Text → Text → Prop
  | [], _ => True
  | x :: text, behind => ¬ P (x :: text ++ behind) ∧ Avoids P text behind

section Avoids

variable {P : Text → Prop} {s t behind : Text}

/-- A property is avoided in a text if it is in both parts of the text. -/
theorem avoids_append :
    Avoids P (s ++ t) behind ↔ Avoids P s (t ++ behind) ∧ Avoids P t behind := by
  induction s with
  | nil => simp [Avoids]
  | cons x s ih => simp [Avoids, ih, and_assoc]

/-- An avoided property does not hold where a further part of the text begins. -/
theorem Avoids.not_of_append (h : Avoids P (s ++ t) behind) (ht : t ≠ []) : ¬ P (t ++ behind) := by
  obtain ⟨x, t, rfl⟩ := List.exists_cons_of_ne_nil ht
  exact (avoids_append.1 h).2.1

/-- What only holds in front of a character is avoided where that character does not occur. -/
theorem avoids_of_notMem {x : Char} (hP : ∀ u, P u → u.head? = some x) (hx : x ∉ s) :
    Avoids P s behind := by
  induction s with
  | nil => trivial
  | cons y s ih =>
    obtain ⟨hne, hx⟩ := not_or.1 (mt List.mem_cons.2 hx)
    exact ⟨fun h => hne (Option.some.inj (hP _ h)).symm, ih hx⟩

/-- A property is avoided that fails wherever a further part of the text begins. -/
theorem avoids_of_forall (h : ∀ t, t <:+ s → t ≠ [] → ¬ P (t ++ behind)) : Avoids P s behind := by
  induction s with
  | nil => trivial
  | cons x s ih =>
    exact ⟨h _ List.suffix_rfl (List.cons_ne_nil x s),
      ih fun t ht => h t (ht.trans (List.suffix_cons x s))⟩

end Avoids

/-! ## Descriptions -/

/-- Does a description begin a text? -/
def DescriptionAt (text : Text) : Prop := ∃ (d : Description) (rest : Text), text = d.text ++ rest

/-- A description begins with the end of a heading. -/
theorem DescriptionAt.headingEnd_isPrefix {text : Text} (h : DescriptionAt text) :
    headingEnd <+: text := by
  obtain ⟨d, rest, rfl⟩ := h
  exact ⟨d.body ++ rest, by simp [Description.text]⟩

/-- A description begins with a tag. -/
theorem DescriptionAt.head? {text : Text} (h : DescriptionAt text) : text.head? = some '<' := by
  obtain ⟨rest, rfl⟩ := h.headingEnd_isPrefix
  rfl

/-- A description does not begin behind the end of a text. -/
theorem DescriptionAt.le_length {text : Text} {n : Nat} (h : DescriptionAt (text.drop n)) :
    n ≤ text.length := by
  by_contra hlong
  have hhead := h.head?
  rw [List.drop_eq_nil_of_le (by omega)] at hhead
  exact absurd hhead (by simp)

/-- No description begins with an opening tag. -/
theorem not_descriptionAt_opening {x : Char} {text : Text} (hx : x ≠ '/') :
    ¬ DescriptionAt ('<' :: x :: text) := by
  intro h
  obtain ⟨rest, hrest⟩ := h.headingEnd_isPrefix
  have heq : '/' :: _ = x :: text := (List.cons.inj hrest).2
  exact hx (List.cons.inj heq).1.symm

/-- No description begins with a closing tag other than that of a heading. -/
theorem not_descriptionAt_closing {x : Char} {text : Text} (hx : x ≠ 'h') :
    ¬ DescriptionAt ('<' :: '/' :: x :: text) := by
  intro h
  obtain ⟨rest, hrest⟩ := h.headingEnd_isPrefix
  have heq : 'h' :: _ = x :: text := (List.cons.inj (List.cons.inj hrest).2).2
  exact hx (List.cons.inj heq).1.symm

section Parts

variable {text behind : Text}

/-- No description begins in a text without tags. -/
theorem avoids_plain (h : '<' ∉ text) : Avoids DescriptionAt text behind :=
  avoids_of_notMem (fun _ => DescriptionAt.head?) h

/-- No description begins in an opening tag. -/
theorem avoids_opening {x : Char} (hx : x ≠ '/') (h : '<' ∉ x :: text) :
    Avoids DescriptionAt ('<' :: x :: text) behind :=
  ⟨not_descriptionAt_opening hx, avoids_plain h⟩

/-- No description begins in a closing tag other than that of a heading. -/
theorem avoids_closing {x : Char} (hx : x ≠ 'h') (h : '<' ∉ '/' :: x :: text) :
    Avoids DescriptionAt ('<' :: '/' :: x :: text) behind :=
  ⟨not_descriptionAt_closing hx, avoids_plain h⟩

/-- No description begins in the attributes of a division: the tag that ends its heading would end
those attributes, and no tag that opens a prototype follows them. -/
theorem Division.avoids_attributes (d : Division) :
    Avoids DescriptionAt d.attributes ('>' :: d.note ++ (divisionEnd ++ behind)) := by
  refine avoids_of_forall fun t ht _ h => ?_
  obtain ⟨rest, hrest⟩ := h.headingEnd_isPrefix
  have hsplit : headingEnd = "</h3".toList ++ '>' :: "<pre class=\"programlisting\">".toList := rfl
  rw [hsplit, List.append_assoc, List.cons_append, List.cons_append] at hrest
  obtain ⟨-, hbehind⟩ :=
    Text.eq_of_append_cons_eq (by decide) (fun hmem => d.attributes_open (ht.subset hmem)) hrest
  cases hnote : d.note with
  | nil =>
    rw [hnote] at hbehind
    exact absurd (List.cons.inj (List.cons.inj hbehind).2).1 (by decide)
  | cons x note =>
    rw [hnote] at hbehind
    have hx : '<' = x := (List.cons.inj hbehind).1
    exact d.note_plain (hnote ▸ hx ▸ List.mem_cons_self)

/-- No description begins in a division. -/
theorem Division.avoids (d : Division) : Avoids DescriptionAt d.text behind := by
  have hstart : divisionStart = ['<', 'd', 'i', 'v'] := rfl
  have hend : divisionEnd = ['<', '/', 'd', 'i', 'v', '>'] := rfl
  have hclose : '<' ∉ '>' :: d.note := by simpa using d.note_plain
  rw [Division.text, avoids_append, avoids_append, avoids_append]
  refine ⟨⟨⟨?_, ?_⟩, ?_⟩, ?_⟩
  · rw [hstart]
    exact avoids_opening (by decide) (by decide)
  · exact d.avoids_attributes
  · exact avoids_plain hclose
  · rw [hend]
    exact avoids_closing (by decide) (by decide)

/-- No description begins in another one. -/
theorem Description.avoids (d : Description) :
    Avoids DescriptionAt (headingEnd.tail ++ d.body) behind := by
  have htail : headingEnd.tail = "/h3>".toList ++ '<' :: 'p' ::
      "re class=\"programlisting\">".toList := rfl
  have hprototype : prototypeEnd =
      '<' :: '/' :: 'p' :: "re>".toList ++ '<' :: 'p' :: ">".toList := rfl
  have hparagraph : paragraphEnd = '<' :: '/' :: 'p' :: ">".toList := rfl
  have hline : '<' ∉ lineEnd d.carriageReturn := by cases d.carriageReturn <;> decide
  rw [Description.body, htail, hprototype, hparagraph]
  simp only [avoids_append]
  exact ⟨⟨avoids_plain (by decide), avoids_opening (by decide) (by decide)⟩,
    ⟨⟨⟨avoids_plain d.prototype_plain, avoids_closing (by decide) (by decide),
      avoids_opening (by decide) (by decide)⟩, avoids_plain d.paragraph_plain⟩,
      avoids_closing (by decide) (by decide)⟩, avoids_plain hline⟩

end Parts

/-! ## Entries do not overlap -/

section Overlap

variable {e e' : Entry} {text more : Text}

/-- There is no tag in a heading. -/
theorem Entry.heading_plain (e : Entry) : '<' ∉ e.heading := by
  simp only [heading, List.mem_append, not_or]
  exact ⟨by decide, e.name_plain⟩

/-- A heading begins with a capital letter. -/
theorem Entry.head?_heading (e : Entry) : e.heading.head? = some 'F' := rfl

/-- A heading is not empty. -/
theorem Entry.length_heading_pos (e : Entry) : 0 < e.heading.length :=
  Nat.succ_pos _

/-- A body begins with a tag. -/
theorem Entry.body_eq (e : Entry) : e.body = '<' :: e.body.tail := rfl

/-- No description begins in a body but at its beginning. -/
theorem Entry.avoids_tail (e : Entry) (more : Text) : Avoids DescriptionAt e.body.tail more := by
  have htail : e.body.tail =
      (headingEnd.tail ++ e.description.body) ++ e.division.elim [] Division.text := rfl
  rw [htail, avoids_append]
  refine ⟨e.description.avoids, ?_⟩
  cases e.division with
  | none => trivial
  | some division => exact division.avoids

/-- What follows the last tag of an entry holds no capital letter that could begin a heading. -/
theorem Entry.exists_last_tag (e : Entry) :
    ∃ front last, e.body = front ++ '<' :: last ∧ 'F' ∉ last := by
  cases hdivision : e.division with
  | none =>
    refine ⟨headingEnd ++ (e.description.prototype ++ prototypeEnd ++ e.description.paragraph),
      '/' :: 'p' :: '>' :: lineEnd e.description.carriageReturn, ?_, ?_⟩
    · have hlast : paragraphEnd = '<' :: '/' :: 'p' :: ['>'] := rfl
      simp only [Entry.body, hdivision, Option.elim_none, List.append_nil, Description.text,
        Description.body, hlast, List.append_assoc, List.cons_append, List.nil_append]
    · cases e.description.carriageReturn <;> decide
  | some division =>
    refine ⟨e.description.text ++ (divisionStart ++ division.attributes ++ '>' :: division.note),
      "/div>".toList, ?_, by decide⟩
    have hlast : divisionEnd = '<' :: "/div>".toList := rfl
    simp only [Entry.body, hdivision, Option.elim_some, Division.text, hlast, List.append_assoc]

/-- The text that an entry begins is the entry and a rest. -/
theorem Entry.Begins.exists_rest (h : e.Begins text) :
    ∃ more, text = e.heading ++ (e.body ++ more) := by
  obtain ⟨rest, rfl, hdivision⟩ := h
  cases hcase : e.division with
  | none => exact ⟨rest, by simp [Entry.body, hcase]⟩
  | some division =>
    rw [hcase] at hdivision
    obtain ⟨more, rfl⟩ := hdivision
    exact ⟨more, by simp [Entry.body, hcase]⟩

/-- Behind the heading of an entry a description begins. -/
theorem Entry.Begins.exists_description (h : e.Begins text) :
    ∃ rest, text = e.heading ++ rest ∧ DescriptionAt rest := by
  obtain ⟨rest, rfl, -⟩ := h
  exact ⟨_, List.append_assoc .., e.description, rest, rfl⟩

/-- What could begin a heading in a body has a tag behind it in the body. -/
theorem Entry.mem_of_body_eq {front inside : Text} (hbody : e.body = front ++ inside)
    (hF : 'F' ∈ inside) : '<' ∈ inside := by
  obtain ⟨start, last, hlast, hnone⟩ := e.exists_last_tag
  rcases List.append_eq_append_iff.1 (hbody.symm.trans hlast) with ⟨s, -, hs⟩ | ⟨s, -, hs⟩
  · rw [hs]
    simp
  · cases s with
    | nil =>
      rw [← hs.trans (List.nil_append _)]
      exact List.mem_cons_self
    | cons x s =>
      have htail : last = s ++ inside := (List.cons.inj hs).2
      exact absurd (htail ▸ List.mem_append_right s hF) hnone

/-- No entry begins inside the body of another. -/
theorem Entry.not_begins_inside {front inside : Text} (hbody : e.body = front ++ inside)
    (hinside : inside ≠ []) : ¬ e'.Begins (inside ++ more) := by
  intro h
  obtain ⟨rest, hrest, hdescription⟩ := h.exists_description
  obtain ⟨x, inside, rfl⟩ := List.exists_cons_of_ne_nil hinside
  have hx : x = 'F' := by
    have hhead := congrArg List.head? hrest
    simpa [List.head?_append, e'.head?_heading] using hhead
  subst hx
  have hopen := e.mem_of_body_eq hbody List.mem_cons_self
  rcases List.append_eq_append_iff.1 hrest with ⟨s, hs, -⟩ | ⟨s, hs, rfl⟩
  · -- The heading would reach to the end of the body and hold that tag.
    exact e'.heading_plain (hs ▸ List.mem_append_left s hopen)
  · -- The heading would end in the body, where no description begins.
    have hne : s ≠ [] := by
      rintro rfl
      rw [hs, List.append_nil] at hopen
      exact e'.heading_plain hopen
    cases front with
    | nil => exact absurd (List.cons.inj (e.body_eq.symm.trans hbody)).1 (by decide)
    | cons y front =>
      have htail : e.body.tail = front ++ e'.heading ++ s := by
        rw [hbody, hs, List.append_assoc]
        rfl
      exact (htail ▸ e.avoids_tail more).not_of_append hne hdescription

/-- Of two entries the one whose heading ends first ends before the other begins. -/
theorem Entry.Begins.add_length_le {start start' : Nat} (h : e.Begins (text.drop start))
    (h' : e'.Begins (text.drop start'))
    (hlt : start + e.heading.length < start' + e'.heading.length) :
    start + e.text.length ≤ start' := by
  obtain ⟨more, hmore⟩ := h.exists_rest
  obtain ⟨rest, hrest, -⟩ := h'.exists_description
  have hbody : text.drop (start + e.heading.length) = e.body ++ more := by
    rw [← List.drop_drop, hmore, List.drop_left]
  have hbehind : start + e.heading.length < start' := by
    by_contra hle
    obtain ⟨n, hn⟩ := Nat.exists_eq_add_of_le (Nat.le_of_not_lt hle)
    have hhead : '<' :: (e.body.tail ++ more) = e'.heading.drop n ++ rest := by
      rw [← List.cons_append, ← e.body_eq, ← hbody, hn, ← List.drop_drop, hrest,
        List.drop_append_of_le_length (by omega)]
    have hne : e'.heading.drop n ≠ [] := by
      rw [Ne, List.drop_eq_nil_iff]
      omega
    obtain ⟨x, tail, hx⟩ := List.exists_cons_of_ne_nil hne
    rw [hx, List.cons_append] at hhead
    have hmem : x ∈ e'.heading := List.mem_of_mem_drop (hx ▸ List.mem_cons_self)
    exact e'.heading_plain ((List.cons.inj hhead).1 ▸ hmem)
  by_contra hlong
  obtain ⟨n, rfl⟩ := Nat.exists_eq_add_of_lt hbehind
  rw [Entry.text, List.length_append] at hlong
  have hinside : e.body.drop (n + 1) ≠ [] := by
    rw [Ne, List.drop_eq_nil_iff]
    omega
  rw [Nat.add_assoc, ← List.drop_drop, hbody, List.drop_append_of_le_length (by omega)] at h'
  exact e.not_begins_inside (List.take_append_drop (n + 1) e.body).symm hinside h'

end Overlap

end Sentinels.Block
