import Sentinels.Proofs.Document.TagScan
import Sentinels.Config

/-!
# Decorated texts

Inline tags may stand anywhere in a text, also inside its words. The scan for tags goes through such
a text part by part, whatever follows it: each inline tag is deleted, while the other characters and
the tags that no name begins are kept (`Leaves`). So a decorated text is left without its tags.
-/

set_option autoImplicit false

namespace Sentinels.Document

/-! ## What the scan leaves -/

/-- Does the scan for tags leave `rest` of a text, whatever follows the text? -/
def Leaves (names : List Text) (text rest : Text) : Prop :=
  ∀ more, (scan names (text ++ more)).flatMap Piece.rest =
    rest ++ (scan names more).flatMap Piece.rest

section Leaves

variable {names : List Text}

/-- Nothing is left of the empty text. -/
theorem leaves_nil : Leaves names [] [] := fun _ => rfl

/-- Two texts are scanned one behind the other. -/
theorem Leaves.append {s t s' t' : Text} (h : Leaves names s s') (h' : Leaves names t t') :
    Leaves names (s ++ t) (s' ++ t') := by
  intro more
  rw [List.append_assoc, h, h', List.append_assoc]

/-- Texts are scanned one behind the other. -/
theorem leaves_flatMap {α : Type} {items : List α} {text rest : α → Text}
    (h : ∀ item ∈ items, Leaves names (text item) (rest item)) :
    Leaves names (items.flatMap text) (items.flatMap rest) := by
  induction items with
  | nil => exact leaves_nil
  | cons item items ih =>
    rw [List.flatMap_cons, List.flatMap_cons]
    exact (h item List.mem_cons_self).append (ih fun i hi => h i (List.mem_cons_of_mem item hi))

/-- What is left of a text is left where nothing follows it. -/
theorem Leaves.flatMap_rest {text rest : Text} (h : Leaves names text rest) :
    (scan names text).flatMap Piece.rest = rest := by
  have hwhole := h []
  rw [List.append_nil, scan] at hwhole
  simpa using hwhole

/-- A text without brackets is left. -/
theorem leaves_plain {text : Text} (h : '<' ∉ text) : Leaves names text text := by
  induction text with
  | nil => exact leaves_nil
  | cons c text ih =>
    obtain ⟨hc, h⟩ := not_or.1 (mt List.mem_cons.2 h)
    have hchar : Leaves names [c] [c] := by
      intro more
      rw [List.singleton_append, scan, if_neg (Ne.symm hc)]
      rfl
    exact hchar.append (ih h)

/-- A bracket is left where no tag begins. -/
theorem leaves_bracket {text : Text} (hplain : '<' ∉ text)
    (h : ∀ more, tagLength? names (text ++ more) = none) :
    Leaves names ('<' :: text) ('<' :: text) := by
  intro more
  rw [List.cons_append, scan, if_pos rfl, h more]
  exact congrArg ('<' :: ·) (leaves_plain hplain more)

/-- Nothing is left of a tag. -/
theorem leaves_tag {text : Text}
    (h : ∀ more, tagLength? names (text ++ more) = some text.length) :
    Leaves names ('<' :: text) [] := by
  intro more
  rw [List.cons_append, scan, if_pos rfl, h more]
  simp [Piece.rest]

end Leaves

/-! ## Names of tags -/

section Names

variable {names : List Text} {before x : Char} {name other behind rest : Text}

/-- No name is found where another character stands than the one it begins with. -/
theorem namedLength?_cons_of_head (h : name.head?.any (· != x) = true) :
    namedLength? before (x :: rest) name = none := by
  unfold namedLength?
  refine if_neg fun ⟨hname, _⟩ => ?_
  cases name with
  | nil => simp at h
  | cons y name =>
    obtain ⟨rfl, -⟩ := List.cons_prefix_cons.1 hname
    simp at h

/-- No tag begins with a character that begins no name. -/
theorem tagLength?_opening (hx : x ≠ '/')
    (h : ∀ name ∈ names, name.head?.any (· != x) = true) :
    tagLength? names (x :: rest) = none := by
  rw [tagLength?_of_head?_ne (by simpa using hx), List.findSome?_eq_none_iff]
  exact fun name hname => namedLength?_cons_of_head (h name hname)

/-- No closing tag has a character behind its slash that begins no name. -/
theorem tagLength?_closing (hslash : ∀ name ∈ names, name.head?.any (· != '/') = true)
    (h : ∀ name ∈ names, name.head?.any (· != x) = true) :
    tagLength? names ('/' :: x :: rest) = none := by
  have hbehind : names.findSome? (namedLength? '/' (x :: rest)) = none :=
    List.findSome?_eq_none_iff.2 fun name hname => namedLength?_cons_of_head (h name hname)
  have hthere : names.findSome? (namedLength? '<' ('/' :: x :: rest)) = none :=
    List.findSome?_eq_none_iff.2 fun name hname => namedLength?_cons_of_head (hslash name hname)
  rw [tagLength?_slash, hbehind, hthere]
  rfl

/-- Does the name consist of the characters of words? -/
def IsWord (name : Text) : Prop := name ≠ [] ∧ ∀ c ∈ name, Unicode.isWord c = true

/-- A word ends with a character of words. -/
theorem IsWord.isWord_getLast (h : IsWord name) :
    Unicode.isWord (name.getLast?.getD before) = true := by
  rw [List.getLast?_eq_some_getLast h.1]
  exact h.2 _ (List.getLast_mem h.1)

/-- A word that ends in front of another one's end is not followed by a boundary. -/
theorem namedLength?_append (hname : IsWord name) (hother : IsWord other)
    (hends : behind.head?.any Unicode.isWord = false) (hcloses : '>' ∈ behind) :
    namedLength? before (name ++ behind) other =
      if other = name then some (name.length + (behind.takeWhile (· != '>')).length + 1)
      else none := by
  by_cases heq : other = name
  · subst heq
    have hboundary : Unicode.isWord (other.getLast?.getD before) ≠
        behind.head?.any Unicode.isWord := by
      rw [hother.isWord_getLast, hends]
      decide
    unfold namedLength?
    rw [List.drop_left, if_pos ⟨List.prefix_append _ _, hboundary, hcloses⟩, if_pos rfl]
  · rw [if_neg heq]
    unfold namedLength?
    refine if_neg ?_
    rintro ⟨⟨more, hmore⟩, hboundary, -⟩
    rw [← hmore, List.drop_left, hother.isWord_getLast] at hboundary
    rcases List.append_eq_append_iff.1 hmore with ⟨s, rfl, rfl⟩ | ⟨s, rfl, rfl⟩
    · -- The other name is a beginning of the name, which goes on behind it.
      cases s with
      | nil => exact heq (List.append_nil other).symm
      | cons y s => simp [hname.2 y (by simp)] at hboundary
    · -- The other name goes on behind the name, which is not the end of a word then.
      cases s with
      | nil => exact heq (List.append_nil name)
      | cons y s => simp [hother.2 y (by simp)] at hends

/-- Among words only the name itself is found. -/
theorem findSome?_namedLength? (hwords : ∀ other ∈ names, IsWord other) (hname : name ∈ names)
    (hends : behind.head?.any Unicode.isWord = false) (hcloses : '>' ∈ behind) :
    names.findSome? (namedLength? before (name ++ behind)) =
      some (name.length + (behind.takeWhile (· != '>')).length + 1) := by
  have hfound : ∀ other ∈ names, namedLength? before (name ++ behind) other =
      if other = name then some (name.length + (behind.takeWhile (· != '>')).length + 1)
      else none := fun other hother =>
    namedLength?_append (hwords name hname) (hwords other hother) hends hcloses
  cases hresult : names.findSome? (namedLength? before (name ++ behind)) with
  | none =>
    have hnone := List.findSome?_eq_none_iff.1 hresult name hname
    rw [hfound name hname, if_pos rfl] at hnone
    exact absurd hnone (by simp)
  | some length =>
    obtain ⟨other, hother, hlength⟩ := List.exists_of_findSome?_eq_some hresult
    rw [hfound other hother] at hlength
    split at hlength
    · exact hlength.symm
    · exact absurd hlength (by simp)

/-- An opening tag is left if no name begins like it. -/
theorem leaves_opening {text : Text} (hplain : '<' ∉ x :: text) (hx : x ≠ '/')
    (h : ∀ name ∈ names, name.head?.any (· != x) = true) :
    Leaves names ('<' :: x :: text) ('<' :: x :: text) :=
  leaves_bracket hplain fun _ => tagLength?_opening hx h

/-- A closing tag is left if no name begins like it. -/
theorem leaves_closing {text : Text} (hplain : '<' ∉ '/' :: x :: text)
    (hslash : ∀ name ∈ names, name.head?.any (· != '/') = true)
    (h : ∀ name ∈ names, name.head?.any (· != x) = true) :
    Leaves names ('<' :: '/' :: x :: text) ('<' :: '/' :: x :: text) :=
  leaves_bracket hplain fun _ => tagLength?_closing hslash h

end Names

/-! ## Inline tags -/

/-- An inline tag: it opens or closes, and behind its name nothing or no word follows. -/
structure InlineTag where
  closing : Bool
  name : Text
  attributes : Text
  name_mem : name ∈ Config.defaultStrippedTags
  attributes_open : '>' ∉ attributes
  name_ends : attributes.head?.any Unicode.isWord = false

namespace InlineTag

/-- No attributes, no bracket. -/
theorem bracket_notMem_nil : '>' ∉ ([] : Text) := List.not_mem_nil

/-- A tag without attributes. -/
def bare (closing : Bool) (name : Text) (h : name ∈ Config.defaultStrippedTags) : InlineTag :=
  ⟨closing, name, [], h, bracket_notMem_nil, rfl⟩

/-- The tag behind its opening bracket. -/
def inner (tag : InlineTag) : Text :=
  (if tag.closing then ['/'] else []) ++ (tag.name ++ (tag.attributes ++ ['>']))

/-- The tag as it is written. -/
def text (tag : InlineTag) : Text := '<' :: tag.inner

/-- The names of inline tags are words. -/
theorem isWord_of_mem : ∀ name ∈ Config.defaultStrippedTags, IsWord name := by
  have hall : ∀ name ∈ Config.defaultStrippedTags,
      name ≠ [] ∧ name.all Unicode.isWord = true := by
    decide +kernel
  exact fun name hname => ⟨(hall name hname).1, List.all_eq_true.1 (hall name hname).2⟩

/-- No name of an inline tag begins with a slash. -/
theorem head?_ne_slash :
    ∀ name ∈ Config.defaultStrippedTags, name.head?.any (· != '/') = true := by
  decide

/-- An inline tag is found up to its end. -/
theorem tagLength?_inner (tag : InlineTag) (more : Text) :
    tagLength? Config.defaultStrippedTags (tag.inner ++ more) = some tag.inner.length := by
  have hends : (tag.attributes ++ '>' :: more).head?.any Unicode.isWord = false := by
    cases hattributes : tag.attributes with
    | nil => exact show Unicode.isWord '>' = false by decide +kernel
    | cons x attributes => simpa [hattributes] using tag.name_ends
  have hcloses : '>' ∈ tag.attributes ++ '>' :: more := by simp
  have hrun : (tag.attributes ++ '>' :: more).takeWhile (· != '>') = tag.attributes := by
    rw [List.takeWhile_append_of_pos, List.takeWhile_cons_of_neg (by simp), List.append_nil]
    exact fun y hy => bne_iff_ne.2 (ne_of_mem_of_not_mem hy tag.attributes_open)
  have hfound : ∀ before, Config.defaultStrippedTags.findSome?
      (namedLength? before (tag.name ++ (tag.attributes ++ '>' :: more))) =
        some (tag.name.length + tag.attributes.length + 1) := by
    intro before
    rw [findSome?_namedLength? isWord_of_mem tag.name_mem hends hcloses, hrun]
  cases hclosing : tag.closing with
  | true =>
    have htext : tag.inner ++ more =
        '/' :: (tag.name ++ (tag.attributes ++ '>' :: more)) := by
      simp [inner, hclosing]
    rw [htext, tagLength?_slash, hfound]
    simp [inner, hclosing, Nat.add_assoc]
  | false =>
    have htext : tag.inner ++ more = tag.name ++ (tag.attributes ++ '>' :: more) := by
      simp [inner, hclosing]
    have hhead : (tag.name ++ (tag.attributes ++ '>' :: more)).head? ≠ some '/' := by
      have hslash := head?_ne_slash tag.name tag.name_mem
      cases hname : tag.name with
      | nil => simp [hname] at hslash
      | cons x name => simpa [hname] using hslash
    rw [htext, tagLength?_of_head?_ne hhead, hfound]
    simp [inner, hclosing, Nat.add_assoc]

/-- Nothing is left of an inline tag. -/
theorem leaves (tag : InlineTag) : Leaves Config.defaultStrippedTags tag.text [] :=
  leaves_tag tag.tagLength?_inner

end InlineTag

/-! ## Decorated texts -/

/-- A part of a decorated text: a character other than a bracket, or an inline tag. -/
inductive Part
  | char (c : Char) (hc : c ≠ '<')
  | tag (t : InlineTag)

namespace Part

/-- The part as it is written. -/
def text : Part → Text
  | .char c _ => [c]
  | .tag t => t.text

/-- The part without tags. -/
def plain : Part → Text
  | .char c _ => [c]
  | .tag _ => []

/-- A part is left without tags. -/
theorem leaves (part : Part) : Leaves Config.defaultStrippedTags part.text part.plain := by
  cases part with
  | char c hc => exact leaves_plain (mt List.mem_singleton.1 (Ne.symm hc))
  | tag t => exact t.leaves

end Part

/-- A text with inline tags in it. -/
abbrev Decorated := List Part

namespace Decorated

/-- The text as it is written. -/
def text (parts : Decorated) : Text := parts.flatMap Part.text

/-- The text without the tags. -/
def plain (parts : Decorated) : Text := parts.flatMap Part.plain

/-- A text without brackets, with no tags in it. -/
def ofPlain : (text : Text) → '<' ∉ text → Decorated
  | [], _ => []
  | c :: text, h =>
    .char c (fun hc => h (hc ▸ List.mem_cons_self)) ::
      ofPlain text fun hmem => h (List.mem_cons_of_mem c hmem)

/-- An inline tag with no text around it. -/
def ofTag (tag : InlineTag) : Decorated := [.tag tag]

/-- No bracket is left in the text without the tags. -/
theorem bracket_notMem_plain (parts : Decorated) : '<' ∉ parts.plain := by
  intro hmem
  obtain ⟨part, -, hpart⟩ := List.mem_flatMap.1 hmem
  cases part with
  | char c hc => exact hc (List.mem_singleton.1 hpart).symm
  | tag t => exact List.not_mem_nil hpart

/-- A decorated text is left without its tags. -/
theorem leaves (parts : Decorated) : Leaves Config.defaultStrippedTags parts.text parts.plain :=
  leaves_flatMap fun part _ => part.leaves

end Decorated

end Sentinels.Document
