import Sentinels.Proofs.Document.Decoration
import Mathlib.Data.List.Infix

/-!
# Texts whose brackets are closed

In a text whose opening brackets are all closed no tag reaches beyond the end, so what follows the
text does not change what is removed from it (`scan_append`). Where moreover each bracket is closed
before the next one is opened, the same holds of what is left (`Bracketed.flatMap_rest`).
-/

set_option autoImplicit false

namespace Sentinels.Document

/-- Does a closing bracket stand behind every opening one? -/
def Closed (text : Text) : Prop :=
  ∀ rest, '<' :: rest <:+ text → '>' ∈ rest

/-- Is every opening bracket closed before the next one is opened? -/
def Bracketed (text : Text) : Prop :=
  ∀ rest, '<' :: rest <:+ text → '>' ∈ rest ∧ '<' ∉ rest.takeWhile (· != '>')

/-- The run up to a character ends at the first place where that character occurs. -/
theorem takeWhile_append_cons {x : Char} {s t : Text} (hs : x ∉ s) :
    (s ++ x :: t).takeWhile (· != x) = s := by
  have hall : ∀ y ∈ s, (y != x) = true := fun y hy => bne_iff_ne.2 (ne_of_mem_of_not_mem hy hs)
  rw [List.takeWhile_append_of_pos hall, List.takeWhile_cons_of_neg (by simp), List.append_nil]

/-- A text without a character stands in front of that character or not at all. -/
theorem isPrefix_append_cons_iff {x : Char} {s t u : Text} (hs : x ∉ s) :
    s <+: t ++ x :: u ↔ s <+: t := by
  constructor
  · rintro ⟨more, hmore⟩
    rcases List.append_eq_append_iff.1 hmore with ⟨v, hv, -⟩ | ⟨v, hv, hrest⟩
    · exact ⟨v, hv.symm⟩
    · cases v with
      | nil => exact ⟨[], by simpa using hv⟩
      | cons y v =>
        have hy : x = y := (List.cons.inj hrest).1
        exact absurd (by simp [hv, hy]) hs
  · exact fun h => h.trans (List.prefix_append t _)

section Closed

variable {text t : Text}

/-- The ends of a closed text are closed. -/
theorem Closed.of_suffix (h : Closed text) (ht : t <:+ text) : Closed t :=
  fun rest hrest => h rest (hrest.trans ht)

/-- The ends of a text with closed brackets are such texts. -/
theorem Bracketed.of_suffix (h : Bracketed text) (ht : t <:+ text) : Bracketed t :=
  fun rest hrest => h rest (hrest.trans ht)

/-- Brackets that are closed before others are opened are closed. -/
theorem Bracketed.closed (h : Bracketed text) : Closed text := fun rest hrest => (h rest hrest).1

/-- What is in front of an opening bracket has its brackets closed. -/
theorem Bracketed.of_append (h : Bracketed (text ++ '<' :: t)) : Bracketed text := by
  rintro rest ⟨front, rfl⟩
  obtain ⟨-, hnone⟩ := h (rest ++ '<' :: t) ⟨front, by simp⟩
  have hclosed : '>' ∈ rest := by
    by_contra hopen
    have hall : ∀ y ∈ rest, (y != '>') = true := fun y hy =>
      bne_iff_ne.2 (ne_of_mem_of_not_mem hy hopen)
    rw [List.takeWhile_append_of_pos hall, List.takeWhile_cons_of_pos (by decide)] at hnone
    simp at hnone
  obtain ⟨inner, more, rfl, hinner⟩ := List.eq_append_cons_of_mem hclosed
  rw [List.append_assoc, List.cons_append, takeWhile_append_cons hinner] at hnone
  exact ⟨hclosed, by rwa [takeWhile_append_cons hinner]⟩

/-- A character goes in front of a text; an opening bracket must be closed there. -/
theorem Bracketed.cons {c : Char} (h : Bracketed text)
    (hc : c = '<' → '>' ∈ text ∧ '<' ∉ text.takeWhile (· != '>')) : Bracketed (c :: text) := by
  intro rest hrest
  rcases List.suffix_cons_iff.1 hrest with heq | htail
  · obtain ⟨rfl, rfl⟩ := List.cons.inj heq
    exact hc rfl
  · exact h rest htail

instance (text : Text) : Decidable (Bracketed text) :=
  decidable_of_iff (∀ s ∈ text.tails, s.head? = some '<' →
      '>' ∈ s.tail ∧ '<' ∉ s.tail.takeWhile (· != '>')) <| by
    constructor
    · intro h rest hrest
      exact h _ ((List.mem_tails _ _).2 hrest) rfl
    · intro h s hs hhead
      obtain ⟨rest, rfl⟩ := List.head?_eq_some_iff.1 hhead
      exact h rest ((List.mem_tails _ _).1 hs)

end Closed

/-! ## The scan of a closed text -/

section Scan

variable {names : List Text} {before : Char} {name s t : Text}

/-- Whether a name is found in front of a closing bracket does not depend on what is behind. -/
theorem namedLength?_append_of_mem (hname : '>' ∉ name) (hs : '>' ∈ s) :
    namedLength? before (s ++ t) name = namedLength? before s name := by
  obtain ⟨inner, more, rfl, hinner⟩ := List.eq_append_cons_of_mem hs
  have hfound : name <+: inner ++ '>' :: more ++ t ↔ name <+: inner ++ '>' :: more := by
    rw [List.append_assoc, List.cons_append, isPrefix_append_cons_iff hname,
      isPrefix_append_cons_iff hname]
  by_cases hthere : name <+: inner ++ '>' :: more
  · obtain ⟨last, rfl⟩ := (isPrefix_append_cons_iff hname).1 hthere
    have hlast : '>' ∉ last := fun hmem => hinner (List.mem_append_right name hmem)
    have hdrop : (name ++ last ++ '>' :: more).drop name.length = last ++ '>' :: more := by simp
    have hdrop' : (name ++ last ++ '>' :: more ++ t).drop name.length =
        last ++ '>' :: (more ++ t) := by simp
    have hhead : (last ++ '>' :: (more ++ t)).head? = (last ++ '>' :: more).head? := by
      cases last <;> rfl
    unfold namedLength?
    simp only [hfound, hdrop, hdrop', hhead, takeWhile_append_cons hlast, List.mem_append,
      List.mem_cons, true_or, or_true]
  · unfold namedLength?
    rw [if_neg fun h => hthere (hfound.1 h.1), if_neg fun h => hthere h.1]

/-- A tag that is found has its end in the text. -/
theorem namedLength?_le {n : Nat} (h : namedLength? before s name = some n) : n ≤ s.length := by
  simp only [namedLength?] at h
  split at h
  · next hfound =>
    obtain ⟨⟨more, rfl⟩, -, hcloses⟩ := hfound
    rw [List.drop_left] at h hcloses
    obtain ⟨inner, last, rfl, hinner⟩ := List.eq_append_cons_of_mem hcloses
    rw [takeWhile_append_cons hinner] at h
    obtain rfl := Option.some.inj h
    simp only [List.length_append, List.length_cons]
    omega
  · simp at h

/-- A tag that is found goes on with a name, behind a slash or at once. -/
theorem exists_namedLength? {n : Nat} (h : tagLength? names s = some n) :
    (∃ rest m, s = '/' :: rest ∧ n = m + 1 ∧
        ∃ name ∈ names, namedLength? '/' rest name = some m) ∨
      ∃ name ∈ names, namedLength? '<' s name = some n := by
  by_cases hslash : s.head? = some '/'
  · obtain ⟨rest, rfl⟩ := List.head?_eq_some_iff.1 hslash
    rw [tagLength?_slash, Option.or_eq_some_iff] at h
    rcases h with hclosing | ⟨-, hopening⟩
    · obtain ⟨m, hm, rfl⟩ := Option.map_eq_some_iff.1 hclosing
      exact Or.inl ⟨rest, m, rfl, rfl, List.exists_of_findSome?_eq_some hm⟩
    · exact Or.inr (List.exists_of_findSome?_eq_some hopening)
  · rw [tagLength?_of_head?_ne hslash] at h
    exact Or.inr (List.exists_of_findSome?_eq_some h)

/-- A tag that is found has its end in the text. -/
theorem tagLength?_le {n : Nat} (h : tagLength? names s = some n) : n ≤ s.length := by
  rcases exists_namedLength? h with ⟨rest, m, rfl, rfl, name, -, hfound⟩ | ⟨name, -, hfound⟩
  · exact Nat.succ_le_succ (namedLength?_le hfound)
  · exact namedLength?_le hfound

/-- The first result is the same if all results are. -/
theorem findSome?_congr {α β : Type} {f g : α → Option β} {list : List α}
    (h : ∀ x ∈ list, f x = g x) : list.findSome? f = list.findSome? g := by
  induction list with
  | nil => rfl
  | cons x list ih =>
    rw [List.findSome?_cons, List.findSome?_cons, h x List.mem_cons_self,
      ih fun y hy => h y (List.mem_cons_of_mem x hy)]

/-- Whether a tag is found in front of a closing bracket does not depend on what is behind. -/
theorem tagLength?_append (hnames : ∀ name ∈ names, '>' ∉ name) (hs : '>' ∈ s) :
    tagLength? names (s ++ t) = tagLength? names s := by
  have hnamed : ∀ (before : Char) {text : Text}, '>' ∈ text →
      names.findSome? (namedLength? before (text ++ t)) =
        names.findSome? (namedLength? before text) := by
    intro before text htext
    exact findSome?_congr fun name hname => namedLength?_append_of_mem (hnames name hname) htext
  by_cases hslash : s.head? = some '/'
  · obtain ⟨rest, rfl⟩ := List.head?_eq_some_iff.1 hslash
    have hrest : '>' ∈ rest := by simpa using hs
    rw [List.cons_append, tagLength?_slash, tagLength?_slash, hnamed '/' hrest,
      ← List.cons_append, hnamed '<' hs]
  · have hslash' : (s ++ t).head? ≠ some '/' := by
      cases s with
      | nil => simp at hs
      | cons x s => simpa using hslash
    rw [tagLength?_of_head?_ne hslash, tagLength?_of_head?_ne hslash', hnamed '<' hs]

/-- A closed text is scanned for itself, whatever follows it. -/
theorem scan_append (hnames : ∀ name ∈ names, '>' ∉ name) (hs : Closed s) (t : Text) :
    scan names (s ++ t) = scan names s ++ scan names t := by
  fun_induction scan names s with
  | case1 => rfl
  | case2 c rest length h ih =>
    split at h
    · next hc =>
      have hcloses : '>' ∈ rest := hs rest (hc ▸ List.suffix_rfl)
      have hlength := tagLength?_le h
      have hrest : Closed (rest.drop length) :=
        hs.of_suffix ((List.drop_suffix length rest).trans (List.suffix_cons c rest))
      rw [List.cons_append, scan, if_pos hc, tagLength?_append hnames hcloses, h]
      simp only [List.take_append_of_le_length hlength, List.drop_append_of_le_length hlength,
        ih hrest, List.cons_append]
    · simp at h
  | case3 c rest h ih =>
    have hnone : (if c = '<' then tagLength? names (rest ++ t) else none) = none := by
      split
      · next hc =>
        have hcloses : '>' ∈ rest := hs rest (hc ▸ List.suffix_rfl)
        rw [tagLength?_append hnames hcloses]
        simpa [hc] using h
      · rfl
    rw [List.cons_append, scan, hnone]
    simp only [ih (hs.of_suffix (List.suffix_cons c rest)), List.cons_append]

/-- A closed text is left for itself, whatever follows it. -/
theorem Closed.leaves (hs : Closed s) (hnames : ∀ name ∈ names, '>' ∉ name) :
    Leaves names s ((scan names s).flatMap Piece.rest) := by
  intro more
  rw [scan_append hnames hs, List.flatMap_append]

/-- Where brackets are closed one after the other, they are closed in what is left. -/
theorem Bracketed.flatMap_rest (hs : Bracketed s) :
    Bracketed ((scan names s).flatMap Piece.rest) := by
  fun_induction scan names s with
  | case1 => exact hs
  | case2 c rest length h ih =>
    exact ih (hs.of_suffix ((List.drop_suffix length rest).trans (List.suffix_cons c rest)))
  | case3 c rest h ih =>
    have hrest : Bracketed rest := hs.of_suffix (List.suffix_cons c rest)
    refine (ih hrest).cons fun hc => ?_
    obtain ⟨hcloses, hplain⟩ := hs rest (hc ▸ List.suffix_rfl)
    obtain ⟨inner, more, rfl, hinner⟩ := List.eq_append_cons_of_mem hcloses
    rw [takeWhile_append_cons hinner] at hplain
    -- Up to the closing bracket everything is kept.
    have hkept : (scan names (inner ++ '>' :: more)).flatMap Piece.rest =
        inner ++ '>' :: (scan names more).flatMap Piece.rest := by
      have hopen : '<' ∉ inner ++ ['>'] := by simpa using hplain
      have hleft : Leaves names (inner ++ ['>']) (inner ++ ['>']) := leaves_plain hopen
      simpa using hleft more
    rw [hkept, takeWhile_append_cons hinner]
    exact ⟨by simp, hplain⟩

end Scan

end Sentinels.Document
