import Sentinels.Proofs.Document.Bracket
import Sentinels.Proofs.LineEnd.Text

/-!
# Tags and line ends

Line ends may stand inside tags. Neither spelling ends the name of a tag otherwise than the other,
so a tag is found in the rewritten text where it is found in the text, and its rewriting is deleted
(`flatMap_rest_scan_crlf`).
-/

set_option autoImplicit false

namespace Sentinels.Document

open Text (OneLine crlf crlf_cons crlf_feed crlf_append)

/-- Neither character of a line end is part of a word. -/
theorem isWord_return_eq_feed : Unicode.isWord '\r' = Unicode.isWord '\n' := by
  decide +kernel

section Tags

variable {names : List Text} {before : Char} {name : Text}

/-- A name is found in the rewritten text exactly if it is found in the text. -/
theorem namedLength?_crlf (hname : OneLine name) (text : Text) :
    namedLength? before (crlf text) name =
      (namedLength? before text name).map fun n => (crlf (text.take n)).length := by
  by_cases hthere : name <+: text
  · obtain ⟨behind, rfl⟩ := hthere
    have hdrop : (name ++ crlf behind).drop name.length = crlf behind := List.drop_left
    have hdrop' : (name ++ behind).drop name.length = behind := List.drop_left
    have hclosing : '>' ∈ crlf behind ↔ '>' ∈ behind := Text.mem_crlf_iff (by decide)
    rw [crlf_append, Text.crlf_of_notMem hname.2]
    simp only [namedLength?, hdrop, hdrop', List.prefix_append, true_and, hclosing,
      Text.any_head?_crlf isWord_return_eq_feed]
    split
    · next hfound =>
      -- The first closing bracket stays the first one.
      obtain ⟨inner, more, rfl, hinner⟩ := List.eq_append_cons_of_mem hfound.2
      have hplain : '>' ∉ crlf inner := Text.notMem_crlf (by decide) hinner
      have htake : (name ++ (inner ++ '>' :: more)).take (name.length + inner.length + 1) =
          name ++ (inner ++ ['>']) := by
        rw [Nat.add_assoc, List.take_length_add_append, List.take_length_add_append]
        rfl
      have hrest : crlf ('>' :: more) = '>' :: crlf more := crlf_cons (by decide) more
      rw [Option.map_some, takeWhile_append_cons hinner, htake, crlf_append, hrest,
        takeWhile_append_cons hplain, crlf_append, crlf_append, Text.crlf_of_notMem hname.2]
      simp only [List.length_append]
      rfl
    · rfl
  · have hthere' : ¬ name <+: crlf text := mt (Text.isPrefix_crlf_iff hname text).1 hthere
    simp only [namedLength?, hthere, hthere', false_and, if_false, Option.map_none]

/-- A tag is found in the rewritten text exactly if it is found in the text. -/
theorem tagLength?_crlf (hnames : ∀ name ∈ names, OneLine name) (text : Text) :
    tagLength? names (crlf text) =
      (tagLength? names text).map fun n => (crlf (text.take n)).length := by
  have hnamed : ∀ (before : Char) (t : Text),
      names.findSome? (namedLength? before (crlf t)) =
        (names.findSome? (namedLength? before t)).map fun n => (crlf (t.take n)).length := by
    intro before t
    rw [List.map_findSome?]
    exact findSome?_congr fun name hname => namedLength?_crlf (hnames name hname) t
  by_cases hslash : text.head? = some '/'
  · obtain ⟨rest, rfl⟩ := List.head?_eq_some_iff.1 hslash
    have hcons : ∀ t : Text, crlf ('/' :: t) = '/' :: crlf t := crlf_cons (by decide)
    have hwhole := hnamed '<' ('/' :: rest)
    rw [hcons] at hwhole ⊢
    rw [tagLength?_slash, tagLength?_slash, hnamed, hwhole]
    cases names.findSome? (namedLength? '/' rest) with
    | none => rfl
    | some n => simp [hcons]
  · have hslash' : (crlf text).head? ≠ some '/' :=
      mt (Text.head?_crlf_eq_some_iff (by decide) (by decide)).1 hslash
    rw [tagLength?_of_head?_ne hslash, tagLength?_of_head?_ne hslash', hnamed]

/-- What is left of the rewritten text is what is left of the text, rewritten. -/
theorem flatMap_rest_scan_crlf (hnames : ∀ name ∈ names, OneLine name) (text : Text) :
    (scan names (crlf text)).flatMap Piece.rest =
      crlf ((scan names text).flatMap Piece.rest) := by
  fun_induction scan names text with
  | case1 => simp [scan]
  | case2 c rest length h ih =>
    split at h
    · next hc =>
      subst hc
      have htag := tagLength?_crlf hnames rest
      have hdrop : (crlf rest).drop (crlf (rest.take length)).length = crlf (rest.drop length) := by
        have hsplit := congrArg crlf (List.take_append_drop length rest)
        rw [← hsplit, crlf_append, List.drop_left]
      rw [crlf_cons (by decide), scan, if_pos rfl, tagLength?_crlf hnames, h]
      simp only [Option.map_some, hdrop, List.flatMap_cons, ih]
      rfl
    · simp at h
  | case3 c rest h ih =>
    by_cases hc : c = '\n'
    · subst hc
      have hkept : Leaves names ['\r', '\n'] ['\r', '\n'] := leaves_plain (by decide)
      rw [crlf_feed]
      exact (hkept (crlf rest)).trans (congrArg (['\r', '\n'] ++ ·) ih)
    · have hnone : (if c = '<' then tagLength? names (crlf rest) else none) = none := by
        rw [tagLength?_crlf hnames]
        split at h
        · next hopen => rw [if_pos hopen, h, Option.map_none]
        · next hopen => rw [if_neg hopen]
      rw [crlf_cons hc, scan, hnone]
      simp only [List.flatMap_cons, ih, crlf_append]
      rw [show Piece.rest (.kept c) = [c] from rfl, crlf_cons hc]
      rfl

end Tags

end Sentinels.Document
