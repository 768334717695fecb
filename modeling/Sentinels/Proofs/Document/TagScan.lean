import Sentinels.Proofs.Document.TagPattern
import Sentinels.Report

/-!
# Removing tags by a literal scan

Tags are removed by a pattern, yet what is removed can be said without patterns: a scan from left to
right looks at each opening bracket for a slash and a name, taken literally, with a boundary of
words behind it, and deletes up to the next closing bracket. The text without the matches of the
pattern is what the scan keeps (`withoutMatches_eq_scan`), so nothing is lost but the tags.
-/

set_option autoImplicit false

namespace Sentinels.Document

/-! ## The scan -/

/--
The length of the rest of a tag that goes on with the given name; `before` is the character in front
of it. One of the characters on both sides of the name's end belongs to a word and the other does
not, and the tag ends at the next closing bracket.
-/
def namedLength? (before : Char) (text name : Text) : Option Nat :=
  let behind := text.drop name.length
  if name <+: text ∧
      Unicode.isWord (name.getLast?.getD before) ≠ behind.head?.any Unicode.isWord ∧
      '>' ∈ behind then
    some (name.length + (behind.takeWhile (· != '>')).length + 1)
  else none

/--
The length of a tag behind its opening bracket. Where a slash follows, all names are tried behind it
first; then all names are tried where the slash is.
-/
def tagLength? (names : List Text) (text : Text) : Option Nat :=
  let closing := match text with
    | '/' :: rest => (names.findSome? (namedLength? '/' rest)).map (· + 1)
    | _ => none
  closing.or (names.findSome? (namedLength? '<' text))

/-- A part of a text that was scanned for tags. -/
inductive Piece
  | kept (c : Char)
  | deleted (tag : Text)
deriving DecidableEq, Repr

namespace Piece

/-- The text of a part. -/
def text : Piece → Text
  | .kept c => [c]
  | .deleted tag => tag

/-- What is left of a part. -/
def rest : Piece → Text
  | .kept c => [c]
  | .deleted _ => []

/-- The number of bytes that are deleted with a part. -/
def deletedBytes : Piece → Nat
  | .kept _ => 0
  | .deleted tag => tag.byteSize

end Piece

/-- The parts of a text: a tag is deleted, any other character is kept. -/
def scan (names : List Text) : Text → List Piece
  | [] => []
  | c :: rest =>
    match if c = '<' then tagLength? names rest else none with
    | some length => .deleted (c :: rest.take length) :: scan names (rest.drop length)
    | none => .kept c :: scan names rest
termination_by text => text.length

/-- The parts of a text make up the text. -/
theorem flatMap_text_scan (names : List Text) (text : Text) :
    (scan names text).flatMap Piece.text = text := by
  fun_induction scan names text with
  | case1 => rfl
  | case2 c rest length h ih => simp [Piece.text, ih]
  | case3 c rest h ih => simp [Piece.text, ih]

/-- What is left is the text without some of its parts. -/
theorem flatMap_rest_sublist (pieces : List Piece) :
    (pieces.flatMap Piece.rest).Sublist (pieces.flatMap Piece.text) := by
  induction pieces with
  | nil => exact List.Sublist.slnil
  | cons piece pieces ih =>
    cases piece with
    | kept c => exact ih.cons_cons c
    | deleted tag => exact ih.trans (List.sublist_append_right tag _)

/-- The bytes of a text are those that are left and those that are deleted. -/
theorem byteSize_flatMap_text (pieces : List Piece) :
    Text.byteSize (pieces.flatMap Piece.text) =
      Text.byteSize (pieces.flatMap Piece.rest) + (pieces.map Piece.deletedBytes).sum := by
  induction pieces with
  | nil => rfl
  | cons piece pieces ih =>
    have hpiece : Text.byteSize piece.text = Text.byteSize piece.rest + piece.deletedBytes := by
      cases piece with
      | kept c => rfl
      | deleted tag => exact (Nat.zero_add _).symm
    rw [List.flatMap_cons, List.flatMap_cons, List.map_cons, List.sum_cons, Text.byteSize_append,
      Text.byteSize_append, ih, hpiece]
    omega

/-- Behind a slash the names are tried first. -/
theorem tagLength?_slash (names : List Text) (rest : Text) :
    tagLength? names ('/' :: rest) =
      ((names.findSome? (namedLength? '/' rest)).map (· + 1)).or
        (names.findSome? (namedLength? '<' ('/' :: rest))) := rfl

/-- Without a slash the names are tried at once. -/
theorem tagLength?_of_head?_ne {names : List Text} {text : Text} (h : text.head? ≠ some '/') :
    tagLength? names text = names.findSome? (namedLength? '<' text) := by
  unfold tagLength?
  split
  · exact absurd rfl h
  · rfl

/-- Without names there are no tags. -/
theorem tagLength?_nil (text : Text) : tagLength? [] text = none := by
  unfold tagLength?
  split <;> rfl

/-- Without names every character is kept. -/
theorem flatMap_rest_scan_nil (text : Text) : (scan [] text).flatMap Piece.rest = text := by
  induction text with
  | nil => simp [scan]
  | cons c rest ih =>
    rw [scan, tagLength?_nil, ite_self]
    simpa [Piece.rest] using ih

/-! ## What the pattern of tags matches -/

section Matching

open Pattern

/-- A character is found behind the run of others exactly if it occurs. -/
theorem isPrefix_dropWhile_iff {x : Char} {text : Text} :
    [x] <+: text.dropWhile (· != x) ↔ x ∈ text := by
  induction text with
  | nil => simp
  | cons y text ih =>
    by_cases hy : y = x
    · simp [hy, List.cons_prefix_cons]
    · simpa [hy, Ne.symm hy] using ih

/-- The end of a tag: a boundary, and everything up to the next closing bracket. -/
theorem matchThen_tagEndExpr (d : Cursor) :
    tagEndExpr.matchThen (fun e => some (.here e)) d =
      if d.prev.any Unicode.isWord ≠ d.rest.head?.any Unicode.isWord ∧ '>' ∈ d.rest then
        some (.here (d.skip ((d.rest.takeWhile (· != '>')).length + 1)))
      else none := by
  have hset : (CharSet.singleton '>').compl.contains = fun y => y != '>' :=
    funext (CharSet.contains_compl_singleton (by decide))
  have hbracket : ['>'].head? = some '>' := rfl
  have hlook : Look.holds d (.word .boundary false) =
      (d.prev.any Unicode.isWord != d.rest.head?.any Unicode.isWord) := rfl
  rw [tagEndExpr, Expr.matchThen_seq, Expr.matchThen_look, Expr.matchThen_seq,
    Expr.matchThen_span_until (congrFun hset) (Expr.matchThen_text_eq_none hbracket),
    Expr.matchThen_text, hset, Cursor.pastRun_rest, Cursor.pastRun, Cursor.skip_skip, hlook]
  simp only [isPrefix_dropWhile_iff, bne_iff_ne, ne_eq, ite_and]
  rfl

/-- A name and the end of a tag, behind a given character. -/
theorem matchThen_named (before : Char) (d : Cursor) (hd : d.prev = some before) (name : Text) :
    (if name <+: d.rest then
        tagEndExpr.matchThen (fun e => some (.here e)) (d.skip name.length)
      else none) =
      (namedLength? before d.rest name).map fun n => .here (d.skip n) := by
  unfold namedLength?
  by_cases hname : name <+: d.rest
  · have htake : d.rest.take name.length = name := (List.prefix_iff_eq_take.1 hname).symm
    have hprev : (d.skip name.length).prev.any Unicode.isWord =
        Unicode.isWord (name.getLast?.getD before) := by
      rw [Cursor.skip_prev, htake, hd]
      cases name.getLast? <;> rfl
    rw [if_pos hname, matchThen_tagEndExpr, hprev, Cursor.skip_rest, Cursor.skip_skip]
    simp only [hname, true_and]
    split <;> simp [Nat.add_assoc]
  · simp [hname]

/-- Names are tried in their order behind a given character. -/
theorem matchThen_names (before : Char) (d : Cursor) (hd : d.prev = some before) (first : Text)
    (others : List Text) :
    (namedTagExpr (namesExpr (first :: others))).matchThen (fun e => some (.here e)) d =
      ((first :: others).findSome? (namedLength? before d.rest)).map fun n => .here (d.skip n) := by
  rw [matchThen_namedTagExpr, List.map_findSome?]
  congr 1
  funext name
  exact matchThen_named before d hd name

/-- Behind an opening bracket the pattern matches the rest of a tag. -/
theorem matchThen_tagRest (d : Cursor) (hd : d.prev = some '<') (first : Text)
    (others : List Text) :
    (Expr.text ['/']).option.matchThen
        ((namedTagExpr (namesExpr (first :: others))).matchThen fun e => some (.here e)) d =
      (tagLength? (first :: others) d.rest).map fun n => .here (d.skip n) := by
  rw [Expr.matchThen_option, Expr.matchThen_text, matchThen_names '<' d hd]
  by_cases hslash : ['/'] <+: d.rest
  · obtain ⟨rest, hrest⟩ := hslash
    have hprev : (d.skip 1).prev = some '/' := by simp [Cursor.skip_prev, ← hrest]
    have hskip : (d.skip 1).rest = rest := by simp [← hrest]
    rw [if_pos ⟨rest, hrest⟩, ← hrest, List.singleton_append, tagLength?_slash]
    change Option.or ((namedTagExpr (namesExpr (first :: others))).matchThen _ (d.skip 1)) _ = _
    rw [matchThen_names '/' (d.skip 1) hprev, hskip]
    cases (first :: others).findSome? (namedLength? '/' rest) with
    | none => rfl
    | some n =>
      change some (Hit.here ((d.skip 1).skip n)) = some (Hit.here (d.skip (n + 1)))
      rw [Cursor.skip_skip, Nat.add_comm]
  · have hhead : d.rest.head? ≠ some '/' := by
      intro hhead
      obtain ⟨rest, hrest⟩ := List.head?_eq_some_iff.1 hhead
      exact hslash ⟨rest, hrest.symm⟩
    rw [if_neg hslash, tagLength?_of_head?_ne hhead, Option.none_or]

/-- The pattern of tags matches a tag where one begins. -/
theorem first?_tagExpr (first : Text) (others : List Text) (c : Cursor) {x : Char} {rest : Text}
    (hrest : c.rest = x :: rest) :
    (tagExpr (first :: others)).first? c =
      (if x = '<' then tagLength? (first :: others) rest else none).map
        fun n => .here (c.skip (n + 1)) := by
  rw [Expr.first?_eq_matchThen, tagExpr, Expr.matchThen_seq, Expr.matchThen_text,
    Expr.matchThen_seq, hrest]
  by_cases hx : x = '<'
  · subst hx
    have hprev : (c.skip 1).prev = some '<' := by simp [Cursor.skip_prev, hrest]
    have hskip : (c.skip 1).rest = rest := by simp [hrest]
    have hopen : ['<'] <+: '<' :: rest := ⟨rest, rfl⟩
    rw [if_pos hopen, if_pos rfl]
    simp only [List.length_cons, List.length_nil, Nat.zero_add]
    rw [matchThen_tagRest (c.skip 1) hprev, hskip]
    simp only [Cursor.skip_skip, Nat.add_comm]
  · have hopen : ¬ ['<'] <+: x :: rest := by simp [List.cons_prefix_cons, Ne.symm hx]
    rw [if_neg hopen, if_neg hx]
    rfl

/-- The pattern of tags does not match behind the end of a text. -/
theorem first?_tagExpr_nil (first : Text) (others : List Text) (c : Cursor) (hrest : c.rest = []) :
    (tagExpr (first :: others)).first? c = none := by
  rw [Expr.first?_eq_matchThen, tagExpr, Expr.matchThen_seq, Expr.matchThen_text, hrest]
  simp

/-- No tag is empty. -/
theorem neverEmpty_tagExpr (first : Text) (others : List Text) :
    (tagExpr (first :: others)).NeverEmpty := by
  intro c hit hfound
  cases hrest : c.rest with
  | nil =>
    rw [first?_tagExpr_nil first others c hrest] at hfound
    exact absurd hfound (by simp)
  | cons x rest =>
    rw [first?_tagExpr first others c hrest] at hfound
    obtain ⟨n, -, rfl⟩ := Option.map_eq_some_iff.1 hfound
    simp

/-! ## The text without the matches -/

/-- A character without a match is left. -/
theorem withoutMatches_pass {find : Cursor → Option Hit} {c : Cursor} {ms : List Match} {x : Char}
    {rest : Text} (hrest : c.rest = x :: rest) (h : Scans find (c.skip 1) ms) :
    withoutMatches c ms = x :: withoutMatches (c.skip 1) ms := by
  cases ms with
  | nil => simp [withoutMatches, hrest]
  | cons m ms =>
    obtain ⟨n, hn⟩ := h.exists_start
    have htext : c.textTo m.start = x :: (c.skip 1).textTo m.start := by
      rw [hn, Cursor.textTo_skip, Cursor.skip_skip, Cursor.textTo_skip, hrest, Nat.add_comm,
        List.take_succ_cons, Cursor.skip_rest, hrest]
      rfl
    rw [withoutMatches, htext]
    rfl

/-- The text without the matches of the pattern is what the scan keeps. -/
theorem withoutMatches_eq_scan {first : Text} {others : List Text} {c : Cursor} {ms : List Match}
    (h : Scans (tagExpr (first :: others)).first? c ms) :
    withoutMatches c ms = (scan (first :: others) c.rest).flatMap Piece.rest := by
  induction h with
  | done hrest _ => simp [withoutMatches, hrest, scan]
  | @pass c ms hrest hnone h ih =>
    obtain ⟨x, rest, hx⟩ := List.exists_cons_of_ne_nil hrest
    rw [first?_tagExpr first others c hx, Option.map_eq_none_iff] at hnone
    rw [withoutMatches_pass hx h, ih, hx, scan, hnone]
    simp [hx, Piece.rest]
  | @take c hit ms hfind h ih =>
    cases hrest : c.rest with
    | nil =>
      rw [first?_tagExpr_nil first others c hrest] at hfind
      exact absurd hfind (by simp)
    | cons x rest =>
      rw [first?_tagExpr first others c hrest] at hfind
      obtain ⟨n, hn, rfl⟩ := Option.map_eq_some_iff.1 hfind
      rw [withoutMatches, ih, scan, hn]
      simp [Cursor.textTo, hrest, Piece.rest]

/-- A compiled pattern of tags removes what the scan deletes. -/
theorem deleteAll_tagExpr (first : Text) (others : List Text) (source text : Text) :
    (ofExpr source (tagExpr (first :: others))).deleteAll text =
      (scan (first :: others) text).flatMap Piece.rest :=
  withoutMatches_eq_scan ((flat_tagExpr first others).findAll_scans
    (neverEmpty_tagExpr first others) source text)

/-- The tags of a list of names compile, unless too large, and are removed by the scan. -/
theorem exists_compileTags {names : List Text}
    (hsize : ∀ source, PatternSet.tagSource? names = some source →
      Pattern.compile source ≠ .error .size) :
    ∃ tags, PatternSet.compileTags names = .ok tags ∧ (tags.isSome ↔ names ≠ []) ∧
      ∀ text, withoutTags tags text = (scan names text).flatMap Piece.rest := by
  cases names with
  | nil => exact ⟨none, rfl, by simp, fun text => (flatMap_rest_scan_nil text).symm⟩
  | cons first others =>
    obtain ⟨source, hsource⟩ : ∃ source,
        PatternSet.tagSource? (first :: others) = some source := ⟨_, rfl⟩
    refine ⟨some (ofExpr source (tagExpr (first :: others))), ?_, by simp,
      deleteAll_tagExpr first others source⟩
    rw [PatternSet.compileTags, hsource]
    change (PatternSet.compileFor .tag source).map some = _
    rw [PatternSet.compileFor, compile_tagSource hsource (hsize source hsource)]
    rfl

/--
**Tags are removed by a literal scan.** For all names, whatever characters they hold, the pattern of
tags compiles if it is not too large, and what it leaves of a text is what the scan keeps. So the
rest is a part of the text, and the number of bytes that is logged is that of the deleted tags.
-/
theorem withoutTags_eq_scan (names : List Text)
    (hsize : ∀ source, PatternSet.tagSource? names = some source →
      Pattern.compile source ≠ .error .size) :
    ∃ tags, PatternSet.compileTags names = .ok tags ∧
      (names = [] → ∀ text, withoutTags tags text = text) ∧
      ∀ text, withoutTags tags text = (scan names text).flatMap Piece.rest ∧
        (scan names text).flatMap Piece.text = text ∧
        (withoutTags tags text).Sublist text ∧
        (withoutTags tags text).byteSize ≤ text.byteSize ∧
        ∀ (patterns : PatternSet) (blocks : List Block) (found : Extraction) (removed : Nat),
          patterns.tags = tags →
          (Event.stripped removed ∈
              Report.eventsOf patterns text (withoutTags tags text) blocks found ↔
            names ≠ [] ∧ removed = ((scan names text).map Piece.deletedBytes).sum) := by
  obtain ⟨tags, htags, hsome, hscan⟩ := exists_compileTags hsize
  refine ⟨tags, htags, ?_, fun text => ?_⟩
  · rintro rfl text
    rw [hscan, flatMap_rest_scan_nil]
  · have hwhole := flatMap_text_scan names text
    have hbytes := byteSize_flatMap_text (scan names text)
    have hsublist := flatMap_rest_sublist (scan names text)
    rw [hwhole] at hbytes hsublist
    rw [hscan]
    refine ⟨rfl, hwhole, hsublist, ?_, ?_⟩
    · omega
    · rintro patterns blocks found removed rfl
      have hdifference : text.byteSize - Text.byteSize ((scan names text).flatMap Piece.rest) =
          ((scan names text).map Piece.deletedBytes).sum := by omega
      rw [Report.eventsOf, hdifference, ← hsome]
      by_cases hblocks : blocks.isEmpty <;> by_cases htags : patterns.tags.isSome <;>
        simp [hblocks, htags]

/-- Names of metacharacters, an empty name and a name that is given twice. -/
theorem withoutTags_eq_scan_metacharacters :
    ∃ tags, PatternSet.compileTags [".*".toList, "é|(".toList, [], ['a'], ['a']] = .ok tags ∧
      withoutTags tags "x</.*y>".toList = ['x'] := by
  have hsize : ∀ source,
      PatternSet.tagSource? [".*".toList, "é|(".toList, [], ['a'], ['a']] = some source →
        Pattern.compile source ≠ .error .size := by
    intro source hsource
    obtain rfl := Option.some.inj hsource
    decide +kernel
  have hlength : tagLength? [".*".toList, "é|(".toList, [], ['a'], ['a']] "/.*y>".toList =
      some 5 := by
    decide +kernel
  obtain ⟨tags, htags, -, hscan⟩ := withoutTags_eq_scan _ hsize
  have hpieces : scan [".*".toList, "é|(".toList, [], ['a'], ['a']] "x</.*y>".toList =
      [.kept 'x', .deleted "</.*y>".toList] := by
    change scan _ ('x' :: '<' :: "/.*y>".toList) = _
    rw [scan, if_neg (by decide), scan, if_pos rfl, hlength]
    simp [scan]
  refine ⟨tags, htags, ?_⟩
  rw [(hscan _).1, hpieces]
  rfl

end Matching

end Sentinels.Document
