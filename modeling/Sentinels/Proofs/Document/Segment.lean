import Sentinels.Proofs.Document.Bracket

/-!
# Tags as tokens

A text whose brackets are closed one after the other is a row of runs without opening brackets and
of tokens, which go from an opening bracket to the next closing one. If no name holds a closing
bracket, then a match of the pattern of tags in such a text is a token, and whether a token matches
does not depend on what stands around it. So removing tags is a filter on the tokens
(`withoutTags_filters_tokens`).
-/

set_option autoImplicit false

namespace Sentinels.Document

open Pattern

/-! ## Texts with a closed end -/

/-- If the last opening bracket is closed, then all are. -/
theorem closed_of_last {text : Text}
    (h : ∀ rest, '<' :: rest <:+ text → '<' ∉ rest → '>' ∈ rest) : Closed text := by
  intro rest hrest
  induction hlength : rest.length using Nat.strong_induction_on generalizing rest with
  | h length ih =>
    by_cases hmore : '<' ∈ rest
    · obtain ⟨front, behind, rfl⟩ := List.append_of_mem hmore
      have hbehind : '<' :: behind <:+ '<' :: (front ++ '<' :: behind) :=
        ⟨'<' :: front, rfl⟩
      have hshorter : behind.length < length := by
        rw [← hlength, List.length_append, List.length_cons]
        omega
      have hclosed := ih behind.length hshorter behind (hbehind.trans hrest) rfl
      exact List.mem_append_right front (List.mem_cons_of_mem '<' hclosed)
    · exact h rest hrest hmore

/-! ## Runs and tokens -/

/-- A part of a text: a run without opening brackets, or what stands between two brackets. -/
inductive Segment
  | run (text : Text) (plain : '<' ∉ text)
  | token (inner : Text) (opens : '<' ∉ inner) (closes : '>' ∉ inner)

/-- Is the whole text a match of the pattern, if there is a pattern? -/
def isMatch (tags : Option Pattern) (text : Text) : Bool :=
  tags.any fun pattern => (pattern.findAll text).any fun m =>
    m.start == .start text && m.stop.rest.isEmpty

namespace Segment

/-- The part as it is written. -/
def text : Segment → Text
  | run text _ => text
  | token inner _ _ => '<' :: (inner ++ ['>'])

/-- Runs are kept, and so are the tokens that are no matches. -/
def isKept (tags : Option Pattern) : Segment → Bool
  | run _ _ => true
  | token inner _ _ => !isMatch tags ('<' :: (inner ++ ['>']))

/-- The text that parts make up. -/
def join (segments : List Segment) : Text := segments.flatMap text

end Segment

/-- A text whose brackets are closed one after the other consists of runs and tokens. -/
theorem exists_segments {text : Text} (h : Bracketed text) :
    ∃ segments, Segment.join segments = text := by
  induction hlength : text.length using Nat.strong_induction_on generalizing text with
  | h length ih =>
    cases text with
    | nil => exact ⟨[], rfl⟩
    | cons c rest =>
      by_cases hc : c = '<'
      · subst hc
        obtain ⟨hcloses, hopens⟩ := h rest List.suffix_rfl
        obtain ⟨inner, more, rfl, hinner⟩ := List.eq_append_cons_of_mem hcloses
        rw [takeWhile_append_cons hinner] at hopens
        have hmore : more <:+ '<' :: (inner ++ '>' :: more) := ⟨'<' :: (inner ++ ['>']), by simp⟩
        have hshorter : more.length < length := by
          rw [← hlength, List.length_cons, List.length_append, List.length_cons]
          omega
        obtain ⟨segments, hsegments⟩ := ih more.length hshorter (h.of_suffix hmore) rfl
        refine ⟨.token inner hopens hinner :: segments, ?_⟩
        rw [Segment.join, List.flatMap_cons, ← Segment.join, hsegments]
        simp [Segment.text]
      · have hshorter : rest.length < length := by
          rw [← hlength, List.length_cons]
          omega
        obtain ⟨segments, hsegments⟩ :=
          ih rest.length hshorter (h.of_suffix (List.suffix_cons c rest)) rfl
        have hplain : '<' ∉ [c] := mt List.mem_singleton.1 (Ne.symm hc)
        refine ⟨.run [c] hplain :: segments, ?_⟩
        rw [Segment.join, List.flatMap_cons, ← Segment.join, hsegments]
        rfl

/-- An opening bracket does not stand in front of where it may stand. -/
theorem suffix_of_suffix_append {s t rest : Text} (hs : '<' ∉ s) (h : '<' :: rest <:+ s ++ t) :
    '<' :: rest <:+ t := by
  induction s with
  | nil => exact h
  | cons x s ih =>
    obtain ⟨hx, hs⟩ := not_or.1 (mt List.mem_cons.2 hs)
    rcases List.suffix_cons_iff.1 h with heq | htail
    · exact absurd (List.cons.inj heq).1 hx
    · exact ih hs htail

/-- An opening bracket is that of a token. -/
theorem exists_token {segments : List Segment} {rest : Text}
    (h : '<' :: rest <:+ Segment.join segments) :
    ∃ inner opens closes more, Segment.token inner opens closes ∈ segments ∧
      rest = inner ++ ['>'] ++ more := by
  induction segments with
  | nil => exact absurd (List.suffix_nil.1 h) (List.cons_ne_nil _ _)
  | cons segment segments ih =>
    have hlater : '<' :: rest <:+ Segment.join segments →
        ∃ inner opens closes more, Segment.token inner opens closes ∈ segment :: segments ∧
          rest = inner ++ ['>'] ++ more := by
      intro hrest
      obtain ⟨inner, opens, closes, more, hmem, heq⟩ := ih hrest
      exact ⟨inner, opens, closes, more, List.mem_cons_of_mem segment hmem, heq⟩
    cases segment with
    | run text plain => exact hlater (suffix_of_suffix_append plain h)
    | token inner opens closes =>
      have hplain : '<' ∉ inner ++ ['>'] := by simpa using opens
      rcases List.suffix_cons_iff.1 h with heq | htail
      · exact ⟨inner, opens, closes, _, List.mem_cons_self, (List.cons.inj heq).2⟩
      · exact hlater (suffix_of_suffix_append hplain htail)

/-! ## Matches in tokens -/

section Tokens

variable {names : List Text} {inner : Text}

/-- A name that is found in a token belongs to a tag that ends where the token does. -/
theorem namedLength?_token {before : Char} {name : Text} {n : Nat} (closes : '>' ∉ inner)
    (h : namedLength? before (inner ++ ['>']) name = some n) : n = (inner ++ ['>']).length := by
  unfold namedLength? at h
  simp only at h
  split at h
  · next hfound =>
    obtain ⟨⟨behind, hbehind⟩, -, hcloses⟩ := hfound
    rw [← hbehind, List.drop_left] at h hcloses
    obtain ⟨front, last, rfl, hfront⟩ := List.eq_append_cons_of_mem hcloses
    rw [takeWhile_append_cons hfront] at h
    obtain rfl := Option.some.inj h
    rcases List.eq_nil_or_concat last with rfl | ⟨more, y, rfl⟩
    · rw [← hbehind]
      simp only [List.length_append, List.length_cons, List.length_nil]
      omega
    · -- The last character is the only closing bracket.
      have hinner : name ++ (front ++ '>' :: more) ++ [y] = inner ++ ['>'] := by
        simpa using hbehind
      obtain ⟨rfl, -⟩ := List.append_inj' hinner rfl
      exact absurd (by simp) closes
  · simp at h

/-- A tag that is found in front of a bracket reaches up to the bracket. -/
theorem tagLength?_token {n : Nat} (closes : '>' ∉ inner)
    (h : tagLength? names (inner ++ ['>']) = some n) : n = (inner ++ ['>']).length := by
  rcases exists_namedLength? h with ⟨rest, m, hrest, rfl, name, -, hfound⟩ | ⟨name, -, hfound⟩
  · cases inner with
    | nil => simp at hrest
    | cons x inner =>
      obtain ⟨rfl, rfl⟩ := List.cons.inj hrest
      rw [namedLength?_token (mt (List.mem_cons_of_mem _) closes) hfound]
      rfl
  · exact namedLength?_token closes hfound

variable (hnames : ∀ name ∈ names, '>' ∉ name)

include hnames

/-- A token is deleted or left as a whole, whatever follows it. -/
theorem leaves_token (opens : '<' ∉ inner) (closes : '>' ∉ inner) :
    Leaves names ('<' :: (inner ++ ['>']))
      (if (tagLength? names (inner ++ ['>'])).isSome then [] else '<' :: (inner ++ ['>'])) := by
  have hcloses : '>' ∈ inner ++ ['>'] := by simp
  cases hfound : tagLength? names (inner ++ ['>']) with
  | none =>
    apply leaves_bracket (by simpa using opens)
    intro more
    rw [tagLength?_append hnames hcloses, hfound]
  | some n =>
    apply leaves_tag
    intro more
    rw [tagLength?_append hnames hcloses, hfound, tagLength?_token closes hfound]

end Tokens

/-! ## The compiled pattern -/

section Compiled

variable {names : List Text} {tags : Option Pattern}
  (htags : PatternSet.compileTags names = .ok tags)

include htags

/-- What compiles is the pattern of the names, unless there are none. -/
theorem eq_of_compileTags :
    (names = [] ∧ tags = none) ∨ ∃ first others source, names = first :: others ∧
      tags = some (ofExpr source (tagExpr (first :: others))) := by
  cases names with
  | nil => exact Or.inl ⟨rfl, (Except.ok.inj htags).symm⟩
  | cons first others =>
    obtain ⟨source, hsource⟩ : ∃ source,
        PatternSet.tagSource? (first :: others) = some source := ⟨_, rfl⟩
    have hcompiled : (PatternSet.compileFor .tag source).map some = .ok tags := by
      rw [← htags, PatternSet.compileTags, hsource]
    unfold PatternSet.compileFor at hcompiled
    have hsize : compile source ≠ .error .size := by
      intro hlarge
      rw [hlarge] at hcompiled
      cases hcompiled
    rw [compile_tagSource hsource hsize] at hcompiled
    exact Or.inr ⟨first, others, source, rfl, (Except.ok.inj hcompiled).symm⟩

/-- Deleting the tags leaves what the scan leaves. -/
theorem withoutTags_eq (text : Text) :
    withoutTags tags text = (scan names text).flatMap Piece.rest := by
  rcases eq_of_compileTags htags with ⟨rfl, rfl⟩ | ⟨first, others, source, rfl, rfl⟩
  · exact (flatMap_rest_scan_nil text).symm
  · exact deleteAll_tagExpr first others source text

/-- A text has no match if no tag is found behind any of its brackets. -/
theorem findAll_eq_nil {pattern : Pattern} (hpattern : tags = some pattern) {text : Text}
    (h : ∀ rest, '<' :: rest <:+ text → tagLength? names rest = none) :
    pattern.findAll text = [] := by
  rcases eq_of_compileTags htags with ⟨-, rfl⟩ | ⟨first, others, source, rfl, rfl⟩
  · cases hpattern
  · obtain rfl := Option.some.inj hpattern
    have hscans := (flat_tagExpr first others).findAll_scans (neverEmpty_tagExpr first others)
      source text
    apply hscans.unique
    apply Scans.nil_of_forall
    intro i _
    have hsuffix : ((Cursor.start text).skip i).rest <:+ text := List.drop_suffix i text
    cases hrest : ((Cursor.start text).skip i).rest with
    | nil => exact first?_tagExpr_nil first others _ hrest
    | cons x rest =>
      rw [hrest] at hsuffix
      rw [first?_tagExpr first others _ hrest]
      by_cases hx : x = '<'
      · subst hx
        rw [if_pos rfl, h rest hsuffix]
        rfl
      · rw [if_neg hx]
        rfl

/-- A token is a match exactly if a tag is found behind its bracket. -/
theorem isMatch_token {inner : Text} (closes : '>' ∉ inner) :
    isMatch tags ('<' :: (inner ++ ['>'])) = (tagLength? names (inner ++ ['>'])).isSome := by
  rcases eq_of_compileTags htags with ⟨rfl, rfl⟩ | ⟨first, others, source, rfl, rfl⟩
  · rw [tagLength?_nil]
    rfl
  · have hscans := (flat_tagExpr first others).findAll_scans (neverEmpty_tagExpr first others)
      source ('<' :: (inner ++ ['>']))
    have hfirst := first?_tagExpr first others (Cursor.start ('<' :: (inner ++ ['>']))) rfl
    rw [if_pos rfl] at hfirst
    unfold isMatch
    rw [Option.any_some, Bool.eq_iff_iff, List.any_eq_true]
    generalize (ofExpr source (tagExpr (first :: others))).findAll _ = ms at hscans ⊢
    constructor
    · rintro ⟨m, hm, hspans⟩
      have hstart : m.start = .start ('<' :: (inner ++ ['>'])) := by
        simpa using (Bool.and_eq_true_iff.1 hspans).1
      by_contra hnone
      rw [Option.not_isSome_iff_eq_none.1 hnone] at hfirst
      cases hscans with
      | done => exact List.not_mem_nil hm
      | pass _ _ hlater =>
        have hpos := hlater.pos_le_start (fun c hit hhit =>
          (neverEmpty_tagExpr first others c hit hhit).le) hm
        rw [hstart] at hpos
        exact absurd hpos (by simp [Cursor.start])
      | take hfound => exact absurd (hfirst.symm.trans hfound) (by simp)
    · intro hsome
      obtain ⟨n, hn⟩ := Option.isSome_iff_exists.1 hsome
      rw [hn, Option.map_some] at hfirst
      cases hscans with
      | done _ hnone => exact absurd (hfirst.symm.trans hnone) (by simp)
      | pass _ hnone => exact absurd (hfirst.symm.trans hnone) (by simp)
      | take hfound =>
        obtain rfl := Option.some.inj (hfirst.symm.trans hfound)
        refine ⟨_, List.mem_cons_self, ?_⟩
        simp [tagLength?_token closes hn, Hit.here, Cursor.start]

/-- Runs and kept tokens are left, and nothing else is. -/
theorem leaves_join (hnames : ∀ name ∈ names, '>' ∉ name) (segments : List Segment) :
    Leaves names (Segment.join segments)
      (Segment.join (segments.filter (Segment.isKept tags))) := by
  induction segments with
  | nil => exact leaves_nil
  | cons segment segments ih =>
    have hsegment : Leaves names segment.text
        (if segment.isKept tags then segment.text else []) := by
      cases segment with
      | run text plain => exact leaves_plain plain
      | token inner opens closes =>
        have htoken := leaves_token hnames opens closes
        rw [← isMatch_token htags closes] at htoken
        by_cases hmatch : isMatch tags ('<' :: (inner ++ ['>'])) = true
        · simpa [Segment.isKept, Segment.text, hmatch] using htoken
        · simpa [Segment.isKept, Segment.text, hmatch] using htoken
    have hboth := hsegment.append ih
    rw [List.filter_cons]
    split
    · next hkept => simpa [hkept, Segment.join] using hboth
    · next hdeleted => simpa [hdeleted, Segment.join] using hboth

/-- Of a document in segments, the segments remain that no tag matches. -/
theorem withoutTags_join (hnames : ∀ name ∈ names, '>' ∉ name) (segments : List Segment) :
    withoutTags tags (Segment.join segments) =
      Segment.join (segments.filter (Segment.isKept tags)) := by
  rw [withoutTags_eq htags]
  exact (leaves_join htags hnames segments).flatMap_rest

/-- Kept parts hold no match. -/
theorem findAll_join_eq_nil (hnames : ∀ name ∈ names, '>' ∉ name) {pattern : Pattern}
    (hpattern : tags = some pattern) {segments : List Segment}
    (hkept : ∀ segment ∈ segments, segment.isKept tags = true) :
    pattern.findAll (Segment.join segments) = [] := by
  apply findAll_eq_nil htags hpattern
  intro rest hrest
  obtain ⟨inner, opens, closes, more, hmem, rfl⟩ := exists_token hrest
  have htoken : (!isMatch tags ('<' :: (inner ++ ['>']))) = true := hkept _ hmem
  rw [isMatch_token htags closes, Bool.not_eq_true', Option.isSome_eq_false_iff,
    Option.isNone_iff_eq_none] at htoken
  rw [tagLength?_append hnames (by simp), htoken]

end Compiled

/--
**Removing tags is a filter on tokens.** Let no name hold a closing bracket. Then a text is split at
any place in front of which all brackets are closed, and the parts are treated apart. In a text
whose brackets are closed one after the other, however it is seen as runs and tokens, exactly those
tokens are deleted that are matches of the pattern. So no match is left, and nothing changes when
tags are removed again.
-/
theorem withoutTags_filters_tokens (names : List Text) (tags : Option Pattern)
    (hnames : ∀ name ∈ names, '>' ∉ name) (htags : PatternSet.compileTags names = .ok tags) :
    (∀ u v, (∀ rest, '<' :: rest <:+ u → '<' ∉ rest → '>' ∈ rest) →
      withoutTags tags (u ++ v) = withoutTags tags u ++ withoutTags tags v) ∧
    ∀ text, Bracketed text →
      (∃ segments, Segment.join segments = text) ∧
      (∀ segments, Segment.join segments = text →
        withoutTags tags text = Segment.join (segments.filter (Segment.isKept tags))) ∧
      (∀ pattern, tags = some pattern → pattern.findAll (withoutTags tags text) = []) ∧
      withoutTags tags (withoutTags tags text) = withoutTags tags text := by
  constructor
  · intro u v hlast
    have hclosed : Closed u := closed_of_last hlast
    rw [withoutTags_eq htags, withoutTags_eq htags, withoutTags_eq htags,
      scan_append hnames hclosed, List.flatMap_append]
  · intro text htext
    obtain ⟨segments, rfl⟩ := exists_segments htext
    have hkept : ∀ segment ∈ segments.filter (Segment.isKept tags),
        segment.isKept tags = true := by
      intro segment hmem
      exact (List.mem_filter.1 hmem).2
    refine ⟨⟨segments, rfl⟩, ?_, ?_, ?_⟩
    · intro others hothers
      rw [← hothers, withoutTags_join htags hnames]
    · intro pattern hpattern
      rw [withoutTags_join htags hnames]
      exact findAll_join_eq_nil htags hnames hpattern hkept
    · rw [withoutTags_join htags hnames, withoutTags_join htags hnames,
        List.filter_eq_self.2 hkept]

/-- Anchors are deleted and another tag is left, in two parts of a text. -/
theorem withoutTags_filters_tokens_anchors :
    ∃ tags, PatternSet.compileTags [['a']] = .ok tags ∧
      withoutTags tags ("x<a\n>".toList ++ "y</b>z</a b>".toList) = "xy</b>z".toList ∧
      withoutTags tags "xy</b>z".toList = "xy</b>z".toList := by
  have hsize : ∀ source, PatternSet.tagSource? [['a']] = some source →
      Pattern.compile source ≠ .error .size := by
    intro source hsource
    obtain rfl := Option.some.inj hsource
    decide +kernel
  obtain ⟨tags, htags, -, hscan⟩ := exists_compileTags hsize
  obtain ⟨hsplit, hfilter⟩ := withoutTags_filters_tokens [['a']] tags (by decide) htags
  have hlast : ∀ rest, '<' :: rest <:+ "x<a\n>".toList → '<' ∉ rest → '>' ∈ rest := by
    intro rest hrest _
    exact (show Bracketed "x<a\n>".toList by decide).closed rest hrest
  have hresult : withoutTags tags ("x<a\n>".toList ++ "y</b>z</a b>".toList) =
      "xy</b>z".toList := by
    rw [hsplit _ _ hlast, hscan, hscan]
    decide +kernel
  obtain ⟨-, -, -, hagain⟩ :=
    hfilter ("x<a\n>".toList ++ "y</b>z</a b>".toList) (by decide)
  rw [hresult] at hagain
  exact ⟨tags, htags, hresult, hagain⟩

end Sentinels.Document
