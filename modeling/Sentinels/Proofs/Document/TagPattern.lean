import Sentinels.Proofs.Pattern.Escape
import Sentinels.Proofs.Pattern.Reading

/-!
# The pattern of tags

The pattern of tags stands for one expression. Its names are alternatives; names of one character
each become a set, and a lone empty name leaves no trace, but either way the names are tried in
their order. What follows a name is a boundary of words and the rest of the tag up to the next
closing bracket.
-/

set_option autoImplicit false

namespace Sentinels.Pattern

/-! ## Names as alternatives -/

/-- The expression for a name. -/
def nameExpr : Text → Expr
  | [] => .empty
  | c :: name => .text (c :: name)

/-- The expression for alternative names. -/
def namesExpr (names : List Text) : Expr := Expr.alternation (names.map nameExpr)

/-- A name is a text, or nothing. -/
theorem nameExpr_branches (name : Text) : (nameExpr name).branches = [nameExpr name] := by
  cases name <;> rfl

/-- The characters of a name are put together. -/
theorem meaning_nameAst (name : Text) :
    (nameAst name).meaning .default = .ok ([nameExpr name], .default) := by
  induction name with
  | nil => rfl
  | cons c name ih =>
    cases name with
    | nil => rfl
    | cons d name =>
      have hconcat : (nameAst (c :: d :: name)).meaning .default =
          ((nameAst (d :: name)).meaning .default).map fun m =>
            ([Expr.concat [.text [c], Expr.alternation m.1]], m.2) := rfl
      rw [hconcat, ih]
      rfl

/-- Alternative names mean the names one after the other. -/
theorem meaning_names (first : Text) (others : List Text) :
    (Ast.ofBranches ((first :: others).map nameAst)).meaning .default =
      .ok ((first :: others).map nameExpr, .default) := by
  induction others generalizing first with
  | nil => exact meaning_nameAst first
  | cons second others ih =>
    have hbranch : (Ast.ofBranches ((first :: second :: others).map nameAst)).meaning .default =
        ((nameAst first).meaning .default).bind fun m =>
          ((Ast.ofBranches ((second :: others).map nameAst)).meaning m.2).map fun m' =>
            (m.1 ++ m'.1, m'.2) := rfl
    rw [hbranch, meaning_nameAst]
    simp only [Except.bind]
    rw [ih]
    rfl

/-- The only names that are single characters are those of one character. -/
theorem char?_nameExpr {name : Text} {c : Char} (h : (nameExpr name).char? = some c) :
    name = [c] := by
  match name with
  | [] => simp [nameExpr, Expr.char?] at h
  | [d] => simpa [nameExpr, Expr.char?] using h
  | _ :: _ :: _ => simp [nameExpr, Expr.char?] at h

/-- Alternatives that are single characters come from names of one character. -/
theorem eq_of_mapM_char? {names : List Text} {chars : List Char}
    (h : (names.map nameExpr).mapM Expr.char? = some chars) :
    names = chars.map fun c => [c] := by
  induction names generalizing chars with
  | nil =>
    obtain rfl : [] = chars := by simpa using h
    rfl
  | cons first others ih =>
    rw [List.map_cons, List.mapM_cons] at h
    obtain ⟨c, hc, h⟩ := Option.bind_eq_some_iff.1 h
    obtain ⟨cs, hcs, h⟩ := Option.bind_eq_some_iff.1 h
    obtain rfl : c :: cs = chars := by simpa using h
    rw [List.map_cons, char?_nameExpr hc, ih hcs]

/-- Names do not mean sets. -/
theorem mapM_members?_eq_none (first : Text) (others : List Text) :
    ((first :: others).map nameExpr).mapM Expr.members? = none := by
  have hfirst : (nameExpr first).members? = none := by cases first <;> rfl
  simp [hfirst]

/-- The branches of alternative names are the names. -/
theorem flatMap_branches (names : List Text) :
    (names.map nameExpr).flatMap Expr.branches = names.map nameExpr := by
  induction names with
  | nil => rfl
  | cons first others ih => simp [nameExpr_branches, ih]

/-- Several alternatives that begin with a name are not sequences with a common beginning. -/
theorem alternation_names (first second : Text) (others : List Text) :
    namesExpr (first :: second :: others) =
      Expr.choice ((first :: second :: others).map nameExpr) := by
  have hseq : (nameExpr first).isSeq = false := by cases first <;> rfl
  unfold namesExpr Expr.alternation
  rw [flatMap_branches]
  simp [hseq]

/-- Alternative names are tried one after the other, or they are the members of a set. -/
theorem namesExpr_cases (first : Text) (others : List Text) :
    namesExpr (first :: others) = Expr.ofBranches ((first :: others).map nameExpr) ∨
      ∃ chars : List Char, first :: others = chars.map (fun c => [c]) ∧
        namesExpr (first :: others) =
          Expr.ofSet (CharSet.ofRanges (chars.map fun c => (c.toNat, c.toNat))) false := by
  cases others with
  | nil =>
    refine Or.inl ?_
    unfold namesExpr Expr.alternation
    rw [flatMap_branches]
    rfl
  | cons second others =>
    rw [alternation_names, Expr.choice, Expr.merged?]
    cases hchars : ((first :: second :: others).map nameExpr).mapM Expr.char? with
    | some chars => exact Or.inr ⟨chars, eq_of_mapM_char? hchars, rfl⟩
    | none =>
      simp only [mapM_members?_eq_none]
      exact Or.inl rfl

/-! ## The expression of the pattern -/

/-- What follows a name: a boundary, and the tag up to its closing bracket. -/
def tagEndExpr : Expr :=
  .seq (.look (.word .boundary false))
    (.seq (.span (CharSet.singleton '>').compl) (.text ['>']))

/-- Names and what follows them; nothing stands for a lone empty name. -/
def namedTagExpr (names : Expr) : Expr :=
  if names = .empty then tagEndExpr else .seq names tagEndExpr

/-- The expression for the tags with the given names. -/
def tagExpr (names : List Text) : Expr :=
  .seq (.text ['<']) (.seq (Expr.text ['/']).option (namedTagExpr (namesExpr names)))

/-- An expression that is no alternation is its own only alternative. -/
theorem alternation_singleton {e : Expr} (h : e.branches = [e]) : Expr.alternation [e] = e := by
  simp [Expr.alternation, h]

/-- The branches of an alternation of names are the names. -/
theorem branches_ofBranches (first : Text) (others : List Text) :
    (Expr.ofBranches ((first :: others).map nameExpr)).branches =
      (first :: others).map nameExpr := by
  induction others generalizing first with
  | nil => exact nameExpr_branches first
  | cons second others ih => exact congrArg (nameExpr first :: ·) (ih second)

/-- An expression for a set is its own only alternative, and no sequence. -/
theorem ofSet_branches_items (s : CharSet) (ascii : Bool) :
    (Expr.ofSet s ascii).branches = [Expr.ofSet s ascii] ∧
      (Expr.ofSet s ascii).items = [Expr.ofSet s ascii] := by
  unfold Expr.ofSet
  split
  · exact ⟨rfl, rfl⟩
  · split <;> exact ⟨rfl, rfl⟩

/-- Grouping alternative names changes nothing. -/
theorem alternation_namesExpr (first : Text) (others : List Text) :
    Expr.alternation [namesExpr (first :: others)] = namesExpr (first :: others) := by
  rcases namesExpr_cases first others with h | ⟨chars, -, h⟩
  · have hflat : [namesExpr (first :: others)].flatMap Expr.branches =
        ((first :: others).map nameExpr).flatMap Expr.branches := by
      rw [flatMap_branches, h, List.flatMap_singleton, branches_ofBranches]
    unfold namesExpr at hflat ⊢
    unfold Expr.alternation at hflat ⊢
    rw [hflat]
  · rw [h]
    exact alternation_singleton (ofSet_branches_items _ _).1

/-- Alternative names are nothing, or one item of a sequence. -/
theorem items_namesExpr (first : Text) (others : List Text) :
    namesExpr (first :: others) = .empty ∨
      (namesExpr (first :: others)).items = [namesExpr (first :: others)] := by
  rcases namesExpr_cases first others with h | ⟨chars, -, h⟩
  · rw [h]
    cases others with
    | nil => cases first <;> simp [Expr.ofBranches, nameExpr, Expr.items]
    | cons second others => exact Or.inr rfl
  · rw [h]
    exact Or.inr (ofSet_branches_items _ _).2

/-- The sequence that a tag is put together to: names come in front of the end of the tag, a slash
that may be missing in front of them, and the opening bracket in front of all. -/
theorem concat_tag {names : Expr} (h : names = .empty ∨ names.items = [names]) :
    Expr.concat [names, tagEndExpr] = namedTagExpr names ∧
      Expr.concat [(Expr.text ['/']).option, namedTagExpr names] =
        .seq (Expr.text ['/']).option (namedTagExpr names) ∧
      Expr.concat [.text ['<'], .seq (Expr.text ['/']).option (namedTagExpr names)] =
        .seq (.text ['<']) (.seq (Expr.text ['/']).option (namedTagExpr names)) := by
  rcases h with rfl | hitems
  · exact ⟨rfl, rfl, rfl⟩
  · have hne : names ≠ .empty := by
      rintro rfl
      simp [Expr.items] at hitems
    have hpush : Expr.pushItem names tagEndExpr.items = names :: tagEndExpr.items := by
      cases names <;> rfl
    rw [show namedTagExpr names = .seq names tagEndExpr from if_neg hne]
    refine ⟨?_, ?_, ?_⟩
    · simp only [Expr.concat, List.flatMap_cons, List.flatMap_nil, hitems]
      change Expr.ofItems (Expr.pushItem names tagEndExpr.items) = _
      rw [hpush]
      rfl
    · change Expr.ofItems (Expr.pushItem (Expr.text ['/']).option
        (Expr.pushItem names tagEndExpr.items)) = _
      rw [hpush]
      rfl
    · change Expr.ofItems (Expr.pushItem (.text ['<']) (Expr.pushItem (Expr.text ['/']).option
        (Expr.pushItem names tagEndExpr.items))) = _
      rw [hpush]
      rfl

/-- A sequence of two items means the two one behind the other. -/
theorem meaning_concat {a b : Ast} {e f : Expr}
    (ha : a.meaning .default = .ok ([e], .default))
    (hb : b.meaning .default = .ok ([f], .default)) :
    (Ast.concat a b).meaning .default =
      .ok ([Expr.concat [Expr.alternation [e], Expr.alternation [f]]], .default) := by
  change Except.bind (a.meaning .default) _ = _
  rw [ha]
  change Except.map _ (b.meaning .default) = _
  rw [hb]
  rfl

/-- The tree that is read stands for the expression of tags. -/
theorem toExpr_tagAst (first : Text) (others : List Text) :
    (tagAst (first :: others)).toExpr = .ok (tagExpr (first :: others)) := by
  obtain ⟨hnames, hslashedNames, htag⟩ := concat_tag (items_namesExpr first others)
  have hbranches : (namedTagExpr (namesExpr (first :: others))).branches =
      [namedTagExpr (namesExpr (first :: others))] := by
    unfold namedTagExpr
    split <;> rfl
  have hend : (Ast.ofItems [.assertion .wordBoundary,
      .repetition (.bracketed true (.literal ⟨'>', false⟩)) 0 none true,
      literalAst '>']).meaning .default = .ok ([tagEndExpr], .default) := rfl
  have hgroup : (Ast.group (.plain []) (Ast.ofBranches ((first :: others).map nameAst))).meaning
      .default = .ok ([namesExpr (first :: others)], .default) := by
    change Except.map _ ((Ast.ofBranches ((first :: others).map nameAst)).meaning .default) = _
    rw [meaning_names]
    rfl
  have hslash : (Ast.repetition (literalAst '/') 0 (some 1) true).meaning .default =
      .ok ([(Expr.text ['/']).option], .default) := rfl
  have hopen : (literalAst '<').meaning .default = .ok ([.text ['<']], .default) := rfl
  have hnamed := meaning_concat hgroup hend
  rw [alternation_namesExpr, alternation_singleton (show tagEndExpr.branches = _ from rfl),
    hnames] at hnamed
  have hslashed := meaning_concat hslash hnamed
  rw [alternation_singleton (show (Expr.text ['/']).option.branches = _ from rfl),
    alternation_singleton hbranches, hslashedNames] at hslashed
  have hwhole := meaning_concat hopen hslashed
  rw [alternation_singleton (show (Expr.text ['<']).branches = _ from rfl),
    alternation_singleton rfl, htag] at hwhole
  change Except.map _ (Ast.meaning (.concat _ (.concat _ (.concat _ _))) .default) = _
  rw [hwhole]
  rfl

/-- The pattern of tags stands for the expression of tags. -/
theorem exprOf_tagSource {names : List Text} {source : Text}
    (h : PatternSet.tagSource? names = some source) : exprOf source = .ok (tagExpr names) := by
  have hparse := parse_tagSource h
  cases names with
  | nil => simp [PatternSet.tagSource?] at h
  | cons first others =>
    rw [exprOf, hparse]
    exact toExpr_tagAst first others

/-- The pattern of tags compiles unless it is too large. -/
theorem compile_tagSource {names : List Text} {source : Text}
    (h : PatternSet.tagSource? names = some source) (hsize : compile source ≠ .error .size) :
    compile source = .ok (ofExpr source (tagExpr names)) := by
  refine compile_eq_ok_iff.2 ⟨_, exprOf_tagSource h, ?_, rfl⟩
  by_contra hfits
  refine hsize ?_
  rw [compile, exprOf_tagSource h]
  exact if_neg hfits

/-! ## What the expression matches -/

/-- Alternative names belong to the fragment on which the search is exact. -/
theorem flat_namesExpr (first : Text) (others : List Text) :
    Expr.Flat (namesExpr (first :: others)) := by
  have hname : ∀ name, Expr.Flat (nameExpr name) := by
    intro name
    cases name with
    | nil => exact .empty
    | cons c name => exact .text _
  rcases namesExpr_cases first others with h | ⟨chars, -, h⟩
  · rw [h]
    clear h
    induction others generalizing first with
    | nil => exact hname first
    | cons second others ih => exact .alt (hname first) (ih second)
  · rw [h]
    unfold Expr.ofSet
    split
    · exact .set _ _
    · split
      · exact .text _
      · exact .set _ _

/-- The expression of tags belongs to the fragment on which the search is exact. -/
theorem flat_tagExpr (first : Text) (others : List Text) :
    Expr.Flat (tagExpr (first :: others)) := by
  have hend : Expr.Flat tagEndExpr := .seq (.look _) (.seq (.star _ _) (.text _))
  refine .seq (.text _) (.seq (.option (.text _)) ?_)
  unfold namedTagExpr
  split
  · exact hend
  · exact .seq (flat_namesExpr first others) hend

section Matching

variable (next : Cursor → Option Hit) (c : Cursor)

/-- A name is skipped where it stands. -/
theorem matchThen_nameExpr (name : Text) :
    (nameExpr name).matchThen next c =
      if name <+: c.rest then next (c.skip name.length) else none := by
  cases name with
  | nil => simp [nameExpr, Expr.matchThen]
  | cons x name => exact Expr.matchThen_text next c _

/-- The only member of a set of characters is the only one of these characters. -/
theorem eq_of_single? {chars : List Char} {x : Char}
    (h : (CharSet.ofRanges (chars.map fun d => (d.toNat, d.toNat))).single? = some x) :
    ∀ d ∈ chars, d = x := by
  intro d hd
  have hin := CharSet.contains_ofRanges_chars chars d
  rw [decide_eq_true hd] at hin
  unfold CharSet.single? at h
  split at h
  · next lo hi hranges =>
    by_cases heq : lo = hi
    · subst heq
      rw [if_pos rfl] at h
      obtain rfl := Option.some.inj h
      simp only [CharSet.contains, hranges, CharSet.inRanges] at hin
      have hd : d.toNat = lo := by
        by_cases hlt : d.toNat < lo
        · simp [hlt] at hin
        · simp [hlt, Nat.ble_eq] at hin
          omega
      rw [← hd, Char.ofNat_toNat]
    · simp [heq] at h
  · simp at h

/-- A set of characters matches one of them. -/
theorem matchThen_ofSet {chars : List Char} (hne : chars ≠ []) :
    (Expr.ofSet (CharSet.ofRanges (chars.map fun d => (d.toNat, d.toNat))) false).matchThen next c =
      if c.rest.head?.any (fun d => decide (d ∈ chars)) then next (c.skip 1) else none := by
  obtain ⟨x, hx⟩ := List.exists_mem_of_ne_nil chars hne
  have hcontains := CharSet.contains_ofRanges_chars chars
  generalize hset : CharSet.ofRanges (chars.map fun d => (d.toNat, d.toNat)) = s at hcontains ⊢
  have hranges : s.ranges.isEmpty = false := by
    have hin := hcontains x
    rw [decide_eq_true hx, CharSet.contains] at hin
    cases hcase : s.ranges with
    | nil => simp [hcase, CharSet.inRanges] at hin
    | cons => rfl
  have hmember : s.contains = fun d => decide (d ∈ chars) := funext hcontains
  rw [Expr.ofSet, hranges]
  cases hsingle : s.single? with
  | none => simp only [Bool.false_eq_true, if_false, Expr.matchThen_set, hmember]
  | some y =>
    have hall := eq_of_single? (hset ▸ hsingle)
    have hy : ∀ d, d ∈ chars ↔ d = y := fun d => ⟨hall d, fun h => h ▸ hall x hx ▸ hx⟩
    simp only [Bool.false_eq_true, if_false, Expr.matchThen_text, hy]
    cases c.rest with
    | nil => simp
    | cons d rest => simp [List.cons_prefix_cons, eq_comm]

/-- Names of one character each are tried like their set. -/
theorem findSome?_chars (chars : List Char) :
    ((chars.map fun d => [d]).findSome? fun name =>
        if name <+: c.rest then next (c.skip name.length) else none) =
      if c.rest.head?.any (fun d => decide (d ∈ chars)) then next (c.skip 1) else none := by
  induction chars with
  | nil => cases c.rest <;> simp
  | cons d chars ih =>
    rw [List.map_cons, List.findSome?_cons, ih]
    cases c.rest with
    | nil => simp
    | cons x rest =>
      by_cases hx : d = x
      · subst hx
        by_cases hmem : d ∈ chars <;> cases next (c.skip 1) <;> simp
      · have hx' : x ≠ d := fun heq => hx heq.symm
        simp [List.cons_prefix_cons, hx, hx']

/-- Alternative names are tried in their order. -/
theorem matchThen_namesExpr (first : Text) (others : List Text) :
    (namesExpr (first :: others)).matchThen next c =
      (first :: others).findSome? fun name =>
        if name <+: c.rest then next (c.skip name.length) else none := by
  rcases namesExpr_cases first others with h | ⟨chars, hnames, h⟩
  · rw [h]
    clear h
    induction others generalizing first with
    | nil =>
      rw [List.findSome?_singleton]
      exact matchThen_nameExpr next c first
    | cons second others ih =>
      have halt : Expr.ofBranches ((first :: second :: others).map nameExpr) =
          .alt (nameExpr first) (Expr.ofBranches ((second :: others).map nameExpr)) := rfl
      rw [halt, Expr.matchThen_alt, ih, matchThen_nameExpr]
      conv_rhs => rw [List.findSome?_cons]
      cases (if first <+: c.rest then next (c.skip first.length) else none) <;> rfl
  · have hne : chars ≠ [] := by
      rintro rfl
      simp at hnames
    rw [h, matchThen_ofSet next c hne, hnames, findSome?_chars]

/-- Names are followed by the end of a tag, also where nothing stands for them. -/
theorem matchThen_namedTagExpr (first : Text) (others : List Text) :
    (namedTagExpr (namesExpr (first :: others))).matchThen next c =
      (first :: others).findSome? fun name =>
        if name <+: c.rest then tagEndExpr.matchThen next (c.skip name.length) else none := by
  rw [← matchThen_namesExpr, namedTagExpr]
  split
  · next hempty => simp [hempty, Expr.matchThen]
  · rw [Expr.matchThen_seq]

end Matching

end Sentinels.Pattern
