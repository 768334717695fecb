import Sentinels.PatternSet
import Sentinels.Proofs.CharSet
import Mathlib.Algebra.GroupWithZero.Nat

/-!
# Reading escaped names

A name is escaped before it becomes part of a pattern, and the reader takes every character of an
escaped name for itself: none can close a group, begin a branch or repeat what is in front of it.
The pattern of tags is therefore read as it is meant, whatever the names are, and it stands for one
expression in which the names are alternatives.
-/

set_option autoImplicit false

namespace Sentinels.Pattern

open Reader (readAlternatives)

/-- A character that stands for itself. -/
def literalAst (c : Char) : Ast := .literal ⟨c, false⟩

/-- A name as a sequence of literals. -/
def nameAst (name : Text) : Ast := Ast.ofItems (name.map literalAst)

/-! ## Reading -/

section Reading

variable {reader : Reader} {branches items : List Ast} {rest : Text} {c : Char}

/-- A character with a meaning of its own stands for itself behind a backslash. -/
theorem readItem_backslash (h : isMeta c = true) :
    reader.readItem items '\\' (c :: rest) = .ok (literalAst c :: items, rest) := by
  have hescape : readEscape reader.verbose (c :: rest) = .ok (.literal ⟨c, false⟩, rest) := by
    simp [readEscape, isEscapable, h]
  change (Except.map _ (Except.map _ (readEscape reader.verbose (c :: rest)))) = _
  rw [hescape]
  rfl

/-- Any other character stands for itself. -/
theorem readItem_plain (h : isMeta c = false) :
    reader.readItem items c rest = .ok (literalAst c :: items, rest) := by
  unfold Reader.readItem
  split <;> try exact absurd h (by decide)
  unfold Reader.readAtom
  split <;> first | exact absurd h (by decide) | rfl

/-- An item is read unless a bracket or a bar stands there. -/
theorem readAlternatives_item {fuel : Nat} (hverbose : reader.verbose = false)
    (hc : c ≠ ')' ∧ c ≠ '|' ∧ c ≠ '(') {item : Ast} {behind : Text}
    (hitem : reader.readItem items c rest = .ok (item :: items, behind)) :
    readAlternatives (fuel + 1) { reader with rest := c :: rest } branches items =
      readAlternatives fuel { reader with rest := behind } branches (item :: items) := by
  obtain ⟨text, verbose, groupCount, groupNames⟩ := reader
  obtain rfl : verbose = false := hverbose
  have hsame : Reader.readItem ⟨c :: rest, false, groupCount, groupNames⟩ items c rest =
      .ok (item :: items, behind) := hitem
  rw [readAlternatives]
  simp only [blanks, Bool.false_eq_true, if_false, hc, hsame]

/-- An escaped name is read as its characters. -/
theorem readAlternatives_escape {fuel : Nat} (hverbose : reader.verbose = false) (name : Text)
    (hfuel : name.length ≤ fuel) :
    readAlternatives fuel { reader with rest := escape name ++ rest } branches items =
      readAlternatives (fuel - name.length) { reader with rest := rest } branches
        ((name.map literalAst).reverse ++ items) := by
  induction name generalizing fuel items with
  | nil => rfl
  | cons c name ih =>
    obtain ⟨fuel, rfl⟩ := Nat.exists_eq_add_of_le' (Nat.one_le_of_lt hfuel)
    have hstep : readAlternatives (fuel + 1)
        { reader with rest := escape (c :: name) ++ rest } branches items =
        readAlternatives fuel { reader with rest := escape name ++ rest } branches
          (literalAst c :: items) := by
      by_cases hmeta : isMeta c = true
      · have hescape : escape (c :: name) ++ rest = '\\' :: c :: (escape name ++ rest) := by
          simp [escape, hmeta]
        rw [hescape]
        exact readAlternatives_item hverbose (by decide) (readItem_backslash hmeta)
      · have hplain : isMeta c = false := Bool.eq_false_iff.2 hmeta
        have hescape : escape (c :: name) ++ rest = c :: (escape name ++ rest) := by
          simp [escape, hplain]
        rw [hescape]
        refine readAlternatives_item hverbose ⟨?_, ?_, ?_⟩ (readItem_plain hplain) <;>
          · rintro rfl
            exact absurd hplain (by decide)
    rw [hstep, ih (by simpa using hfuel)]
    simp

/-- A closing bracket ends the alternatives. -/
theorem readAlternatives_close {fuel : Nat} (hverbose : reader.verbose = false) :
    readAlternatives (fuel + 1) { reader with rest := ')' :: rest } branches items =
      .ok (Reader.close branches items, { reader with rest := ')' :: rest }) := by
  rw [readAlternatives]
  simp only [blanks, hverbose, Bool.false_eq_true, if_false, if_true]

/-- A bar begins the next alternative. -/
theorem readAlternatives_bar {fuel : Nat} (hverbose : reader.verbose = false) :
    readAlternatives (fuel + 1) { reader with rest := '|' :: rest } branches items =
      readAlternatives fuel { reader with rest := rest }
        (Ast.ofItems items.reverse :: branches) [] := by
  have hbar : '|' ≠ ')' := by decide
  rw [readAlternatives]
  simp only [blanks, hverbose, Bool.false_eq_true, if_false, if_true, hbar]

/-- Escaped names with bars between them are read as alternatives of their characters. -/
theorem readAlternatives_names {fuel : Nat} (hverbose : reader.verbose = false) (first : Text)
    (others : List Text) (hfuel : first.length + (others.map fun n => n.length + 1).sum < fuel) :
    readAlternatives fuel
        { reader with
          rest := Text.join ['|'] ((first :: others).map escape) ++ ')' :: rest } branches [] =
      .ok (Ast.ofBranches (branches.reverse ++ (first :: others).map nameAst),
        { reader with rest := ')' :: rest }) := by
  induction others generalizing fuel first branches with
  | nil =>
    simp only [List.map_nil, List.sum_nil, Nat.add_zero] at hfuel
    obtain ⟨more, hmore⟩ := Nat.exists_eq_add_of_lt hfuel
    simp only [List.map_cons, List.map_nil, Text.join_singleton]
    rw [readAlternatives_escape hverbose first (Nat.le_of_lt hfuel),
      show fuel - first.length = more + 1 by omega, readAlternatives_close hverbose]
    simp [Reader.close, nameAst]
  | cons second others ih =>
    simp only [List.map_cons, List.sum_cons] at hfuel
    obtain ⟨more, hmore⟩ := Nat.exists_eq_add_of_lt (show first.length < fuel by omega)
    have htext : Text.join ['|'] ((first :: second :: others).map escape) ++ ')' :: rest =
        escape first ++
          '|' :: (Text.join ['|'] ((second :: others).map escape) ++ ')' :: rest) := by
      simp
    rw [htext, readAlternatives_escape hverbose first (by omega),
      show fuel - first.length = more + 1 by omega, readAlternatives_bar hverbose,
      ih second (by omega)]
    simp [nameAst]

end Reading

/-- The reader's view of the pattern of tags with the given names. -/
def tagAst (names : List Text) : Ast :=
  Ast.ofItems [literalAst '<', .repetition (literalAst '/') 0 (some 1) true,
    .group (.plain []) (Ast.ofBranches (names.map nameAst)), .assertion .wordBoundary,
    .repetition (.bracketed true (.literal ⟨'>', false⟩)) 0 none true, literalAst '>']

/-- What stands in front of the names is read, and a group is opened. -/
theorem readAlternatives_tagStart (fuel : Nat) (text : Text) :
    readAlternatives (fuel + 4) ⟨['<', '/', '?', '(', '?', ':'] ++ text, false, 0, []⟩ [] [] =
      match readAlternatives fuel ⟨text, false, 0, []⟩ [] [] with
      | .error e => .error e
      | .ok (body, after) =>
        match after.rest with
        | [] => .error .unclosedGroup
        | _ :: rest =>
          readAlternatives fuel { after with rest := rest, verbose := false } []
            [.group (.plain []) body, .repetition (literalAst '/') 0 (some 1) true,
              literalAst '<'] := rfl

/-- What stands behind the names is read up to the end. -/
theorem readAlternatives_tagEnd (fuel : Nat) (body : Ast) :
    readAlternatives (fuel + 5) ⟨['\\', 'b', '[', '^', '>', ']', '*', '>'], false, 0, []⟩ []
        [body, .repetition (literalAst '/') 0 (some 1) true, literalAst '<'] =
      .ok (Ast.ofItems [literalAst '<', .repetition (literalAst '/') 0 (some 1) true, body,
        .assertion .wordBoundary,
        .repetition (.bracketed true (.literal ⟨'>', false⟩)) 0 none true, literalAst '>'],
        ⟨[], false, 0, []⟩) := rfl

/-- Literals in a row are nested once, however many there are. -/
theorem depth_nameAst (name : Text) :
    (nameAst name).depth .concat = 0 ∧ ∀ chain, (nameAst name).depth chain ≤ 1 := by
  induction name with
  | nil => exact ⟨rfl, fun _ => Nat.zero_le 1⟩
  | cons c name ih =>
    cases name with
    | nil => exact ⟨rfl, fun _ => Nat.zero_le 1⟩
    | cons d name =>
      have hdepth : ∀ chain, (nameAst (c :: d :: name)).depth chain =
          (if chain = .concat then 0 else 1) + max 0 ((nameAst (d :: name)).depth .concat) :=
        fun _ => rfl
      simp only [hdepth, ih.1]
      exact ⟨rfl, fun chain => by split <;> decide⟩

/-- Alternative names are nested twice, however many there are. -/
theorem depth_names_le (names : List Text) :
    (Ast.ofBranches (names.map nameAst)).depth .alternation ≤ 1 ∧
      (Ast.ofBranches (names.map nameAst)).depth .none ≤ 2 := by
  induction names with
  | nil => decide
  | cons first others ih =>
    have hfirst := (depth_nameAst first).2
    cases others with
    | nil => exact ⟨hfirst _, Nat.le_succ_of_le (hfirst _)⟩
    | cons second others =>
      have hdepth : ∀ chain,
          (Ast.ofBranches ((first :: second :: others).map nameAst)).depth chain =
            (if chain = .alternation then 0 else 1) + max ((nameAst first).depth .none)
              ((Ast.ofBranches ((second :: others).map nameAst)).depth .alternation) :=
        fun _ => rfl
      have hmax := Nat.max_le.2 ⟨hfirst .none, ih.1⟩
      simp only [hdepth]
      exact ⟨by simpa using hmax, by simpa using Nat.add_le_add_left hmax 1⟩

/-- The pattern of tags is not nested deeply. -/
theorem depth_tagAst_le (names : List Text) : (tagAst names).depth .none ≤ maxDepth := by
  have hnames := (depth_names_le names).2
  have hdepth : (tagAst names).depth .none =
      1 + max 0 (0 + max 1 (0 + max (1 + (Ast.ofBranches (names.map nameAst)).depth .none)
        (0 + max 0 (0 + max 2 0)))) := rfl
  rw [hdepth, maxDepth]
  omega

/-- An escaped name is at least as long as the name. -/
theorem length_le_length_escape (name : Text) : name.length ≤ (escape name).length := by
  induction name with
  | nil => exact Nat.le_refl 0
  | cons c name ih =>
    have hcons : escape (c :: name) = (if isMeta c then ['\\', c] else [c]) ++ escape name := rfl
    rw [hcons, List.length_append, List.length_cons]
    split <;> simp only [List.length_cons, List.length_nil] <;> omega

/-- Escaped names with bars between them are long enough to be read. -/
theorem length_names_le (first : Text) (others : List Text) :
    first.length + (others.map fun n => n.length + 1).sum ≤
      (Text.join ['|'] ((first :: others).map escape)).length := by
  induction others generalizing first with
  | nil => simpa using length_le_length_escape first
  | cons second others ih =>
    have hfirst := length_le_length_escape first
    have hothers := ih second
    simp only [List.map_cons, List.sum_cons, Text.join_cons_cons, List.length_append,
      List.length_cons, List.length_nil] at hothers ⊢
    omega

/-- The pattern of tags is read as it is meant. -/
theorem parse_tagSource {names : List Text} {source : Text}
    (h : PatternSet.tagSource? names = some source) : parse source = .ok (tagAst names) := by
  cases names with
  | nil => simp [PatternSet.tagSource?] at h
  | cons first others =>
    obtain ⟨body, hbody⟩ : ∃ body, body = Text.join ['|'] ((first :: others).map escape) := ⟨_, rfl⟩
    have hsource : source = ['<', '/', '?', '(', '?', ':'] ++
        (body ++ ')' :: ['\\', 'b', '[', '^', '>', ']', '*', '>']) := by
      rw [← List.append_assoc, hbody]
      exact (Option.some.inj h).symm
    have hlength : source.length + 1 = body.length + 12 + 4 := by
      simp [hsource]
    have hfuel := length_names_le first others
    rw [← hbody] at hfuel
    have hnames := @readAlternatives_names ⟨[], false, 0, []⟩ []
      ['\\', 'b', '[', '^', '>', ']', '*', '>'] (body.length + 12) rfl first others (by omega)
    rw [← hbody] at hnames
    have hread : readAlternatives (source.length + 1) ⟨source, false, 0, []⟩ [] [] =
        .ok (tagAst (first :: others), ⟨[], false, 0, []⟩) := by
      rw [hlength, hsource, readAlternatives_tagStart, hnames]
      exact readAlternatives_tagEnd (body.length + 7) _
    simp only [parse, hread, if_true, if_pos (depth_tagAst_le (first :: others))]

end Sentinels.Pattern
