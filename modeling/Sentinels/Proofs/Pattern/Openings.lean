import Sentinels.Proofs.Pattern.Groups
import Sentinels.Proofs.Text

/-!
# Where groups are opened

The named groups of a pattern can be told from its text alone. A group is opened by a parenthesis
with `?P<name>` or `?<name>` behind it, which must not stand behind a backslash or inside a
bracketed class. The reader finds the groups that are so opened, in their order
(`opens_iff_of_parse`).
-/

set_option autoImplicit false

namespace Sentinels.Pattern

open Reader (readCounts readFlags verboseAfter)

/-! ## Lexemes -/

/--
What a text may begin with, as far as groups matter: a part that neither opens nor closes a group,
flags for what follows, the opening of a group with its name and the flags inside it, or its end.
-/
inductive Lexeme
  | part
  | flags (edits : List FlagEdit)
  | opening (name : Option Text) (edits : List FlagEdit)
  | closing

/-- The two ways to write that a name of a group follows, behind the question mark. -/
def nameMarks : List Text := [['P', '<'], ['<']]

/--
The text behind an opening parenthesis makes that a group or flags, and what is given stands behind
them.
-/
inductive Enters (verbose : Bool) : Text → Lexeme → Text → Prop
  | named {text mark name behind : Text} (hmark : mark ∈ nameMarks) (hname : '>' ∉ name)
      (h : blanks verbose text = '?' :: (mark ++ (name ++ '>' :: behind))) :
      Enters verbose text (.opening (some name) []) behind
  | numbered {text : Text} (h : (blanks verbose text).head? ≠ some '?') :
      Enters verbose text (.opening none []) (blanks verbose text)
  | plain {text inside behind : Text} {edits : List FlagEdit}
      (h : blanks verbose text = '?' :: inside)
      (hflags : readFlags [] false false inside = .ok (edits, ':', behind)) :
      Enters verbose text (.opening none edits) behind
  | flags {text inside behind : Text} {edits : List FlagEdit}
      (h : blanks verbose text = '?' :: inside)
      (hflags : readFlags [] false false inside = .ok (edits, ')', behind)) :
      Enters verbose text (.flags edits) behind

/--
The text begins with the lexeme, and what is given stands behind it. An escape and a bracketed class
are taken as a whole, so nothing inside them opens a group.
-/
inductive Begins (verbose : Bool) : Text → Lexeme → Text → Prop
  | escape {rest behind : Text} {p : Primitive} (h : readEscape verbose rest = .ok (p, behind)) :
      Begins verbose ('\\' :: rest) .part behind
  | bracketed {rest behind : Text} {cls : Bool × ClassSet}
      (h : readClass verbose rest = .ok (cls, behind)) : Begins verbose ('[' :: rest) .part behind
  | counts {rest behind : Text} {min : Nat} {max : Option Nat}
      (h : readCounts verbose rest = .ok (min, max, behind)) :
      Begins verbose ('{' :: rest) .part behind
  | char {c : Char} {rest : Text} (hc : c ∉ ['\\', '[', '{', '(', ')']) :
      Begins verbose (c :: rest) .part rest
  | group {rest behind : Text} {lexeme : Lexeme} (h : Enters verbose rest lexeme behind) :
      Begins verbose ('(' :: rest) lexeme behind
  | closing {rest : Text} : Begins verbose (')' :: rest) .closing rest

/--
The names of the groups that a text opens up to the parenthesis that closes the group around it, and
what is left. Flags hold up to that parenthesis.
-/
inductive Opens : Bool → Text → List Text → Text → Prop
  | stop {verbose : Bool} {text : Text} (h : blanks verbose text = []) : Opens verbose text [] []
  | closing {verbose : Bool} {text behind : Text}
      (h : Begins verbose (blanks verbose text) .closing behind) :
      Opens verbose text [] (')' :: behind)
  | part {verbose : Bool} {text behind left : Text} {names : List Text}
      (h : Begins verbose (blanks verbose text) .part behind)
      (hlater : Opens verbose behind names left) : Opens verbose text names left
  | flags {verbose : Bool} {text behind left : Text} {edits : List FlagEdit} {names : List Text}
      (h : Begins verbose (blanks verbose text) (.flags edits) behind)
      (hlater : Opens (verboseAfter verbose edits) behind names left) :
      Opens verbose text names left
  | group {verbose : Bool} {text inside behind left : Text} {name : Option Text}
      {edits : List FlagEdit} {inner names : List Text}
      (h : Begins verbose (blanks verbose text) (.opening name edits) inside)
      (hinner : Opens (verboseAfter verbose edits) inside inner (')' :: behind))
      (hlater : Opens verbose behind names left) :
      Opens verbose text (name.toList ++ (inner ++ names)) left

/-! ## One way to read a text -/

/-- What marks a name is no flag. -/
theorem readFlags_mark {mark : Text} (hmark : mark ∈ nameMarks) (text : Text) :
    readFlags [] false false (mark ++ text) = .error .flag := by
  have hcases : mark = ['P', '<'] ∨ mark = ['<'] := by simpa [nameMarks] using hmark
  rcases hcases with rfl | rfl <;> rfl

/-- A name is marked in one way. -/
theorem eq_of_mark_eq {mark mark' text text' : Text} (hmark : mark ∈ nameMarks)
    (hmark' : mark' ∈ nameMarks) (h : mark ++ text = mark' ++ text') : text = text' := by
  have hcases : ∀ m ∈ nameMarks, m = ['P', '<'] ∨ m = ['<'] := by simp [nameMarks]
  rcases hcases _ hmark with rfl | rfl <;> rcases hcases _ hmark' with rfl | rfl <;> simp_all

section OneWay

variable {verbose : Bool} {text behind behind' : Text} {lexeme lexeme' : Lexeme}

/-- What a parenthesis makes of the text behind it is one thing only. -/
theorem Enters.unique (h : Enters verbose text lexeme behind)
    (h' : Enters verbose text lexeme' behind') : lexeme = lexeme' ∧ behind = behind' := by
  cases h with
  | named hmark hname h =>
    cases h' with
    | named hmark' hname' h' =>
      have hmarked := eq_of_mark_eq hmark hmark' (List.cons.inj (h.symm.trans h')).2
      obtain ⟨rfl, rfl⟩ := Text.eq_of_append_cons_eq hname hname' hmarked
      exact ⟨rfl, rfl⟩
    | numbered h' => simp [h] at h'
    | plain h' hflags =>
      obtain rfl := (List.cons.inj (h.symm.trans h')).2
      simp [readFlags_mark hmark] at hflags
    | flags h' hflags =>
      obtain rfl := (List.cons.inj (h.symm.trans h')).2
      simp [readFlags_mark hmark] at hflags
  | numbered h => cases h' <;> simp_all
  | plain h hflags =>
    cases h' with
    | named hmark hname h' =>
      obtain rfl := (List.cons.inj (h.symm.trans h')).2
      simp [readFlags_mark hmark] at hflags
    | _ => simp_all
  | flags h hflags =>
    cases h' with
    | named hmark hname h' =>
      obtain rfl := (List.cons.inj (h.symm.trans h')).2
      simp [readFlags_mark hmark] at hflags
    | _ => simp_all

/-- A text begins with one lexeme only. -/
theorem Begins.unique (h : Begins verbose text lexeme behind)
    (h' : Begins verbose text lexeme' behind') : lexeme = lexeme' ∧ behind = behind' := by
  cases h with
  | group h =>
    cases h' with
    | group h' => exact h.unique h'
    | char hc => simp at hc
  | _ => cases h' <;> simp_all

/-- The groups that a text opens can be read off in one way only. -/
theorem Opens.unique {names names' : List Text} {left left' : Text}
    (h : Opens verbose text names left) (h' : Opens verbose text names' left') :
    names = names' ∧ left = left' := by
  -- Both readings begin with the same lexeme, so each case of one leaves one case of the other.
  induction h generalizing names' left' with
  | stop h =>
    cases h' with
    | stop => exact ⟨rfl, rfl⟩
    | _ h' => rw [h] at h'; cases h'
  | closing h =>
    cases h' with
    | stop h' => rw [h'] at h; cases h
    | closing h' =>
      obtain ⟨-, rfl⟩ := h.unique h'
      exact ⟨rfl, rfl⟩
    | _ h' => cases (h.unique h').1
  | part h _ ih =>
    cases h' with
    | stop h' => rw [h'] at h; cases h
    | part h' hlater =>
      obtain ⟨-, rfl⟩ := h.unique h'
      exact ih hlater
    | _ h' => cases (h.unique h').1
  | flags h _ ih =>
    cases h' with
    | stop h' => rw [h'] at h; cases h
    | flags h' hlater =>
      obtain ⟨hlexeme, rfl⟩ := h.unique h'
      cases hlexeme
      exact ih hlater
    | _ h' => cases (h.unique h').1
  | group h _ _ ihInner ihLater =>
    cases h' with
    | stop h' => rw [h'] at h; cases h
    | group h' hinner hlater =>
      obtain ⟨hlexeme, rfl⟩ := h.unique h'
      cases hlexeme
      obtain ⟨rfl, hbehind⟩ := ihInner hinner
      obtain ⟨-, rfl⟩ := List.cons.inj hbehind
      obtain ⟨rfl, rfl⟩ := ihLater hlater
      exact ⟨rfl, rfl⟩
    | _ h' => cases (h.unique h').1

/-- What a text opens ends with it or in front of a closing parenthesis. -/
theorem Opens.left_cases {names : List Text} {left : Text} (h : Opens verbose text names left) :
    left = [] ∨ ∃ behind, left = ')' :: behind := by
  induction h with
  | stop => exact .inl rfl
  | closing => exact .inr ⟨_, rfl⟩
  | part _ _ ih => exact ih
  | flags _ _ ih => exact ih
  | group _ _ _ _ ih => exact ih

/-! ## Blanks -/

/-- No blanks stand behind blanks that were skipped. -/
theorem skipBlanks_skipBlanks (inComment : Bool) (text : Text) :
    skipBlanks false (skipBlanks inComment text) = skipBlanks inComment text := by
  induction text generalizing inComment with
  | nil => rfl
  | cons c rest ih =>
    rw [skipBlanks]
    split
    · exact ih _
    · split
      · exact ih false
      · split
        · exact ih true
        · next hspace hcomment => simp [skipBlanks, hspace, hcomment]

/-- No blanks stand behind blanks. -/
theorem blanks_blanks (verbose : Bool) (text : Text) :
    blanks verbose (blanks verbose text) = blanks verbose text := by
  cases verbose
  · rfl
  · exact skipBlanks_skipBlanks false text

/-- Blanks open no group. -/
theorem Opens.of_blanks {names : List Text} {left : Text}
    (h : Opens verbose (blanks verbose text) names left) : Opens verbose text names left := by
  have hsame := blanks_blanks verbose text
  cases h with
  | stop h => exact .stop (hsame ▸ h)
  | closing h => exact .closing (hsame ▸ h)
  | part h hlater => exact .part (hsame ▸ h) hlater
  | flags h hlater => exact .flags (hsame ▸ h) hlater
  | group h hinner hlater => exact .group (hsame ▸ h) hinner hlater

end OneWay

/-! ## The reader -/

/-- The flags that a group sets. -/
def GroupKind.edits : GroupKind → List FlagEdit
  | .plain edits => edits
  | _ => []

/-- A sequence has the groups of its items, in their order. -/
theorem Ast.groupNames_ofItems (items : List Ast) :
    (Ast.ofItems items).groupNames = items.flatMap Ast.groupNames :=
  names_nested rfl (fun _ => rfl) (fun _ _ _ => rfl) items

/-- An alternation has the groups of its branches, in their order. -/
theorem Ast.groupNames_ofBranches (branches : List Ast) :
    (Ast.ofBranches branches).groupNames = branches.flatMap Ast.groupNames :=
  names_nested rfl (fun _ => rfl) (fun _ _ _ => rfl) branches

namespace Reader

/-- The lexeme that an opening parenthesis was read as. -/
def Opening.lexeme : Opening → Lexeme
  | .group kind => .opening kind.name? kind.edits
  | .flags edits => .flags edits

/-- A pattern that is closed has the groups of its branches and of the last items. -/
theorem groupNames_close (branches items : List Ast) :
    (close branches items).groupNames =
      branches.reverse.flatMap Ast.groupNames ++ items.reverse.flatMap Ast.groupNames := by
  rw [close, Ast.groupNames_ofBranches, List.flatMap_append, List.flatMap_singleton,
    Ast.groupNames_ofItems]

/-- The groups of a new item stand behind those that were there. -/
theorem groupNames_close_cons (branches items : List Ast) (item : Ast) :
    (close branches (item :: items)).groupNames =
      (close branches items).groupNames ++ item.groupNames := by
  rw [groupNames_close, groupNames_close, List.reverse_cons, List.flatMap_append,
    List.flatMap_singleton, List.append_assoc]

/-- The name of a group stands in front of the first closing angle bracket. -/
theorem eq_of_readGroupName {first : Bool} {text name behind : Text}
    (h : readGroupName first text = .ok (name, behind)) :
    text = name ++ '>' :: behind ∧ '>' ∉ name := by
  induction text generalizing first name with
  | nil => cases h
  | cons c rest ih =>
    rw [readGroupName] at h
    split at h
    · next hc =>
      split at h
      · cases h
      · obtain ⟨rfl, rfl⟩ := Prod.mk.inj (Except.ok.inj h)
        exact ⟨by rw [hc, List.nil_append], List.not_mem_nil⟩
    · next hc =>
      split at h
      · obtain ⟨⟨later, rest'⟩, hlater, heq⟩ := map_eq_ok_iff.1 h
        obtain ⟨rfl, rfl⟩ := Prod.mk.inj heq
        obtain ⟨hrest, hnone⟩ := ih hlater
        exact ⟨by rw [hrest, List.cons_append],
          List.not_mem_cons_of_ne_of_not_mem (Ne.symm hc) hnone⟩
      · cases h

/-- Flags end with a colon or a closing parenthesis. -/
theorem closer_of_readFlags {edits edits' : List FlagEdit} {off dangling : Bool}
    {text behind : Text} {closer : Char}
    (h : readFlags edits off dangling text = .ok (edits', closer, behind)) :
    closer = ':' ∨ closer = ')' := by
  induction text generalizing edits off dangling with
  | nil => cases h
  | cons c rest ih =>
    rw [readFlags] at h
    split at h
    · next hc =>
      split at h
      · cases h
      · obtain ⟨-, hcloser⟩ := Prod.mk.inj (Except.ok.inj h)
        obtain ⟨rfl, -⟩ := Prod.mk.inj hcloser
        exact hc
    · split at h
      · split at h
        · cases h
        · exact ih h
      · split at h
        · cases h
        · split at h
          · cases h
          · exact ih h

/-- A named group is opened by one of the two marks. -/
theorem enters_of_openNamed {reader inner : Reader} {text mark rest : Text} {opening : Opening}
    (hmark : mark ∈ nameMarks) (htext : blanks reader.verbose text = '?' :: (mark ++ rest))
    (h : reader.openNamed rest = .ok (opening, inner)) :
    Enters reader.verbose text opening.lexeme inner.rest ∧ inner.verbose = reader.verbose := by
  unfold openNamed at h
  split at h
  · cases h
  · next name behind hname =>
    split at h
    · cases h
    · obtain ⟨rfl, rfl⟩ := Prod.mk.inj (Except.ok.inj h)
      obtain ⟨rfl, hnone⟩ := eq_of_readGroupName hname
      exact ⟨.named hmark hnone htext, rfl⟩

/-- Flags are set for a group or for what follows. -/
theorem enters_of_openFlags {reader inner : Reader} {text rest : Text} {opening : Opening}
    (htext : blanks reader.verbose text = '?' :: rest)
    (h : reader.openFlags rest = .ok (opening, inner)) :
    Enters reader.verbose text opening.lexeme inner.rest ∧ inner.verbose = reader.verbose := by
  unfold openFlags at h
  split at h
  · cases h
  · next edits closer behind hflags =>
    split at h
    · next hcloser =>
      subst hcloser
      split at h
      · cases h
      · obtain ⟨rfl, rfl⟩ := Prod.mk.inj (Except.ok.inj h)
        exact ⟨.flags htext hflags, rfl⟩
    · next hcloser =>
      obtain rfl := (closer_of_readFlags hflags).resolve_right hcloser
      obtain ⟨rfl, rfl⟩ := Prod.mk.inj (Except.ok.inj h)
      exact ⟨.plain htext hflags, rfl⟩

/-- What the reader makes of a parenthesis is what the text behind it says. -/
theorem enters_of_openGroup {reader inner : Reader} {text : Text} {opening : Opening}
    (h : reader.openGroup text = .ok (opening, inner)) :
    Enters reader.verbose text opening.lexeme inner.rest ∧ inner.verbose = reader.verbose := by
  unfold openGroup at h
  split at h
  · cases h
  · cases h
  · cases h
  · cases h
  · next rest htext =>
    have hmark : ['P', '<'] ∈ nameMarks := by decide
    exact enters_of_openNamed hmark htext h
  · next rest _ _ htext =>
    have hmark : ['<'] ∈ nameMarks := by decide
    exact enters_of_openNamed hmark htext h
  · next rest _ _ _ _ _ _ htext => exact enters_of_openFlags htext h
  · next _ _ _ _ _ _ hnone =>
    obtain ⟨rfl, rfl⟩ := Prod.mk.inj (Except.ok.inj h)
    refine ⟨.numbered ?_, rfl⟩
    intro hhead
    obtain ⟨rest, htext⟩ := List.head?_eq_some_iff.1 hhead
    exact hnone rest htext

/-- A repetition applies to the last item. -/
theorem eq_cons_of_operand? {items items' : List Ast} {body : Ast}
    (h : operand? items = .ok (body, items')) : items = body :: items' := by
  cases items with
  | nil => cases h
  | cons item items =>
    cases item <;>
      first
      | cases h; done
      | obtain ⟨rfl, rfl⟩ := Prod.mk.inj (Except.ok.inj h)
        rfl

/-- The sign for fewer rounds opens no group. -/
theorem opens_of_readLazy {verbose : Bool} {text : Text} {names : List Text} {left : Text}
    (h : Opens verbose (readLazy text).2 names left) : Opens verbose text names left := by
  unfold readLazy at h
  split at h
  · next rest =>
    have htext : blanks verbose ('?' :: rest) = '?' :: rest := by
      cases verbose <;> rfl
    have hpart : Begins verbose (blanks verbose ('?' :: rest)) .part rest := by
      rw [htext]
      exact .char (by decide)
    exact .part hpart h
  · exact h

section Items

variable {items items' : List Ast} {text rest behind : Text}

/-- A repetition of one character keeps the groups, and none is opened in it. -/
theorem repeatLast_groups {min : Nat} {max : Option Nat}
    (h : repeatLast items min max rest = .ok (items', behind)) :
    items'.reverse.flatMap Ast.groupNames = items.reverse.flatMap Ast.groupNames ∧
      behind = (readLazy rest).2 := by
  obtain ⟨⟨body, others⟩, hoperand, heq⟩ := map_eq_ok_iff.1 h
  obtain ⟨rfl, rfl⟩ := Prod.mk.inj heq
  obtain rfl := eq_cons_of_operand? hoperand
  exact ⟨by simp [Ast.groupNames], rfl⟩

/-- A repetition with counts keeps the groups, and none is opened in it. -/
theorem repeatCounted_groups {verbose : Bool}
    (h : repeatCounted verbose items rest = .ok (items', behind)) :
    items'.reverse.flatMap Ast.groupNames = items.reverse.flatMap Ast.groupNames ∧
      ∃ min max after, readCounts verbose rest = .ok (min, max, after) ∧
        behind = (readLazy (blanks verbose after)).2 := by
  unfold repeatCounted at h
  split at h
  · cases h
  · next body others hoperand =>
    obtain ⟨⟨min, max, after⟩, hcounts, heq⟩ := map_eq_ok_iff.1 h
    obtain ⟨rfl, rfl⟩ := Prod.mk.inj heq
    obtain rfl := eq_cons_of_operand? hoperand
    exact ⟨by simp [Ast.groupNames], min, max, after, hcounts, rfl⟩

/-- An item that is neither a group nor a repetition has no groups. -/
theorem readAtom_groups {verbose : Bool} {c : Char} {item : Ast}
    (hc : c ∉ ['{', '(', ')']) (h : readAtom verbose c rest = .ok (item, behind)) :
    item.groupNames = [] ∧ Begins verbose (c :: rest) .part behind := by
  unfold readAtom at h
  split at h
  · obtain ⟨⟨cls, after⟩, hclass, heq⟩ := map_eq_ok_iff.1 h
    obtain ⟨rfl, rfl⟩ := Prod.mk.inj heq
    exact ⟨rfl, .bracketed hclass⟩
  · obtain ⟨⟨p, after⟩, hescape, heq⟩ := map_eq_ok_iff.1 h
    obtain ⟨rfl, rfl⟩ := Prod.mk.inj heq
    exact ⟨by cases p <;> rfl, .escape hescape⟩
  · obtain ⟨rfl, rfl⟩ := Prod.mk.inj (Except.ok.inj h)
    exact ⟨rfl, .char (by decide)⟩
  · obtain ⟨rfl, rfl⟩ := Prod.mk.inj (Except.ok.inj h)
    exact ⟨rfl, .char (by decide)⟩
  · obtain ⟨rfl, rfl⟩ := Prod.mk.inj (Except.ok.inj h)
    exact ⟨rfl, .char (by decide)⟩
  · next hbracket hbackslash _ _ _ =>
    obtain ⟨rfl, rfl⟩ := Prod.mk.inj (Except.ok.inj h)
    exact ⟨rfl, .char (by simp_all)⟩

/-- An item that is no group adds no groups, and the text opens what it opens behind the item. -/
theorem readItem_groups {reader : Reader} {c : Char}
    (htext : blanks reader.verbose text = c :: rest) (hc : c ∉ ['(', ')'])
    (h : reader.readItem items c rest = .ok (items', behind)) :
    items'.reverse.flatMap Ast.groupNames = items.reverse.flatMap Ast.groupNames ∧
      ∀ names left, Opens reader.verbose behind names left →
        Opens reader.verbose text names left := by
  -- A sign for a repetition is a part of its own, and so is a sign for fewer rounds behind it.
  have hsign : ∀ {min : Nat} {max : Option Nat}, c ∉ ['\\', '[', '{', '(', ')'] →
      repeatLast items min max rest = .ok (items', behind) →
      items'.reverse.flatMap Ast.groupNames = items.reverse.flatMap Ast.groupNames ∧
        ∀ names left, Opens reader.verbose behind names left →
          Opens reader.verbose text names left := by
    intro min max hc h
    obtain ⟨hgroups, rfl⟩ := repeatLast_groups h
    exact ⟨hgroups, fun names left hlater => .part (htext ▸ .char hc) (opens_of_readLazy hlater)⟩
  unfold readItem at h
  split at h
  · exact hsign (by decide) h
  · exact hsign (by decide) h
  · exact hsign (by decide) h
  · obtain ⟨hgroups, min, max, after, hcounts, rfl⟩ := repeatCounted_groups h
    exact ⟨hgroups, fun names left hlater =>
      .part (htext ▸ .counts hcounts) (opens_of_readLazy hlater).of_blanks⟩
  · next hbrace =>
    obtain ⟨⟨item, after⟩, hatom, heq⟩ := map_eq_ok_iff.1 h
    obtain ⟨rfl, rfl⟩ := Prod.mk.inj heq
    obtain ⟨hnone, hbegins⟩ := readAtom_groups (by simp_all) hatom
    exact ⟨by simp [hnone], fun names left hlater => .part (htext ▸ hbegins) hlater⟩

end Items

section Alternatives

variable {fuel : Nat} {reader after : Reader} {branches items : List Ast} {ast : Ast}

/-- A group is read up to its closing parenthesis, and then what follows it. -/
theorem readAlternatives_group {inner : Reader} {kind : GroupKind} {rest : Text}
    (htext : blanks reader.verbose reader.rest = '(' :: rest)
    (hopening : reader.openGroup rest = .ok (.group kind, inner))
    (h : readAlternatives (fuel + 1) reader branches items = .ok (ast, after)) :
    ∃ body closed c behind,
      readAlternatives fuel { inner with verbose := verboseAfter reader.verbose kind.edits }
        [] [] = .ok (body, closed) ∧ closed.rest = c :: behind ∧
      readAlternatives fuel { closed with rest := behind, verbose := reader.verbose } branches
        (.group kind body :: items) = .ok (ast, after) := by
  have hcloser : '(' ≠ ')' := by decide
  have hbar : '(' ≠ '|' := by decide
  rw [readAlternatives, htext] at h
  simp only [if_neg hcloser, if_neg hbar, if_true, hopening] at h
  split at h
  · cases h
  · next body closed hbody =>
    split at h
    · cases h
    · next c behind hclosed =>
      refine ⟨body, closed, c, behind, ?_, hclosed, h⟩
      cases kind <;> exact hbody

/--
What the reader does first: it ends, or it reads a bar, flags, a group or another item and goes on.
-/
theorem readAlternatives_cases
    (h : readAlternatives (fuel + 1) reader branches items = .ok (ast, after)) :
    (blanks reader.verbose reader.rest = [] ∧ ast = close branches items ∧ after.rest = []) ∨
    (∃ rest, blanks reader.verbose reader.rest = ')' :: rest ∧ ast = close branches items ∧
      after.rest = ')' :: rest) ∨
    (∃ rest, blanks reader.verbose reader.rest = '|' :: rest ∧
      readAlternatives fuel { reader with rest := rest } (Ast.ofItems items.reverse :: branches)
        [] = .ok (ast, after)) ∨
    (∃ rest edits inner, blanks reader.verbose reader.rest = '(' :: rest ∧
      reader.openGroup rest = .ok (.flags edits, inner) ∧
      readAlternatives fuel { inner with verbose := verboseAfter inner.verbose edits } branches
        (.setFlags edits :: items) = .ok (ast, after)) ∨
    (∃ rest kind inner, blanks reader.verbose reader.rest = '(' :: rest ∧
      reader.openGroup rest = .ok (.group kind, inner)) ∨
    ∃ c rest items' behind, blanks reader.verbose reader.rest = c :: rest ∧ c ∉ ['(', ')'] ∧
      reader.readItem items c rest = .ok (items', behind) ∧
      readAlternatives fuel { reader with rest := behind } branches items' = .ok (ast, after) := by
  rw [readAlternatives] at h
  split at h
  · next htext =>
    obtain ⟨rfl, rfl⟩ := Prod.mk.inj (Except.ok.inj h)
    exact .inl ⟨htext, rfl, rfl⟩
  · next c rest htext =>
    refine .inr ?_
    by_cases hcloser : c = ')'
    · rw [if_pos hcloser] at h
      obtain ⟨rfl, rfl⟩ := Prod.mk.inj (Except.ok.inj h)
      exact .inl ⟨rest, hcloser ▸ htext, rfl, by rw [hcloser]⟩
    rw [if_neg hcloser] at h
    refine .inr ?_
    by_cases hbar : c = '|'
    · rw [if_pos hbar] at h
      exact .inl ⟨rest, hbar ▸ htext, h⟩
    rw [if_neg hbar] at h
    refine .inr ?_
    by_cases hparen : c = '('
    · rw [if_pos hparen] at h
      split at h
      · cases h
      · next edits inner hopening =>
        exact .inl ⟨rest, edits, inner, hparen ▸ htext, hopening, h⟩
      · next kind inner hopening =>
        exact .inr (.inl ⟨rest, kind, inner, hparen ▸ htext, hopening⟩)
    · rw [if_neg hparen] at h
      split at h
      · cases h
      · next items' behind hitem =>
        exact .inr (.inr ⟨c, rest, items', behind, htext, by simp [hcloser, hparen], hitem, h⟩)

/-- The reader finds the groups that the text opens, behind those that it found before. -/
theorem exists_opens_of_readAlternatives
    (h : readAlternatives fuel reader branches items = .ok (ast, after)) :
    ∃ names, Opens reader.verbose reader.rest names after.rest ∧
      ast.groupNames = (close branches items).groupNames ++ names := by
  induction fuel generalizing reader branches items ast after with
  | zero => cases h
  | succ fuel ih =>
    rcases readAlternatives_cases h with ⟨htext, rfl, hrest⟩ | ⟨rest, htext, rfl, hrest⟩ |
      ⟨rest, htext, hlater⟩ | ⟨rest, edits, inner, htext, hopening, hlater⟩ |
      ⟨rest, kind, inner, htext, hopening⟩ | ⟨c, rest, items', behind, htext, hc, hitem, hlater⟩
    · exact ⟨[], hrest ▸ .stop htext, (List.append_nil _).symm⟩
    · have hclosing : Begins reader.verbose (blanks reader.verbose reader.rest) .closing rest :=
        htext ▸ .closing
      exact ⟨[], hrest ▸ .closing hclosing, (List.append_nil _).symm⟩
    · obtain ⟨names, hopens, hnames⟩ := ih hlater
      refine ⟨names, .part (htext ▸ .char (by decide)) hopens, ?_⟩
      rw [hnames, groupNames_close, groupNames_close, List.reverse_cons, List.flatMap_append,
        List.flatMap_singleton, Ast.groupNames_ofItems, List.reverse_nil, List.flatMap_nil,
        List.append_nil]
    · obtain ⟨henters, hverbose⟩ := enters_of_openGroup hopening
      obtain ⟨names, hopens, hnames⟩ := ih hlater
      rw [hverbose] at hopens
      refine ⟨names, .flags (htext ▸ .group henters) hopens, ?_⟩
      rw [hnames, groupNames_close_cons]
      simp only [Ast.groupNames, List.append_nil]
    · obtain ⟨henters, -⟩ := enters_of_openGroup hopening
      obtain ⟨body, closed, c, behind, hbody, hclosed, hlater⟩ :=
        readAlternatives_group htext hopening h
      -- The body is read with nothing in front of it, so all its groups are found behind that.
      obtain ⟨inside, hinner, hinside⟩ := ih hbody
      obtain ⟨names, hopens, hnames⟩ := ih hlater
      obtain rfl : c = ')' := by
        rcases hinner.left_cases with hleft | ⟨_, hleft⟩
        · cases hclosed.symm.trans hleft
        · exact (List.cons.inj (hclosed.symm.trans hleft)).1
      rw [hclosed] at hinner
      have hgroup := Begins.group henters
      rw [← htext] at hgroup
      refine ⟨_, .group hgroup hinner hopens, ?_⟩
      rw [hnames, groupNames_close_cons, Ast.groupNames_group, hinside]
      simp [groupNames_close]
    · obtain ⟨hgroups, hopens⟩ := readItem_groups htext hc hitem
      obtain ⟨names, hlater, hnames⟩ := ih hlater
      refine ⟨names, hopens _ _ hlater, ?_⟩
      rw [hnames, groupNames_close, groupNames_close, hgroups]

end Alternatives

end Reader

/-- A pattern has the groups that its source opens, in their order. -/
theorem opens_iff_of_parse {source : Text} {ast : Ast} (h : parse source = .ok ast)
    {names : List Text} : Opens false source names [] ↔ names = ast.groupNames := by
  have hopens : Opens false source ast.groupNames [] := by
    unfold parse at h
    split at h
    · cases h
    · next tree reader hread =>
      obtain ⟨names, hopens, hnames⟩ := Reader.exists_opens_of_readAlternatives hread
      split at h
      · next hrest =>
        split at h
        · obtain rfl := Except.ok.inj h
          rw [hnames, Reader.groupNames_close]
          exact hrest ▸ hopens
        · cases h
      · cases h
  constructor
  · intro hnames
    exact (hnames.unique hopens).1
  · rintro rfl
    exact hopens

end Sentinels.Pattern
