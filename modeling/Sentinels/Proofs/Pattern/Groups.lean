import Sentinels.Pattern.Compiled

/-!
# The groups of a pattern

A compiled pattern has the named groups of its source: those in sequences, in alternatives, in other
groups and in repetitions. Only a part that is repeated exactly zero times loses its groups, since
it stands for the empty text (`mem_groupNames_of_compile`).
-/

set_option autoImplicit false

namespace Sentinels.Pattern

section Steps

variable {ε α β : Type}

/-- What is made of a value comes from one that there is. -/
theorem map_eq_ok_iff {x : Except ε α} {f : α → β} {b : β} :
    x.map f = .ok b ↔ ∃ a, x = .ok a ∧ f a = b := by
  cases x <;> simp [Except.map]

/-- Two steps in a row succeed if the first gives something from which the second succeeds. -/
theorem bind_eq_ok_iff {x : Except ε α} {f : α → Except ε β} {b : β} :
    x >>= f = .ok b ↔ ∃ a, x = .ok a ∧ f a = .ok b := by
  cases x <;> simp [bind, Except.bind]

end Steps

/-- What lists are nested to, one part in front of the others, has the names of all parts. -/
theorem names_nested {α : Type} {nest : List α → α} {names : α → List Text}
    (hnil : names (nest []) = []) (hone : ∀ a, nest [a] = a)
    (hmore : ∀ a b l, names (nest (a :: b :: l)) = names a ++ names (nest (b :: l)))
    (parts : List α) : names (nest parts) = parts.flatMap names := by
  induction parts with
  | nil => exact hnil
  | cons a parts ih =>
    cases parts with
    | nil => rw [hone, List.flatMap_singleton]
    | cons b parts =>
      rw [hmore, ih]
      rfl

/-! ## Groups of expressions -/

namespace Expr

/-- A sequence has the groups of its items, in their order. -/
theorem groupNames_ofItems (es : List Expr) :
    (ofItems es).groupNames = es.flatMap groupNames :=
  names_nested rfl (fun _ => rfl) (fun _ _ _ => rfl) es

/-- An alternation has the groups of its branches, in their order. -/
theorem groupNames_ofBranches (es : List Expr) :
    (ofBranches es).groupNames = es.flatMap groupNames :=
  names_nested rfl (fun _ => rfl) (fun _ _ _ => rfl) es

/-- The items of an expression have its groups. -/
theorem flatMap_items (e : Expr) : e.items.flatMap groupNames = e.groupNames := by
  induction e with
  | seq first rest _ ih => rw [items, List.flatMap_cons, ih, groupNames]
  | empty => rfl
  | _ => simp [items]

/-- The branches of an expression have its groups. -/
theorem flatMap_branches (e : Expr) : e.branches.flatMap groupNames = e.groupNames := by
  induction e with
  | alt first rest _ ih => rw [branches, List.flatMap_cons, ih, groupNames]
  | _ => simp [branches]

/-- Texts that are joined have no groups. -/
theorem flatMap_pushItem (e : Expr) (es : List Expr) :
    (pushItem e es).flatMap groupNames = e.groupNames ++ es.flatMap groupNames := by
  unfold pushItem
  split
  · simp [groupNames]
  · rw [List.flatMap_cons]

/-- The sequence of expressions has their groups, in their order. -/
theorem groupNames_concat (es : List Expr) : (concat es).groupNames = es.flatMap groupNames := by
  have hpush : ∀ es : List Expr,
      (es.foldr pushItem []).flatMap groupNames = es.flatMap groupNames := by
    intro es
    induction es with
    | nil => rfl
    | cons e es ih => rw [List.foldr_cons, flatMap_pushItem, ih, List.flatMap_cons]
  rw [concat, groupNames_ofItems, hpush, List.flatMap_assoc]
  simp only [flatMap_items]

/-- Sets have no groups. -/
@[simp] theorem groupNames_ofSet (s : CharSet) (ascii : Bool) :
    (ofSet s ascii).groupNames = [] := by
  unfold ofSet
  split
  · rfl
  · split <;> rfl

/-- Branches that are all characters or all sets have no groups. -/
theorem flatMap_of_mapM {α : Type} {view : Expr → Option α}
    (hview : ∀ e a, view e = some a → e.groupNames = []) {es : List Expr} {as : List α}
    (h : es.mapM view = some as) : es.flatMap groupNames = [] := by
  induction es generalizing as with
  | nil => rfl
  | cons e es ih =>
    rw [List.mapM_cons] at h
    obtain ⟨a, ha, h⟩ := Option.bind_eq_some_iff.1 h
    obtain ⟨as, has, -⟩ := Option.bind_eq_some_iff.1 h
    rw [List.flatMap_cons, hview e a ha, ih has, List.nil_append]

/-- The choice between branches has their groups, in their order. -/
theorem groupNames_choice (es : List Expr) : (choice es).groupNames = es.flatMap groupNames := by
  have hchar : ∀ e c, char? e = some c → e.groupNames = [] := by
    intro e c h
    cases e <;> first | rfl | simp [char?] at h
  have hset : ∀ e s, members? e = some s → e.groupNames = [] := by
    intro e s h
    cases e <;> first | rfl | simp [members?] at h
  unfold choice merged?
  cases hchars : es.mapM char? with
  | some chars =>
    rw [flatMap_of_mapM hchar hchars]
    exact groupNames_ofSet _ _
  | none =>
    cases hsets : es.mapM members? with
    | some sets =>
      rw [flatMap_of_mapM hset hsets]
      exact groupNames_ofSet _ _
    | none => exact groupNames_ofBranches es

/-- The common start of two lists is a start of both. -/
theorem commonStart_isPrefix (as bs : List Expr) :
    commonStart as bs <+: as ∧ commonStart as bs <+: bs := by
  fun_induction commonStart as bs with
  | case1 a as bs ih =>
    exact ⟨List.cons_prefix_cons.2 ⟨rfl, ih.1⟩, List.cons_prefix_cons.2 ⟨rfl, ih.2⟩⟩
  | case2 => exact ⟨List.nil_prefix, List.nil_prefix⟩
  | case3 => exact ⟨List.nil_prefix, List.nil_prefix⟩

/-- The shared start of lists is a start of each. -/
theorem sharedStart_isPrefix {lists : List (List Expr)} {list : List Expr}
    (hmem : list ∈ lists) : sharedStart lists <+: list := by
  have hfold : ∀ (later : List (List Expr)) (start : List Expr),
      later.foldl commonStart start <+: start ∧
        ∀ l ∈ later, later.foldl commonStart start <+: l := by
    intro later
    induction later with
    | nil => exact fun start => ⟨List.prefix_rfl, by simp⟩
    | cons l later ih =>
      intro start
      obtain ⟨hstart, hlater⟩ := ih (commonStart start l)
      obtain ⟨hleft, hright⟩ := commonStart_isPrefix start l
      refine ⟨hstart.trans hleft, ?_⟩
      rintro m (_ | ⟨_, hm⟩)
      · exact hstart.trans hright
      · exact hlater m hm
  cases lists with
  | nil => simp at hmem
  | cons l later =>
    rcases List.mem_cons.1 hmem with rfl | hlater
    · exact (hfold later list).1
    · exact (hfold later l).2 list hlater

/-- The branches of expressions have their groups. -/
theorem flatMap_flatMap_branches (es : List Expr) :
    (es.flatMap branches).flatMap groupNames = es.flatMap groupNames := by
  rw [List.flatMap_assoc]
  simp only [flatMap_branches]

/-- An expression whose items begin with some others has their groups and those of the rest. -/
theorem mem_groupNames_of_isPrefix {start : List Expr} {e : Expr} (h : start <+: e.items)
    {name : Text} :
    name ∈ e.groupNames ↔ name ∈ start.flatMap groupNames ∨
      name ∈ (concat (e.items.drop start.length)).groupNames := by
  obtain ⟨behind, hitems⟩ := h
  rw [groupNames_concat, ← flatMap_items e, ← hitems, List.drop_left, List.flatMap_append,
    List.mem_append]

/-- Branches of which a common beginning is kept once have the same groups as before. -/
theorem mem_groupNames_shared {start : List Expr} {e : Expr} {es : List Expr}
    (hstart : ∀ b ∈ e :: es, start <+: b.items) {name : Text} :
    name ∈ (concat (start ++ [choice (((e :: es).map fun b =>
        concat (b.items.drop start.length)).flatMap branches)])).groupNames ↔
      name ∈ (e :: es).flatMap groupNames := by
  rw [groupNames_concat, List.flatMap_append, List.flatMap_singleton, groupNames_choice,
    flatMap_flatMap_branches, List.mem_append, List.flatMap_map, List.mem_flatMap (l := e :: es),
    List.mem_flatMap (l := e :: es)]
  constructor
  · rintro (hname | ⟨b, hb, hname⟩)
    · exact ⟨e, List.mem_cons_self,
        (mem_groupNames_of_isPrefix (hstart e List.mem_cons_self)).2 (.inl hname)⟩
    · exact ⟨b, hb, (mem_groupNames_of_isPrefix (hstart b hb)).2 (.inr hname)⟩
  · rintro ⟨b, hb, hname⟩
    rcases (mem_groupNames_of_isPrefix (hstart b hb)).1 hname with h | h
    · exact .inl h
    · exact .inr ⟨b, hb, h⟩

/--
The alternation of expressions has their groups and no others. The groups of a beginning that they
share are kept once.
-/
theorem mem_groupNames_alternation {es : List Expr} {name : Text} :
    name ∈ (alternation es).groupNames ↔ name ∈ es.flatMap groupNames := by
  rw [← flatMap_flatMap_branches]
  unfold alternation
  generalize es.flatMap branches = flat
  match flat with
  | [] => exact Iff.rfl
  | [e] => simp
  | e :: e' :: others =>
    have hstart : ∀ b ∈ e :: e' :: others,
        (if (e :: e' :: others).all isSeq then sharedStart ((e :: e' :: others).map items)
          else []) <+: b.items := by
      intro b hb
      split
      · exact sharedStart_isPrefix (List.mem_map_of_mem hb)
      · exact List.nil_prefix
    dsimp only
    generalize (if (e :: e' :: others).all isSeq then sharedStart ((e :: e' :: others).map items)
      else []) = start at hstart ⊢
    split
    · rw [groupNames_choice]
    · exact mem_groupNames_shared hstart

/-- A repetition has the groups of what is repeated, unless that is repeated zero times. -/
theorem mem_groupNames_repeated {body : Expr} {min : Nat} {max : Option Nat} {greedy : Bool}
    {name : Text} :
    name ∈ (repeated body min max greedy).groupNames ↔
      ¬(min = 0 ∧ max = some 0) ∧ name ∈ body.groupNames := by
  -- What matches the empty text only is repeated at most once, and not at all just if it was so.
  have hbounds : ∀ (least : Nat) (most : Option Nat),
      name ∈ (if least = 0 ∧ most = some 0 then Expr.empty
        else if least = 1 ∧ most = some 1 then body
        else .repetition body least most greedy).groupNames ↔
        ¬(least = 0 ∧ most = some 0) ∧ name ∈ body.groupNames := by
    intro least most
    split
    · simp_all [groupNames]
    · split
      · simp_all
      · simp_all [groupNames]
  unfold repeated
  split
  · rename_i least most hpair
    rw [hbounds]
    have hzero : least = 0 ∧ most = some 0 ↔ min = 0 ∧ max = some 0 := by
      have hone : ∀ n, Nat.min n 1 = 0 ↔ n = 0 := by
        intro n
        change Min.min n 1 = 0 ↔ n = 0
        omega
      split at hpair
      · obtain ⟨rfl, rfl⟩ := Prod.mk.inj hpair
        cases max <;> simp [hone]
      · obtain ⟨rfl, rfl⟩ := Prod.mk.inj hpair
        rfl
    rw [hzero]

end Expr

/-! ## Groups of sources -/

/-- The name of a group, if it has one. -/
def GroupKind.name? : GroupKind → Option Text
  | .named _ name => some name
  | _ => none

/-- The names in a group are its own, if it has one, and those of what it holds. -/
theorem Ast.groupNames_group (kind : GroupKind) (body : Ast) :
    (Ast.group kind body).groupNames = kind.name?.toList ++ body.groupNames := by
  cases kind <;> rfl

/--
Does the pattern have a group with the name, outside of all parts that are repeated exactly zero
times?
-/
def Ast.Declares (name : Text) : Ast → Prop
  | .repetition body min max _ => ¬(min = 0 ∧ max = some 0) ∧ body.Declares name
  | .group kind body => kind.name? = some name ∨ body.Declares name
  | .concat first rest => first.Declares name ∨ rest.Declares name
  | .alternation first rest => first.Declares name ∨ rest.Declares name
  | _ => False

/-- A group that a pattern declares is among its groups. -/
theorem Ast.Declares.mem_groupNames {name : Text} {ast : Ast} (h : ast.Declares name) :
    name ∈ ast.groupNames := by
  induction ast with
  | repetition body min max greedy ih => exact ih h.2
  | group kind body ih =>
    rw [groupNames_group, List.mem_append, Option.mem_toList]
    exact h.imp id ih
  | concat first rest ihFirst ihRest => exact List.mem_append.2 (h.imp ihFirst ihRest)
  | alternation first rest ihFirst ihRest => exact List.mem_append.2 (h.imp ihFirst ihRest)
  | _ => exact h.elim

/-- Is no part of the pattern repeated exactly zero times? -/
def Ast.KeepsParts : Ast → Prop
  | .repetition body min max _ => ¬(min = 0 ∧ max = some 0) ∧ body.KeepsParts
  | .group _ body => body.KeepsParts
  | .concat first rest => first.KeepsParts ∧ rest.KeepsParts
  | .alternation first rest => first.KeepsParts ∧ rest.KeepsParts
  | _ => True

/-- Where no part is repeated zero times, a pattern declares all its groups. -/
theorem Ast.KeepsParts.declares_iff {name : Text} {ast : Ast} (h : ast.KeepsParts) :
    ast.Declares name ↔ name ∈ ast.groupNames := by
  refine ⟨Declares.mem_groupNames, ?_⟩
  intro hname
  induction ast with
  | repetition body min max greedy ih => exact ⟨h.1, ih h.2 hname⟩
  | group kind body ih =>
    rw [groupNames_group, List.mem_append, Option.mem_toList] at hname
    exact hname.imp id (ih h)
  | concat first rest ihFirst ihRest =>
    exact (List.mem_append.1 hname).imp (ihFirst h.1) (ihRest h.2)
  | alternation first rest ihFirst ihRest =>
    exact (List.mem_append.1 hname).imp (ihFirst h.1) (ihRest h.2)
  | _ => cases hname

/-- A literal has no groups. -/
theorem groupNames_literalExpr (flags : Flags) (c : Char) :
    (flags.literalExpr c).groupNames = [] := by
  unfold Flags.literalExpr
  split
  · split <;> exact Expr.groupNames_ofSet _ _
  · rfl

/-- A dot has no groups. -/
theorem groupNames_dot {flags : Flags} {e : Expr} (h : flags.dot = .ok e) : e.groupNames = [] := by
  unfold Flags.dot at h
  split at h
  · cases h
  · repeat' split at h
    all_goals
      obtain rfl := Except.ok.inj h
      rfl

/-- An item that stands for one expression without groups has no names. -/
theorem mem_names_of_groupless {α : Type} {x : Except SyntaxError α} {expr : α → Expr}
    {flags after : Flags} {es : List Expr} (hnone : ∀ a, x = .ok a → (expr a).groupNames = [])
    (h : x.map (fun a => ([expr a], flags)) = .ok (es, after)) {name : Text} :
    name ∈ es.flatMap Expr.groupNames ↔ False := by
  obtain ⟨a, ha, heq⟩ := map_eq_ok_iff.1 h
  obtain ⟨rfl, -⟩ := Prod.mk.inj heq
  rw [List.flatMap_singleton, hnone a ha]
  exact ⟨List.not_mem_nil, False.elim⟩

/-- The branches that a pattern stands for have the groups that it declares. -/
theorem Ast.mem_names_of_meaning {ast : Ast} {flags after : Flags} {es : List Expr}
    (h : ast.meaning flags = .ok (es, after)) {name : Text} :
    name ∈ es.flatMap Expr.groupNames ↔ ast.Declares name := by
  induction ast generalizing flags after es with
  | empty =>
    obtain ⟨rfl, -⟩ := Prod.mk.inj (Except.ok.inj h)
    simp [Expr.groupNames, Declares]
  | setFlags edits =>
    obtain ⟨rfl, -⟩ := Prod.mk.inj (Except.ok.inj h)
    simp [Expr.groupNames, Declares]
  | assertion a =>
    obtain ⟨rfl, -⟩ := Prod.mk.inj (Except.ok.inj h)
    simp [Expr.groupNames, Declares]
  | literal l => exact mem_names_of_groupless (fun c _ => groupNames_literalExpr flags c) h
  | dot => exact mem_names_of_groupless (fun _ hdot => groupNames_dot hdot) h
  | shorthand cls negated =>
    exact mem_names_of_groupless (fun _ _ => Expr.groupNames_ofSet _ _) h
  | property query negated =>
    exact mem_names_of_groupless (fun _ _ => Expr.groupNames_ofSet _ _) h
  | bracketed negated body =>
    obtain ⟨s, -, hset⟩ := bind_eq_ok_iff.1 h
    exact mem_names_of_groupless (fun _ _ => Expr.groupNames_ofSet _ _) hset
  | repetition body min max greedy ih =>
    obtain ⟨⟨es, after⟩, hbody, heq⟩ := map_eq_ok_iff.1 h
    obtain ⟨rfl, -⟩ := Prod.mk.inj heq
    rw [List.flatMap_singleton, Expr.mem_groupNames_repeated, Expr.mem_groupNames_alternation,
      ih hbody, Declares]
  | group kind body ih =>
    cases kind with
    | plain edits =>
      obtain ⟨⟨es, after⟩, hbody, heq⟩ := map_eq_ok_iff.1 h
      obtain ⟨rfl, -⟩ := Prod.mk.inj heq
      rw [List.flatMap_singleton, Expr.mem_groupNames_alternation, ih hbody, Declares]
      simp [GroupKind.name?]
    | indexed index =>
      obtain ⟨⟨es, after⟩, hbody, heq⟩ := map_eq_ok_iff.1 h
      obtain ⟨rfl, -⟩ := Prod.mk.inj heq
      rw [List.flatMap_singleton, Expr.groupNames, Option.toList_none, List.nil_append,
        Expr.mem_groupNames_alternation, ih hbody, Declares]
      simp [GroupKind.name?]
    | named index other =>
      obtain ⟨⟨es, after⟩, hbody, heq⟩ := map_eq_ok_iff.1 h
      obtain ⟨rfl, -⟩ := Prod.mk.inj heq
      rw [List.flatMap_singleton, Expr.groupNames, List.mem_append, Option.mem_toList,
        Expr.mem_groupNames_alternation, ih hbody, Declares]
      rfl
  | concat first rest ihFirst ihRest =>
    obtain ⟨⟨es, middle⟩, hfirst, h⟩ := bind_eq_ok_iff.1 h
    obtain ⟨⟨fs, last⟩, hrest, heq⟩ := map_eq_ok_iff.1 h
    obtain ⟨rfl, -⟩ := Prod.mk.inj heq
    rw [List.flatMap_singleton, Expr.groupNames_concat, List.flatMap_cons, List.flatMap_singleton,
      List.mem_append, Expr.mem_groupNames_alternation, Expr.mem_groupNames_alternation,
      ihFirst hfirst, ihRest hrest, Declares]
  | alternation first rest ihFirst ihRest =>
    obtain ⟨⟨es, middle⟩, hfirst, h⟩ := bind_eq_ok_iff.1 h
    obtain ⟨⟨fs, last⟩, hrest, heq⟩ := map_eq_ok_iff.1 h
    obtain ⟨rfl, -⟩ := Prod.mk.inj heq
    rw [List.flatMap_append, List.mem_append, ihFirst hfirst, ihRest hrest, Declares]

/-- A compiled pattern has the groups that its source declares. -/
theorem mem_groupNames_of_compile {source : Text} {pattern : Pattern} {ast : Ast}
    (hpattern : compile source = .ok pattern) (hast : parse source = .ok ast) {name : Text} :
    name ∈ pattern.groupNames ↔ ast.Declares name := by
  obtain ⟨e, hexpr, -, rfl⟩ := compile_eq_ok_iff.1 hpattern
  rw [exprOf, hast] at hexpr
  obtain ⟨⟨es, after⟩, hmeaning, rfl⟩ := map_eq_ok_iff.1 hexpr
  exact Expr.mem_groupNames_alternation.trans (Ast.mem_names_of_meaning hmeaning)

end Sentinels.Pattern
