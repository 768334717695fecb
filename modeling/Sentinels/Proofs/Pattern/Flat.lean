import Sentinels.Proofs.Pattern.Memory

/-!
# Flat expressions

An expression is flat if its loops run over the characters of a set, as those of the patterns for
tags, blocks and sentinels do. The program of a flat expression finds the first of its outcomes at
every position (`Expr.Flat.run_yields`): each number stands for one choice in the program, and what
is a dead end there depends only on where the rest of the pattern is stuck.
-/

set_option autoImplicit false

namespace Sentinels.Pattern

namespace Expr

/--
The expressions whose loops run over the characters of a set; other parts may only be missing. All
of them prefer more to less.
-/
inductive Flat : Expr → Prop
  | empty : Flat .empty
  | text (chars : Text) : Flat (.text chars)
  | set (s : CharSet) (ascii : Bool) : Flat (.set s ascii)
  | look (l : Look) : Flat (.look l)
  | group {index : Nat} {name : Option Text} {body : Expr} (h : Flat body) :
    Flat (.group index name body)
  | seq {first rest : Expr} (hf : Flat first) (hr : Flat rest) : Flat (.seq first rest)
  | alt {first rest : Expr} (hf : Flat first) (hr : Flat rest) : Flat (.alt first rest)
  | star (s : CharSet) (ascii : Bool) : Flat (.repetition (.set s ascii) 0 none true)
  | plus (s : CharSet) (ascii : Bool) : Flat (.repetition (.set s ascii) 1 none true)
  | option {body : Expr} (h : Flat body) : Flat body.option

open Program (ofExpr)

/-- A run makes one choice. -/
theorem ofExpr_star (s : CharSet) (ascii : Bool) (id : Nat) :
    ofExpr (.repetition (.set s ascii) 0 none true) id = (.span id true s, id + 1) := rfl

/-- The choice of what may be missing comes behind those inside. -/
theorem ofExpr_option (body : Expr) (id : Nat) :
    ofExpr body.option id =
      (.fork (ofExpr body id).2 (ofExpr body id).1 .empty, (ofExpr body id).2 + 1) := rfl

/-- The numbers of choices increase. -/
theorem Flat.le_ofExpr {e : Expr} (h : Flat e) (id : Nat) : id ≤ (ofExpr e id).2 := by
  induction h generalizing id with
  | empty | text | set | look => exact le_rfl
  | @group index name body _ ih => cases name <;> exact ih id
  | seq _ _ ihf ihr => exact (ihf id).trans (ihr _)
  | alt _ _ ihf ihr => exact (Nat.le_succ id).trans ((ihf (id + 1)).trans (ihr _))
  | star | plus => exact Nat.le_succ id
  | option _ ih => exact (ih id).trans (Nat.le_succ _)

/--
Does the program of the expression, with its choices numbered from any number on, find the first
outcome under a harmless record, whatever comes behind it? Which of its choices are dead ends
depends only on the positions at which what comes behind it is stuck.
-/
def KeepsMemory (text : Text) (budget : Nat) (e : Expr) : Prop :=
  ∀ (id : Nat) (ids : Set Nat) (dead : DeadEnds) (stuck : Cursor → Prop),
    (∀ i ∈ ids, i < id ∨ (ofExpr e id).2 ≤ i) →
      ∃ dead' : DeadEnds, (∀ i ∈ ids, dead' i = dead i) ∧
        ∀ (next : Attempt) (find : Cursor → List Hit), (∀ c, find c = [] ↔ stuck c) →
          next.Yields text dead ids find →
            (Program.run budget (ofExpr e id).1 0 next).Yields text dead'
              (ids ∪ Set.Ico id (ofExpr e id).2) fun c => andThen (e.outcomes c) find

namespace KeepsMemory

variable {text : Text} {budget : Nat}

/-- An expression that makes no choice leaves the dead ends as they are. -/
theorem of_no_choice {e : Expr} (hids : ∀ id, (ofExpr e id).2 = id)
    (hrun : ∀ id dead ids next find, Attempt.Yields text dead ids next find →
      (Program.run budget (ofExpr e id).1 0 next).Yields text dead ids fun c =>
        andThen (e.outcomes c) find) :
    KeepsMemory text budget e := by
  intro id ids dead stuck _
  refine ⟨dead, fun _ _ => rfl, fun next find _ hnext => ?_⟩
  rw [hids, Set.Ico_self, Set.union_empty]
  exact hrun id dead ids next find hnext

/-- The choices of a sequence are those of its parts. -/
theorem seq {first rest : Expr} (hf : KeepsMemory text budget first)
    (hr : KeepsMemory text budget rest) (hflat : Flat first) (hflat' : Flat rest) :
    KeepsMemory text budget (.seq first rest) := by
  intro id ids dead stuck hids
  have hlow := hflat.le_ofExpr id
  have hhigh := hflat'.le_ofExpr (ofExpr first id).2
  change ∀ i ∈ ids, i < id ∨ (ofExpr rest (ofExpr first id).2).2 ≤ i at hids
  obtain ⟨dead₁, hdead₁, hrest⟩ := hr (ofExpr first id).2 ids dead stuck (by
    intro i hi
    rcases hids i hi with h | h
    · exact Or.inl (by omega)
    · exact Or.inr h)
  obtain ⟨dead₂, hdead₂, hfirst⟩ := hf id
    (ids ∪ Set.Ico (ofExpr first id).2 (ofExpr rest (ofExpr first id).2).2) dead₁
    (fun c => ∀ h ∈ rest.outcomes c, stuck h.stop) (by
      intro i hi
      rcases hi with hi | hi
      · rcases hids i hi with h | h
        · exact Or.inl h
        · exact Or.inr (by omega)
      · exact Or.inr hi.1)
  refine ⟨dead₂, fun i hi => (hdead₂ i (Or.inl hi)).trans (hdead₁ i hi), ?_⟩
  intro next find hstuck hnext
  have heq : (fun c => andThen ((Expr.seq first rest).outcomes c) find) =
      fun c => andThen (first.outcomes c) fun d => andThen (rest.outcomes d) find :=
    funext fun c => andThen_assoc _ _ _
  rw [heq]
  refine (hfirst _ _ (fun c => by simp [andThen_eq_nil, hstuck])
    (hrest next find hstuck hnext)).mono ?_
  change _ ⊆ ids ∪ Set.Ico id (ofExpr rest (ofExpr first id).2).2
  intro i hi
  simp only [Set.mem_union, Set.mem_Ico] at hi ⊢
  grind

/-- The choice between two parts comes in front of theirs. -/
theorem alt {first rest : Expr} (hf : KeepsMemory text budget first)
    (hr : KeepsMemory text budget rest) (hflat : Flat first) (hflat' : Flat rest) :
    KeepsMemory text budget (.alt first rest) := by
  intro id ids dead stuck hids
  have hlow := hflat.le_ofExpr (id + 1)
  have hhigh := hflat'.le_ofExpr (ofExpr first (id + 1)).2
  generalize hmiddle : (ofExpr first (id + 1)).2 = middle at hlow hhigh
  generalize hlast : (ofExpr rest middle).2 = last at hhigh
  have hnext : (ofExpr (.alt first rest) id).2 = last := by
    rw [← hlast, ← hmiddle]; rfl
  have hprogram : (ofExpr (.alt first rest) id).1 =
      .fork id (ofExpr first (id + 1)).1 (ofExpr rest middle).1 := by
    rw [← hmiddle]; rfl
  rw [hnext] at hids
  obtain ⟨dead₁, hdead₁, hfirst⟩ := hf (id + 1) ids dead stuck (by
    intro i hi
    have := hids i hi
    omega)
  obtain ⟨dead₂, hdead₂, hrest⟩ := hr middle (ids ∪ Set.Ico (id + 1) middle) dead₁ stuck (by
    intro i hi
    rcases hi with hi | hi
    · have := hids i hi
      omega
    · exact Or.inl hi.2)
  rw [hmiddle] at hfirst
  rw [hlast] at hrest
  have hid : id ∉ (ids ∪ Set.Ico (id + 1) middle) ∪ Set.Ico middle last := by
    have := hids id
    simp only [Set.mem_union, Set.mem_Ico]
    grind
  refine ⟨Function.update dead₂ id
    (atPosition text fun c => ∀ h ∈ (Expr.alt first rest).outcomes c, stuck h.stop), ?_, ?_⟩
  · intro i hi
    have hne : i ≠ id := by
      have := hids i hi
      omega
    rw [Function.update_of_ne hne, hdead₂ i (Or.inl hi), hdead₁ i hi]
  · intro next find hstuck hnext'
    have hyields := (hfirst next find hstuck hnext').congr hdead₂
    have hyields' := hrest next find hstuck
      ((hnext'.congr hdead₁).mono Set.subset_union_left)
    have hfork := (hyields.mono Set.subset_union_left).orElse hyields'
    rw [hprogram, hnext]
    simp only [outcomes_alt, andThen_append]
    simp only [Program.run, Nat.add_zero]
    refine (hfork.once_update hid fun c => ?_).mono fun i hi => ?_
    · rw [← andThen_append, andThen_eq_nil]
      simp only [hstuck]
    · simp only [Set.mem_insert_iff, Set.mem_union, Set.mem_Ico] at hi ⊢
      grind

/-- The choice of what may be missing comes behind those inside. -/
theorem option {body : Expr} (hb : KeepsMemory text budget body) (hflat : Flat body) :
    KeepsMemory text budget body.option := by
  intro id ids dead stuck hids
  have hlow := hflat.le_ofExpr id
  rw [ofExpr_option] at hids ⊢
  generalize hlast : (ofExpr body id).2 = last at hlow hids ⊢
  obtain ⟨dead₁, hdead₁, hbody⟩ := hb id ids dead stuck (by
    intro i hi
    have := hids i hi
    omega)
  rw [hlast] at hbody
  have hid : last ∉ ids ∪ Set.Ico id last := by
    have := hids last
    simp only [Set.mem_union, Set.mem_Ico]
    grind
  refine ⟨Function.update dead₁ last
    (atPosition text fun c => ∀ h ∈ body.option.outcomes c, stuck h.stop), ?_, ?_⟩
  · intro i hi
    have hne : i ≠ last := by
      have := hids i hi
      omega
    rw [Function.update_of_ne hne, hdead₁ i hi]
  · intro next find hstuck hnext
    have hyields := hbody next find hstuck hnext
    have hskip := (hnext.congr hdead₁).mono (Set.subset_union_left (t := Set.Ico id last))
    have hfind : (fun c => andThen (body.option.outcomes c) find) =
        fun c => andThen (body.outcomes c) find ++ find c :=
      funext fun c => by rw [outcomes_option, andThen_append, andThen_here]
    rw [hfind]
    simp only [Program.run, Nat.add_zero]
    refine ((hyields.orElse hskip).once_update hid fun c => ?_).mono fun i hi => ?_
    · rw [← congrFun hfind c, andThen_eq_nil]
      simp only [hstuck]
    · simp only [Set.mem_insert_iff, Set.mem_union, Set.mem_Ico] at hi ⊢
      grind

/-- A run makes one choice at each of its positions. -/
theorem star (s : CharSet) (ascii : Bool) :
    KeepsMemory text budget (.repetition (.set s ascii) 0 none true) := by
  intro id ids dead stuck hids
  rw [ofExpr_star] at hids ⊢
  have hid : id ∉ ids := by
    intro hi
    have := hids id hi
    omega
  let deadEnd : Cursor → Prop := fun c => ∀ i ≤ c.runLength s.contains, stuck (c.skip i)
  refine ⟨Function.update dead id (atPosition text deadEnd), ?_, ?_⟩
  · intro i hi
    exact Function.update_of_ne (ne_of_mem_of_not_mem hi hid) _ _
  · intro next find hstuck hnext
    have hspan := (hnext.update hid (atPosition text deadEnd)).span (s := s) ascii hid
      fun c hc => by
        rw [Function.update_self, atPosition_iff hc]
        simp only [deadEnd, hstuck]
    simp only [Program.run, Nat.add_zero]
    refine hspan.mono ?_
    intro i hi
    simp only [Set.mem_insert_iff, Set.mem_union, Set.mem_Ico] at hi ⊢
    grind

/-- A set makes no choice. -/
theorem set (s : CharSet) (ascii : Bool) : KeepsMemory text budget (.set s ascii) :=
  of_no_choice (fun _ => rfl) fun _ _ _ _ _ h => h.set_run budget s ascii

/-- A run that must not be empty is a character and a run behind it. -/
theorem plus (s : CharSet) (ascii : Bool) :
    KeepsMemory text budget (.repetition (.set s ascii) 1 none true) := by
  have hstar : KeepsMemory text budget (.repetition (.set s ascii) 0 none true) := star s ascii
  have hseq := (set s ascii).seq hstar (.set s ascii) (.star s ascii)
  intro id ids dead stuck hids
  obtain ⟨dead', hdead', hrun⟩ := hseq id ids dead stuck hids
  refine ⟨dead', hdead', fun next find hstuck hnext => ?_⟩
  simp only [outcomes_plus]
  exact hrun next find hstuck hnext

/-- A group makes the choices of its body. -/
theorem group {index : Nat} {name : Option Text} {body : Expr}
    (hb : KeepsMemory text budget body) : KeepsMemory text budget (.group index name body) := by
  cases name with
  | none => exact hb
  | some name =>
    intro id ids dead stuck hids
    obtain ⟨dead', hdead', hrun⟩ := hb id ids dead stuck hids
    refine ⟨dead', hdead', fun next find hstuck hnext c captures made hc hmade => ?_⟩
    have hbody := hrun _ _ (fun d => by simp [hstuck]) (hnext.capture name c) c captures made hc
      hmade
    have hfind : andThen ((Expr.group index (some name) body).outcomes c) find =
        andThen (body.outcomes c) fun d => (find d).map (Hit.after [(name, ⟨c, d⟩)]) := by
      simp [andThen, outcomes, List.flatMap_map, Function.comp_def]
    simp only [hfind]
    exact hbody

end KeepsMemory

/-- The choices of a flat expression never hide a match from its search. -/
theorem Flat.keepsMemory {e : Expr} (h : Flat e) (text : Text) (budget : Nat) :
    KeepsMemory text budget e := by
  induction h with
  | empty =>
    refine .of_no_choice (fun _ => rfl) fun _ _ _ _ _ h => ?_
    simp only [outcomes_empty, andThen_here]
    exact h
  | text chars => exact .of_no_choice (fun _ => rfl) fun _ _ _ _ _ h => h.text_run budget chars
  | set s ascii => exact .set s ascii
  | look l => exact .of_no_choice (fun _ => rfl) fun _ _ _ _ _ h => h.look_run budget l
  | group _ ih => exact ih.group
  | seq hf hr ihf ihr => exact ihf.seq ihr hf hr
  | alt hf hr ihf ihr => exact ihf.alt ihr hf hr
  | star s ascii => exact .star s ascii
  | plus s ascii => exact .plus s ascii
  | option h ih => exact ih.option h

/-- The program of an expression that stands alone. -/
def program (e : Expr) : Program := (ofExpr e 0).1

/-- The program of a flat expression finds the first outcome at every position of a text. -/
theorem Flat.run_yields {e : Expr} (h : Flat e) (text : Text) (budget : Nat) :
    ∃ dead ids, (e.program.run budget 0 .accept).Yields text dead ids e.outcomes := by
  obtain ⟨dead, -, hrun⟩ :=
    h.keepsMemory text budget 0 ∅ (fun _ _ => False) (fun _ => False) (by simp)
  have hyields := hrun .accept (fun c => [.here c]) (by simp) Attempt.Yields.accept
  simp only [andThen_here_right] at hyields
  exact ⟨dead, _, hyields⟩

end Expr

end Sentinels.Pattern
