import Sentinels.Proofs.Defaults
import Sentinels.Proofs.Pattern.Openings

/-!
# What is asked of a configuration

The patterns of a configuration must compile and declare their groups. A run fails just if one of
these demands is not met, and with the failure that belongs to the first of them; neither the
document nor the tags take part in that (`failure_fixed_by_config`).
-/

set_option autoImplicit false

namespace Sentinels

open Pattern PatternSet

/-! ## Demands -/

/-- A condition, and the failure that is reported where it does not hold. -/
structure Demand where
  holds : Prop
  failure : Failure

/-- The failure belongs to the first of the demands that is not met. -/
inductive FirstUnmet : List Demand → Failure → Prop
  | here {demand : Demand} {later : List Demand} (h : ¬demand.holds) :
      FirstUnmet (demand :: later) demand.failure
  | later {demand : Demand} {later : List Demand} {failure : Failure} (h : demand.holds)
      (hlater : FirstUnmet later failure) : FirstUnmet (demand :: later) failure

section FirstUnmet

variable {demands others : List Demand} {failure failure' : Failure}

/-- If there is a failure then not all demands are met. -/
theorem FirstUnmet.not_forall (h : FirstUnmet demands failure) :
    ¬∀ demand ∈ demands, demand.holds := by
  induction h with
  | here h => exact fun hall => h (hall _ List.mem_cons_self)
  | later _ _ ih =>
    exact fun hall => ih fun demand hmem => hall demand (List.mem_cons_of_mem _ hmem)

/-- There is one first demand that is not met. -/
theorem FirstUnmet.unique (h : FirstUnmet demands failure) (h' : FirstUnmet demands failure') :
    failure = failure' := by
  induction h with
  | here h =>
    cases h' with
    | here => rfl
    | later h' => exact absurd h' h
  | later h _ ih =>
    cases h' with
    | here h' => exact absurd h h'
    | later _ hlater => exact ih hlater

/-- Demands behind the first that is not met do not matter. -/
theorem FirstUnmet.append (h : FirstUnmet demands failure) (others : List Demand) :
    FirstUnmet (demands ++ others) failure := by
  induction h with
  | here h => exact .here h
  | later h _ ih => exact .later h ih

/-- Demands that are met do not matter. -/
theorem FirstUnmet.append_left (hmet : ∀ demand ∈ demands, demand.holds)
    (h : FirstUnmet others failure) : FirstUnmet (demands ++ others) failure := by
  induction demands with
  | nil => exact h
  | cons demand demands ih =>
    exact .later (hmet demand List.mem_cons_self)
      (ih fun d hmem => hmet d (List.mem_cons_of_mem _ hmem))

end FirstUnmet

/-! ## Outcomes -/

/-- The outcome obeys the demands: there is a result if all are met, or else the first failure. -/
def Obeys {α : Type} (demands : List Demand) : Except Failure α → Prop
  | .ok _ => ∀ demand ∈ demands, demand.holds
  | .error failure => FirstUnmet demands failure

namespace Obeys

variable {α β : Type} {demands others : List Demand} {x : Except Failure α}

/-- The outcome is a failure just if that is the first one. -/
theorem eq_error_iff (h : Obeys demands x) {failure : Failure} :
    x = .error failure ↔ FirstUnmet demands failure := by
  cases x with
  | ok a =>
    constructor
    · intro heq
      cases heq
    · intro hunmet
      exact absurd h hunmet.not_forall
  | error other =>
    constructor
    · intro heq
      cases heq
      exact h
    · intro hunmet
      rw [FirstUnmet.unique h hunmet]

/-- There is a result just if all demands are met. -/
theorem exists_eq_ok_iff (h : Obeys demands x) :
    (∃ a, x = .ok a) ↔ ∀ demand ∈ demands, demand.holds := by
  cases x with
  | ok a =>
    constructor
    · intro _
      exact h
    · intro _
      exact ⟨a, rfl⟩
  | error failure =>
    constructor
    · rintro ⟨a, heq⟩
      cases heq
    · intro hall
      exact absurd hall (FirstUnmet.not_forall h)

/-- Steps in a row obey their demands in a row. -/
theorem bind {next : α → Except Failure β} (h : Obeys demands x)
    (hnext : ∀ a, x = .ok a → Obeys others (next a)) :
    Obeys (demands ++ others) (x >>= next) := by
  cases x with
  | error failure => exact FirstUnmet.append h others
  | ok a =>
    have hlater := hnext a rfl
    change Obeys (demands ++ others) (next a)
    cases hstep : next a with
    | ok b =>
      rw [hstep] at hlater
      intro demand hmem
      exact (List.mem_append.1 hmem).elim (h demand) (hlater demand)
    | error failure =>
      rw [hstep] at hlater
      exact FirstUnmet.append_left h hlater

/-- What is made of the result does not matter. -/
theorem map (h : Obeys demands x) (f : α → β) : Obeys demands (x.map f) := by
  cases x <;> exact h

end Obeys

/-! ## Patterns -/

/-- The source compiles. -/
def Pattern.Compiles (source : Text) : Prop := ∃ pattern, compile source = .ok pattern

/-- The source can be read, and it declares the group. -/
def Pattern.HasGroup (source name : Text) : Prop :=
  ∃ ast, parse source = .ok ast ∧ ast.Declares name

/-- What compiles can be read. -/
theorem exists_parse_of_compile {source : Text} {pattern : Pattern}
    (h : compile source = .ok pattern) : ∃ ast, parse source = .ok ast := by
  obtain ⟨e, hexpr, -⟩ := compile_eq_ok_iff.1 h
  obtain ⟨ast, hast, -⟩ := bind_eq_ok_iff.1 hexpr
  exact ⟨ast, hast⟩

/-- The groups of a compiled pattern are those that its source declares. -/
theorem mem_groupNames_iff_hasGroup {source : Text} {pattern : Pattern}
    (h : compile source = .ok pattern) {name : Text} :
    name ∈ pattern.groupNames ↔ HasGroup source name := by
  constructor
  · intro hname
    obtain ⟨ast, hast⟩ := exists_parse_of_compile h
    exact ⟨ast, hast, (mem_groupNames_of_compile h hast).1 hname⟩
  · rintro ⟨ast, hast, hdeclares⟩
    exact (mem_groupNames_of_compile h hast).2 hdeclares

namespace PatternSet

/-- What is asked of the pattern for a role: first that it compiles, then each group in turn. -/
def demandsOn (role : PatternRole) (source : Text) (groups : List Text) : List Demand :=
  ⟨Compiles source, .invalidPattern role source⟩ ::
    groups.map fun group => ⟨HasGroup source group, .missingGroup role group⟩

/-- What is asked of a configuration: the pattern of blocks comes first. -/
def demands (config : Config) : List Demand :=
  demandsOn .block config.blockPattern [nameGroup, returnTypeGroup, noteGroup] ++
    demandsOn .sentinel config.sentinelPattern [valueGroup]

/-- A compiled pattern is the one of its source. -/
theorem compileFor_eq_ok_iff {role : PatternRole} {source : Text} {pattern : Pattern} :
    compileFor role source = .ok pattern ↔ compile source = .ok pattern := by
  unfold compileFor
  cases compile source <;> simp

/-- The pattern for a role is asked to compile. -/
theorem obeys_compileFor (role : PatternRole) (source : Text) :
    Obeys [⟨Compiles source, .invalidPattern role source⟩] (compileFor role source) := by
  unfold compileFor
  cases hcompile : compile source with
  | ok pattern =>
    intro demand hmem
    obtain rfl := List.mem_singleton.1 hmem
    exact ⟨pattern, hcompile⟩
  | error fault =>
    refine FirstUnmet.here ?_
    rintro ⟨pattern, hpattern⟩
    cases hcompile.symm.trans hpattern

/-- The groups of a pattern are asked for one after the other. -/
theorem obeys_checkGroups (role : PatternRole) {source : Text} {pattern : Pattern}
    (h : compile source = .ok pattern) (groups : List Text) :
    Obeys (groups.map fun group => ⟨HasGroup source group, .missingGroup role group⟩)
      (checkGroups role pattern groups) := by
  induction groups with
  | nil => exact fun demand hmem => absurd hmem List.not_mem_nil
  | cons group groups ih =>
    rw [checkGroups]
    by_cases hgroup : group ∈ pattern.groupNames
    · rw [if_pos (List.contains_iff_mem.2 hgroup)]
      have hhas := (mem_groupNames_iff_hasGroup h).1 hgroup
      cases hlater : checkGroups role pattern groups with
      | ok _ =>
        rw [hlater] at ih
        intro demand hmem
        rcases List.mem_cons.1 hmem with rfl | hmem
        · exact hhas
        · exact ih demand hmem
      | error failure =>
        rw [hlater] at ih
        exact FirstUnmet.later hhas ih
    · rw [if_neg (mt List.contains_iff_mem.1 hgroup)]
      exact FirstUnmet.here (mt (mem_groupNames_iff_hasGroup h).2 hgroup)

/-- A role's pattern is compiled, then its groups are checked, then the rest follows. -/
theorem obeys_demandsOn {α : Type} (role : PatternRole) (source : Text) (groups : List Text)
    {later : List Demand} {next : Pattern → Except Failure α}
    (hnext : ∀ pattern, Obeys later (next pattern)) :
    Obeys (demandsOn role source groups ++ later)
      (compileFor role source >>= fun pattern =>
        checkGroups role pattern groups >>= fun _ => next pattern) := by
  have hgroups : ∀ pattern, compileFor role source = .ok pattern →
      Obeys (groups.map (fun group => ⟨HasGroup source group, .missingGroup role group⟩) ++ later)
        (checkGroups role pattern groups >>= fun _ => next pattern) := by
    intro pattern hpattern
    have hcheck := obeys_checkGroups role (compileFor_eq_ok_iff.1 hpattern) groups
    exact hcheck.bind fun _ _ => hnext pattern
  exact (obeys_compileFor role source).bind hgroups

/-- Compiling the patterns of a configuration obeys the demands on it, whatever its tags are. -/
theorem obeys_ofConfig {config : Config}
    (hsize : ∀ source, tagSource? config.strippedTags = some source →
      compile source ≠ .error .size) : Obeys (demands config) (ofConfig config) := by
  obtain ⟨tags, htags, -⟩ := Document.exists_compileTags hsize
  have hlast : ∀ block sentinel : Pattern,
      Obeys [] (.ok (⟨tags, block, sentinel⟩ : PatternSet) : Except Failure PatternSet) :=
    fun _ _ _ hmem => absurd hmem List.not_mem_nil
  have hsentinel := fun block : Pattern =>
    obeys_demandsOn .sentinel config.sentinelPattern [valueGroup] (hlast block)
  have hblock := obeys_demandsOn .block config.blockPattern
    [nameGroup, returnTypeGroup, noteGroup] hsentinel
  rw [List.append_nil] at hblock
  rw [ofConfig, htags]
  exact hblock

end PatternSet

/--
**A failure is fixed by the configuration.** Whatever the tags are, unless their pattern is too
large, the patterns compile just if every demand is met: that the pattern of blocks compiles, that
it has the groups for the name, the return type and the note, that the pattern of sentinels compiles
and that it has the group for the value. Otherwise the first demand in this order that is not met
gives the failure. A run over any document fails with the same failure, and else has a listing.

A source has a group just if that is opened in its text, in either spelling and not behind a
backslash or inside a bracketed class, and does not stand in a part that is repeated exactly zero
times.
-/
theorem failure_fixed_by_config (config : Config)
    (hsize : ∀ source, tagSource? config.strippedTags = some source →
      compile source ≠ .error .size) :
    ((∃ patterns, ofConfig config = .ok patterns) ↔
      ∀ demand ∈ demands config, demand.holds) ∧
    (∀ failure, ofConfig config = .error failure ↔ FirstUnmet (demands config) failure) ∧
    (∀ document,
      ((∃ listing, tabulate config document = .ok listing) ↔
        ∀ demand ∈ demands config, demand.holds) ∧
      ∀ failure, tabulate config document = .error failure ↔
        FirstUnmet (demands config) failure) ∧
    ∀ source ast, parse source = .ok ast →
      (∀ names, Opens false source names [] ↔ names = ast.groupNames) ∧
      (∀ name, ast.Declares name → name ∈ ast.groupNames) ∧
      (ast.KeepsParts → ∀ name, ast.Declares name ↔ name ∈ ast.groupNames) := by
  have hconfig := obeys_ofConfig hsize
  refine ⟨hconfig.exists_eq_ok_iff, fun failure => hconfig.eq_error_iff, ?_, ?_⟩
  · intro document
    have hdocument : Obeys (demands config) (tabulate config document) :=
      (hconfig.map _).map _
    exact ⟨hdocument.exists_eq_ok_iff, fun failure => hdocument.eq_error_iff⟩
  · intro source ast hast
    exact ⟨fun names => opens_iff_of_parse hast, fun name => Ast.Declares.mem_groupNames,
      fun hkeeps name => hkeeps.declares_iff⟩

/--
The group for the return type is missing where its name stands inside a class and behind a
backslash only. That comes before the sentinel pattern, which does not compile.
-/
theorem failure_fixed_by_config_precedence :
    ∃ config : Config, config.strippedTags = ["(".toList, ".*".toList] ∧
      config.blockPattern = "(?<name>[(?P<rtype>])\\(?<rtype>".toList ∧
      config.sentinelPattern = ['['] ∧
      ofConfig config = .error (.missingGroup .block returnTypeGroup) ∧
      tabulate config "<p>".toList = .error (.missingGroup .block returnTypeGroup) := by
  have hsize : ∀ source, tagSource? ["(".toList, ".*".toList] = some source →
      compile source ≠ .error .size := by
    intro source hsource
    obtain rfl := Option.some.inj hsource
    decide +kernel
  have hgroups : (compile "(?<name>[(?P<rtype>])\\(?<rtype>".toList).map Pattern.groupNames =
      .ok [nameGroup] := by
    decide +kernel
  obtain ⟨pattern, hpattern, hnames⟩ := map_eq_ok_iff.1 hgroups
  have hname : HasGroup "(?<name>[(?P<rtype>])\\(?<rtype>".toList nameGroup :=
    (mem_groupNames_iff_hasGroup hpattern).1 (hnames ▸ by decide)
  have hreturnType : ¬HasGroup "(?<name>[(?P<rtype>])\\(?<rtype>".toList returnTypeGroup :=
    mt (mem_groupNames_iff_hasGroup hpattern).2 (hnames ▸ by decide)
  let config : Config := { Config.default with
    strippedTags := ["(".toList, ".*".toList]
    blockPattern := "(?<name>[(?P<rtype>])\\(?<rtype>".toList
    sentinelPattern := ['['] }
  have hfirst : FirstUnmet (demands config) (.missingGroup .block returnTypeGroup) :=
    .later ⟨pattern, hpattern⟩ (.later hname (.here hreturnType))
  obtain ⟨-, hfailure, hdocument, -⟩ := failure_fixed_by_config config hsize
  exact ⟨config, rfl, rfl, rfl, (hfailure _).2 hfirst, ((hdocument _).2 _).2 hfirst⟩

/--
A group that stands in the text of a pattern need not be declared: repeated zero times it is
missing, though both patterns compile and the groups of both are opened.
-/
theorem group_repeated_zero_times_missing :
    ∃ config : Config, config.blockPattern = Config.defaultBlockPattern ∧
      config.sentinelPattern = "(?P<value>x)\x7b0\x7d".toList ∧
      Compiles config.blockPattern ∧
      (∃ ast, parse config.blockPattern = .ok ast ∧
        ∀ group ∈ [nameGroup, returnTypeGroup, noteGroup], group ∈ ast.groupNames) ∧
      Compiles config.sentinelPattern ∧
      (∃ ast, parse config.sentinelPattern = .ok ast ∧ valueGroup ∈ ast.groupNames) ∧
      ofConfig config = .error (.missingGroup .sentinel valueGroup) := by
  obtain ⟨blockAst, hblockAst⟩ := exists_parse_of_compile Block.compile_defaultBlockPattern
  have hblockNames : ∀ group ∈ [nameGroup, returnTypeGroup, noteGroup],
      group ∈ blockAst.groupNames := by
    intro group hgroup
    have hmem : group ∈ (ofExpr Config.defaultBlockPattern Block.expr).groupNames := hgroup
    exact ((mem_groupNames_of_compile Block.compile_defaultBlockPattern hblockAst).1
      hmem).mem_groupNames
  have hsentinel : (parse "(?P<value>x)\x7b0\x7d".toList).map Ast.groupNames =
      .ok [valueGroup] := by
    decide +kernel
  obtain ⟨ast, hast, hnames⟩ := map_eq_ok_iff.1 hsentinel
  have hgroups : (compile "(?P<value>x)\x7b0\x7d".toList).map Pattern.groupNames = .ok [] := by
    decide +kernel
  obtain ⟨pattern, hpattern, hnone⟩ := map_eq_ok_iff.1 hgroups
  obtain ⟨tags, hdefault, -⟩ := exists_ofConfig_default
  obtain ⟨htags, hblock, hblockGroups, -⟩ := ofConfig_eq_ok_iff.1 hdefault
  have hcompile : compileFor .sentinel "(?P<value>x)\x7b0\x7d".toList = .ok pattern :=
    compileFor_eq_ok_iff.2 hpattern
  have hmissing : checkGroups .sentinel pattern [valueGroup] =
      .error (.missingGroup .sentinel valueGroup) := by
    rw [checkGroups, hnone]
    rfl
  let config : Config := { Config.default with
    sentinelPattern := "(?P<value>x)\x7b0\x7d".toList }
  refine ⟨config, rfl, rfl, ⟨_, Block.compile_defaultBlockPattern⟩,
    ⟨blockAst, hblockAst, hblockNames⟩, ⟨pattern, hpattern⟩,
    ⟨ast, hast, hnames ▸ List.mem_singleton_self _⟩, ?_⟩
  rw [ofConfig, show config.strippedTags = Config.default.strippedTags from rfl, htags,
    show config.blockPattern = Config.default.blockPattern from rfl, hblock,
    show config.sentinelPattern = "(?P<value>x)\x7b0\x7d".toList from rfl, hcompile]
  simp only [bind, Except.bind, hblockGroups, hmissing]

end Sentinels
