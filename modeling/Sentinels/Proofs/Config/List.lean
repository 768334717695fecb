import Sentinels.Proofs.Config.Reader

/-!
# Configurations as lists

A configuration may be written as a list of values in the order of the fields instead of an object
that names them. A list of the first values, however many, is loaded like an object that gives these
fields the same values, and a list with a value too many is refused (`list_loaded_like_object`).
-/

set_option autoImplicit false

namespace Sentinels.Config

open Json

/-! ## Spellings -/

/-- A field and a value for it. -/
structure Setting where
  field : Field
  value : field.kind.Value

/-- The member of an object that gives a field its value. -/
def Setting.member (setting : Setting) : Member := .setting setting.field setting.value

/-- The spellings of the value of a setting as an item of a list, with the blanks around it. -/
inductive SpellsItemFor : Text → Setting → Prop
  | item {before spelling behind : Text} {setting : Setting} (hbefore : IsBlanks before)
      (h : setting.field.kind.Spells spelling setting.value) (hbehind : IsBlanks behind) :
      SpellsItemFor (before ++ (spelling ++ behind)) setting

/--
The texts that hold a list of the values of some settings, then any values as surplus items, and
nothing else.
-/
inductive SpellsValues : Text → List Setting → List Item → Prop
  | empty {before space behind : Text} (hbefore : IsBlanks before) (hspace : IsBlanks space)
      (hbehind : IsBlanks behind) :
      SpellsValues (before ++ '[' :: (space ++ ']' :: behind)) [] []
  | items {before behind : Text} {texts : List Text} {settings : List Setting}
      {surplus : List Item} (hbefore : IsBlanks before)
      (hne : texts ++ surplus.map Item.text ≠ [])
      (h : List.Forall₂ SpellsItemFor texts settings)
      (hsurplus : ∀ item ∈ surplus,
        IsBlanks item.lead ∧ IsValue item.value ∧ IsBlanks item.trail)
      (hbehind : IsBlanks behind) :
      SpellsValues (before ++ '[' ::
        (Text.join [','] (texts ++ surplus.map Item.text) ++ ']' :: behind)) settings surplus

/-- Gives fields their values one after the other. -/
def applySettings (config : Config) (settings : List Setting) : Config :=
  settings.foldl (fun config setting => config.set setting.field setting.value) config

/-! ## Items -/

/-- Items behind other ones stand behind commas as well. -/
theorem behindCommas_append (ts us : List Text) :
    behindCommas (ts ++ us) = behindCommas ts ++ behindCommas us := List.flatMap_append

/-- The spelling of a value begins with a character that ends no value. -/
theorem exists_cons_of_spells {kind : Kind} {text : Text} {value : kind.Value}
    (h : kind.Spells text value) : ∃ c rest, text = c :: rest ∧ c ∉ delimiters := by
  cases kind with
  | strings => cases h <;> exact ⟨_, _, rfl, by decide⟩
  | string =>
    cases h
    exact ⟨_, _, rfl, by decide⟩
  | boolean => cases h <;> exact ⟨_, _, rfl, by decide⟩
  | integer =>
    obtain ⟨-, -⟩ := h
    cases value with
    | negSucc n => exact ⟨'-', _, rfl, by decide⟩
    | ofNat n =>
      obtain ⟨c, rest, hdigits, hc⟩ := exists_cons_of_isWhole (isWhole_ofNat n)
      exact ⟨c, rest, hdigits, notMem_delimiters_of_isDigit hc⟩

/-- The next item is read as the value of the next field. -/
theorem readItems_item {first : Bool} {front before spelling rest : Text}
    (hfront : Separator first front) (hbefore : IsBlanks before) {field : Field}
    {value : field.kind.Value} (h : field.kind.Spells spelling value) (hrest : Delimited rest)
    (fields : List Field) (config : Config) :
    readItems config first (field :: fields) (front ++ (before ++ (spelling ++ rest))) =
      readItems (config.set field value) false fields rest := by
  have hread := read_spelling isBlanks_nil h hrest
  obtain ⟨c, tail, rfl, hc⟩ := exists_cons_of_spells h
  rw [List.nil_append, List.cons_append] at hread
  rw [List.cons_append, readItems, nextItem_separator hfront hbefore hc]
  simp only [readField, hread, Except.map]

/-- A list may end in front of any field. -/
theorem readItems_closer {blanks : Text} (h : IsBlanks blanks) (first : Bool) (rest : Text)
    (fields : List Field) (config : Config) :
    readItems config first fields (blanks ++ ']' :: rest) = .ok (config, rest) := by
  cases fields with
  | nil =>
    rw [readItems, endList_closer h]
    rfl
  | cons field fields =>
    rw [readItems, nextItem_closer h]
    simp only [endList_closer h]
    rfl

/-- A value behind the last field is one too many. -/
theorem readItems_surplus {blanks before : Text} (hblanks : IsBlanks blanks)
    (hbefore : IsBlanks before) {c : Char} (hc : c ∉ delimiters) (rest : Text)
    (config : Config) :
    readItems config false [] (blanks ++ ',' :: (before ++ c :: rest)) =
      .error (Fault.trailingCharacters.ahead (c :: rest)) := by
  have hcomma : ',' ≠ ']' := by decide
  have hcloser : c ≠ ']' := fun h => hc (h ▸ by decide)
  rw [readItems, endList, skipBlanks_append_cons hblanks rfl]
  simp only [if_neg hcomma, if_true, skipBlanks_append_cons hbefore (isBlank_eq_false hc)]
  split
  · next heq => exact absurd (List.cons.inj heq).1 hcloser
  · rfl

/-- The items of a list are read as the values of the next fields, up to what stands behind them. -/
theorem exists_readItems {texts : List Text} {settings : List Setting}
    (h : List.Forall₂ SpellsItemFor texts settings) {text : Text} {setting : Setting}
    (hitem : SpellsItemFor text setting) {first : Bool} {front : Text}
    (hfront : Separator first front) {tail : Text}
    (htail : ∀ blanks, IsBlanks blanks → Delimited (blanks ++ tail)) (later : List Field)
    (config : Config) :
    ∃ blanks, IsBlanks blanks ∧
      readItems config first ((setting :: settings).map Setting.field ++ later)
          (front ++ (text ++ (behindCommas texts ++ tail))) =
        readItems (applySettings config (setting :: settings)) false later (blanks ++ tail) := by
  induction h generalizing text setting first front config with
  | nil =>
    obtain ⟨hbefore, hspelling, hbehind⟩ := hitem
    refine ⟨_, hbehind, ?_⟩
    simp only [List.append_assoc, behindCommas_nil, List.nil_append]
    exact readItems_item hfront hbefore hspelling (htail _ hbehind) _ _
  | @cons text' setting' texts settings hnext _ ih =>
    obtain ⟨hbefore, hspelling, hbehind⟩ := hitem
    obtain ⟨blanks, hblanks, hread⟩ :=
      ih hnext (.comma hbehind) (config.set setting.field setting.value)
    refine ⟨blanks, hblanks, ?_⟩
    simp only [List.append_assoc, List.singleton_append] at hread
    simp only [List.append_assoc, behindCommas_cons, List.cons_append]
    rw [List.map_cons, List.cons_append, readItems_item hfront hbefore hspelling]
    · exact hread
    · exact delimited_append hbehind (delimited_cons (by decide) _)

/-! ## Lists -/

section Lists

variable {list : Text} {settings : List Setting} {surplus : List Item}

/-- A list of values is read as the values of the first fields. -/
theorem ofJson_values (h : SpellsValues list settings []) {later : List Field}
    (hfields : settings.map Setting.field ++ later = Field.all) :
    ofJson list = .ok (applySettings default settings) := by
  generalize hnone : ([] : List Item) = surplus at h
  cases h with
  | empty hbefore hspace hbehind =>
    rw [ofJson, read, skipBlanks_append_cons hbefore rfl]
    simp only [readItems_closer hspace, endText_blanks hbehind, Except.map]
    rfl
  | @items before behind texts _ _ hbefore hne h _ hbehind =>
    subst hnone
    cases h with
    | nil => exact absurd rfl hne
    | @cons text setting texts settings hitem h =>
      have htail : ∀ blanks, IsBlanks blanks → Delimited (blanks ++ ']' :: behind) :=
        fun _ h => delimited_append h (delimited_cons (by decide) _)
      obtain ⟨blanks, hblanks, hread⟩ := exists_readItems h hitem .first htail later default
      rw [List.nil_append, hfields, readItems_closer hblanks] at hread
      rw [ofJson, read, skipBlanks_append_cons hbefore rfl]
      simp only [List.map_nil, List.append_nil, join_comma_cons, List.append_assoc, hread,
        endText_blanks hbehind, Except.map]

/-- A list with a value for every field and a value more is refused. -/
theorem ofJson_surplus (h : SpellsValues list settings surplus) (hsurplus : surplus ≠ [])
    (hfields : settings.map Setting.field = Field.all) :
    ∃ rest, ofJson list = .error (Fault.trailingCharacters.ahead rest) := by
  cases h with
  | empty => exact absurd rfl hsurplus
  | @items before behind texts _ _ hbefore _ h hitems hbehind =>
    obtain ⟨item, surplus, rfl⟩ := List.exists_cons_of_ne_nil hsurplus
    obtain ⟨hlead, hvalue, -⟩ := hitems item List.mem_cons_self
    obtain ⟨c, rest, hc, hdelimiter⟩ := exists_cons_of_isValue hvalue
    cases h with
    | nil => exact absurd hfields (by decide)
    | @cons text setting texts settings hitem h =>
      have htail : ∀ blanks, IsBlanks blanks → Delimited (blanks ++
          (behindCommas ((item :: surplus).map Item.text) ++ ']' :: behind)) :=
        fun _ h => delimited_append h (delimited_cons (by decide) _)
      obtain ⟨blanks, hblanks, hread⟩ := exists_readItems h hitem .first htail [] default
      simp only [List.nil_append, List.append_nil, hfields, List.map_cons, behindCommas_cons,
        Item.text, hc, List.cons_append, List.append_assoc,
        readItems_surplus hblanks hlead hdelimiter] at hread
      rw [ofJson, read, skipBlanks_append_cons hbefore rfl]
      simp only [join_comma_cons, List.cons_append, List.append_assoc, behindCommas_append,
        List.map_cons, behindCommas_cons, Item.text, hc, hread]
      exact ⟨_, rfl⟩

end Lists

/-! ## Lists and objects -/

/-- A configuration is given by the values of its fields. -/
theorem eq_of_get_eq {config other : Config} (h : ∀ field, config.get field = other.get field) :
    config = other := by
  cases config
  cases other
  rw [Config.mk.injEq]
  exact ⟨h .strippedTags, h .blockPattern, h .sentinelPattern, h .excludedNames,
    h .predicateMarkers, h .returnsMarker, h .unboundedPhrase, h .genericFailPhrase,
    h .pointerSuffix, h .header, h .arraySuffix, h .structType, h .tableName, h .terminator,
    h .normalize⟩

/-- The members that settings are name the fields of the settings. -/
theorem namedFields_member (settings : List Setting) :
    namedFields (settings.map Setting.member) = settings.map Setting.field := by
  induction settings with
  | nil => rfl
  | cons setting settings ih =>
    rw [List.map_cons, Setting.member, namedFields_setting, ih, List.map_cons]

/-- Settings of new fields are applied like the members that they are. -/
theorem applyMembers_member {settings : List Setting} (config : Config) (seen : List Field)
    (hnodup : (settings.map Setting.field).Nodup)
    (hnew : ∀ field ∈ settings.map Setting.field, field ∉ seen) :
    applyMembers config seen (settings.map Setting.member) =
      .ok (applySettings config settings) := by
  induction settings generalizing config seen with
  | nil => rfl
  | cons setting settings ih =>
    rw [List.map_cons, List.nodup_cons] at hnodup
    have hseen : seen.contains setting.field = false := by
      simpa using hnew setting.field List.mem_cons_self
    have hlater : ∀ field ∈ settings.map Setting.field, field ∉ setting.field :: seen := by
      intro field hfield hmem
      rcases List.mem_cons.1 hmem with rfl | hmem
      · exact hnodup.1 hfield
      · exact hnew field (List.mem_cons_of_mem _ hfield) hmem
    rw [List.map_cons, applyMembers, Setting.member, Member.apply, hseen]
    exact ih (config.set setting.field setting.value) (setting.field :: seen) hnodup.2 hlater

/-- Settings of different fields replace the values of these fields and no others, and so do the
members of an object that are the same settings in any order. -/
theorem applyMembers_of_perm {settings : List Setting} {members : List Member}
    (hnodup : (settings.map Setting.field).Nodup)
    (hperm : members.Perm (settings.map Setting.member)) :
    applyMembers default [] members = .ok (applySettings default settings) ∧
      (∀ setting ∈ settings, (applySettings default settings).get setting.field = setting.value) ∧
      ∀ field ∉ settings.map Setting.field,
        (applySettings default settings).get field = default.get field := by
  have hfields := namedFields_member settings
  have hnamed : (namedFields members).Perm (settings.map Setting.field) :=
    hfields ▸ hperm.filterMap _
  have hlist := applyMembers_member default [] hnodup fun _ _ => List.not_mem_nil
  obtain ⟨config, happly, hset, hkept⟩ :=
    applyMembers_of_nodup default [] (hfields.symm ▸ hnodup) fun _ _ => List.not_mem_nil
  obtain ⟨other, hother, hset', hkept'⟩ :=
    applyMembers_of_nodup default [] (hnamed.nodup_iff.2 hnodup) fun _ _ => List.not_mem_nil
  obtain rfl := Except.ok.inj (happly.symm.trans hlist)
  rw [hfields] at hkept
  have hvalue : ∀ setting ∈ settings,
      (applySettings default settings).get setting.field = setting.value :=
    fun setting hmem => hset _ _ (List.mem_map_of_mem hmem)
  refine ⟨hother.trans (congrArg Except.ok (eq_of_get_eq fun field => ?_)), hvalue, hkept⟩
  by_cases hfield : field ∈ settings.map Setting.field
  · obtain ⟨setting, hmem, rfl⟩ := List.mem_map.1 hfield
    rw [hvalue setting hmem]
    exact hset' _ _ (hperm.mem_iff.2 (List.mem_map_of_mem hmem))
  · rw [hkept field hfield]
    exact hkept' field fun h => hfield (hnamed.mem_iff.1 h)

/--
**A list is loaded like an object.** Let some values be of the kinds of the first fields, in their
order. A list of the values, in any spelling, and an object that gives these fields the same values,
in any spelling and any order, are loaded as the same configuration; it has these values, and the
default for every other field. A list with a value for every field and any further value is refused.
-/
theorem list_loaded_like_object {count : Nat} {settings : List Setting}
    (hfields : settings.map Setting.field = Field.all.take count) (path : Text) :
    (∀ list object members, SpellsValues list settings [] → SpellsObject object members →
      members.Perm (settings.map Setting.member) →
      ∃ config, Config.ofFile path (.ok (Utf8.encode list)) = .ok config ∧
        Config.ofFile path (.ok (Utf8.encode object)) = .ok config ∧
        (∀ setting ∈ settings, config.get setting.field = setting.value) ∧
        ∀ field ∉ Field.all.take count, config.get field = default.get field) ∧
    (Field.all.length ≤ count → ∀ list surplus, SpellsValues list settings surplus →
      surplus ≠ [] →
      ∃ line column, Config.ofFile path (.ok (Utf8.encode list)) =
        .error (.configParse path ⟨.trailingCharacters, line, column⟩)) := by
  constructor
  · intro list object members hlist hobject hperm
    have hnodup : (settings.map Setting.field).Nodup := by
      rw [hfields]
      exact List.Nodup.sublist (List.take_sublist count Field.all) (by decide)
    have hall : settings.map Setting.field ++ Field.all.drop count = Field.all := by
      rw [hfields, List.take_append_drop]
    obtain ⟨happly, hset, hkept⟩ := applyMembers_of_perm hnodup hperm
    rw [hfields] at hkept
    have hload := mapError_fault_eq_ok.1 ((ofJson_spelling hobject).trans happly)
    exact ⟨_, ofFile_of_ofJson_ok (ofJson_values hlist hall) path,
      ofFile_of_ofJson_ok hload path, hset, hkept⟩
  · intro hcount list surplus hlist hsurplus
    rw [List.take_of_length_le hcount] at hfields
    obtain ⟨rest, hstop⟩ := ofJson_surplus hlist hsurplus hfields
    exact ⟨_, _, ofFile_of_ofJson_error hstop path⟩

/-- Two values in a list and in an object with the fields the other way round, and a list that is
too long. -/
theorem list_loaded_like_object_short :
    (∃ config, Config.ofFile ['c'] (.ok (Utf8.encode "[ [\"a\"] ,\"\\u0072\"]".toList)) =
        .ok config ∧
      Config.ofFile ['c'] (.ok (Utf8.encode
        "\x7b\"block_pattern\":\"r\",\"stripped_tags\":[\"a\"]\x7d".toList)) = .ok config ∧
      config.blockPattern = ['r'] ∧ config.terminator = 12345) ∧
    ∃ line column, Config.ofFile ['c'] (.ok (Utf8.encode
      "[[],\"\",\"\",[],[],\"\",\"\",\"\",\"\",\"\",\"\",\"\",\"\",0,false,null]".toList)) =
        .error (.configParse ['c'] ⟨.trailingCharacters, line, column⟩) := by
  have hspace : IsBlanks [' '] := by simp [IsBlanks]
  constructor
  · have ha : Spells ['a'] ['a'] := spells_self (by simp [IsPlain])
    have hr : Spells ['r'] ['r'] := spells_self (by simp [IsPlain])
    have hescaped : Spells _ ['r'] := .cons (.unit
      (.digits (a := 0) (b := 0) (c := 7) (d := 2) (.inl rfl) (.inl rfl) (.inl rfl) (.inl rfl)))
      .nil
    have htagsValue : SpellsList _ [['a']] :=
      .items (List.cons_ne_nil _ _) (.cons (.item isBlanks_nil (.quoted ha) isBlanks_nil) .nil)
    have hlist : SpellsValues _ [⟨.strippedTags, [['a']]⟩, ⟨.blockPattern, ['r']⟩] [] :=
      .items isBlanks_nil (List.cons_ne_nil _ _) (.cons (.item hspace htagsValue hspace)
        (.cons (.item isBlanks_nil (.quoted hescaped) isBlanks_nil) .nil)) (by simp) isBlanks_nil
    have htagsName : Spells "stripped_tags".toList Field.strippedTags.name :=
      spells_self (by simp [IsPlain])
    have hblockName : Spells "block_pattern".toList Field.blockPattern.name :=
      spells_self (by simp [IsPlain])
    have htags : SpellsMember _ (.setting .strippedTags [['a']]) :=
      .setting (.key isBlanks_nil htagsName isBlanks_nil isBlanks_nil) htagsValue isBlanks_nil
    have hblock : SpellsMember _ (.setting .blockPattern ['r']) :=
      .setting (.key isBlanks_nil hblockName isBlanks_nil isBlanks_nil) (.quoted hr) isBlanks_nil
    have hobject : SpellsObject _ [_, _] := .members isBlanks_nil (List.cons_ne_nil _ _)
      (.cons hblock (.cons htags .nil)) isBlanks_nil
    obtain ⟨config, hload, hload', hset, hkept⟩ :=
      (@list_loaded_like_object 2 _ rfl ['c']).1 _ _ _ hlist hobject (.swap ..)
    exact ⟨config, hload, hload', hset ⟨.blockPattern, ['r']⟩ (by simp),
      hkept .terminator (by decide)⟩
  · have hstrings : SpellsList "[]".toList [] := .empty isBlanks_nil
    have hstring : SpellsString "\"\"".toList [] := .quoted .nil
    have hinteger : SpellsInteger (Text.ofInt 0) 0 := .decimal (by decide) (by decide)
    have hitem : ∀ setting text, setting.field.kind.Spells text setting.value →
        SpellsItemFor text setting := by
      intro setting text h
      simpa using SpellsItemFor.item isBlanks_nil h isBlanks_nil
    have hitems : List.Forall₂ SpellsItemFor _ _ :=
      .cons (hitem ⟨.strippedTags, []⟩ _ hstrings) <|
      .cons (hitem ⟨.blockPattern, []⟩ _ hstring) <|
      .cons (hitem ⟨.sentinelPattern, []⟩ _ hstring) <|
      .cons (hitem ⟨.excludedNames, []⟩ _ hstrings) <|
      .cons (hitem ⟨.predicateMarkers, []⟩ _ hstrings) <|
      .cons (hitem ⟨.returnsMarker, []⟩ _ hstring) <|
      .cons (hitem ⟨.unboundedPhrase, []⟩ _ hstring) <|
      .cons (hitem ⟨.genericFailPhrase, []⟩ _ hstring) <|
      .cons (hitem ⟨.pointerSuffix, []⟩ _ hstring) <|
      .cons (hitem ⟨.header, []⟩ _ hstring) <|
      .cons (hitem ⟨.arraySuffix, []⟩ _ hstring) <|
      .cons (hitem ⟨.structType, []⟩ _ hstring) <|
      .cons (hitem ⟨.tableName, []⟩ _ hstring) <|
      .cons (hitem ⟨.terminator, (0 : Int)⟩ _ hinteger) <|
      .cons (hitem ⟨.normalize, false⟩ _ .false) .nil
    have hlist : SpellsValues _ _ [⟨[], "null".toList, []⟩] :=
      .items isBlanks_nil (List.cons_ne_nil _ _) hitems (by simp [isBlanks_nil, IsValue.null])
        isBlanks_nil
    exact (@list_loaded_like_object 15 _ rfl ['c']).2 (by decide) _ _ hlist (by simp)

end Sentinels.Config
