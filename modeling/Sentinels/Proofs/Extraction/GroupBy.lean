import Sentinels.Extraction
import Mathlib.Data.List.Induction
import Mathlib.Data.List.Nodup

/-!
# An extraction groups its blocks

A table is read as a group-by: the names of the contributing blocks in the order of their first
contribution, and under each name what the blocks of that name contribute, one after the other.
One lemma says what adding a block does to a table of that shape; the run over all blocks follows
by induction from the left. The main statement adds the count of the silent functions, and that
no block is counted on both sides.
-/

set_option autoImplicit false

namespace Sentinels

/-! ## Tables over a list of names -/

/-- Appending to a table that lists `values name` under each name of a list extends what stands
under the one name; a new name comes last, with nothing before its first values. -/
theorem Table.append_map (names : List Text) (values : Text → List Sentinel) (name : Text)
    (more : List Sentinel) (hnodup : names.Nodup) (hnew : name ∉ names → values name = []) :
    Table.append name more (names.map fun key => (key, values key)) =
      (if name ∈ names then names else names ++ [name]).map
        fun key => (key, values key ++ if key = name then more else []) := by
  induction names with
  | nil => simp [Table.append, hnew]
  | cons key rest ih =>
    have hkey : key ∉ rest := (List.nodup_cons.1 hnodup).1
    by_cases h : key = name
    · subst h
      have hrest : (rest.map fun other => (other, values other)) =
          rest.map fun other => (other, values other ++ if other = key then more else []) := by
        refine List.map_congr_left fun other hother => ?_
        have hne : other ≠ key := fun heq => hkey (heq ▸ hother)
        simp [hne]
      simp [Table.append, hrest]
    · have h' : name ≠ key := fun heq => h heq.symm
      have hrest := ih (List.nodup_cons.1 hnodup).2 fun hmem => hnew (by simp [h', hmem])
      by_cases hmem : name ∈ rest <;> simp_all [Table.append]

namespace Extraction

variable (config : Config) (pattern : Pattern)

/-! ## What a block contributes -/

/-- A block contributes if at least one sentinel is read from it. -/
def Contributes (block : Block) : Prop :=
  ∃ first rest, Sentinel.ofBlock? config pattern block = some (first :: rest)

/-- The sentinels that a block contributes. -/
def contribution (block : Block) : List Sentinel :=
  (Sentinel.ofBlock? config pattern block).getD []

/-- The blocks that contribute are those whose contribution is not empty. -/
theorem contributes_iff (block : Block) :
    Contributes config pattern block ↔ contribution config pattern block ≠ [] := by
  unfold Contributes contribution
  cases Sentinel.ofBlock? config pattern block with
  | none => simp
  | some values => cases values <;> simp

instance : DecidablePred (Contributes config pattern) := fun block =>
  decidable_of_iff _ (contributes_iff config pattern block).symm

/-- A block that contributes appends its contribution; any other leaves the table alone. -/
theorem record_ofBlock? (table : Table) (block : Block) :
    record table block.name (Sentinel.ofBlock? config pattern block) =
      if Contributes config pattern block then
        table.append block.name (contribution config pattern block)
      else table := by
  simp only [contributes_iff]
  unfold contribution
  cases Sentinel.ofBlock? config pattern block with
  | none => simp [record]
  | some values => cases values <;> simp [record]

/-- A block counts as silent if its return type is `void` and its note is missing or empty. -/
def IsSilentVoid (block : Block) : Prop :=
  block.returnType = "void".toList ∧ (block.annotation = none ∨ block.annotation = some [])

/-- The silent blocks are those that are counted. -/
theorem isSilentVoid_iff (block : Block) : block.isSilentVoid = true ↔ IsSilentVoid block := by
  have hvoid : "void".toList = ['v', 'o', 'i', 'd'] := rfl
  unfold Block.isSilentVoid Block.hasAnnotation IsSilentVoid
  rw [hvoid]
  cases block.annotation with
  | none => simp
  | some note => cases note <;> simp

instance : DecidablePred IsSilentVoid := fun block =>
  decidable_of_iff _ (isSilentVoid_iff block)

/-- Nothing is read from a missing or empty note, so no silent block contributes. -/
theorem not_contributes_of_isSilentVoid {block : Block} (h : IsSilentVoid block) :
    ¬ Contributes config pattern block := by
  rintro ⟨first, rest, hsome⟩
  obtain ⟨_, hnote | hnote⟩ := h <;> simp [Sentinel.ofBlock?, hnote] at hsome

/-! ## The table of all blocks -/

/-- The names of the contributing blocks, each once, in order of first contribution. -/
def contributors (blocks : List Block) : List Text :=
  ((blocks.filter (Contributes config pattern)).map Block.name).eraseDups

/-- What the contributing blocks of a name contribute, in the order of the document. -/
def valuesOf (blocks : List Block) (name : Text) : List Sentinel :=
  (blocks.filter fun block => Contributes config pattern block ∧ block.name = name).flatMap
    (contribution config pattern)

/-- The table that groups what the blocks contribute by the names of the blocks. -/
def grouped (blocks : List Block) : Table :=
  (contributors config pattern blocks).map fun name => (name, valuesOf config pattern blocks name)

/-- A name is a key exactly if some contributing block has it. -/
theorem mem_contributors {blocks : List Block} {name : Text} :
    name ∈ contributors config pattern blocks ↔
      ∃ block ∈ blocks, Contributes config pattern block ∧ block.name = name := by
  simp [contributors, and_assoc]

/-- The names in the table are the keys. -/
theorem names_grouped (blocks : List Block) :
    (grouped config pattern blocks).names = contributors config pattern blocks := by
  simp [grouped, Table.names, Function.comp_def]

/-- A further block becomes a key if it contributes and its name is new. -/
theorem contributors_concat (blocks : List Block) (block : Block) :
    contributors config pattern (blocks ++ [block]) =
      if Contributes config pattern block ∧ block.name ∉ contributors config pattern blocks then
        contributors config pattern blocks ++ [block.name]
      else contributors config pattern blocks := by
  by_cases hgives : Contributes config pattern block
  · have hsplit : contributors config pattern (blocks ++ [block]) =
        contributors config pattern blocks ++
          ([block.name].removeAll
            ((blocks.filter (Contributes config pattern)).map Block.name)).eraseDups := by
      simp [contributors, hgives, List.eraseDups_append]
    rw [hsplit]
    by_cases hmem : block.name ∈ contributors config pattern blocks
    · have hmem' := List.mem_eraseDups.1 hmem
      simp [hgives, hmem, List.removeAll, hmem']
    · have hmem' : block.name ∉ (blocks.filter (Contributes config pattern)).map Block.name :=
        mt List.mem_eraseDups.2 hmem
      have hkept : [block.name].removeAll
          ((blocks.filter (Contributes config pattern)).map Block.name) = [block.name] :=
        List.filter_eq_self.2 fun name hname => by
          simpa [List.mem_singleton.1 hname] using hmem'
      simp [hgives, hmem, hkept, List.eraseDups_cons]
  · simp [contributors, hgives]

/-- No name is a key twice. -/
theorem contributors_nodup (blocks : List Block) : (contributors config pattern blocks).Nodup := by
  induction blocks using List.reverseRecOn with
  | nil => simp [contributors]
  | append_singleton blocks block ih =>
    rw [contributors_concat]
    split
    · rename_i hnew
      rw [← List.concat_eq_append]
      exact List.Nodup.concat hnew.2 ih
    · exact ih

/-- There are at most as many keys as contributing blocks. -/
theorem length_contributors_le (blocks : List Block) :
    (contributors config pattern blocks).length ≤
      blocks.countP (Contributes config pattern) := by
  induction blocks using List.reverseRecOn with
  | nil => simp [contributors]
  | append_singleton blocks block ih =>
    rw [contributors_concat, List.countP_append]
    split
    · rename_i hnew
      simpa [hnew.1] using ih
    · omega

/-- A further block extends the values of its name by its contribution. -/
theorem valuesOf_concat (blocks : List Block) (block : Block) (name : Text) :
    valuesOf config pattern (blocks ++ [block]) name =
      valuesOf config pattern blocks name ++
        if Contributes config pattern block ∧ block.name = name then
          contribution config pattern block
        else [] := by
  unfold valuesOf
  by_cases h : Contributes config pattern block ∧ block.name = name <;> simp [h]

/-- There are values under each key. -/
theorem valuesOf_ne_nil {blocks : List Block} {name : Text}
    (h : name ∈ contributors config pattern blocks) : valuesOf config pattern blocks name ≠ [] := by
  obtain ⟨block, hblock, hgives, hname⟩ := (mem_contributors config pattern).1 h
  obtain ⟨value, hvalue⟩ :=
    List.exists_mem_of_ne_nil _ ((contributes_iff config pattern block).1 hgives)
  refine List.ne_nil_of_mem (a := value) (List.mem_flatMap.2 ⟨block, ?_, hvalue⟩)
  simp [hblock, hgives, hname]

/-- There are no values under any other name. -/
theorem valuesOf_eq_nil {blocks : List Block} {name : Text}
    (h : name ∉ contributors config pattern blocks) : valuesOf config pattern blocks name = [] := by
  refine List.flatMap_eq_nil_iff.2 fun block hblock => absurd ?_ h
  obtain ⟨hmem, hgives⟩ := List.mem_filter.1 hblock
  obtain ⟨hgives, hname⟩ := of_decide_eq_true hgives
  exact (mem_contributors config pattern).2 ⟨block, hmem, hgives, hname⟩

/-- Recording one more block takes the table of the blocks before it to the table of all. -/
theorem record_grouped (blocks : List Block) (block : Block) :
    record (grouped config pattern blocks) block.name (Sentinel.ofBlock? config pattern block) =
      grouped config pattern (blocks ++ [block]) := by
  rw [record_ofBlock?]
  unfold grouped
  simp only [contributors_concat, valuesOf_concat]
  by_cases hgives : Contributes config pattern block
  · rw [if_pos hgives, Table.append_map _ _ _ _ (contributors_nodup config pattern blocks)
      (valuesOf_eq_nil config pattern)]
    by_cases hmem : block.name ∈ contributors config pattern blocks <;>
      simp [hgives, hmem, eq_comm]
  · simp [hgives]

/-- The extraction of blocks: the table groups what they contribute, and the silent ones among
them are counted. -/
theorem ofBlocks_eq (blocks : List Block) :
    ofBlocks config pattern blocks =
      ⟨grouped config pattern blocks, blocks.countP IsSilentVoid⟩ := by
  induction blocks using List.reverseRecOn with
  | nil => simp [ofBlocks, empty, grouped, contributors]
  | append_singleton blocks block ih =>
    unfold ofBlocks at ih ⊢
    rw [List.foldl_append, ih, List.countP_append]
    simp only [List.foldl_cons, List.foldl_nil]
    unfold add
    rw [record_grouped]
    by_cases hvoid : IsSilentVoid block
    · simp [hvoid, (isSilentVoid_iff block).2 hvoid]
    · simp [hvoid, mt (isSilentVoid_iff block).1 hvoid]

/-- At most all blocks are keys or silent. -/
theorem length_contributors_add_countP_le (blocks : List Block) :
    (contributors config pattern blocks).length + blocks.countP IsSilentVoid ≤ blocks.length := by
  have hkeys := length_contributors_le config pattern blocks
  have hsilent : blocks.countP IsSilentVoid ≤
      blocks.countP fun block => ¬ (decide (Contributes config pattern block) = true) := by
    refine List.countP_mono_left fun block _ h => ?_
    simpa using not_contributes_of_isSilentVoid config pattern (of_decide_eq_true h)
  have hall := List.length_eq_countP_add_countP
    (fun block => decide (Contributes config pattern block)) (l := blocks)
  omega

/--
**Collecting is a stable group-by.** The keys of the table are the names of the contributing
blocks, each once and in the order of their first contribution. Under each key stands what the
blocks of that name contribute, in the order of the document, and that is never nothing. The count
is that of the blocks with return type `void` and no text in their note. None of them contributes,
so there are never more keys and silent functions than blocks.
-/
theorem ofBlocks_groups_by_name (blocks : List Block) :
    (ofBlocks config pattern blocks).table.names =
        ((blocks.filter (Contributes config pattern)).map Block.name).eraseDups ∧
      (ofBlocks config pattern blocks).table.names.Nodup ∧
      (∀ name values, (name, values) ∈ (ofBlocks config pattern blocks).table →
        values ≠ [] ∧
        values = (blocks.filter fun block =>
            Contributes config pattern block ∧ block.name = name).flatMap
          (contribution config pattern)) ∧
      (ofBlocks config pattern blocks).voidCount =
        blocks.countP IsSilentVoid ∧
      (∀ block, Contributes config pattern block → ¬ IsSilentVoid block) ∧
      (ofBlocks config pattern blocks).table.length +
        (ofBlocks config pattern blocks).voidCount ≤ blocks.length := by
  have hnames : (grouped config pattern blocks).names = contributors config pattern blocks := by
    simp [grouped, Table.names, Function.comp_def]
  rw [ofBlocks_eq]
  refine ⟨hnames, hnames ▸ contributors_nodup config pattern blocks, ?_, rfl, ?_, ?_⟩
  · intro name values hentry
    obtain ⟨key, hkey, heq⟩ := List.mem_map.1 hentry
    obtain ⟨rfl, rfl⟩ := Prod.mk.inj heq
    exact ⟨valuesOf_ne_nil config pattern hkey, rfl⟩
  · exact fun block hgives hsilent => not_contributes_of_isSilentVoid config pattern hsilent hgives
  · simpa [grouped] using length_contributors_add_countP_le config pattern blocks

end Extraction

end Sentinels
