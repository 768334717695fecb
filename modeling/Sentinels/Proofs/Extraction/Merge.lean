import Sentinels.Proofs.Extraction.GroupBy

/-!
# Extractions of documents in a row

The extraction of two lists of blocks, one after the other, follows from those of the lists: the
names of the second that the first lacks come behind those of the first, and under each name the
values of the first come before those of the second (`Extraction.ofBlocks_append`).
-/

set_option autoImplicit false

namespace Sentinels

/-- The values that stand under a name. -/
def Table.values (table : Table) (name : Text) : List Sentinel := (table.lookup name).getD []

namespace Extraction

/--
The extraction of two parts: the names of the first in their order, then those of the second that
the first lacks; under each name the values of the first, then those of the second.
-/
def merge (first second : Extraction) : Extraction where
  table := (first.table.names ++
      second.table.names.filter fun name => name ∉ first.table.names).map fun name =>
    (name, first.table.values name ++ second.table.values name)
  voidCount := first.voidCount + second.voidCount

variable (config : Config) (pattern : Pattern)

/-- In a table that lists values under each name of a list these are found. -/
theorem lookup_map {names : List Text} {values : Text → List Sentinel} {name : Text} :
    (names.map fun key => (key, values key)).lookup name =
      if name ∈ names then some (values name) else none := by
  induction names with
  | nil => rfl
  | cons key names ih =>
    rw [List.map_cons, List.lookup_cons, ih]
    by_cases h : name = key
    · simp [h]
    · have hne : (name == key) = false := by simpa using h
      simp [hne, h]

/-- The values that stand under a name are what the blocks of the name contribute. -/
theorem values_grouped (blocks : List Block) (name : Text) :
    (grouped config pattern blocks).values name = valuesOf config pattern blocks name := by
  rw [Table.values, grouped, lookup_map]
  split
  · rfl
  · next h => exact (valuesOf_eq_nil config pattern h).symm

/-- The names of the second part that the first lacks come last. -/
theorem contributors_append (blocks others : List Block) :
    contributors config pattern (blocks ++ others) =
      contributors config pattern blocks ++ (contributors config pattern others).filter
        fun name => name ∉ contributors config pattern blocks := by
  induction others using List.reverseRecOn with
  | nil => simp [contributors]
  | append_singleton others block ih =>
    rw [← List.append_assoc, contributors_concat, contributors_concat, ih]
    by_cases hgives : Contributes config pattern block
    · by_cases hfirst : block.name ∈ contributors config pattern blocks
      · by_cases hsecond : block.name ∈ contributors config pattern others <;>
          simp [hgives, hfirst, hsecond]
      · by_cases hsecond : block.name ∈ contributors config pattern others <;>
          simp [hgives, hfirst, hsecond]
    · simp [hgives]

/-- Under each name the values of the second part come last. -/
theorem valuesOf_append (blocks others : List Block) (name : Text) :
    valuesOf config pattern (blocks ++ others) name =
      valuesOf config pattern blocks name ++ valuesOf config pattern others name := by
  unfold valuesOf
  rw [List.filter_append, List.flatMap_append]

/-- The extraction of two parts is made up of those of the parts. -/
theorem ofBlocks_append (blocks others : List Block) :
    ofBlocks config pattern (blocks ++ others) =
      (ofBlocks config pattern blocks).merge (ofBlocks config pattern others) := by
  have htable : grouped config pattern (blocks ++ others) =
      (contributors config pattern blocks ++ (contributors config pattern others).filter
        fun name => name ∉ contributors config pattern blocks).map fun name =>
          (name, valuesOf config pattern blocks name ++ valuesOf config pattern others name) := by
    rw [grouped, contributors_append]
    simp only [valuesOf_append]
  rw [ofBlocks_eq, ofBlocks_eq, ofBlocks_eq, List.countP_append, htable]
  simp only [merge, names_grouped, values_grouped]

end Extraction

end Sentinels
