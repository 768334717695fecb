import Sentinels.Extraction
import Mathlib.Logic.Function.Defs

/-!
# Extractions under other names

Names are only compared with each other. So if blocks get other names, different ones for different
names, and nothing else that is read from them changes, then the extraction changes in its names
alone (`ofBlocks_rename`).
-/

set_option autoImplicit false

namespace Sentinels

/-- The table with other names. -/
def Table.rename (f : Text → Text) (table : Table) : Table :=
  table.map fun entry => (f entry.1, entry.2)

/-- Appending to a name and renaming may change places if names are kept apart. -/
theorem Table.append_rename {f : Text → Text} (hf : Function.Injective f) (name : Text)
    (values : List Sentinel) (table : Table) :
    append (f name) values (table.rename f) = (append name values table).rename f := by
  induction table with
  | nil => rfl
  | cons entry rest ih =>
    obtain ⟨key, old⟩ := entry
    unfold Table.rename at ih ⊢
    by_cases hkey : key = name
    · simp [append, hkey]
    · have hkey' : f key ≠ f name := fun heq => hkey (hf heq)
      simp [append, hkey, hkey', ih]

namespace Extraction

/-- The extraction with other names in its table. -/
def rename (f : Text → Text) (found : Extraction) : Extraction where
  table := found.table.rename f
  voidCount := found.voidCount

/-- Where all names stay, the extraction does. -/
@[simp] theorem rename_id (found : Extraction) : found.rename id = found := by
  simp [rename, Table.rename]

/-- Is the second block read like the first one, under the name that `f` gives it? -/
structure IsRenamed (config : Config) (pattern : Pattern) (f : Text → Text)
    (block other : Block) : Prop where
  name_eq : other.name = f block.name
  values_eq : Sentinel.ofBlock? config pattern other = Sentinel.ofBlock? config pattern block
  silent_eq : other.isSilentVoid = block.isSilentVoid

section Rename

variable {config : Config} {pattern : Pattern} {f : Text → Text} (hf : Function.Injective f)

include hf

/-- Recording and renaming may change places. -/
theorem record_rename (table : Table) (name : Text) (values : Option (List Sentinel)) :
    record (table.rename f) (f name) values = (record table name values).rename f := by
  cases values with
  | none => rfl
  | some values =>
    cases values with
    | nil => rfl
    | cons value values => exact Table.append_rename hf name (value :: values) table

/-- Adding a block and renaming may change places. -/
theorem add_rename {block other : Block} (h : IsRenamed config pattern f block other)
    (found : Extraction) :
    add config pattern (found.rename f) other = (add config pattern found block).rename f := by
  have htable := record_rename hf found.table block.name (Sentinel.ofBlock? config pattern block)
  rw [add, h.name_eq, h.values_eq, h.silent_eq]
  simp only [rename, htable, add]

/-- The extraction of renamed blocks is that of the blocks, renamed. -/
theorem ofBlocks_rename {g : Block → Block} {blocks : List Block}
    (h : ∀ block ∈ blocks, IsRenamed config pattern f block (g block)) :
    ofBlocks config pattern (blocks.map g) = (ofBlocks config pattern blocks).rename f := by
  have hrun : ∀ found : Extraction, (blocks.map g).foldl (add config pattern) (found.rename f) =
      (blocks.foldl (add config pattern) found).rename f := by
    induction blocks with
    | nil => exact fun found => rfl
    | cons block blocks ih =>
      intro found
      rw [List.map_cons, List.foldl_cons, List.foldl_cons,
        add_rename hf (h block List.mem_cons_self)]
      exact ih (fun other hother => h other (List.mem_cons_of_mem block hother)) _
  exact hrun empty

end Rename

end Extraction

end Sentinels
