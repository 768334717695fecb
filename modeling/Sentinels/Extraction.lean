import Sentinels.Sentinel

/-!
# Extractions

The result of reading all blocks: a table from names to sentinels in the order in which the names
first contribute, and the number of functions that return nothing and of which nothing is said.
-/

set_option autoImplicit false

namespace Sentinels

/-- The sentinels of each function, in order of first appearance. -/
abbrev Table := List (Text × List Sentinel)

/-- Appends values to those of a name; a new name comes last. -/
def Table.append (name : Text) (values : List Sentinel) : Table → Table
  | [] => [(name, values)]
  | (key, old) :: rest =>
    if key = name then (key, old ++ values) :: rest
    else (key, old) :: append name values rest

/-- The names in a table. -/
def Table.names (table : Table) : List Text := table.map Prod.fst

/-- What was found in a document. -/
structure Extraction where
  table : Table
  /-- The functions that return nothing and have no note. -/
  voidCount : Nat
deriving DecidableEq, Repr

namespace Extraction

/-- The extraction of no blocks. -/
def empty : Extraction := ⟨[], 0⟩

/-- Adds the values of a block to the table, if it has any. -/
def record (table : Table) (name : Text) : Option (List Sentinel) → Table
  | none => table
  | some [] => table
  | some values => table.append name values

/-- Adds a block. -/
def add (config : Config) (pattern : Pattern) (found : Extraction) (block : Block) : Extraction :=
  { table := record found.table block.name (Sentinel.ofBlock? config pattern block)
    voidCount := if block.isSilentVoid then found.voidCount + 1 else found.voidCount }

/-- The extraction of blocks. -/
def ofBlocks (config : Config) (pattern : Pattern) (blocks : List Block) : Extraction :=
  blocks.foldl (add config pattern) empty

end Extraction

end Sentinels
