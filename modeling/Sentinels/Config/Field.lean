import Sentinels.Config
import Sentinels.Json.Skip

/-!
# The fields of a configuration

Each field has a name, a kind of value and a place in the order in which a list gives the fields.
Storing a value changes its field and no other.
-/

set_option autoImplicit false

namespace Sentinels.Config

/-- The kinds of values. -/
inductive Kind
  | strings
  | string
  | integer
  | boolean
deriving DecidableEq, Repr

/-- The values of a kind. -/
def Kind.Value : Kind → Type
  | .strings => List Text
  | .string => Text
  | .integer => Int
  | .boolean => Bool

/-- Reads a value of a kind. -/
def Kind.read : (kind : Kind) → Text → Except Json.Stop (kind.Value × Text)
  | .strings => Json.readStrings
  | .string => Json.readStringValue
  | .integer => Json.readInteger
  | .boolean => Json.readBoolean

/-- The fields of a configuration. -/
inductive Field
  | strippedTags
  | blockPattern
  | sentinelPattern
  | excludedNames
  | predicateMarkers
  | returnsMarker
  | unboundedPhrase
  | genericFailPhrase
  | pointerSuffix
  | header
  | arraySuffix
  | structType
  | tableName
  | terminator
  | normalize
deriving DecidableEq, Repr

namespace Field

/-- All fields, in the order of a list. -/
def all : List Field :=
  [strippedTags, blockPattern, sentinelPattern, excludedNames, predicateMarkers, returnsMarker,
    unboundedPhrase, genericFailPhrase, pointerSuffix, header, arraySuffix, structType, tableName,
    terminator, normalize]

/-- The key of a field in an object. -/
def name : Field → Text
  | strippedTags => "stripped_tags".toList
  | blockPattern => "block_pattern".toList
  | sentinelPattern => "sentinel_pattern".toList
  | excludedNames => "excluded_names".toList
  | predicateMarkers => "predicate_markers".toList
  | returnsMarker => "returns_marker".toList
  | unboundedPhrase => "unbounded_phrase".toList
  | genericFailPhrase => "generic_fail_phrase".toList
  | pointerSuffix => "pointer_suffix".toList
  | header => "header".toList
  | arraySuffix => "array_suffix".toList
  | structType => "struct_type".toList
  | tableName => "table_name".toList
  | terminator => "terminator".toList
  | normalize => "normalize".toList

/-- The field with a key. -/
def named? (key : Text) : Option Field :=
  all.find? fun field => field.name == key

/-- The kind of a field's values. -/
def kind : Field → Kind
  | strippedTags | excludedNames | predicateMarkers => .strings
  | terminator => .integer
  | normalize => .boolean
  | _ => .string

end Field

/-- The configuration with one field changed. -/
def set (config : Config) : (field : Field) → field.kind.Value → Config
  | .strippedTags, v => { config with strippedTags := v }
  | .blockPattern, v => { config with blockPattern := v }
  | .sentinelPattern, v => { config with sentinelPattern := v }
  | .excludedNames, v => { config with excludedNames := v }
  | .predicateMarkers, v => { config with predicateMarkers := v }
  | .returnsMarker, v => { config with returnsMarker := v }
  | .unboundedPhrase, v => { config with unboundedPhrase := v }
  | .genericFailPhrase, v => { config with genericFailPhrase := v }
  | .pointerSuffix, v => { config with pointerSuffix := v }
  | .header, v => { config with header := v }
  | .arraySuffix, v => { config with arraySuffix := v }
  | .structType, v => { config with structType := v }
  | .tableName, v => { config with tableName := v }
  | .terminator, v => { config with terminator := v }
  | .normalize, v => { config with normalize := v }

/-- The value of a field. -/
def get (config : Config) : (field : Field) → field.kind.Value
  | .strippedTags => config.strippedTags
  | .blockPattern => config.blockPattern
  | .sentinelPattern => config.sentinelPattern
  | .excludedNames => config.excludedNames
  | .predicateMarkers => config.predicateMarkers
  | .returnsMarker => config.returnsMarker
  | .unboundedPhrase => config.unboundedPhrase
  | .genericFailPhrase => config.genericFailPhrase
  | .pointerSuffix => config.pointerSuffix
  | .header => config.header
  | .arraySuffix => config.arraySuffix
  | .structType => config.structType
  | .tableName => config.tableName
  | .terminator => config.terminator
  | .normalize => config.normalize

/-- A stored value is found again. -/
@[simp] theorem get_set_self (config : Config) (field : Field) (v : field.kind.Value) :
    (config.set field v).get field = v := by
  cases field <;> rfl

/-- Storing a value keeps the other fields. -/
theorem get_set_of_ne (config : Config) {field other : Field} (v : field.kind.Value)
    (h : other ≠ field) : (config.set field v).get other = config.get other := by
  cases field <;> cases other <;> try rfl
  all_goals exact absurd rfl h

end Sentinels.Config
