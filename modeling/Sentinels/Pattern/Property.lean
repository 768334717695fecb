import Sentinels.Pattern.Ast
import Sentinels.Pattern.SyntaxError
import Sentinels.Unicode.Age
import Sentinels.Unicode.Category
import Sentinels.Unicode.Property
import Sentinels.Unicode.Script
import Sentinels.Unicode.Segmentation

/-!
# Classes of Unicode properties

A property class is named loosely: case, blanks, hyphens and underscores do not count, and neither
does `is` at the beginning. A single name is that of a binary property, of a general category or
of a script, in this order. With a value, the name is that of a property with named values.
-/

set_option autoImplicit false

namespace Sentinels.Pattern

/-- Does the text begin with `is` in any case? -/
def startsWithIs : Text → Bool
  | i :: s :: _ => i.toLower == 'i' && s.toLower == 's'
  | _ => false

/-- The form of a name that loose matching compares. -/
def looseName (name : Text) : String :=
  let hasIs := startsWithIs name
  let kept := (if hasIs then name.drop 2 else name).filter fun c =>
    c != ' ' && c != '_' && c != '-' && c.toNat < 0x80
  let lower := kept.map Char.toLower
  if hasIs && lower == ['c'] then "isc" else String.ofList lower

/-- The characters of a general category, or of one of three classes that are named like one. -/
def categoryClass? (name : String) : Option CharSet :=
  match name with
  | "any" => some CharSet.full
  | "assigned" => some (Unicode.Category.members .unassigned).compl
  | "ascii" => some (CharSet.ofRange 0 0x7F)
  | _ => (Unicode.Category.named? name).map Unicode.Category.membersOf

/--
The class with a single name. Three short names of categories are not looked up as properties.
-/
def namedClass? (name : String) : Option CharSet :=
  let property := if ["cf", "sc", "lc"].contains name then none else Unicode.binaryProperty? name
  match property with
  | some set => some set
  | none =>
    match categoryClass? name with
    | some set => some set
    | none => Unicode.script? name

/-- The class of the characters for which a property has a value. -/
def valuedClass? (name value : String) : Option CharSet :=
  match name with
  | "generalcategory" | "gc" => categoryClass? value
  | "script" | "sc" => Unicode.script? value
  | "scriptextensions" | "scx" => Unicode.scriptExtensions? value
  | "age" => Unicode.age? value
  | "graphemeclusterbreak" | "gcb" => Unicode.graphemeBreak.members? value
  | "wordbreak" | "wb" => Unicode.wordBreak.members? value
  | "sentencebreak" | "sb" => Unicode.sentenceBreak.members? value
  | _ => none

/-- The class that a query asks for. -/
def PropertyQuery.members (query : PropertyQuery) : Except SyntaxError CharSet :=
  let found := match query with
    | .named name => namedClass? (looseName name)
    | .valued name value => valuedClass? (looseName name) (looseName value)
  match found with
  | some set => .ok set
  | none => .error .property

end Sentinels.Pattern
