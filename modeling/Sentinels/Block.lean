import Sentinels.Config
import Sentinels.PatternSet
import Sentinels.Unicode.WhiteSpace

/-!
# Function blocks

Each match of the block pattern is the description of one function. A group that took no part in
the match counts as empty, except for the note, which is absent then. A function with an excluded
name loses its note, so nothing is read from it.
-/

set_option autoImplicit false

namespace Sentinels

/-- The description of a function. -/
structure Block where
  name : Text
  returnType : Text
  annotation : Option Text
deriving DecidableEq, Repr

namespace Block

/-- Is the name excluded by the configuration? -/
def hasExcludedPart (config : Config) (name : Text) : Bool :=
  config.excludedNames.any fun part => name.hasInfix part

/-- The block of a match. -/
def ofMatch (config : Config) (m : Pattern.Match) : Block :=
  let name := ((m.group? PatternSet.nameGroup).getD []).trimEnd Unicode.isWhiteSpace
  { name
    returnType := (m.group? PatternSet.returnTypeGroup).getD []
    annotation := if hasExcludedPart config name then none else m.group? PatternSet.noteGroup }

/-- The blocks of a document, from left to right. -/
def findAll (config : Config) (pattern : Pattern) (text : Text) : List Block :=
  (pattern.findAll text).map (ofMatch config)

/-- Has the block a note with any text? -/
def hasAnnotation (block : Block) : Bool :=
  match block.annotation with
  | none => false
  | some text => !text.isEmpty

/-- Does the function return nothing, and is nothing said about it? -/
def isSilentVoid (block : Block) : Bool :=
  !block.hasAnnotation && block.returnType == ['v', 'o', 'i', 'd']

end Block

end Sentinels
