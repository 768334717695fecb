import Sentinels.Block

/-!
# Sentinels

A sentinel is a value that a function returns on failure. Sentinels are read from the part of a
note that begins with the returns marker. Integers that stand there win; only without any, a
pointer type yields the null pointer and a phrase for negative values yields the catch-all code.
-/

set_option autoImplicit false

namespace Sentinels

/-- A value that stands for failure. -/
inductive Sentinel
  /-- An integer as it is written in the note. -/
  | code (text : Text)
  /-- The null pointer. -/
  | null
  /-- Any negative value. -/
  | generic
deriving DecidableEq, Repr

namespace Sentinel

/-- The sentinel as an item of an array. -/
def text : Sentinel → Text
  | .code text => text
  | .null => ['N', 'U', 'L', 'L']
  | .generic => ['-', '1']

/-- The integers that the pattern finds in a text. -/
def codes (pattern : Pattern) (text : Text) : List Sentinel :=
  (pattern.findAll text).filterMap fun m => (m.group? PatternSet.valueGroup).map .code

/-- Does the name mark a predicate? -/
def marksPredicate (config : Config) (name : Text) : Bool :=
  config.predicateMarkers.any fun marker => name.hasInfix marker

/-- What is concluded where no integer is given. -/
def fallback (config : Config) (returnType returns : Text) : List Sentinel :=
  (if config.pointerSuffix.isSuffixOf returnType then [.null] else []) ++
    (if returns.hasInfix config.genericFailPhrase then [.generic] else [])

/-- The sentinels in the description of what a function returns. -/
def ofReturns (config : Config) (pattern : Pattern) (block : Block) (returns : Text) :
    List Sentinel :=
  if returns.hasInfix config.unboundedPhrase then []
  else
    match codes pattern returns with
    | [] => fallback config block.returnType returns
    | [only] => if marksPredicate config block.name then [only, .code ['0']] else [only]
    | many => many

/-- The sentinels of a block, or none if its note says nothing of what the function returns. -/
def ofBlock? (config : Config) (pattern : Pattern) (block : Block) : Option (List Sentinel) :=
  match block.annotation with
  | none => none
  | some annotation =>
    if annotation.isEmpty then none
    else
      (Text.suffixFrom? config.returnsMarker annotation).map fun returns =>
        ofReturns config pattern block returns

end Sentinel

end Sentinels
