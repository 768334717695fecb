import Sentinels.Config
import Sentinels.Failure
import Sentinels.Pattern.Compiled

/-!
# The patterns of a configuration

The tags to strip make up one pattern; the patterns of blocks and sentinels are given as such and
must have the groups that are asked for later. All patterns are compiled before anything is
searched, in a fixed order, and the first fault is reported.
-/

set_option autoImplicit false

namespace Sentinels

/-- The compiled patterns. There is no pattern for tags if no tags are to be stripped. -/
structure PatternSet where
  tags : Option Pattern
  block : Pattern
  sentinel : Pattern

namespace PatternSet

/-- The group that holds the function's name. -/
def nameGroup : Text := ['n', 'a', 'm', 'e']

/-- The group that holds the return type. -/
def returnTypeGroup : Text := ['r', 't', 'y', 'p', 'e']

/-- The group that holds the text of the note. -/
def noteGroup : Text := ['n', 'o', 't', 'e']

/-- The group that holds a returned integer. -/
def valueGroup : Text := ['v', 'a', 'l', 'u', 'e']

/--
The pattern of the tags with the given names, in opening and closing form and with any attributes.
The boundary behind the name keeps a tag apart from those whose names begin alike.
-/
def tagSource? (names : List Text) : Option Text :=
  if names.isEmpty then none
  else
    let names := Text.join ['|'] (names.map Pattern.escape)
    some (['<', '/', '?', '(', '?', ':'] ++ names ++
      [')', '\\', 'b', '[', '^', '>', ']', '*', '>'])

/-- Compiles the pattern for one role. -/
def compileFor (role : PatternRole) (source : Text) : Except Failure Pattern :=
  match Pattern.compile source with
  | .ok pattern => .ok pattern
  | .error _ => .error (.invalidPattern role source)

/-- Accepts a pattern that has all the given groups. -/
def checkGroups (role : PatternRole) (pattern : Pattern) : List Text → Except Failure Unit
  | [] => .ok ()
  | group :: groups =>
    if pattern.groupNames.contains group then checkGroups role pattern groups
    else .error (.missingGroup role group)

/-- Compiles the pattern of tags, if there is one. -/
def compileTags (names : List Text) : Except Failure (Option Pattern) :=
  match tagSource? names with
  | none => .ok none
  | some source => (compileFor .tag source).map some

/-- Compiles all patterns of a configuration. -/
def ofConfig (config : Config) : Except Failure PatternSet := do
  let tags ← compileTags config.strippedTags
  let block ← compileFor .block config.blockPattern
  checkGroups .block block [nameGroup, returnTypeGroup, noteGroup]
  let sentinel ← compileFor .sentinel config.sentinelPattern
  checkGroups .sentinel sentinel [valueGroup]
  return ⟨tags, block, sentinel⟩

end PatternSet

end Sentinels
