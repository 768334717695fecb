import Sentinels.Text

/-!
# Configuration

What the generator looks for and what it writes. The default configuration fits the reference
pages of one generator of documentation; other pages need other patterns and phrases.
-/

set_option autoImplicit false

namespace Sentinels

/-- The settings of a run. -/
structure Config where
  /-- Inline tags that are removed before blocks are looked for, in opening and closing form. -/
  strippedTags : List Text
  /-- The pattern of a function block, with the groups `name`, `rtype` and `note`. -/
  blockPattern : Text
  /-- The pattern of a returned integer, with the group `value`. -/
  sentinelPattern : Text
  /-- Functions whose name contains one of these are not analysed. -/
  excludedNames : List Text
  /-- Parts of a name that mark a predicate, which returns zero besides its one code. -/
  predicateMarkers : List Text
  /-- The word at which the description of the returned value begins. -/
  returnsMarker : Text
  /-- A phrase for which no list of codes can be given. -/
  unboundedPhrase : Text
  /-- A phrase that stands for the catch-all code. -/
  genericFailPhrase : Text
  /-- The end of the name of a pointer type. -/
  pointerSuffix : Text
  /-- The header that the output includes. -/
  header : Text
  /-- What is appended to a function's name to name its array. -/
  arraySuffix : Text
  /-- The structure type of the rows of the table. -/
  structType : Text
  /-- The name of the table. -/
  tableName : Text
  /-- The number behind the last code of every array. -/
  terminator : Int
  /-- Whether the document is brought into normal form first. -/
  normalize : Bool
deriving DecidableEq, Repr

namespace Config

/-- Inline tags of reference pages. -/
def defaultStrippedTags : List Text :=
  [['a'], ['b', 'r'], ['t', 'a', 'b', 'l', 'e'], ['t', 'b', 'o', 'd', 'y'], ['t', 'd'],
    ['t', 'r'], ['t', 't'], ['s', 'p', 'a', 'n'], ['i'], ['c', 'o', 'l']]

/-- The heading, which holds the function's name. -/
def headingPattern : Text :=
  r"Function: (?P<name>[^<]*)</h3>".toList

/-- The prototype, which begins with the return type. -/
def prototypePattern : Text :=
  r#"<pre class="programlisting">\s*(?P<rtype>[^\s<]*)[^<]*</pre>"#.toList

/-- The paragraph of description and the end of its line. -/
def paragraphPattern : Text :=
  r"<p>[^<]*</p>\r?\n".toList

/-- The division with the note, which may be missing. -/
def notePattern : Text :=
  r"(?:<div[^>]*>(?P<note>[^<]*)</div>)?".toList

/-- A heading, a prototype, a paragraph and possibly a note. -/
def defaultBlockPattern : Text :=
  headingPattern ++ prototypePattern ++ paragraphPattern ++ notePattern

/-- A blank or a colon, then an integer that ends at a boundary of ASCII words. -/
def defaultSentinelPattern : Text :=
  r"[ :](?P<value>-?[0-9]+)(?-u:\b)".toList

/-- The settings that hold where nothing else is said. -/
def default : Config where
  strippedTags := defaultStrippedTags
  blockPattern := defaultBlockPattern
  sentinelPattern := defaultSentinelPattern
  excludedNames := ["UCSI".toList]
  predicateMarkers := ["Has".toList, "Is".toList]
  returnsMarker := "Returns".toList
  unboundedPhrase := "a positive error code".toList
  genericFailPhrase := "negative value on fail".toList
  pointerSuffix := "Ptr".toList
  header := "std_errors_head.h".toList
  arraySuffix := "_man_errors".toList
  structType := "sys_errors".toList
  tableName := "errors_man".toList
  terminator := 12345
  normalize := false

instance : Inhabited Config := ⟨default⟩

end Config

end Sentinels
