import Sentinels.Extraction

/-!
# C listings

An extraction is written as C source: an include, one array for each function, a table that pairs
the functions with their arrays, and a comment with the number of silent functions. Every array
ends with the terminator.
-/

set_option autoImplicit false

namespace Sentinels.Listing

/-- The name of a function's array. -/
def arrayName (config : Config) (name : Text) : Text := name ++ config.arraySuffix

/-- The items of an array, the terminator last. -/
def items (config : Config) (values : List Sentinel) : List Text :=
  values.map Sentinel.text ++ [Text.ofInt config.terminator]

/-- The line that defines a function's array. -/
def arrayLine (config : Config) (entry : Text × List Sentinel) : Text :=
  "int ".toList ++ arrayName config entry.1 ++ "[] = ".toList ++ ['{'] ++
    Text.join [',', ' '] (items config entry.2) ++ ['}', ';']

/-- The row of a function in the table. -/
def row (config : Config) (name : Text) : Text :=
  ['{', ' ', '"'] ++ name ++ ['"', ',', ' '] ++ arrayName config name ++ [' ', '}', ',']

/-- The line that includes the header. -/
def includeLine (config : Config) : Text :=
  "#include \"".toList ++ config.header ++ ['"']

/-- The line that opens the table. -/
def tableLine (config : Config) : Text :=
  "struct ".toList ++ config.structType ++ [' '] ++ config.tableName ++ "[] = ".toList ++ ['{']

/-- The comment with the number of silent functions. -/
def countLine (count : Nat) : Text :=
  "/* void functions without return annotation: ".toList ++ Text.ofNat count ++ " */".toList

/-- The lines of the listing. -/
def lines (config : Config) (found : Extraction) : List Text :=
  [includeLine config] ++ found.table.map (arrayLine config) ++ [[], tableLine config] ++
    found.table.map (fun entry => row config entry.1) ++
    [['}', ';'], countLine found.voidCount]

/-- The listing as a text; every line is ended. -/
def text (config : Config) (found : Extraction) : Text :=
  Text.join ['\n'] (lines config found) ++ ['\n']

end Sentinels.Listing
