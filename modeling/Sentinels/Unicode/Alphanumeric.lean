import Sentinels.Unicode.Category
import Sentinels.Unicode.Property

/-!
# Letters and numbers of names

The characters that the names of groups are made of: those that are alphabetic, and those of a
number category. Names admit some letters that are newer than the classes of patterns.
-/

set_option autoImplicit false

namespace Sentinels.Unicode

/-- The alphabetic characters that the class Alphabetic does not hold yet. -/
def newerAlphabetic : List String :=
  ["88F C5C CDC A7CE-A7CF A7D2 A7D4 A7F1 10940-10959 10EC5-10EC7 10EFA-10EFB 11B60-11B67",
   "11DB0-11DDB 16EA0-16EB8 16EBB-16ED3 16FF2-16FF6 187F8-187FF 18D09-18D1E 18D80-18DF2",
   "1E6C0-1E6DE 1E6E0-1E6F5 1E6FE-1E6FF 2B73A-2B73F 2CEA2-2CEAD 323B0-33479"]

/-- The numbers that the categories of numbers do not hold yet. -/
def newerNumeric : List String := ["11DE0-11DE9 16FF4-16FF6"]

/-- The alphabetic characters. -/
def alphabetic : CharSet :=
  ((binaryProperty? "alphabetic").getD CharSet.empty).union (CharSet.ofHex newerAlphabetic)

/-- The characters of the number categories. -/
def numeric : CharSet :=
  (Category.membersOf [.decimalNumber, .letterNumber, .otherNumber]).union
    (CharSet.ofHex newerNumeric)

/-- Is the character a letter or another alphabetic character? -/
def isAlphabetic (c : Char) : Bool :=
  if c.toNat < 0x80 then c.isAlpha else alphabetic.contains c

/-- Is the character of one of the number categories? -/
def isNumeric (c : Char) : Bool :=
  if c.toNat < 0x80 then c.isDigit else numeric.contains c

end Sentinels.Unicode
