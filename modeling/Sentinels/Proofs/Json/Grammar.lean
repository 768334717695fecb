import Sentinels.Json.Skip
import Mathlib.Data.List.Forall2

/-!
# The grammar of JSON

Which texts are JSON, said without any reader. Where the content matters, a relation tells which
texts spell a string or a list of strings, since one content has many spellings; where it does not,
a predicate tells which texts are values at all. Lists and objects are treated alike: their items
stand between commas, and an item of an object has a key in front of it.
-/

set_option autoImplicit false

namespace Sentinels.Json

/-! ## White space and digits -/

/-- Is the text white space? -/
def IsBlanks (text : Text) : Prop :=
  ∀ c ∈ text, c = ' ' ∨ c = '\t' ∨ c = '\n' ∨ c = '\r'

/-- Is the text a row of decimal digits, of which there is at least one? -/
def IsDigits (text : Text) : Prop :=
  text ≠ [] ∧ ∀ c ∈ text, '0' ≤ c ∧ c ≤ '9'

/-- The hexadecimal digits in increasing order, with small letters. -/
def smallDigits : Text := "0123456789abcdef".toList

/-- The hexadecimal digits in increasing order, with capital letters. -/
def capitalDigits : Text := "0123456789ABCDEF".toList

/-- Is the character a hexadecimal digit of this value? -/
def IsHexDigit (c : Char) (value : Nat) : Prop :=
  smallDigits[value]? = some c ∨ capitalDigits[value]? = some c

/-! ## Strings -/

/-- The letters of the short escapes, with the characters that they stand for. -/
def shortEscapes : List (Char × Char) :=
  [('"', '"'), ('\\', '\\'), ('/', '/'), ('b', Char.ofNat 8), ('f', Char.ofNat 12), ('n', '\n'),
    ('r', '\r'), ('t', '\t')]

/-- May the character stand in a string as it is? -/
def IsPlain (c : Char) : Prop :=
  0x20 ≤ c.toNat ∧ c ≠ '"' ∧ c ≠ '\\'

/-- The four hexadecimal digits of a code unit. -/
inductive SpellsUnit : Text → Nat → Prop
  | digits {h₁ h₂ h₃ h₄ : Char} {a b c d : Nat} (ha : IsHexDigit h₁ a) (hb : IsHexDigit h₂ b)
      (hc : IsHexDigit h₃ c) (hd : IsHexDigit h₄ d) :
      SpellsUnit [h₁, h₂, h₃, h₄] (a * 0x1000 + b * 0x100 + c * 0x10 + d)

/--
The spellings of a character within a string. A character beyond the first plane is escaped as a
pair of surrogates; a surrogate by itself spells no character.
-/
inductive SpellsChar : Text → Char → Prop
  | plain {c : Char} (h : IsPlain c) : SpellsChar [c] c
  | short {letter c : Char} (h : (letter, c) ∈ shortEscapes) : SpellsChar ['\\', letter] c
  | unit {digits : Text} {c : Char} (h : SpellsUnit digits c.toNat) :
      SpellsChar ('\\' :: 'u' :: digits) c
  | pair {first second : Text} {lead trail : Nat} {c : Char} (hfirst : SpellsUnit first lead)
      (hsecond : SpellsUnit second trail) (hlead : 0xD800 ≤ lead) (hlead' : lead ≤ 0xDBFF)
      (htrail : 0xDC00 ≤ trail) (htrail' : trail ≤ 0xDFFF)
      (hc : c.toNat = 0x10000 + (lead - 0xD800) * 0x400 + (trail - 0xDC00)) :
      SpellsChar ('\\' :: 'u' :: first ++ '\\' :: 'u' :: second) c

/-- The texts that spell a content between quotation marks. -/
inductive Spells : Text → Text → Prop
  | nil : Spells [] []
  | cons {spelling spellings : Text} {c : Char} {content : Text} (h : SpellsChar spelling c)
      (hrest : Spells spellings content) : Spells (spelling ++ spellings) (c :: content)

/-- A text of plain characters spells itself. -/
theorem spells_self {content : Text} (h : ∀ c ∈ content, IsPlain c) : Spells content content := by
  induction content with
  | nil => exact .nil
  | cons c content ih =>
    exact .cons (.plain (h c List.mem_cons_self)) (ih fun d hd => h d (List.mem_cons_of_mem c hd))

/-- One spelling behind another spells one content behind the other. -/
theorem Spells.append {spelling content spelling' content' : Text} (h : Spells spelling content)
    (h' : Spells spelling' content') : Spells (spelling ++ spelling') (content ++ content') := by
  induction h with
  | nil => exact h'
  | cons hc _ ih =>
    rw [List.append_assoc]
    exact .cons hc ih

/--
The texts between quotation marks that have the form of a string. Any code unit may be escaped, a
surrogate without its partner as well.
-/
inductive IsString : Text → Prop
  | nil : IsString []
  | plain {c : Char} {rest : Text} (h : IsPlain c) (hrest : IsString rest) : IsString (c :: rest)
  | short {letter c : Char} {rest : Text} (h : (letter, c) ∈ shortEscapes)
      (hrest : IsString rest) : IsString ('\\' :: letter :: rest)
  | unit {digits rest : Text} {value : Nat} (h : SpellsUnit digits value)
      (hrest : IsString rest) : IsString ('\\' :: 'u' :: digits ++ rest)

/-! ## Numbers -/

/-- Is the text the integer part of a number? It has no zero in front of other digits. -/
def IsWhole (text : Text) : Prop :=
  text = ['0'] ∨ IsDigits text ∧ text.head? ≠ some '0'

/-- Is the text a fraction, or nothing? -/
def IsFraction (text : Text) : Prop :=
  text = [] ∨ ∃ digits, text = '.' :: digits ∧ IsDigits digits

/-- Is the text an exponent, or nothing? -/
def IsExponent (text : Text) : Prop :=
  text = [] ∨ ∃ mark sign digits, text = mark :: (sign ++ digits) ∧ (mark = 'e' ∨ mark = 'E') ∧
    (sign = [] ∨ sign = ['+'] ∨ sign = ['-']) ∧ IsDigits digits

/-- Is the text a number? -/
def IsNumber (text : Text) : Prop :=
  ∃ sign whole fraction exponent, text = sign ++ (whole ++ (fraction ++ exponent)) ∧
    (sign = [] ∨ sign = ['-']) ∧ IsWhole whole ∧ IsFraction fraction ∧ IsExponent exponent

/-! ## Lists and objects -/

/-- The character that opens a list or an object. -/
def Enclosure.opener : Enclosure → Char
  | .list => '['
  | .object => '{'

/-- The texts that lead to the value of a key: the key, a colon, and blanks around both. -/
inductive LeadsFrom (IsKey : Text → Prop) : Text → Prop
  | key {before spelling behind space : Text} (hbefore : IsBlanks before)
      (hspelling : IsKey spelling) (hbehind : IsBlanks behind) (hspace : IsBlanks space) :
      LeadsFrom IsKey (before ++ '"' :: (spelling ++ '"' :: (behind ++ ':' :: space)))

/-- The texts that lead to a value inside of an enclosure. -/
def Enclosure.Leads : Enclosure → Text → Prop
  | .list => IsBlanks
  | .object => LeadsFrom IsString

/-- An item of a list or an object: its value, what leads to it, and the blanks behind it. -/
structure Item where
  lead : Text
  value : Text
  trail : Text

/-- The text of an item. -/
def Item.text (item : Item) : Text := item.lead ++ (item.value ++ item.trail)

/-- The texts that are values. -/
inductive IsValue : Text → Prop
  | null : IsValue ['n', 'u', 'l', 'l']
  | true : IsValue ['t', 'r', 'u', 'e']
  | false : IsValue ['f', 'a', 'l', 's', 'e']
  | number {text : Text} (h : IsNumber text) : IsValue text
  | string {text : Text} (h : IsString text) : IsValue ('"' :: (text ++ ['"']))
  | empty (enclosure : Enclosure) {space : Text} (h : IsBlanks space) :
      IsValue (enclosure.opener :: (space ++ [enclosure.closer]))
  | items (enclosure : Enclosure) (items : List Item) (hne : items ≠ [])
      (hlead : ∀ item ∈ items, enclosure.Leads item.lead)
      (htrail : ∀ item ∈ items, IsBlanks item.trail)
      (hvalue : ∀ item ∈ items, IsValue item.value) :
      IsValue (enclosure.opener :: (Text.join [','] (items.map Item.text) ++ [enclosure.closer]))

/-! ## Values of a wanted type -/

/-- The spellings of a truth value. -/
inductive SpellsBoolean : Text → Bool → Prop
  | true : SpellsBoolean ['t', 'r', 'u', 'e'] true
  | false : SpellsBoolean ['f', 'a', 'l', 's', 'e'] false

/--
The spellings of an integer of 64 bits with sign. There is one for each: a number with a fraction
or an exponent is no integer, and neither is minus zero.
-/
inductive SpellsInteger : Text → Int → Prop
  | decimal {n : Int} (hlow : -9223372036854775808 ≤ n) (hhigh : n ≤ 9223372036854775807) :
      SpellsInteger (Text.ofInt n) n

/-- The spellings of a string, with its quotation marks. -/
inductive SpellsString : Text → Text → Prop
  | quoted {spelling content : Text} (h : Spells spelling content) :
      SpellsString ('"' :: (spelling ++ ['"'])) content

/-- The spellings of a string as an item of a list, with the blanks around it. -/
inductive SpellsItem : Text → Text → Prop
  | item {before spelling behind content : Text} (hbefore : IsBlanks before)
      (h : SpellsString spelling content) (hbehind : IsBlanks behind) :
      SpellsItem (before ++ (spelling ++ behind)) content

/-- The spellings of a list of strings. -/
inductive SpellsList : Text → List Text → Prop
  | empty {space : Text} (h : IsBlanks space) : SpellsList ('[' :: (space ++ [']'])) []
  | items {texts contents : List Text} (hne : texts ≠ [])
      (h : List.Forall₂ SpellsItem texts contents) :
      SpellsList ('[' :: (Text.join [','] texts ++ [']'])) contents

end Sentinels.Json
