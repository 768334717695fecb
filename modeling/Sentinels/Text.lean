/-!
# Texts

A document, a pattern and every piece of output is a list of Unicode scalar values. This module
holds the type and the searches, cuts and joins on it that the rest of the library uses.
-/

set_option autoImplicit false

namespace Sentinels

/-- A text is the list of its characters. -/
abbrev Text := List Char

namespace Text

/-- The suffix of `text` that begins with the first occurrence of `needle`. -/
def suffixFrom? (needle : Text) : Text → Option Text
  | [] => if needle = [] then some [] else none
  | c :: cs => if needle.isPrefixOf (c :: cs) then some (c :: cs) else suffixFrom? needle cs

/-- Does `needle` occur in `text`? -/
def hasInfix (text needle : Text) : Bool :=
  (suffixFrom? needle text).isSome

/-- The text in front of the first occurrence of `needle`, and the text behind it. -/
def cutAt? (needle : Text) : Text → Option (Text × Text)
  | [] => if needle = [] then some ([], []) else none
  | c :: cs =>
    if needle.isPrefixOf (c :: cs) then some ([], (c :: cs).drop needle.length)
    else (cutAt? needle cs).map fun (before, behind) => (c :: before, behind)

/-- The number of bytes of the UTF-8 encoding. -/
def byteSize (text : Text) : Nat :=
  text.foldr (fun c size => c.utf8Size + size) 0

/-- The texts one after the other, with `separator` between neighbours. -/
def join (separator : Text) : List Text → Text
  | [] => []
  | [t] => t
  | t :: ts => t ++ separator ++ join separator ts

/-- Leaves out the longest end of `text` whose characters all satisfy `p`. -/
def trimEnd (p : Char → Bool) (text : Text) : Text :=
  text.foldr (fun c kept => if kept.isEmpty && p c then [] else c :: kept) []

/-- The decimal digits of a natural number. -/
def ofNat (n : Nat) : Text :=
  Nat.toDigits 10 n

/-- The decimal digits of an integer, behind a minus sign if it is negative. -/
def ofInt : Int → Text
  | .ofNat n => ofNat n
  | .negSucc n => '-' :: ofNat (n + 1)

/-- Sizes add up. -/
@[simp] theorem byteSize_append (s t : Text) :
    byteSize (s ++ t) = byteSize s + byteSize t := by
  induction s with
  | nil => exact (Nat.zero_add _).symm
  | cons c s ih =>
    have hcons : ∀ text, byteSize (c :: text) = c.utf8Size + byteSize text := fun _ => rfl
    rw [List.cons_append, hcons, hcons, ih, Nat.add_assoc]

/-- A text without its end is a beginning of the text. -/
theorem trimEnd_isPrefix (p : Char → Bool) (text : Text) : trimEnd p text <+: text := by
  induction text with
  | nil => exact List.prefix_refl _
  | cons c cs ih =>
    rw [trimEnd, List.foldr_cons, ← trimEnd]
    split
    · exact List.nil_prefix
    · exact List.cons_prefix_cons.mpr ⟨rfl, ih⟩

/-- One text has no separator. -/
@[simp] theorem join_singleton (separator text : Text) : join separator [text] = text := rfl

/-- A separator stands between two texts. -/
@[simp] theorem join_cons_cons (separator s t : Text) (ts : List Text) :
    join separator (s :: t :: ts) = s ++ separator ++ join separator (t :: ts) := rfl

end Text

end Sentinels
