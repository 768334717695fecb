import Sentinels.Block

/-!
# Entries

A page describes each function by an entry: a heading with its name, its prototype, a paragraph
that ends a line and possibly a division with a note. An entry is a value here, and so is each of
its parts; they know that their contents hold no bracket that would end them.
-/

set_option autoImplicit false

namespace Sentinels.Block

/-! ## The parts of an entry -/

/-- What a heading begins with. -/
def prompt : Text := "Function: ".toList

/-- The end of the heading and the beginning of the prototype. -/
def headingEnd : Text := "</h3><pre class=\"programlisting\">".toList

/-- The end of the prototype and the beginning of the paragraph. -/
def prototypeEnd : Text := "</pre><p>".toList

/-- The end of the paragraph. -/
def paragraphEnd : Text := "</p>".toList

/-- The end of the line, with or without a carriage return. -/
def lineEnd (carriageReturn : Bool) : Text := if carriageReturn then ['\r', '\n'] else ['\n']

/-- What a division begins with, in front of its attributes. -/
def divisionStart : Text := "<div".toList

/-- What a division ends with. -/
def divisionEnd : Text := "</div>".toList

/-- A division with a note. -/
structure Division where
  attributes : Text
  note : Text
  attributes_open : '>' ∉ attributes
  note_plain : '<' ∉ note

/-- The division as it is written. -/
def Division.text (d : Division) : Text :=
  divisionStart ++ d.attributes ++ '>' :: d.note ++ divisionEnd

/-- What follows the name of a function up to the end of the line. -/
structure Description where
  prototype : Text
  paragraph : Text
  carriageReturn : Bool
  prototype_plain : '<' ∉ prototype
  paragraph_plain : '<' ∉ paragraph

/-- The description behind its first tags. -/
def Description.body (d : Description) : Text :=
  d.prototype ++ prototypeEnd ++ d.paragraph ++ paragraphEnd ++ lineEnd d.carriageReturn

/-- The description as it is written. -/
def Description.text (d : Description) : Text := headingEnd ++ d.body

/-- The first word of the prototype. -/
def Description.returnType (d : Description) : Text :=
  (d.prototype.dropWhile Unicode.isWhiteSpace).takeWhile fun x => !Unicode.isWhiteSpace x

/-- Is this the division that a text begins with? -/
def DivisionAt (rest : Text) : Option Division → Prop
  | some division => division.text <+: rest
  | none => ∀ division : Division, ¬ division.text <+: rest

/-- An entry. -/
structure Entry where
  name : Text
  description : Description
  division : Option Division
  name_plain : '<' ∉ name

/-- The heading of the entry, up to its end. -/
def Entry.heading (e : Entry) : Text := prompt ++ e.name

/-- What follows the heading. -/
def Entry.body (e : Entry) : Text := e.description.text ++ e.division.elim [] Division.text

/-- The entry as it is written. -/
def Entry.text (e : Entry) : Text := e.heading ++ e.body

/-- Does a text begin with an entry? A division that stands behind the line belongs to it. -/
def Entry.Begins (e : Entry) (text : Text) : Prop :=
  ∃ rest, text = e.heading ++ e.description.text ++ rest ∧ DivisionAt rest e.division

/-- The block of an entry. -/
def Entry.block (config : Config) (e : Entry) : Block :=
  let name := e.name.trimEnd Unicode.isWhiteSpace
  { name
    returnType := e.description.returnType
    annotation := if hasExcludedPart config name then none else e.division.map Division.note }

end Sentinels.Block
