/-
Pieces of HTML as trees.

Texts and the values of attributes are kept as what they mean and escaped where they
are written, so that nothing that stands in them can be taken for markup.
-/
import Paperwork.Html.Escape

namespace Paperwork.Html

/-- The attributes of an element, in order. -/
abbrev Attributes := List (String × String)

/-- A piece of HTML: a text, an element with its content, or an element that has none. -/
inductive Markup
  | text (s : String)
  | element (tag : String) (attributes : Attributes) (content : List Markup)
  | void (tag : String) (attributes : Attributes)
  deriving Inhabited

/-- How an attribute is written. -/
def attributeText : String × String → List Char
  | (name, value) => ' ' :: name.toList ++ ['=', '"'] ++ escapeChars value.toList ++ ['"']

/-- How attributes are written. -/
def attributesText (attributes : Attributes) : List Char := attributes.flatMap attributeText

/-- How an opening tag is written. -/
def openingTag (tag : String) (attributes : Attributes) : List Char :=
  '<' :: tag.toList ++ attributesText attributes ++ ['>']

/-- How a closing tag is written. -/
def closingTag (tag : String) : List Char := '<' :: '/' :: tag.toList ++ ['>']

mutual

/-- How a piece of HTML is written. -/
def Markup.write : Markup → List Char
  | .text s => escapeChars s.toList
  | .element tag attributes content =>
    openingTag tag attributes ++ writeAll content ++ closingTag tag
  | .void tag attributes => '<' :: tag.toList ++ attributesText attributes ++ ['/', '>']

/-- How pieces of HTML are written one after another. -/
def writeAll : List Markup → List Char
  | [] => []
  | piece :: rest => piece.write ++ writeAll rest

end

end Paperwork.Html
