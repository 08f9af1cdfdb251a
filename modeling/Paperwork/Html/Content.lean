/-
The text in a piece of HTML.

Line breaks and the ends of blocks become line feeds, all other tags are dropped, and
character references are read last, so that what they stand for is never taken for
markup.
-/
import Paperwork.Html.Reference
import Paperwork.Html.Tag
import Paperwork.Html.Visible
import Paperwork.Text.Lines

namespace Paperwork.Html

open Paperwork.Text

/-- The names of blocks whose end breaks the line. -/
def blockNames : List (List Char) :=
  [['p'], ['d', 'i', 'v'], ['h', '1'], ['h', '2'], ['h', '3'], ['h', '4'], ['h', '5'],
   ['h', '6'], ['l', 'i'], ['t', 'r'], ['t', 'a', 'b', 'l', 'e'], ['u', 'l'], ['o', 'l']]

/-- The name of the tag that breaks a line. -/
def breakName : List Char := ['b', 'r']

/-- Tags that break the line. -/
def lineBreak : Pattern Unit := fun cs =>
  match opening? [breakName] cs with
  | some tag => some ((), tag.length)
  | none =>
    (blockNames.findSome? fun name => closingLength? caseFree name cs).map
      fun length => ((), length)

/-- Any tag: everything from a `<` to the next `>`, unless nothing stands between. -/
def anyTag : Pattern Unit
  | '<' :: cs =>
    match upTo? '>' cs with
    | some (content, _) => if content.isEmpty then none else some ((), content.length + 2)
    | none => none
  | _ => none

/-- A text without tags, references not yet read. -/
def withoutTags (cs : List Char) : List Char :=
  replaced anyTag (fun _ => []) (replaced lineBreak (fun _ => ['\n']) cs)

/-- The text in a piece of HTML. -/
def content (cs : List Char) : Except ReferenceTooLong (List Char) := unescape (withoutTags cs)

/-- The text in a piece of HTML, its words set apart by single spaces. -/
def inlineContent (cs : List Char) : Except ReferenceTooLong (List Char) := do
  return collapsed (← content cs)

/-- The paragraphs in a piece of HTML. -/
def contentParagraphs (cs : List Char) : Except ReferenceTooLong (List (List Char)) := do
  return paragraphs (← content cs)

/-- The paragraphs of a whole page. -/
def plainParagraphs (cs : List Char) : Except ReferenceTooLong (List (List Char)) :=
  contentParagraphs (visible cs)

/-- The text of a whole page, an empty line between its paragraphs. -/
def plainText (cs : List Char) : Except ReferenceTooLong (List Char) := do
  return joined ['\n', '\n'] (← plainParagraphs cs)

end Paperwork.Html
