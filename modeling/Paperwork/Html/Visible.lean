/-
The visible part of an HTML text.

Comments, styles, scripts and the head of a page are removed before anything else is
done with a text.
-/
import Paperwork.Html.Tag

namespace Paperwork.Html

open Paperwork.Text

/-- The names of elements that are not shown. -/
def hiddenNames : List (List Char) :=
  [['s', 't', 'y', 'l', 'e'], ['s', 'c', 'r', 'i', 'p', 't'], ['h', 'e', 'a', 'd']]

/-- The length of the comment that a text begins with. -/
def commentLength? (cs : List Char) : Option Nat := do
  let rest ← behind? ['<', '!', '-', '-'] cs
  let (content, _) ← search (behind? ['-', '-', '>']) rest
  return 7 + content.length

/-- Comments and elements that are not shown. -/
def hidden : Pattern Unit := fun cs =>
  match commentLength? cs with
  | some length => some ((), length)
  | none => (elementAmong hiddenNames cs).map fun (_, length) => ((), length)

/-- A text without what is not shown. -/
def visible (cs : List Char) : List Char := replaced hidden (fun _ => []) cs

end Paperwork.Html
