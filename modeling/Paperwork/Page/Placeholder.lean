/-
Texts with placeholders.

A placeholder is a path between double braces, with blanks allowed around it.  It is
filled with what the path leads to.  What is filled in is not looked at again.
-/
import Paperwork.Data.Display
import Paperwork.Data.Path
import Paperwork.Text.Pattern
import Paperwork.Text.WordChar

namespace Paperwork.Placeholder

open Paperwork.Text

/-- Whether a character may stand in the path of a placeholder. -/
def isPathChar (c : Char) : Bool := isWordChar c || c == '.'

/-- The blanks a text begins with, and the rest. -/
def blanks (cs : List Char) : List Char × List Char := cs.span isBlank

/-- A placeholder, recognised by its path. -/
def pattern : Pattern String := fun cs => do
  let rest ← behind? ['\x7b', '\x7b'] cs
  let (before, rest) := blanks rest
  let (path, rest) := rest.span isPathChar
  let (after, rest) := blanks rest
  let _ ← behind? ['\x7d', '\x7d'] rest
  if path.isEmpty then none
  else some (String.ofList path, 4 + before.length + path.length + after.length)

/-- What a piece of a text stands for. -/
def fillPiece (data : Value) : Piece String → Except PathError (List Char)
  | .plain c => .ok [c]
  | .hit path => do return (← data.at? (some path)).display.toList

/-- A text with its placeholders filled. -/
def filled (text : String) (data : Value) : Except PathError String := do
  let filling ← (pieces pattern text.toList).mapM (fillPiece data)
  return String.ofList filling.flatten

end Paperwork.Placeholder
