/-
Titles made from keys.
-/
import Paperwork.Text.LetterCase
import Paperwork.Text.WordChar

namespace Paperwork.Form

open Paperwork.Text

/-- A key with spaces for its underscores and hyphens. -/
def spaced (key : List Char) : List Char :=
  key.map fun c => if c = '_' ∨ c = '-' then ' ' else c

/-- A text with the first character of every word in upper case; `inWord` says
whether the character before belongs to a word. -/
def capitalized : Bool → List Char → List Char
  | _, [] => []
  | inWord, c :: rest =>
    (if isWordChar c && !inWord then upper c else [c]) ++ capitalized (isWordChar c) rest

/-- The title of a key: its words in capitals, with spaces between them. -/
def titleCase (key : String) : String := String.ofList (capitalized false (spaced key.toList))

end Paperwork.Form
