/-
The text a value is shown as.

Null shows as nothing, a whole number without a point, a list as its items with
commas between them, and a container inside a list, like an object, as compact JSON.
A container nested too deep to be written shows as dots between its brackets.
-/
import Paperwork.Data.Json.Writer
import Paperwork.Text.Words

namespace Paperwork.Value

open Paperwork.Text

/-- The text of a value that is not a container. -/
def atomShown : Value → String
  | null => ""
  | bool b => if b then "true" else "false"
  | int n => toString n
  | float x => x.shown
  | text s => s
  | list _ => ""
  | object _ => ""

/-- The text of a container nested too deep to be written. -/
def tooDeepShown : Value → List Char
  | object _ => ['\x7b', '.', '.', '.', '\x7d']
  | _ => ['[', '.', '.', '.', ']']

/-- The compact JSON of a container. -/
def compactShown (value : Value) : List Char :=
  (Json.compact? value).getD (tooDeepShown value)

/-- The text of an item of a list. -/
def itemShown (value : Value) : List Char :=
  match value with
  | list _ => compactShown value
  | object _ => compactShown value
  | value => value.atomShown.toList

/-- The text a value is shown as. -/
def display (value : Value) : String :=
  match value with
  | list items => String.ofList (joined [',', ' '] (items.map itemShown))
  | object _ => String.ofList (compactShown value)
  | value => value.atomShown

end Paperwork.Value
