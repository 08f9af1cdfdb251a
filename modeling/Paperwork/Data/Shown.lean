/-
Values shown in messages, every kind distinguishable: texts stand between quotes and
numbers with a fraction keep their point.
-/
import Paperwork.Data.Value
import Paperwork.Text.Quoted

namespace Paperwork.Value

open Paperwork.Text

mutual

/-- A value as messages show it. -/
def shown : Value → String
  | null => "None"
  | bool b => if b then "True" else "False"
  | int n => toString n
  | float x => x.text .plain
  | text s => quoted s
  | list items => "[" ++ String.intercalate ", " (shownItems items) ++ "]"
  | object fields => "\x7b" ++ String.intercalate ", " (shownFields fields) ++ "\x7d"

/-- Items as messages show them. -/
def shownItems : List Value → List String
  | [] => []
  | item :: rest => item.shown :: shownItems rest

/-- Fields as messages show them. -/
def shownFields : List (String × Value) → List String
  | [] => []
  | (key, item) :: rest => (quoted key ++ ": " ++ item.shown) :: shownFields rest

end

end Paperwork.Value
