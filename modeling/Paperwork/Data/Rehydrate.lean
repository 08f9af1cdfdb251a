/-
Opening JSON text inside values.

Form data often arrives with lists and objects written as JSON text.  Rehydration
replaces every such text by the container it is the text of, in the whole value and
in what comes to light.  A text counts if it begins and ends like a container and can
be read.  The walk goes down a limited number of levels; what lies below is kept as
it is.
-/
import Paperwork.Data.Json.Reader
import Paperwork.Text.Words

namespace Paperwork

open Paperwork.Text

/-- Whether a text begins and ends like a list or an object, blanks aside. -/
def looksLikeContainer (text : String) : Bool :=
  let cs := trimmed isBlank text.toList
  (cs.head? == some '\x7b' && cs.getLast? == some '\x7d')
    || (cs.head? == some '[' && cs.getLast? == some ']')

/-- The container a text is the JSON text of. -/
def containerOf? (text : String) : Option Value :=
  if looksLikeContainer text then
    match Json.ofText text with
    | .ok (.list items) => some (.list items)
    | .ok (.object fields) => some (.object fields)
    | _ => none
  else none

namespace Value

/-- A value with the text of a container replaced by the container. -/
def opened (value : Value) : Value :=
  match value with
  | text s => (containerOf? s).getD value
  | value => value

/-- How many levels rehydration goes down. -/
def rehydrationLevels : Nat := 201

/-- A value with the texts of containers opened on its first `levels` levels. -/
def rehydrateWithin : Nat → Value → Value
  | 0, value => value
  | levels + 1, value =>
    match opened value with
    | list items => list (items.map (rehydrateWithin levels))
    | object fields => object (fields.map fun (key, item) => (key, rehydrateWithin levels item))
    | value => value

/-- A value with the texts of containers opened. -/
def rehydrate (value : Value) : Value := rehydrateWithin rehydrationLevels value

end Value

/-- Fields with the texts of containers opened: as the fields of an object, which is a
level of its own. -/
def Fields.rehydrate (fields : Fields) : Fields :=
  fields.map fun (key, item) => (key, item.rehydrateWithin (Value.rehydrationLevels - 1))

end Paperwork
