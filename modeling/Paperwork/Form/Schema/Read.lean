/-
Reading schemas leniently.

A property or an item schema that cannot be read is passed over with a notice, and
the rest of the schema is kept.  Only what is wrong with the schema's own fields makes
it unreadable as a whole.
-/
import Paperwork.Form.Schema.Check
import Paperwork.Notice

namespace Paperwork.Schema

/-- A schema of the parts that could be read. -/
def assembled (place : String) (fields : Fields) (items : Option Schema)
    (properties : Option (List (String × Schema))) : Noted (Option Schema) :=
  match checkHeader fields with
  | .valid header => return some (ofHeader header items properties)
  | .faulty faults => do
    Noted.note (.schemaFaulty place faults)
    return none
  | .abandoned _ => return none

mutual

/-- The schema that a value describes; `place` names it in notices. -/
def read (place : String) : Value → Noted (Option Schema)
  | .object fields => do
    let properties ← readProperties place fields
    let items ← readItems place fields
    assembled place fields items properties
  | value => do
    Noted.note (.schemaSkipped place value.kind)
    return none

/-- The schema of the items among the fields of a schema. -/
def readItems (place : String) : List (String × Value) → Noted (Option Schema)
  | [] => return none
  | (key, value) :: rest =>
    if key = "items" then
      match value with
      | .null => return none
      | value => read (place ++ ".items") value
    else readItems place rest

/-- The properties among the fields of a schema. -/
def readProperties (place : String) :
    List (String × Value) → Noted (Option (List (String × Schema)))
  | [] => return none
  | (key, value) :: rest =>
    if key = "properties" then
      match value with
      | .null => return none
      | .object properties => return some (← readEach place properties)
      | value => do
        Noted.note (.propertiesIgnored place value.kind)
        return none
    else readProperties place rest

/-- The properties of a row that can be read. -/
def readEach (place : String) : List (String × Value) → Noted (List (String × Schema))
  | [] => return []
  | (key, value) :: rest => do
    let schema ← read (place ++ ".properties." ++ key) value
    let schemas ← readEach place rest
    return (schema.map fun s => (key, s)).toList ++ schemas

end

/-- The name of the outermost schema in notices. -/
def rootName : String := "schema"

end Paperwork.Schema
