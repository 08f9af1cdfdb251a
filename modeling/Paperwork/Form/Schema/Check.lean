/-
Reading schemas strictly.

Everything in the schema has to be right, down to the last nested property.  A type
may be given as a list of types, of which the first that is not `null` counts; what
is given in place of the list of required fields is passed over if it is no list.
-/
import Paperwork.Checking.Accept
import Paperwork.Form.Schema.Basic

namespace Paperwork.Schema

open Checked (valid fault)

/-- Whether a value is the name of the type that stands for a missing value. -/
def isNullType : Value → Bool
  | .text s => s == "null"
  | _ => false

/-- The type of a schema. -/
def checkType : Value → Checked (Option String)
  | .list types =>
    Accept.optional Accept.text ((types.find? fun type => !isNullType type).getD .null)
  | value => Accept.optional Accept.text value

/-- The required fields. -/
def checkRequired : Value → Checked (List String)
  | .list keys => Accept.list Accept.text (.list keys)
  | _ => valid []

/-- Any list. -/
def checkChoices : Value → Checked (Option (List Value)) :=
  Accept.optional (Accept.list valid)

/-- The fields of a schema that are not schemas themselves. -/
def checkHeader (fields : Fields) : Checked Header :=
  Header.mk <$> Accept.field fields ["type"] checkType none
    <*> Accept.field fields ["title"] (Accept.optional Accept.text) none
    <*> Accept.field fields ["format"] (Accept.optional Accept.text) none
    <*> Accept.field fields ["enum"] checkChoices none
    <*> Accept.field fields ["required"] checkRequired []

mutual

/-- A schema. -/
def check : Value → Checked Schema
  | .object fields =>
    ofHeader <$> checkHeader fields <*> checkItems fields <*> checkProperties fields
  | _ => fault .notRecord

/-- The schema of the items among the fields of a schema. -/
def checkItems : List (String × Value) → Checked (Option Schema)
  | [] => valid none
  | (key, value) :: rest =>
    if key = "items" then
      match value with
      | .null => valid none
      | value => (some <$> check value).under (.field "items")
    else checkItems rest

/-- The properties among the fields of a schema. -/
def checkProperties : List (String × Value) → Checked (Option (List (String × Schema)))
  | [] => valid none
  | (key, value) :: rest =>
    if key = "properties" then
      match value with
      | .null => valid none
      | .object properties => (some <$> checkEach properties).under (.field "properties")
      | _ => (fault .notObject).under (.field "properties")
    else checkProperties rest

/-- Every property of a row. -/
def checkEach : List (String × Value) → Checked (List (String × Schema))
  | [] => valid []
  | (key, value) :: rest =>
    (fun schema schemas => (key, schema) :: schemas)
      <$> (check value).under (.field key) <*> checkEach rest

end

end Paperwork.Schema
