/-
Stored templates.

A record has a name, the schema of its form, and metadata that may hold a template
written by hand.  Schema and metadata may be given as JSON text.
-/
import Paperwork.Data.Rehydrate
import Paperwork.Form.Compile
import Paperwork.Form.Schema.Read
import Paperwork.Template.Check

namespace Paperwork

open Paperwork.Text
open Checked (valid fault)

/-- A stored template. -/
structure Record where
  id : Option String
  name : String
  schema : Option Fields
  metadata : Fields

namespace Record

/-- The value that a JSON text stands for; `blank` is that of a blank text. -/
def decoded (blank : Value) (value : Value) : Checked Value :=
  match value with
  | .text s =>
    if isAllBlank s.toList then valid blank
    else
      match Json.ofText s with
      | .ok value => valid value
      | .error .tooDeep => .abandoned .nestedTooDeep
      | .error _ => fault .refused
  | value => valid value

/-- The fields of an object. -/
def checkFields : Value → Checked Fields
  | .object fields => valid fields
  | _ => fault .notObject

/-- What follows on a check that has to succeed first. -/
def checkDecoded {α : Type} (check : Value → Checked α) : Checked Value → Checked α
  | .valid value => check value
  | .faulty faults => .faulty faults
  | .abandoned cause => .abandoned cause

/-- The schema of a record. -/
def checkSchema (value : Value) : Checked (Option Fields) :=
  checkDecoded (Accept.optional checkFields) (decoded .null value)

/-- The metadata of a record; in place of them anything empty may be given. -/
def checkMetadata (value : Value) : Checked Fields :=
  match value with
  | .text _ => checkDecoded checkFields (decoded (.object []) value)
  | value => if value.isGiven then checkFields value else valid []

/-- A record. -/
def check : Value → Checked Record :=
  Accept.record fun fields =>
    Record.mk <$> Accept.field fields ["id"] (Accept.optional Accept.text) none
      <*> Accept.field fields ["name"] Accept.text "Document"
      <*> Accept.field fields ["json_schema"] checkSchema none
      <*> Accept.field fields ["metadata"] checkMetadata []

/-- The schema of the form, unless it says nothing. -/
def formSchema (record : Record) : Noted (Option Schema) :=
  match record.schema with
  | some (field :: fields) => Schema.read Schema.rootName (.object (field :: fields))
  | _ => return none

/-- The template that a schema given as a value compiles to. -/
def compiled (schema : Value) : Noted Template :=
  match schema with
  | .null => return Template.empty
  | schema => do
    match ← Schema.read Schema.rootName schema with
    | some schema => return Form.template schema
    | none => return Template.empty

/-- The template written by hand, or the one compiled from the schema. -/
def layout (record : Record) : Noted (Checked Template) :=
  let authored := record.metadata.getD "templateConfig"
  if authored.isGiven then Template.check authored.rehydrate
  else
    match record.schema with
    | some fields => do return valid (← compiled (.object fields))
    | none => return valid Template.empty

/-- A template with a title, at least that of the record. -/
def titled (record : Record) (template : Template) : Template :=
  match nonempty? template.title with
  | some _ => template
  | none => { template with title := some record.name }

/-- The template of a record, which always has a title. -/
def resolve (record : Record) : Noted (Checked Template) := do
  return (← record.layout).map record.titled

end Record
end Paperwork
