/-
Templates compiled from schemas.

Where a template is not written by hand the schema says what the document shows, in
the order its properties are declared.  Values without parts gather into rows, a list
gets a list or a table of its own, and a group of fields gets a heading and then its
own fields.  Rows that have gathered are put out before anything else is.
-/
import Paperwork.Form.Schema.Basic
import Paperwork.Form.Title
import Paperwork.Template.Block

namespace Paperwork.Form

/-- The label of a property: its title, or one made from its key. -/
def label (key : String) (schema : Schema) : String :=
  match nonempty? schema.title with
  | some title => title
  | none => titleCase key

/-- The path to a property inside of the place that a path leads to. -/
def joinPath (path key : String) : String :=
  if path.isEmpty then key else path ++ "." ++ key

/-- A reference without a binding. -/
def pathTo (path : String) : Reference := ⟨none, some path⟩

/-- A reference to nothing. -/
def unbound : Reference := ⟨none, none⟩

/-- The block for the rows that have gathered, where there are any. -/
def rowsBlock (rows : List Row) : List Block :=
  if rows.isEmpty then [] else [.keyValueList ⟨rows, none⟩]

/-- The columns of a table of objects. -/
def columns (schema : Schema) : List Column :=
  schema.declared.map fun (key, property) => ⟨label key property, key⟩

/-- The block for a list: a table where the items are objects. -/
def listBlock (path : String) (items : Option Schema) : Block :=
  match items with
  | some schema =>
    if schema.type = some "object" then
      .table ⟨unbound, columns schema, some path, none, none, none, none⟩
    else .list ⟨unbound, [], false, some path, none, none⟩
  | none => .list ⟨unbound, [], false, some path, none, none⟩

/-- The level of the heading of a group that lies `depth` groups deep. -/
def headingLevel (depth : Nat) : Int := min (depth + 2) 6

/-- The blocks for properties, behind the rows that have gathered. -/
def blocks (path : String) (depth : Nat) (rows : List Row) : List (String × Schema) → List Block
  | [] => rowsBlock rows
  | (key, ⟨type, title, format, choices, items, properties, required⟩) :: rest =>
    let schema : Schema := ⟨type, title, format, choices, items, properties, required⟩
    let here := joinPath path key
    if type = some "array" then
      rowsBlock rows ++ listBlock here items :: blocks path depth [] rest
    else
      match properties with
      | some (property :: more) =>
        if type = some "object" then
          rowsBlock rows ++ .heading ⟨label key schema, headingLevel depth, none⟩
            :: (blocks here (depth + 1) [] (property :: more) ++ blocks path depth [] rest)
        else blocks path depth (rows ++ [⟨pathTo here, label key schema⟩]) rest
      | _ => blocks path depth (rows ++ [⟨pathTo here, label key schema⟩]) rest

/-- The template of a schema. -/
def template (schema : Schema) : Template :=
  ⟨schema.title, [], blocks "" 0 [] schema.declared⟩

end Paperwork.Form
