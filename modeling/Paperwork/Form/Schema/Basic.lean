/-
Form schemas.

A schema describes the fields of a form: what type each has, how it is titled, which
must be filled in.  Fields may have fields of their own, and lists have a schema for
their items.
-/
import Paperwork.Data.Value

namespace Paperwork

/-- A form schema. -/
structure Schema where
  type : Option String
  title : Option String
  format : Option String
  choices : Option (List Value)
  items : Option Schema
  properties : Option (List (String × Schema))
  required : List String
  deriving Inhabited

namespace Schema

/-- The fields of a schema that are not schemas themselves. -/
structure Header where
  type : Option String
  title : Option String
  format : Option String
  choices : Option (List Value)
  required : List String
  deriving Inhabited

/-- A schema from its own fields and the schemas in it. -/
def ofHeader (header : Header) (items : Option Schema)
    (properties : Option (List (String × Schema))) : Schema :=
  { type := header.type
    title := header.title
    format := header.format
    choices := header.choices
    items := items
    properties := properties
    required := header.required }

/-- The declared properties, none where no properties are given. -/
def declared (schema : Schema) : List (String × Schema) := schema.properties.getD []

end Schema
end Paperwork
