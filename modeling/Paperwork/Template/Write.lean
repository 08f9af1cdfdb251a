/-
Templates written as data.

What a template does not have is left out; properties without a value stay in their
styles.  Reading the data gives the template back.
-/
import Paperwork.Data.Value
import Paperwork.Template.Block

namespace Paperwork

/-- A field for something that may be missing. -/
def fieldIf {α : Type} (key : String) (written : α → Value) : Option α → Fields
  | some a => [(key, written a)]
  | none => []

/-- The value of a style property. -/
def StyleValue.toValue : StyleValue → Value
  | .none => .null
  | .text s => .text s
  | .number n => .ofNumber n
  | .flag b => .bool b

/-- A style. -/
def Style.toValue (style : Style) : Value :=
  .object (style.map fun (name, value) => (name, value.toValue))

/-- The fields of a reference. -/
def Reference.toFields (r : Reference) : Fields :=
  fieldIf "bind" (fun b => .object (fieldIf "path" Value.text b.path)) r.binding
    ++ fieldIf "path" Value.text r.path

/-- A part of a line. -/
def Part.toValue (p : Part) : Value :=
  .object (p.reference.toFields ++ fieldIf "text" Value.text p.text)

/-- A column of a table. -/
def Column.toValue (c : Column) : Value :=
  .object [("header", .text c.header), ("path", .text c.path)]

/-- A labelled reference. -/
def Row.toValue (r : Row) : Value :=
  .object (r.reference.toFields ++ [("label", .text r.label)])

/-- An entry of a list. -/
def ListEntry.toValue : ListEntry → Value
  | .text s => .text s
  | .part p => p.toValue

/-- What a signature names. -/
def Naming.toValue : Naming → Value
  | .text s => .text s
  | .reference r => .object r.toFields

namespace Block

/-- The name of the type of a block. -/
def typeName : Block → String
  | heading _ => "heading"
  | paragraph _ => "paragraph"
  | line _ => "line"
  | list _ => "list"
  | table _ => "table"
  | keyValueTable _ => "keyValueTable"
  | keyValueList _ => "keyValueList"
  | divider _ => "divider"
  | spacer _ => "spacer"
  | signature _ => "signature"

/-- The field of a style. -/
def styleField (style : Option Style) : Fields := fieldIf "style" Style.toValue style

/-- The reference of a block, which is written in front of its type. -/
def reference? : Block → Option Reference
  | paragraph b => some b.reference
  | list b => some b.reference
  | table b => some b.reference
  | _ => none

/-- The fields of a block behind its type. -/
def ownFields : Block → Fields
  | heading b => [("text", .text b.text), ("level", .int b.level)] ++ styleField b.style
  | paragraph b => fieldIf "text" Value.text b.text ++ styleField b.style
  | line b => [("parts", .list (b.parts.map Part.toValue))] ++ styleField b.style
  | list b =>
    [("items", .list (b.entries.map ListEntry.toValue)), ("ordered", .bool b.ordered)]
      ++ fieldIf "dataPath" Value.text b.dataPath
      ++ fieldIf "sourcePath" Value.text b.sourcePath ++ styleField b.style
  | table b =>
    [("columns", .list (b.columns.map Column.toValue))]
      ++ fieldIf "dataPath" Value.text b.dataPath
      ++ fieldIf "sourcePath" Value.text b.sourcePath ++ styleField b.style
      ++ fieldIf "headerStyle" Style.toValue b.headerStyle
      ++ fieldIf "cellStyle" Style.toValue b.cellStyle
  | keyValueTable b => [("rows", .list (b.rows.map Row.toValue))] ++ styleField b.style
  | keyValueList b => [("rows", .list (b.rows.map Row.toValue))] ++ styleField b.style
  | divider style => styleField style
  | spacer size => [("size", .ofNumber size)]
  | signature b =>
    fieldIf "name" Naming.toValue b.name ++ fieldIf "title" Naming.toValue b.title
      ++ [("showRegards", .bool b.showRegards)] ++ styleField b.style

/-- A block. -/
def toValue (b : Block) : Value :=
  .object ((b.reference?.map Reference.toFields).getD []
    ++ [("type", .text b.typeName)] ++ b.ownFields)

end Block

/-- A style sheet. -/
def StyleSheet.toValue (sheet : StyleSheet) : Value :=
  .object (sheet.map fun (name, style) => (name, style.toValue))

/-- A template. -/
def Template.toValue (t : Template) : Value :=
  .object (fieldIf "title" Value.text t.title
    ++ [("styles", t.styles.toValue), ("blocks", .list (t.blocks.map Block.toValue))])

end Paperwork
