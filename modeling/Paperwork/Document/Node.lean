/-
Documents as word processors know them.

A document is a row of nodes: paragraphs, headings, items of lists, tables, images.
-/
import Paperwork.Data.Value
import Paperwork.Text.Base64

namespace Paperwork

/-- A cell of a table. -/
structure Cell where
  text : String
  header : Bool
  deriving DecidableEq, Repr, Inhabited

/-- A node of a document. -/
inductive Node
  | paragraph (text : String) (bold : Bool)
  | heading (text : String) (level : Int)
  | listItem (text : String) (ordered : Bool) (index : Int)
  | table (rows : List (List Cell))
  | image (data : List UInt8) (mimeType : String)
  deriving DecidableEq, Repr, Inhabited

/-- The number of columns of a table: as many as its longest row has cells. -/
def columnCount (rows : List (List Cell)) : Nat := rows.foldl (fun n row => max n row.length) 0

/-- A cell as a value. -/
def Cell.toValue (cell : Cell) : Value :=
  .object [("text", .text cell.text), ("header", .bool cell.header)]

/-- A node as a value, the bytes of an image in letters that are safe in addresses. -/
def Node.toValue : Node → Value
  | paragraph text bold =>
    .object [("kind", .text "paragraph"), ("text", .text text), ("bold", .bool bold)]
  | heading text level =>
    .object [("kind", .text "heading"), ("text", .text text), ("level", .int level)]
  | listItem text ordered index =>
    .object [("kind", .text "listItem"), ("text", .text text), ("ordered", .bool ordered),
      ("index", .int index)]
  | table rows =>
    .object [("kind", .text "table"),
      ("rows", .list (rows.map fun row => .list (row.map Cell.toValue)))]
  | image data mimeType =>
    .object [("kind", .text "image"),
      ("data", .text (String.ofList (Base64.encode Base64.safeAlphabet data))),
      ("mime_type", .text mimeType)]

end Paperwork
