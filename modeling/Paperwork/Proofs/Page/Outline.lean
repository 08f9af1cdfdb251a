/-
What a template stands for.

Every block stands for some nodes of a document: they hold the texts that the block is
filled with, and tell nothing of how it looks but whether it is bold.  Words are set apart
by single spaces, and a paragraph has its lines that are not blank.
-/
import Paperwork.Page.Document
import Paperwork.Proofs.Document.Bold
import Paperwork.Proofs.Document.Regions

namespace Paperwork

open Paperwork.Text
open Paperwork.Html

/-- A paragraph of the lines of a text that are not blank. -/
def Node.lines (text : String) (attributes : Attributes) : Node :=
  .paragraph (String.ofList (joined ['\n'] (visibleLines text.toList))) (isBold attributes)

namespace Fill

/-- The nodes of a row of a labelled list: its label and its value. -/
def entryNodes (context : Context) (r : Row) : Except FillError (List Node) := do
  let text ← shownAt context.data r.reference.target?
  return [.lines r.label (attributesOf context "kvLabel"),
    .lines text (attributesOf context "kvValue")]

/-- The cells of a row of a table. -/
def valueCells (columns : List Column) (row : Value) : Except FillError (List Cell) := do
  let texts ← columns.mapM fun column => shownAt row (some column.path)
  return texts.map fun text => ⟨oneLine text, false⟩

/-- The cells of a row of a labelled table: its label and its value. -/
def labelledCells (context : Context) (r : Row) : Except FillError (List Cell) := do
  let text ← shownAt context.data r.reference.target?
  return [⟨oneLine r.label, true⟩, ⟨oneLine text, false⟩]

/-- The nodes that a block stands for. -/
def nodes (context : Context) : Block → Except FillError (List Node)
  | .heading b => do
    return [.heading (oneLine (← filled context b.text)) b.level]
  | .paragraph b => do
    let text ←
      match b.text with
      | some text => filled context text
      | none => shownAt context.data b.reference.target?
    return [.lines text (attributesFor context b.style "paragraph")]
  | .line b => do
    let parts ← b.parts.mapM (part context)
    return [.lines (String.intercalate " " (parts.map Value.display))
      (attributesFor context b.style "line")]
  | .list b => do
    let texts ← items context b
    return texts.zipIdx.map fun (text, i) => .listItem (oneLine text) b.ordered (i + 1)
  | .table b => do
    let rows ← rows context b
    let body ← rows.mapM (valueCells b.columns)
    let header := b.columns.map fun column => ⟨oneLine column.header, true⟩
    return [.table (if b.columns.isEmpty then [] else header :: body)]
  | .keyValueTable b => do return [.table (← b.rows.mapM (labelledCells context))]
  | .keyValueList b => do
    let entries ← b.rows.mapM (entryNodes context)
    return if b.rows.isEmpty then [.lines "" (attributesFor context b.style "kvList")]
      else entries.flatten
  | .divider _ => return []
  | .spacer _ => return [.paragraph "" false]
  | .signature b => do
    let name ← named context b.name
    let title ← named context b.title
    return (if b.showRegards then [.paragraph "Regards," false] else [])
      ++ .paragraph (String.ofList (joined ['\n'] (visibleLines name.toList))) true
        :: (if title.isEmpty then [] else [.lines title []])

end Fill

/-- A block that stands for nothing. -/
def Block.isDivider : Block → Bool
  | divider _ => true
  | _ => false

/-- **The document that a template stands for with some data.**  A template without blocks,
or with dividers only, stands for one empty paragraph: the page itself. -/
def Template.outline (t : Template) (data : Fields) : Except FillError (List Node) := do
  let nodes ← t.blocks.mapM (Fill.nodes ⟨t.styles.resolved, .object data.rehydrate⟩)
  return if t.blocks.all Block.isDivider
    then [.lines "" (Fill.styleAttribute (t.styles.resolved.lookup "document"))]
    else nodes.flatten

end Paperwork
