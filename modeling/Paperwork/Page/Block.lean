/-
Blocks filled with data, as HTML.

Every block becomes one element.  It has the style of its own, or else that of its
kind of element.
-/
import Paperwork.Html.Markup
import Paperwork.Page.Placeholder
import Paperwork.Template.Block

namespace Paperwork

open Paperwork.Html (Markup Attributes)

/-- Why a template cannot be filled. -/
inductive FillError
  | path (cause : PathError)
  | spacerTooLarge
  deriving DecidableEq, Repr

namespace Fill

/-- What is needed to fill a block: the styles that apply, and the data. -/
structure Context where
  sheet : StyleSheet
  data : Value

/-- What a path leads to. -/
def at? (value : Value) (path : Option String) : Except FillError Value :=
  (value.at? path).mapError .path

/-- What a path leads to, as it is shown. -/
def shownAt (value : Value) (path : Option String) : Except FillError String := do
  return (← at? value path).display

/-- A text with its placeholders filled. -/
def filled (context : Context) (text : String) : Except FillError String :=
  (Placeholder.filled text context.data).mapError .path

/-! ### Styles -/

/-- The style attribute, unless it would be empty. -/
def styleAttribute (style : Option Style) : Attributes :=
  match style with
  | some style =>
    let css := style.css
    if css.isEmpty then [] else [("style", css)]
  | none => []

/-- The style attribute of a kind of element. -/
def attributesOf (context : Context) (element : String) : Attributes :=
  styleAttribute (context.sheet.lookup element)

/-- The style attribute of a block: its own style, or that of its kind of element. -/
def attributesFor (context : Context) (own : Option Style) (element : String) : Attributes :=
  match own.bind Style.nonempty? with
  | some style => styleAttribute (some style)
  | none => attributesOf context element

/-! ### Pieces -/

/-- An element that holds a text. -/
def leaf (tag : String) (attributes : Attributes) (text : String) : Markup :=
  .element tag attributes [.text text]

/-- A class attribute. -/
def classed (name : String) (attributes : Attributes) : Attributes :=
  ("class", name) :: attributes

/-! ### Blocks -/

/-- A heading. -/
def heading (context : Context) (b : HeadingBlock) : Except FillError Markup := do
  let attributes := styleAttribute (context.sheet.heading? b.level b.style)
  return leaf ("h" ++ toString b.level) attributes (← filled context b.text)

/-- A paragraph. -/
def paragraph (context : Context) (b : ParagraphBlock) : Except FillError Markup := do
  let text ←
    match b.text with
    | some text => filled context text
    | none => shownAt context.data b.reference.target?
  return leaf "p" (attributesFor context b.style "paragraph") text

/-- A part: what its reference leads to, or its own text where it leads nowhere. -/
def part (context : Context) (p : Part) : Except FillError Value :=
  match p.reference.target? with
  | some path => at? context.data (some path)
  | none => .ok (.text (p.text.getD ""))

/-- A line. -/
def line (context : Context) (b : LineBlock) : Except FillError Markup := do
  let parts ← b.parts.mapM (part context)
  let text := String.intercalate " " (parts.map Value.display)
  return leaf "div" (attributesFor context b.style "line") text

/-- The texts that an entry of a list stands for. -/
def entry (context : Context) : ListEntry → Except FillError (List String)
  | .text s => do return [← filled context s]
  | .part p => do
    match ← part context p with
    | .list items => return items.map Value.display
    | value => return [value.display]

/-- The texts of the items of a list. -/
def items (context : Context) (b : ListBlock) : Except FillError (List String) := do
  match b.itemsPath? with
  | some path =>
    match ← at? context.data (some path) with
    | .list items => return items.map Value.display
    | _ => return []
  | none => return (← b.entries.mapM (entry context)).flatten

/-- A list. -/
def list (context : Context) (b : ListBlock) : Except FillError Markup := do
  let texts ← items context b
  let attributes := attributesOf context "listItem"
  return .element (if b.ordered then "ol" else "ul") (attributesFor context b.style "list")
    (texts.map (leaf "li" attributes))

/-- The rows of a table: the items of a list, or the data where no path is given. -/
def rows (context : Context) (b : TableBlock) : Except FillError (List Value) := do
  match b.itemsPath? with
  | some path =>
    match ← at? context.data (some path) with
    | .list items => return items
    | _ => return []
  | none => return [context.data]

/-- The attributes of cells of a kind in a table that may style them itself. -/
def cellAttributes (context : Context) (own : Option Style) (element : String) : Attributes :=
  attributesFor context own element

/-- A row of a table. -/
def tableRow (attributes : Attributes) (columns : List Column) (row : Value) :
    Except FillError Markup := do
  let cells ← columns.mapM fun column => shownAt row (some column.path)
  return .element "tr" [] (cells.map (leaf "td" attributes))

/-- A table. -/
def table (context : Context) (b : TableBlock) : Except FillError Markup := do
  let rows ← rows context b
  let headers := b.columns.map fun column =>
    leaf "th" (cellAttributes context b.headerStyle "th") column.header
  let body ← rows.mapM (tableRow (cellAttributes context b.cellStyle "td") b.columns)
  return .element "table" (attributesFor context b.style "table")
    [.element "thead" [] [.element "tr" [] headers], .element "tbody" [] body]

/-- A labelled value in a table. -/
def labelledRow (context : Context) (r : Row) : Except FillError Markup := do
  let text ← shownAt context.data r.reference.target?
  return .element "tr" []
    [leaf "th" (attributesOf context "th") r.label, leaf "td" (attributesOf context "td") text]

/-- Labelled values as a table. -/
def keyValueTable (context : Context) (b : RowsBlock) : Except FillError Markup := do
  let rows ← b.rows.mapM (labelledRow context)
  return .element "table" (attributesFor context b.style "table") [.element "tbody" [] rows]

/-- A labelled value in a list. -/
def labelledEntry (context : Context) (r : Row) : Except FillError Markup := do
  let text ← shownAt context.data r.reference.target?
  return .element "div" (classed "kv-row" (attributesOf context "kvRow"))
    [leaf "div" (classed "kv-label" (attributesOf context "kvLabel")) r.label,
     leaf "div" (classed "kv-value" (attributesOf context "kvValue")) text]

/-- Labelled values as a list. -/
def keyValueList (context : Context) (b : RowsBlock) : Except FillError Markup := do
  let rows ← b.rows.mapM (labelledEntry context)
  return .element "div" (classed "kv-list" (attributesFor context b.style "kvList")) rows

/-- Whether a size is too large to be a number of double precision. -/
def isTooLarge : Number → Bool
  | .int n =>
    match Binary64.ofInt n with
    | .infinite _ => true
    | _ => false
  | .float _ => false

/-- A spacer of a height in pixels. -/
def spacer (size : Number) : Except FillError Markup :=
  if isTooLarge size then .error .spacerTooLarge
  else .ok (.element "div" [("style", "height:" ++ size.shown ++ "px")] [])

/-- What a signature names. -/
def named (context : Context) : Option Naming → Except FillError String
  | some (.text s) => .ok s
  | some (.reference r) => shownAt context.data r.target?
  | none => .ok ""

/-- A signature. -/
def signature (context : Context) (b : SignatureBlock) : Except FillError Markup := do
  let name ← named context b.name
  let title ← named context b.title
  let greeting := if b.showRegards then [leaf "div" [] "Regards,"] else []
  let titled := if title.isEmpty then [] else [leaf "div" [] title]
  return .element "div" (attributesFor context b.style "signature")
    (greeting ++ leaf "div" [("style", "margin-top:12px;font-weight:600;")] name :: titled)

/-- A block. -/
def block (context : Context) : Block → Except FillError Markup
  | .heading b => heading context b
  | .paragraph b => paragraph context b
  | .line b => line context b
  | .list b => list context b
  | .table b => table context b
  | .keyValueTable b => keyValueTable context b
  | .keyValueList b => keyValueList context b
  | .divider style => .ok (.void "hr" (attributesFor context style "divider"))
  | .spacer size => spacer size
  | .signature b => signature context b

end Fill
end Paperwork
