/-
The nodes that regions of a page become.
-/
import Paperwork.Document.Node
import Paperwork.Document.Reading
import Paperwork.Document.Region
import Paperwork.Html.Content

namespace Paperwork

open Paperwork.Text
open Paperwork.Html

/-- The text in a piece of HTML, on one line. -/
def inlineText (cs : List Char) : Except ReferenceTooLong String := do
  return String.ofList (← inlineContent cs)

/-- A paragraph for each paragraph in a piece of HTML. -/
def paragraphNodes (cs : List Char) : Except ReferenceTooLong (List Node) := do
  return (← contentParagraphs cs).map fun text => .paragraph (String.ofList text) false

/-! ### Tables -/

/-- The names of the tags of cells. -/
def cellNames : List (List Char) := [['t', 'd'], ['t', 'h']]

/-- Whether a cell is a header. -/
def isHeader (cell : Element) : Bool := lowerText cell.opening.name == ['t', 'h']

/-- The cells of a row. -/
def rowCells (cs : List Char) : Except ReferenceTooLong (List Cell) :=
  (matchesIn (elementAmong cellNames) cs).mapM fun cell => do
    return ⟨← inlineText cell.content, isHeader cell⟩

/-- The table in the content of a table element; rows without cells are left out. -/
def tableNode (cs : List Char) : Except ReferenceTooLong Node := do
  let rows ← (matchesIn (elementNamed ['t', 'r']) cs).mapM fun row => rowCells row.content
  return .table (rows.filter fun row => !row.isEmpty)

/-! ### Lists -/

/-- The name of the tag of an item. -/
def itemName : List Char := ['l', 'i']

/-- The opening tags of items. -/
def itemOpening : Pattern Unit := fun cs =>
  (opening? [itemName] cs).map fun tag => ((), tag.length)

/-- The contents of the items of a list: those that are closed, or, where none is, what
stands between the opening tags. -/
def itemBodies (cs : List Char) : List (List Char) :=
  match matchesIn (elementNamed itemName) cs with
  | [] => (between itemOpening cs).drop 1
  | items => items.map Element.content

/-- The items of a list, numbered from one. -/
def listNodes (ordered : Bool) (cs : List Char) : Except ReferenceTooLong (List Node) := do
  let texts ← (itemBodies cs).mapM inlineText
  return texts.zipIdx.map fun (text, i) => .listItem text ordered (i + 1)

/-! ### Images -/

/-- What stands for an image that cannot be shown. -/
def imagePlaceholder : String := "[Image]"

/-- The text between quotes that a text begins with. -/
def quotedValue? : List Char → Option (List Char)
  | q :: cs => if q = '"' ∨ q = '\'' then (upTo? q cs).map Prod.fst else none
  | [] => none

/-- The value of the source attribute that a text begins with. -/
def sourceValue? (cs : List Char) : Option (List Char) := do
  let rest ← behindName? caseFree ['s', 'r', 'c'] cs
  match rest.dropWhile isBlank with
  | '=' :: rest => quotedValue? (rest.dropWhile isBlank)
  | _ => none

/-- The value of the first source attribute in a tag; it begins where no word goes on. -/
def source? : Bool → List Char → Option (List Char)
  | _, [] => none
  | inWord, c :: cs =>
    match (if inWord then none else sourceValue? (c :: cs)) with
    | some value => some value
    | none => source? (isWordChar c) cs

/-- Whether a character may stand in the name of an image format. -/
def isFormatChar (c : Char) : Bool := isWordChar c || c == '.' || c == '+' || c == '-'

/-- An image written out in an address: its format, and its bytes in letters. -/
def embedded? (address : List Char) : Option (List Char × List Char) := do
  let rest ← behind? "data:".toList address
  let named ← behind? "image/".toList rest
  let (format, rest) := named.span isFormatChar
  let letters ← behind? ";base64,".toList rest
  if format.isEmpty then none else some ("image/".toList ++ format, letters)

/-- The image of an image tag. -/
def imageNode (tag : List Char) : Reading Node := do
  let address ←
    match source? false tag with
    | some value => Reading.ofText (unescape value)
    | none => pure []
  match embedded? (trimmed isBlank address) with
  | some (format, letters) =>
    match Base64.decode (words letters).flatten with
    | .ok data => return .image data (String.ofList (lowerText format))
    | .error _ => do
      Reading.note .imageUndecodable
      return .paragraph imagePlaceholder false
  | none => return .paragraph imagePlaceholder false

/-! ### Regions -/

/-- The level of a heading, which its name ends with. -/
def headingLevelOf (name : List Char) : Nat :=
  match name.getLast? with
  | some c => c.toNat - '0'.toNat
  | none => 0

/-- The nodes of a region. -/
def Region.nodes (region : Region) : Reading (List Node) :=
  match region.kind with
  | .table => do return [← Reading.ofText (tableNode region.inner)]
  | .heading => do
    return [.heading (← Reading.ofText (inlineText region.inner)) (headingLevelOf region.name)]
  | .list =>
    Reading.ofText (listNodes (lowerText region.name == ['o', 'l']) region.inner)
  | .image => do return [← imageNode region.tag]

end Paperwork
