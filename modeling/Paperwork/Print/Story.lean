/-
Documents as they flow onto printed pages.

A story is a row of blocks that a printer sets one below the other, breaking pages
where it has to.
-/
import Paperwork.Document.Node
import Paperwork.Notice
import Paperwork.Picture.Measure
import Paperwork.Text.Words

namespace Paperwork.Print

open Paperwork.Text

/-- The styles of printed paragraphs. -/
inductive ParagraphStyle
  | normal
  | heading (level : Nat)
  | listItem
  deriving DecidableEq, Repr, Inhabited

/-- The name that a style is listed under. -/
def ParagraphStyle.name : ParagraphStyle → String
  | normal => "Normal"
  | heading level => "Heading" ++ toString level
  | listItem => "FormdocListItem"

/-- A paragraph, with what stands before it if it is an item of a list. -/
structure Paragraph where
  style : ParagraphStyle
  text : String
  bold : Bool
  bullet : Option String
  deriving DecidableEq, Repr, Inhabited

/-- A block of a story.  A table with a header repeats it on every page. -/
inductive Block
  | paragraph (p : Paragraph)
  | spacer (height : Nat)
  | table (rows : List (List String)) (headed : Bool)
  | picture (width height : Binary64)
  deriving DecidableEq, Repr, Inhabited

/-! ### Text -/

/-- Whether a character is a blank at which a line may be broken. -/
def isBreakable (c : Char) : Bool := isBlank c && c != '\n' && c != '\u00A0'

/-- A text as it is set: its words with single spaces between them.  A line feed counts
as part of a word. -/
def setText (text : String) : String :=
  let words := (splitWhere isBreakable text.toList).filter fun word => !word.isEmpty
  String.ofList (joined [' '] words)

/-- A paragraph of a text; there is no bold text where there is none at all. -/
def Paragraph.ofText (style : ParagraphStyle) (text : String) (bold : Bool)
    (bullet : Option String) : Paragraph :=
  let text := setText text
  ⟨style, text, bold && !text.isEmpty, bullet⟩

/-! ### Blocks for nodes -/

/-- Why a story cannot be told: there is no style for headings of a level, or a picture
has too many pixels. -/
inductive StoryError
  | unknownLevel (level : Int)
  | tooManyPixels (width height : Nat)
  deriving DecidableEq, Repr

/-- Making a story: it may fail, and gives notice of what it leaves out. -/
abbrev Telling (α : Type) := ExceptT StoryError Noted α

/-- The style of a heading. -/
def headingStyle (level : Int) : Except StoryError ParagraphStyle :=
  if 1 ≤ level ∧ level ≤ 6 then .ok (.heading level.toNat) else .error (.unknownLevel level)

/-- What stands before an item of a list. -/
def bullet (ordered : Bool) (index : Int) : String := if ordered then toString index ++ "." else "•"

/-- A row of a table, filled up with empty cells. -/
def tableRow (columns : Nat) (row : List Cell) : List String :=
  (row.map fun cell => setText cell.text) ++ List.replicate (columns - row.length) ""

/-- Whether the first row of a table is its header. -/
def isHeaded (rows : List (List Cell)) : Bool :=
  match rows with
  | [] => false
  | row :: _ => row.all Cell.header

/-- The blocks for a table, unless it has no columns. -/
def tableBlocks (rows : List (List Cell)) : List Block :=
  match columnCount rows with
  | 0 => []
  | columns => [.table (rows.map (tableRow columns)) (isHeaded rows), .spacer 10]

/-- How far a picture is shrunk to fit between margins. -/
def scale (available : Binary64) (width : Nat) : Binary64 :=
  let ratio := available.div (Binary64.ofInt width)
  if width ≠ 0 ∧ ratio.below Binary64.one then ratio else Binary64.one

/-- The text in place of a picture. -/
def picturePlaceholder : String := "[Image]"

/-- The block for a picture, or for the text in place of one that is not sound. -/
def pictureBlock (available : Binary64) (data : List UInt8) (mimeType : String) : Telling Block :=
  match Picture.shownSize data with
  | .ok (width, height) =>
    let s := scale available width
    return .picture ((Binary64.ofInt width).mul s) ((Binary64.ofInt height).mul s)
  | .error .unreadable => do
    ExceptT.lift (Noted.note (.imageUnreadable mimeType))
    return .paragraph (.ofText .normal picturePlaceholder false none)
  | .error (.tooManyPixels width height) => throw (.tooManyPixels width height)

/-- The blocks for a node. -/
def blocks (available : Binary64) : Node → Telling (List Block)
  | .heading text level => do
    return [.paragraph (.ofText (← headingStyle level) text true none)]
  | .paragraph text bold => return [.paragraph (.ofText .normal text bold none), .spacer 6]
  | .listItem text ordered index =>
    return [.paragraph (.ofText .listItem text false (some (bullet ordered index)))]
  | .table rows => return tableBlocks rows
  | .image data mimeType => do return [← pictureBlock available data mimeType]

/-- The blocks for nodes, one after another. -/
def blocksOf (available : Binary64) : List Node → Telling (List Block)
  | [] => return []
  | node :: nodes => do return (← blocks available node) ++ (← blocksOf available nodes)

/-- The story of a document, told between margins that leave `available` points.  It is
never empty. -/
def story (available : Binary64) (nodes : List Node) : Telling (List Block) := do
  match ← blocksOf available nodes with
  | [] => return [.spacer 1]
  | told => return told

/-! ### Blocks as values -/

/-- A block as a value. -/
def Block.toValue : Block → Value
  | paragraph p =>
    .object [("p", .text p.style.name), ("text", .text p.text), ("bold", .bool p.bold),
      ("bullet", .ofText? p.bullet)]
  | spacer height => .object [("spacer", .int height)]
  | table rows headed =>
    let marked : Value := .int (if headed then 1 else 0)
    .object [("table", .list (rows.map fun row => .list (row.map .text))),
      ("repeat_rows", marked), ("background", marked)]
  | picture width height => .object [("image", .list [.float width, .float height])]

end Paperwork.Print
