/-
The outline of a word processor document.

An outline holds what a document says and how it is styled, and leaves out how that is
packed into a file.  Lengths are in English metric units, of which an inch has 914400.
-/
import Paperwork.Data.Value

namespace Paperwork.Word

/-- The styles of paragraphs. -/
inductive ParagraphStyle
  | normal
  | title
  | heading (level : Nat)
  | bulletedItem
  | numberedItem
  deriving DecidableEq, Repr, Inhabited

/-- The name that a style is listed under. -/
def ParagraphStyle.name : ParagraphStyle → String
  | normal => "Normal"
  | title => "Title"
  | heading level => "Heading " ++ toString level
  | bulletedItem => "List Bullet"
  | numberedItem => "List Number"

/-- Text in one style. -/
structure TextRun where
  text : String
  bold : Bool
  deriving DecidableEq, Repr, Inhabited

/-- The width and height of a picture. -/
structure Extent where
  width : Int
  height : Int
  deriving DecidableEq, Repr, Inhabited

/-- An instance of a numbering scheme: the id it goes by, its scheme, and the number that it
begins with if it does not go on counting. -/
structure ListInstance where
  id : Nat
  scheme : Nat
  restart : Option Nat
  deriving DecidableEq, Repr, Inhabited

/-- A paragraph; `list` is the id of the instance that it is counted by. -/
structure Paragraph where
  style : ParagraphStyle
  runs : List TextRun
  list : Option Nat
  picture : Option Extent
  deriving DecidableEq, Repr, Inhabited

/-- A paragraph of nothing but runs. -/
def Paragraph.ofRuns (style : ParagraphStyle) (runs : List TextRun) : Paragraph :=
  ⟨style, runs, none, none⟩

/-- A part of a document.  A cell of a table holds one paragraph. -/
inductive Part
  | paragraph (p : Paragraph)
  | table (rows : List (List Paragraph))
  deriving DecidableEq, Repr, Inhabited

/-- An inch. -/
def inch : Int := 914400

/-- A point. -/
def point : Int := 12700

/-- A document: its parts, its title, the font of normal text and its size in half
points, and the instances that its numbered lists are counted by. -/
structure Outline where
  body : List Part
  title : String
  font : String
  halfPoints : Int
  instances : List ListInstance
  deriving DecidableEq, Repr, Inhabited

/-- The ids of the instances that the paragraphs of a part are counted by. -/
def Part.lists : Part → List Nat
  | paragraph p => p.list.toList
  | table rows => rows.flatten.filterMap Paragraph.list

/-- The ids of the instances in use, in the order in which paragraphs need them. -/
def Outline.lists (outline : Outline) : List Nat := (outline.body.flatMap Part.lists).eraseDups

/-! ### Outlines as values -/

/-- A run as a value. -/
def TextRun.toValue (run : TextRun) : Value :=
  .object [("text", .text run.text), ("bold", if run.bold then .bool true else .null)]

/-- A paragraph as a value; instances are told by their places among `lists`. -/
def Paragraph.toValue (lists : List Nat) (p : Paragraph) : Value :=
  .object ([("p", .text p.style.name), ("runs", .list (p.runs.map TextRun.toValue))]
    ++ (p.list.toList.map fun id => ("num", .int (lists.idxOf id + 1 : Nat)))
    ++ (p.picture.toList.map fun e => ("image", .list [.int e.width, .int e.height])))

/-- A part as a value. -/
def Part.toValue (lists : List Nat) : Part → Value
  | paragraph p => p.toValue lists
  | table rows =>
    .object [("table", .list (rows.map fun row =>
        .list (row.map fun cell => .list [cell.toValue lists]))),
      ("style", .text "Table Grid")]

/-- A document as a value.  It has one section with margins of an inch all around. -/
def Outline.toValue (outline : Outline) : Value :=
  .object [("body", .list (outline.body.map (Part.toValue outline.lists))),
    ("title", .text outline.title), ("sections", .int 1),
    ("margins", .list (List.replicate 4 (.int inch))), ("font", .text outline.font),
    ("half_points", .list [.text (toString outline.halfPoints)])]

end Paperwork.Word
