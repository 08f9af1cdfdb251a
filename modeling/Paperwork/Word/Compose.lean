/-
Documents composed for a word processor.

Every node becomes one part, or none if it is a table without columns, or two if it is
a picture that is not recognised.  Texts, the title and the name of the font must not
hold characters that XML forbids.
-/
import Paperwork.Document.Node
import Paperwork.Notice
import Paperwork.Picture.Measure
import Paperwork.Settings.Basic
import Paperwork.Word.Numbering

namespace Paperwork.Word

/-- Why a document cannot be composed. -/
inductive ComposeError
  | forbiddenCharacter (c : Char)
  | titleTooLong (length : Nat)
  | sizeNotANumber
  | sizeInfinite
  | sizeTooLarge (units : Int)
  | headingLevel (level : Int)
  | picture (cause : Picture.MeasureError)
  | pictureWithoutResolution
  | pictureTooLarge (extent : Extent)
  deriving DecidableEq, Repr

/-- Composing: it may fail, and gives notice of what it leaves out. -/
abbrev Composing (α : Type) := ExceptT ComposeError Noted α

/-! ### Text -/

/-- Whether XML forbids a character. -/
def isForbidden (c : Char) : Bool :=
  let code := c.toNat
  (code < 0x20 && code != 0x09 && code != 0x0A && code != 0x0D) || code == 0xFFFE || code == 0xFFFF

/-- A text without forbidden characters. -/
def allowed (text : String) : Except ComposeError String :=
  match text.toList.find? isForbidden with
  | some c => .error (.forbiddenCharacter c)
  | none => .ok text

/-- A text in which every line break is a line feed. -/
def withBreaks (text : String) : String :=
  String.ofList (text.toList.map fun c => if c = '\r' then '\n' else c)

/-- A run of text. -/
def run (text : String) (bold : Bool) : Except ComposeError TextRun := do
  return ⟨withBreaks (← allowed text), bold⟩

/-- The runs of a text: none if it is empty. -/
def runs (text : String) : Except ComposeError (List TextRun) :=
  if text.isEmpty then .ok [] else (run text false).map fun r => [r]

/-! ### Head of the document -/

/-- The greatest length of a title. -/
def longestTitle : Nat := 255

/-- The title of a document. -/
def checkTitle (title : String) : Except ComposeError String :=
  if longestTitle < title.length then .error (.titleTooLong title.length) else allowed title

/-- A number in double precision. -/
def toDouble : Number → Binary64
  | .int n => Binary64.ofInt n
  | .float x => x

/-- The greatest font size, in units of length. -/
def greatestSize : Int := 0xFFFFFFFFFFFFFFFF

/-- A font size in half points, given in points.  Each step drops what is left of a
unit. -/
def halfPoints (size : Number) : Except ComposeError Int :=
  match (toDouble size).mul (Binary64.ofInt point) with
  | .nan => .error .sizeNotANumber
  | .infinite _ => .error .sizeInfinite
  | exact =>
    let units := (exact.truncate?).getD 0
    let points := (Binary64.ofInt units).div (Binary64.ofInt point)
    if greatestSize < units then .error (.sizeTooLarge units)
    else .ok (((points.mul (Binary64.ofInt 2)).truncate?).getD 0)

/-! ### Headings -/

/-- The style of a heading; level zero is the title. -/
def headingStyle (level : Int) : Except ComposeError ParagraphStyle :=
  if level = 0 then .ok .title
  else if 0 < level ∧ level ≤ 9 then .ok (.heading level.toNat)
  else .error (.headingLevel level)

/-! ### Tables -/

/-- The paragraph in a cell. -/
def cellParagraph (cell : Cell) : Except ComposeError Paragraph := do
  return .ofRuns .normal [← run cell.text cell.header]

/-- A row of a table, filled up with empty cells. -/
def tableRow (columns : Nat) (row : List Cell) : Except ComposeError (List Paragraph) := do
  let cells ← row.mapM cellParagraph
  return cells ++ List.replicate (columns - row.length) (.ofRuns .normal [])

/-- A table, unless it has no columns. -/
def tableParts (rows : List (List Cell)) : Except ComposeError (List Part) :=
  match columnCount rows with
  | 0 => .ok []
  | columns => do return [.table (← rows.mapM (tableRow columns))]

/-! ### Pictures -/

/-- The greatest width of a picture: six inches. -/
def widest : Int := 6 * inch

/-- A length of so many pixels, of which `resolution` make an inch. -/
def lengthOf (pixels resolution : Nat) : Int :=
  let inches := Binary64.ofRatio false pixels resolution
  ((inches.mul (Binary64.ofInt inch)).truncate?).getD 0

/-- The extent of a picture at its own resolution. -/
def fullExtent (m : Picture.Measures) : Extent :=
  ⟨lengthOf m.width m.across, lengthOf m.height m.down⟩

/-- The greatest width and height that a picture can have before it is shrunk. -/
def longestSide : Int := 27273042316900

/-- An extent that is shrunk where it is too wide, and keeps its shape. -/
def Extent.shrunk (extent : Extent) : Extent :=
  if widest < extent.width then
    let height := Binary64.ofRatio false (extent.height * widest).natAbs extent.width.natAbs
    ⟨widest, (height.truncate?).getD 0⟩
  else extent

/-- The extent that a picture is shown in. -/
def extent (m : Picture.Measures) : Except ComposeError Extent :=
  if m.across = 0 ∨ m.down = 0 then .error .pictureWithoutResolution
  else
    let full := fullExtent m
    if longestSide < full.width ∨ longestSide < full.height then .error (.pictureTooLarge full)
    else .ok full.shrunk

/-- The text in place of a picture. -/
def picturePlaceholder : String := "[Image]"

/-- The parts for a picture.  Of one that is not recognised an empty paragraph is left,
and a text stands in for it. -/
def pictureParts (data : List UInt8) (mimeType : String) : Composing (List Part) :=
  match Picture.measure data with
  | .ok m => do return [.paragraph ⟨.normal, [], none, some (← extent m)⟩]
  | .error .unrecognized => do
    ExceptT.lift (Noted.note (.imageUnsupported mimeType))
    return [.paragraph (.ofRuns .normal [⟨"", false⟩]),
      .paragraph (.ofRuns .normal [⟨picturePlaceholder, false⟩])]
  | .error cause => throw (.picture cause)

/-! ### Documents -/

/-- The parts for a node.  A numbered item is counted by the instance with the id `list`, if
it is counted. -/
def parts (list : Option Nat) : Node → Composing (List Part)
  | .heading text level => do
    let style ← headingStyle level
    return [.paragraph (.ofRuns style (← runs text))]
  | .paragraph text bold => do
    return [.paragraph (.ofRuns .normal [← run text bold])]
  | .listItem text ordered _ => do
    let runs ← runs text
    if ordered then return [.paragraph ⟨.numberedItem, runs, list, none⟩]
    else return [.paragraph (.ofRuns .bulletedItem runs)]
  | .table rows => tableParts rows
  | .image data mimeType => pictureParts data mimeType

/-- The parts for nodes, before which numbering has come as far as `numbering`. -/
def bodyFrom (template : ListTemplate) (numbering : Numbering) : List Node → Composing (List Part)
  | [] => return []
  | node :: nodes => do
    let numbering := numbering.upTo template node
    return (← parts numbering.current node) ++ (← bodyFrom template numbering nodes)

/-- A document composed of nodes, begun from a template. -/
def composeFrom (template : ListTemplate) (nodes : List Node) (settings : Settings)
    (title : String) : Composing Outline := do
  let font ← allowed settings.fontName
  let halfPoints ← halfPoints settings.fontSize
  let title ← checkTitle title
  let body ← bodyFrom template .none nodes
  let instances := (nodes.foldl (Numbering.upTo template) .none).added
  return { body, title, font, halfPoints, instances }

/-- A document composed of nodes.  As outlines tell instances by their places, any template
that gives out ids of its own serves. -/
def compose (nodes : List Node) (settings : Settings) (title : String) : Composing Outline :=
  composeFrom .plain nodes settings title

end Paperwork.Word
