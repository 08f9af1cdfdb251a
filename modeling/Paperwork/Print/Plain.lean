/-
Plain text on pages.

Lines that are too long are wrapped between words.  They are set from the top of a page
downwards, and a new page begins where the next line would stand below the margin.
Lengths are in points; a page is 612 wide and 792 high.
-/
import Paperwork.Data.Value
import Paperwork.Print.FontWidth
import Paperwork.Text.Lines

namespace Paperwork.Print

open Paperwork.Text

/-- The size of the font. -/
def fontSize : Nat := 12

/-- The distance between lines. -/
def leading : Int := 14

/-- The margin on all sides. -/
def margin : Int := 50

/-- Where the first line of a page stands, measured from its lower end. -/
def top : Int := 792 - margin

/-- The width that is left for text. -/
def available : Nat := 612 - 2 * 50

/-- Whether a width in thousandths of the font size fits between the margins. -/
def fits (width : Nat) : Bool := width * fontSize ≤ available * 1000

/-! ### Wrapping -/

/-- The words of a line and of the lines after it.  The line begins with `line`, which is
not empty and has a width of `width`; a word goes to the next line if it does not fit. -/
def wrapFrom (line : List (List Char)) (width : Nat) : List (List Char) → List (List (List Char))
  | [] => [line]
  | word :: words =>
    let wider := width + charWidth ' ' + textWidth word
    if fits wider then wrapFrom (line ++ [word]) wider words
    else line :: wrapFrom [word] (textWidth word) words

/-- Words wrapped into lines.  A word that is too long stands alone. -/
def wrapWords : List (List Char) → List (List (List Char))
  | [] => []
  | word :: words => wrapFrom [word] (textWidth word) words

/-- A line wrapped into lines; a blank one gives an empty one. -/
def wrapped (line : List Char) : List (List Char) :=
  match wrapWords (words line) with
  | [] => [[]]
  | lines => lines.map (joined [' '])

/-- The lines of a text, wrapped.  A text without lines has an empty one. -/
def printedLines (text : List Char) : List (List Char) :=
  match lines text with
  | [] => [[]]
  | lines => lines.flatMap wrapped

/-! ### Pages -/

/-- A line at its place, measured from the left and lower ends of the page. -/
structure PlacedLine where
  across : Int
  up : Int
  text : String
  deriving DecidableEq, Repr

/-- A page of lines. -/
abbrev Page := List PlacedLine

/-- A line at its place as a value. -/
def PlacedLine.toValue (line : PlacedLine) : Value :=
  .list [.float (Binary64.ofInt line.across), .float (Binary64.ofInt line.up), .text line.text]

/-- A page as a value. -/
def Page.toValue (page : Page) : Value := .list (page.map PlacedLine.toValue)

/-- Lines set from `up` downwards: what comes on the present page, and the pages after
it. -/
def placeFrom (up : Int) : List (List Char) → Page × List Page
  | [] => ([], [])
  | line :: rest =>
    if up < margin then
      let (page, pages) := placeFrom (top - leading) rest
      ([], (⟨margin, top, String.ofList line⟩ :: page) :: pages)
    else
      let (page, pages) := placeFrom (up - leading) rest
      (⟨margin, up, String.ofList line⟩ :: page, pages)

/-- The pages of a text. -/
def plainPages (text : List Char) : List Page :=
  let (page, pages) := placeFrom top (printedLines text)
  page :: pages

end Paperwork.Print
