/-
The formats that documents are made in.
-/
import Paperwork.Data.Shown
import Paperwork.Text.LetterCase
import Paperwork.Text.Words

namespace Paperwork

open Paperwork.Text

/-- A format. -/
inductive Format
  | pdf | docx
  deriving DecidableEq, Repr

namespace Format

/-- All formats. -/
def all : List Format := [pdf, docx]

/-- The name of a format, which is also the extension of its files. -/
def name : Format → String
  | pdf => "pdf"
  | docx => "docx"

/-- The media type of a format. -/
def mediaType : Format → String
  | pdf => "application/pdf"
  | docx => "application/vnd.openxmlformats-officedocument.wordprocessingml.document"

/-- The format of a name in lower case. -/
def ofName? (name : List Char) : Option Format :=
  all.find? fun format => format.name.toList = name

/-- Why no format is chosen. -/
inductive ChoiceError
  | unsupported (given : Value)
  | notText (kind : Value.Kind)

/-- The format that a value asks for.  Blanks around its name and the case of letters do
not matter. -/
def choose (given : Value) : Except ChoiceError Format :=
  match given with
  | .text text =>
    match ofName? (lowerText (trimmed isBlank text.toList)) with
    | some format => .ok format
    | none => .error (.unsupported given)
  | given => .error (if given.isGiven then .notText given.kind else .unsupported given)

/-- What is told of a value that asks for no format. -/
def unsupportedMessage (given : Value) : String :=
  "Invalid file type " ++ given.shown ++ ". Must be PDF or DOCX"

end Format
end Paperwork
