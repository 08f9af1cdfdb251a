/-
Documents produced from stored templates and form data.

The format is looked at first, then the template, then the form data: required fields
have to be filled in.  The page is filled with the data, the name of the template and
the time, and becomes a document in the format.
-/
import Paperwork.Data.Pairs
import Paperwork.Form.Inputs
import Paperwork.Form.Record
import Paperwork.Output.Format
import Paperwork.Output.Moment
import Paperwork.Page.Document
import Paperwork.Print.Pdf
import Paperwork.Word.OfPage

namespace Paperwork

open Paperwork.Html

/-- What is asked for.  Template, form data and format are values as they come. -/
structure Request where
  template : Value
  inputs : Value
  format : Value
  settings : Settings
  printer : Option Print.Printer
  time : Moment

/-- The content of a document. -/
inductive Content
  | pdf (pdf : Print.Pdf)
  | word (outline : Word.Outline)
  deriving DecidableEq, Repr

/-- The content of a document as a value. -/
def Content.toValue : Content → Value
  | .pdf shown => shown.toValue
  | .word outline => outline.toValue

/-- A document with the page that it was made of. -/
structure Produced where
  format : Format
  content : Content
  page : List Char

/-- Why no document is produced. -/
inductive ProduceError
  | format (cause : Format.ChoiceError)
  | template (faults : List Fault)
  | abandoned (cause : Interruption)
  | inputs (cause : PairsError)
  | missing (fields : List String)
  | number (cause : Form.NumberTooLarge)
  | fill (cause : FillError)
  | reference (cause : ReferenceTooLong)
  | compose (cause : Word.ComposeError)

/-- What is told to whoever asked, where it is of use to them. -/
def ProduceError.message? : ProduceError → Option String
  | format (.unsupported given) => some (Format.unsupportedMessage given)
  | template faults =>
    some ("Invalid template: " ++ String.intercalate "; " (faults.map Fault.text))
  | missing fields =>
    some ("Please fill in the following required fields: " ++ String.intercalate ", " fields)
  | _ => none

namespace Request

/-- Producing: it may fail, and gives notice of what it passes over. -/
abbrev Producing (α : Type) := ExceptT ProduceError Noted α

/-- An answer that may be an error. -/
def ofExcept {ε α : Type} (wrap : ε → ProduceError) (answer : Except ε α) : Producing α :=
  ExceptT.mk (pure (answer.mapError wrap))

/-- A check that the template has to pass. -/
def checked {α : Type} : Checked α → Producing α
  | .valid a => return a
  | .faulty faults => throw (.template faults)
  | .abandoned cause => throw (.abandoned cause)

/-- The field for the name of the template. -/
def nameField : String := "_template_name"

/-- The field for the time. -/
def timeField : String := "_generated_at"

/-- The data that a page is filled with. -/
def data (request : Request) (record : Record) (schema : Option Schema) : Producing Fields := do
  let inputs := (← ofExcept .inputs (Fields.ofData request.inputs)).rehydrate
  match Form.missing schema inputs with
  | field :: fields => throw (.missing (field :: fields))
  | [] =>
    let shaped ← ofExcept .number (Form.shapeInputs schema inputs)
    return (shaped.set nameField (.text record.name)).set timeField (.text request.time.text)

/-- A page in a format. -/
def content (request : Request) (format : Format) (title : String) (page : List Char) :
    Producing Content :=
  match format with
  | .pdf => .pdf <$> (Print.pdf request.printer request.settings page).adapt .reference
  | .docx =>
    .word <$> (Word.ofPage page request.settings title).adapt fun
      | .reference cause => .reference cause
      | .compose cause => .compose cause

/-- The document that is asked for. -/
def produce (request : Request) : Producing Produced := do
  let format ← ofExcept .format (Format.choose request.format)
  let record ← checked (Record.check request.template)
  let template ← checked (← ExceptT.lift record.resolve)
  let schema ← ExceptT.lift record.formSchema
  let data ← request.data record schema
  let page ← ofExcept .fill (template.page data none request.settings.defaultTitle)
  let content ← request.content format (template.title.getD "") page
  return { format, content, page }

end Request
end Paperwork
