/-
Pages as PDF.

A page is printed by the printer that is at hand, or else by way of its document.  If
that fails or gives nothing, its plain text is printed.
-/
import Paperwork.Document.Convert
import Paperwork.Print.Plain
import Paperwork.Print.Story
import Paperwork.Settings.Basic

namespace Paperwork.Print

open Paperwork.Html

/-- A printer makes bytes of a page, or fails. -/
abbrev Printer := List Char → Option (List UInt8)

/-- What a PDF shows: what a printer has made, the story of a document, or pages of
plain text. -/
inductive Pdf
  | bytes (content : List UInt8)
  | story (blocks : List Block)
  | plain (pages : List Page)
  deriving DecidableEq, Repr

/-- What a PDF shows as a value. -/
def Pdf.toValue : Pdf → Value
  | bytes content =>
    .object [("bytes", .text (String.ofList (Base64.encode Base64.alphabet content)))]
  | story blocks => .object [("story", .list (blocks.map Block.toValue))]
  | plain pages => .object [("pages", .list (pages.map Page.toValue))]

/-- The width between the margins of a letter page. -/
def letterWidth : Binary64 := Binary64.ofInt 468

/-- The height of the frame that a story is set in. -/
def frameHeight : Binary64 := Binary64.ofInt 636

/-- Whether a block finds room on a page.  Paragraphs and tables are broken where they
have to be, a picture is not. -/
def Block.findsRoom : Block → Bool
  | picture _ height => !frameHeight.below height
  | _ => true

/-- A page printed by way of its document; nothing if it cannot be. -/
def printStory (settings : Settings) (page : List Char) : Noted (Option Pdf) := do
  match ← (convert (.atMost settings.cap) page).run with
  | .error _ => return none
  | .ok conversion =>
    match ← (story letterWidth conversion.nodes).run with
    | .error _ => return none
    | .ok blocks => return if blocks.all Block.findsRoom then some (.story blocks) else none

/-- A page printed by a printer; nothing if it fails or gives no bytes. -/
def printWith (printer : Printer) (page : List Char) : Option Pdf :=
  match printer page with
  | some (byte :: bytes) => some (.bytes (byte :: bytes))
  | _ => none

/-- A page as PDF. -/
def pdf (printer : Option Printer) (settings : Settings) (page : List Char) :
    ExceptT ReferenceTooLong Noted Pdf := do
  let printed ← ExceptT.lift <|
    match printer with
    | some printer => pure (printWith printer page)
    | none => printStory settings page
  match printed with
  | some printed => return printed
  | none =>
    ExceptT.lift (Noted.note .printingFailed)
    return .plain (plainPages (← ExceptT.mk (pure (plainText page))))

end Paperwork.Print
