/-
Pages converted to documents.

Whatever goes wrong while a page is read, its plain text is kept: then every paragraph
of it becomes a paragraph of the document.
-/
import Paperwork.Document.Scan

namespace Paperwork

open Paperwork.Html

/-- A converted page; `fallback` says that only its plain text was kept. -/
structure Conversion where
  nodes : List Node
  fallback : Bool
  deriving DecidableEq, Repr

/-- The paragraphs of the plain text of a page. -/
def plainNodes (page : List Char) : Except ReferenceTooLong (List Node) := do
  return (← plainParagraphs page).map fun text => .paragraph (String.ofList text) false

/-- The plain text of a page in place of its nodes. -/
def convertPlainly (page : List Char) : ExceptT ReferenceTooLong Noted Conversion := do
  ExceptT.lift (Noted.note .conversionFailed)
  match plainNodes page with
  | .ok nodes => return ⟨nodes, true⟩
  | .error cause => throw cause

/-- A page as a document. -/
def convert (cap : Cap) (page : List Char) : ExceptT ReferenceTooLong Noted Conversion := do
  match ← ExceptT.lift (scanPage cap page).run with
  | .ok nodes => return ⟨nodes, false⟩
  | .error _ => convertPlainly page

/-- A converted page as a value. -/
def Conversion.toValue (c : Conversion) : Value :=
  .object [("nodes", .list (c.nodes.map Node.toValue)), ("fallback", .bool c.fallback)]

end Paperwork
