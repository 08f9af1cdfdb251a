/-
Pages turned into documents for a word processor.
-/
import Paperwork.Document.Convert
import Paperwork.Word.Compose

namespace Paperwork.Word

open Paperwork.Html

/-- Why a page is not turned into a document. -/
inductive PageError
  | reference (cause : ReferenceTooLong)
  | compose (cause : ComposeError)

/-- The nodes of a converted page.  Where only the plain text was kept, all of it is one
paragraph. -/
def nodesOf (page : List Char) (conversion : Conversion) : Except ReferenceTooLong (List Node) :=
  if conversion.fallback then do return [.paragraph (String.ofList (← plainText page)) false]
  else .ok conversion.nodes

/-- A page as a document, begun from a template. -/
def ofPageFrom (template : ListTemplate) (page : List Char) (settings : Settings)
    (title : String) : ExceptT PageError Noted Outline := do
  let conversion ← (convert (.atMost settings.cap) page).adapt .reference
  let nodes ← (ExceptT.mk (pure (nodesOf page conversion))).adapt .reference
  (composeFrom template nodes settings title).adapt .compose

/-- A page as a document. -/
def ofPage (page : List Char) (settings : Settings) (title : String) :
    ExceptT PageError Noted Outline :=
  ofPageFrom .plain page settings title

end Paperwork.Word
