/-
Templates filled with data, as printable HTML pages.
-/
import Paperwork.Data.Rehydrate
import Paperwork.Page.Block
import Paperwork.Page.Stylesheet
import Paperwork.Text.Words

namespace Paperwork

open Paperwork.Text
open Paperwork.Html (Markup)

/-- The blocks of a template filled with data. -/
def Template.fill (t : Template) (data : Fields) : Except FillError (List Markup) :=
  t.blocks.mapM (Fill.block ⟨t.styles.resolved, .object data.rehydrate⟩)

/-- The filled blocks of a template, each on lines of its own. -/
def Template.body (t : Template) (data : Fields) : Except FillError (List Char) := do
  return joined ['\n'] ((← t.fill data).map Markup.write)

namespace Page

/-- The text of a page up to its title. -/
def beforeTitle : String :=
  "<!DOCTYPE html>\n<html lang=\"en\">\n  <head>\n    <meta charset=\"UTF-8\" />\n"
    ++ "    <meta name=\"viewport\" content=\"width=device-width, initial-scale=1.0\" />\n"
    ++ "    <title>"

/-- The text of a page from its title to its style sheet. -/
def beforeStyles : String := "</title>\n    <style>"

/-- The text of a page from its style sheet to the body. -/
def beforeBody : String := "    </style>\n  </head>\n  <body>\n    "

/-- The text of a page behind its content. -/
def afterContent : String := "\n    </div>\n  </body>\n</html>"

/-- The opening tag of the element around the content. -/
def containerTag (sheet : StyleSheet) : List Char :=
  Html.openingTag "div"
    (Fill.classed "container" (Fill.styleAttribute (sheet.lookup "document")))

end Page

/-- The title of a page: the first that is given and not empty, or the last. -/
def Template.pageTitle (t : Template) (title : Option String) (fallback : String) : String :=
  match nonempty? title with
  | some title => title
  | none => (nonempty? t.title).getD fallback

/-- A printable page. -/
def Template.page (t : Template) (data : Fields) (title : Option String) (fallback : String) :
    Except FillError (List Char) := do
  let body ← t.body data
  return Page.beforeTitle.toList ++ Html.escapeChars (t.pageTitle title fallback).toList
    ++ Page.beforeStyles.toList ++ Page.stylesheet.toList ++ Page.beforeBody.toList
    ++ Page.containerTag t.styles.resolved ++ "\n      ".toList ++ body
    ++ Page.afterContent.toList

end Paperwork
