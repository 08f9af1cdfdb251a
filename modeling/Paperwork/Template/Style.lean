/-
Styles and style sheets.

A style gives CSS properties, named in camel case, their values.  A style sheet gives
a style to each kind of element; it may use a second name for two of them, which
counts only where the first name has no style of its own.
-/
import Paperwork.Number.Text

namespace Paperwork

/-- The value of a style property.  A property without a value or with an empty text is
left out of the CSS text. -/
inductive StyleValue
  | none
  | text (s : String)
  | number (n : Number)
  | flag (b : Bool)
  deriving DecidableEq, Repr, Inhabited

/-- A style: its properties in order. -/
abbrev Style := List (String × StyleValue)

/-- A style sheet: styles by the kind of element. -/
abbrev StyleSheet := List (String × Style)

namespace Style

/-- A property name with every capital letter from A to Z written small behind a hyphen. -/
def propertyName (name : String) : String :=
  String.ofList (name.toList.flatMap fun c =>
    if 'A' ≤ c ∧ c ≤ 'Z' then ['-', c.toLower] else [c])

/-- The CSS text of a property value, nothing where the property is left out. -/
def valueText? : StyleValue → Option String
  | .none => none
  | .text s => if s.isEmpty then none else some s
  | .number n => some n.shown
  | .flag b => some (if b then "True" else "False")

/-- The CSS text of a style: properties separated by semicolons. -/
def css (style : Style) : String :=
  String.intercalate ";" (style.filterMap fun (name, value) =>
    (valueText? value).map fun text => propertyName name ++ ":" ++ text)

/-- A style unless it has no properties. -/
def nonempty? (style : Style) : Option Style := if style.isEmpty then none else some style

end Style

namespace StyleSheet

/-- The kinds of elements that have styles, apart from the heading levels. -/
def elements : List String :=
  ["document", "heading", "paragraph", "line", "list", "listItem", "table", "th", "td",
   "divider", "signature", "kvList", "kvRow", "kvLabel", "kvValue"]

/-- The second name of a kind of element. -/
def alias? (element : String) : Option String :=
  if element = "document" then some "page"
  else if element = "paragraph" then some "p"
  else none

/-- The names of the styles of heading levels. -/
def headingLevels : List String := ["h1", "h2", "h3", "h4", "h5", "h6"]

/-- The style under a name, if it has properties. -/
def named? (sheet : StyleSheet) (name : String) : Option Style :=
  (sheet.lookup name).bind Style.nonempty?

/-- The style of a kind of element: under its name, or under its second name. -/
def find? (sheet : StyleSheet) (element : String) : Option Style :=
  match named? sheet element with
  | some style => some style
  | none => (alias? element).bind (named? sheet)

/-- The styles that apply, each under the one name of its kind of element. -/
def resolved (sheet : StyleSheet) : StyleSheet :=
  (elements ++ headingLevels).filterMap fun element =>
    (find? sheet element).map fun style => (element, style)

/-- The style of a heading: its own, that of its level, or that of all headings. -/
def heading? (sheet : StyleSheet) (level : Int) (own : Option Style) : Option Style :=
  match own.bind Style.nonempty? with
  | some style => some style
  | none =>
    let ofLevel :=
      if 1 ≤ level ∧ level ≤ 6 then sheet.lookup ("h" ++ toString level) else none
    match ofLevel with
    | some style => some style
    | none => sheet.lookup "heading"

end StyleSheet
end Paperwork
