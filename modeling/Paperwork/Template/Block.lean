/-
Templates.

A template is a list of blocks, each of which says how one piece of the document is
made from the form data, with a style sheet and a title.  Blocks refer to data by
paths; a reference may be written in two ways, of which the bound one wins.
-/
import Paperwork.Template.Style

namespace Paperwork

/-- A path written as a binding. -/
structure Binding where
  path : Option String
  deriving DecidableEq, Repr, Inhabited

/-- A reference to data. -/
structure Reference where
  binding : Option Binding
  path : Option String
  deriving DecidableEq, Repr, Inhabited

/-- A text unless it is empty. -/
def nonempty? (text : Option String) : Option String :=
  text.bind fun s => if s.isEmpty then none else some s

/-- The path a reference leads along: that of its binding, or its own. -/
def Reference.target? (r : Reference) : Option String :=
  match nonempty? (r.binding.bind Binding.path) with
  | some path => some path
  | none => nonempty? r.path

/-- A reference with a text for where it leads nowhere. -/
structure Part where
  reference : Reference
  text : Option String
  deriving DecidableEq, Repr, Inhabited

/-- A column of a table: its header, and the path from a row to its cell. -/
structure Column where
  header : String
  path : String
  deriving DecidableEq, Repr, Inhabited

/-- A labelled reference. -/
structure Row where
  reference : Reference
  label : String
  deriving DecidableEq, Repr, Inhabited

/-- An item of a list: a text with placeholders, or a part. -/
inductive ListEntry
  | text (s : String)
  | part (p : Part)
  deriving DecidableEq, Repr, Inhabited

/-- What a signature names: a text, or what a reference leads to. -/
inductive Naming
  | text (s : String)
  | reference (r : Reference)
  deriving DecidableEq, Repr, Inhabited

/-- A heading whose text may have placeholders. -/
structure HeadingBlock where
  text : String
  level : Int
  style : Option Style
  deriving DecidableEq, Repr, Inhabited

/-- A paragraph: a text with placeholders, or what its reference leads to. -/
structure ParagraphBlock where
  reference : Reference
  text : Option String
  style : Option Style
  deriving DecidableEq, Repr, Inhabited

/-- Parts on one line. -/
structure LineBlock where
  parts : List Part
  style : Option Style
  deriving DecidableEq, Repr, Inhabited

/-- A list: of the items of a list in the data, or of its own entries. -/
structure ListBlock where
  reference : Reference
  entries : List ListEntry
  ordered : Bool
  dataPath : Option String
  sourcePath : Option String
  style : Option Style
  deriving DecidableEq, Repr, Inhabited

/-- A table with a row for each item of a list in the data. -/
structure TableBlock where
  reference : Reference
  columns : List Column
  dataPath : Option String
  sourcePath : Option String
  style : Option Style
  headerStyle : Option Style
  cellStyle : Option Style
  deriving DecidableEq, Repr, Inhabited

/-- Labelled values one below the other. -/
structure RowsBlock where
  rows : List Row
  style : Option Style
  deriving DecidableEq, Repr, Inhabited

/-- A signature. -/
structure SignatureBlock where
  name : Option Naming
  title : Option Naming
  showRegards : Bool
  style : Option Style
  deriving DecidableEq, Repr, Inhabited

/-- The path to the items of a block: the first of its paths that is given. -/
def itemsPath? (dataPath sourcePath : Option String) (reference : Reference) : Option String :=
  match nonempty? dataPath with
  | some path => some path
  | none =>
    match nonempty? sourcePath with
    | some path => some path
    | none => reference.target?

/-- The path to the items of a list. -/
def ListBlock.itemsPath? (b : ListBlock) : Option String :=
  Paperwork.itemsPath? b.dataPath b.sourcePath b.reference

/-- The path to the rows of a table. -/
def TableBlock.itemsPath? (b : TableBlock) : Option String :=
  Paperwork.itemsPath? b.dataPath b.sourcePath b.reference

/-- A block of a template. -/
inductive Block
  | heading (b : HeadingBlock)
  | paragraph (b : ParagraphBlock)
  | line (b : LineBlock)
  | list (b : ListBlock)
  | table (b : TableBlock)
  | keyValueTable (b : RowsBlock)
  | keyValueList (b : RowsBlock)
  | divider (style : Option Style)
  | spacer (size : Number)
  | signature (b : SignatureBlock)
  deriving DecidableEq, Repr, Inhabited

/-- A template. -/
structure Template where
  title : Option String
  styles : StyleSheet
  blocks : List Block
  deriving DecidableEq, Repr, Inhabited

/-- The template without any content. -/
def Template.empty : Template := ⟨none, [], []⟩

end Paperwork
