/-
Reading templates from data.

A template is given as an object.  Blocks of a type that is not known are passed over
and noted; everything else that is wrong with a template is a fault.  The level of a
heading is never at fault: what cannot be read as a level counts as the second one,
and a level out of range is moved into it.
-/
import Paperwork.Checking.Accept
import Paperwork.Notice
import Paperwork.Template.Block

namespace Paperwork

open Checked (valid fault)

/-! ### Styles -/

/-- The value of a style property: a text or a number. -/
def StyleValue.check : Value → Checked StyleValue
  | .null => valid .none
  | .text s => valid (.text s)
  | .int n => valid (.number (.int n))
  | .float x => valid (.number (.float x))
  | .bool b => valid (.number (.int (if b then 1 else 0)))
  | value =>
    ((Accept.text value).map StyleValue.text |>.under (.field "str")).orElse
      ((Accept.number value).map StyleValue.number)

/-- A style. -/
def Style.check : Value → Checked Style := Accept.object StyleValue.check

/-- A style sheet; in place of one anything empty may be given. -/
def StyleSheet.check (value : Value) : Checked StyleSheet :=
  if value.isGiven then Accept.object Style.check value else valid []

/-! ### References -/

/-- The field of a reference that binds it. -/
def Binding.check : Value → Checked Binding :=
  Accept.record fun fields =>
    Binding.mk <$> Accept.field fields ["path"] (Accept.optional Accept.text) none

/-- The reference among the fields of something. -/
def Reference.ofFields (fields : Fields) : Checked Reference :=
  Reference.mk
    <$> Accept.field fields ["bind"] (Accept.optional Binding.check) none
    <*> Accept.field fields ["path"] (Accept.optional Accept.text) none

/-- A reference. -/
def Reference.check : Value → Checked Reference := Accept.record Reference.ofFields

/-- A part of a line or an entry of a list. -/
def Part.check : Value → Checked Part :=
  Accept.record fun fields =>
    Part.mk <$> Reference.ofFields fields
      <*> Accept.field fields ["text"] (Accept.optional Accept.text) none

/-- A column of a table. -/
def Column.check : Value → Checked Column :=
  Accept.record fun fields =>
    Column.mk <$> Accept.field fields ["header"] Accept.text ""
      <*> Accept.field fields ["path"] Accept.text ""

/-- A labelled reference. -/
def Row.check : Value → Checked Row :=
  Accept.record fun fields =>
    Row.mk <$> Reference.ofFields fields <*> Accept.field fields ["label"] Accept.text ""

/-- An entry of a list. -/
def ListEntry.check (value : Value) : Checked ListEntry :=
  ((Accept.text value).map ListEntry.text |>.under (.field "str")).orElse
    ((Part.check value).map ListEntry.part |>.under (.field "LinePart"))

/-- What a signature names. -/
def Naming.check (value : Value) : Checked Naming :=
  ((Accept.text value).map Naming.text |>.under (.field "str")).orElse
    ((Reference.check value).map Naming.reference |>.under (.field "BindRef"))

/-! ### Blocks -/

/-- A level moved into the range of levels. -/
def HeadingBlock.clamped (level : Int) : Int := min (max level 1) 6

/-- The level that a value asks for. -/
def HeadingBlock.requestedLevel (value : Value) : Checked Int :=
  if !value.isGiven then valid 2
  else
    match value with
    | .bool _ => valid 1
    | .int n => valid n
    | .float .nan => valid 2
    | .float x =>
      match x.truncate? with
      | some n => valid n
      | none => .abandoned .infiniteLevel
    | .text s => valid ((Decimal.toInt? s).getD 2)
    | _ => valid 2

/-- The level of a heading. -/
def HeadingBlock.checkLevel (value : Value) : Checked Int :=
  (HeadingBlock.requestedLevel value).map HeadingBlock.clamped

/-- The style among the fields of a block. -/
def Block.styleOf (fields : Fields) (names : List String) : Checked (Option Style) :=
  Accept.field fields names (Accept.optional Style.check) none

/-- An optional text among the fields of a block. -/
def Block.textOf (fields : Fields) (names : List String) : Checked (Option String) :=
  Accept.field fields names (Accept.optional Accept.text) none

/-- A heading. -/
def HeadingBlock.check (fields : Fields) : Checked HeadingBlock :=
  HeadingBlock.mk <$> Accept.field fields ["text"] Accept.text ""
    <*> Accept.field fields ["level"] HeadingBlock.checkLevel 2
    <*> Block.styleOf fields ["style"]

/-- A paragraph. -/
def ParagraphBlock.check (fields : Fields) : Checked ParagraphBlock :=
  ParagraphBlock.mk <$> Reference.ofFields fields <*> Block.textOf fields ["text"]
    <*> Block.styleOf fields ["style"]

/-- A line. -/
def LineBlock.check (fields : Fields) : Checked LineBlock :=
  LineBlock.mk <$> Accept.field fields ["parts"] (Accept.list Part.check) []
    <*> Block.styleOf fields ["style"]

/-- A list. -/
def ListBlock.check (fields : Fields) : Checked ListBlock :=
  ListBlock.mk <$> Reference.ofFields fields
    <*> Accept.field fields ["items"] (Accept.list ListEntry.check) []
    <*> Accept.field fields ["ordered"] Accept.boolean false
    <*> Block.textOf fields ["dataPath", "data_path"]
    <*> Block.textOf fields ["sourcePath", "source_path"]
    <*> Block.styleOf fields ["style"]

/-- A table. -/
def TableBlock.check (fields : Fields) : Checked TableBlock :=
  TableBlock.mk <$> Reference.ofFields fields
    <*> Accept.field fields ["columns"] (Accept.list Column.check) []
    <*> Block.textOf fields ["dataPath", "data_path"]
    <*> Block.textOf fields ["sourcePath", "source_path"]
    <*> Block.styleOf fields ["style"]
    <*> Block.styleOf fields ["headerStyle", "header_style"]
    <*> Block.styleOf fields ["cellStyle", "cell_style"]

/-- Labelled rows. -/
def RowsBlock.check (fields : Fields) : Checked RowsBlock :=
  RowsBlock.mk <$> Accept.field fields ["rows"] (Accept.list Row.check) []
    <*> Block.styleOf fields ["style"]

/-- A signature. -/
def SignatureBlock.check (fields : Fields) : Checked SignatureBlock :=
  SignatureBlock.mk <$> Accept.field fields ["name"] (Accept.optional Naming.check) none
    <*> Accept.field fields ["title"] (Accept.optional Naming.check) none
    <*> Accept.field fields ["showRegards", "show_regards"] Accept.boolean false
    <*> Block.styleOf fields ["style"]

/-- How the fields of a block of a type are read. -/
def Block.reader? (type : String) : Option (Fields → Checked Block) :=
  match type with
  | "heading" => some fun fields => .heading <$> HeadingBlock.check fields
  | "paragraph" => some fun fields => .paragraph <$> ParagraphBlock.check fields
  | "line" => some fun fields => .line <$> LineBlock.check fields
  | "list" => some fun fields => .list <$> ListBlock.check fields
  | "table" => some fun fields => .table <$> TableBlock.check fields
  | "keyValueTable" => some fun fields => .keyValueTable <$> RowsBlock.check fields
  | "keyValueList" => some fun fields => .keyValueList <$> RowsBlock.check fields
  | "divider" => some fun fields => .divider <$> Block.styleOf fields ["style"]
  | "spacer" => some fun fields =>
      .spacer <$> Accept.field fields ["size"] Accept.number (.int 12)
  | "signature" => some fun fields => .signature <$> SignatureBlock.check fields
  | _ => none

/-- What is given for the type of a block. -/
def Block.typeOf : Value → Value
  | .object fields => Fields.getD fields "type"
  | _ => .null

/-- Reads a block if its type is known. -/
def Block.check? (value : Value) : Option (Checked Block) :=
  match value with
  | .object fields =>
    match Fields.getD fields "type" with
    | .text type => (Block.reader? type).map fun read => (read fields).under (.field type)
    | _ => none
  | _ => none

/-- The blocks of known types, and notices about the others; `position` is that of the
first. -/
def Block.checkEach (position : Nat) : List Value → Noted (List (Checked Block))
  | [] => return []
  | value :: rest => do
    match Block.check? value with
    | some outcome => return outcome :: (← Block.checkEach (position + 1) rest)
    | none =>
      Noted.note (.blockSkipped position (Block.typeOf value))
      Block.checkEach (position + 1) rest

/-- The blocks of a template. -/
def Block.checkAll : Value → Noted (Checked (List Block))
  | .null => return valid []
  | .list items => return Checked.items (← Block.checkEach 0 items)
  | _ => return fault .notList

/-- A template. -/
def Template.check : Value → Noted (Checked Template)
  | .object fields => do
    let blocks ← Block.checkAll (Fields.getD fields "blocks")
    return Template.mk <$> Accept.field fields ["title"] (Accept.optional Accept.text) none
      <*> Accept.field fields ["styles"] StyleSheet.check []
      <*> blocks.under (.field "blocks")
  | _ => return fault .notRecord

end Paperwork
