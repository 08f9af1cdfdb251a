/-
Writing values as JSON text.

Inside a string the quote, the backslash and the control characters are escaped; all
other characters stand for themselves.  The compact form has no blanks at all and
gives up on a value whose containers are nested past a limit.  The indented form puts
every item and field on a line of its own.
-/
import Paperwork.Data.Value

namespace Paperwork.Json

/-- A digit of a number with up to sixteen digits. -/
def hexChar (n : Nat) : Char := Nat.digitChar n

/-- How one character is written inside a string. -/
def stringChar (c : Char) : List Char :=
  match c with
  | '"' => ['\\', '"']
  | '\\' => ['\\', '\\']
  | '\n' => ['\\', 'n']
  | '\r' => ['\\', 'r']
  | '\t' => ['\\', 't']
  | '\x0c' => ['\\', 'f']
  | '\x08' => ['\\', 'b']
  | c =>
    if c.toNat < 0x20 then
      ['\\', 'u', '0', '0', hexChar (c.toNat / 16), hexChar (c.toNat % 16)]
    else [c]

/-- A string with its quotes. -/
def quoted (text : String) : List Char := '"' :: text.toList.flatMap stringChar ++ ['"']

/-- Texts with a comma between them. -/
def commaSeparated : List (List Char) → List Char
  | [] => []
  | [text] => text
  | text :: rest => text ++ ',' :: commaSeparated rest

/-- The text of a value that is not a container. -/
def atomText : Value → List Char
  | .null => "null".toList
  | .bool b => (if b then "true" else "false").toList
  | .int n => (toString n).toList
  | .float x => (x.text .json).toList
  | .text s => quoted s
  | .list _ => []
  | .object _ => []

/-- How many containers may be nested in each other. -/
def writingLimit : Nat := 1000

/-- The compact text of a value with at most `levels` containers nested in each other. -/
def compactWithin? : Nat → Value → Option (List Char)
  | 0, .list _ => none
  | 0, .object _ => none
  | levels + 1, .list items => do
    let texts ← items.mapM (compactWithin? levels)
    return '[' :: commaSeparated texts ++ [']']
  | levels + 1, .object fields => do
    let texts ← fields.mapM fun (key, value) => do
      return quoted key ++ ':' :: (← compactWithin? levels value)
    return '\x7b' :: commaSeparated texts ++ ['\x7d']
  | _, value => some (atomText value)

/-- The compact text of a value, unless it is nested too deep. -/
def compact? (value : Value) : Option (List Char) := compactWithin? writingLimit value

/-! ### The indented form -/

/-- Two blanks for every level. -/
def indentation (level : Nat) : List Char := List.replicate (2 * level) ' '

/-- Texts on lines of their own between brackets, or the brackets alone. -/
def block (opening closing : Char) (level : Nat) (texts : List (List Char)) : List Char :=
  match texts with
  | [] => [opening, closing]
  | texts =>
    opening :: commaSeparated (texts.map fun text => '\n' :: indentation (level + 1) ++ text)
      ++ '\n' :: indentation level ++ [closing]

mutual

/-- The indented text of a value that begins at a level. -/
def indented (level : Nat) : Value → List Char
  | .list items => block '[' ']' level (indentedItems (level + 1) items)
  | .object fields => block '\x7b' '\x7d' level (indentedFields (level + 1) fields)
  | value => atomText value

/-- The indented texts of items. -/
def indentedItems (level : Nat) : List Value → List (List Char)
  | [] => []
  | item :: rest => indented level item :: indentedItems level rest

/-- The indented texts of fields. -/
def indentedFields (level : Nat) : List (String × Value) → List (List Char)
  | [] => []
  | (key, value) :: rest =>
    (quoted key ++ ':' :: ' ' :: indented level value) :: indentedFields level rest

end

end Paperwork.Json
