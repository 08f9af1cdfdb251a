/-
The values that form data, schemas and templates are made of.

They are the values of JSON, with integers of any size kept apart from numbers with a
fraction, and with the fields of an object in the order they were written.
-/
import Paperwork.Number.Text

namespace Paperwork

/-- A value of JSON. -/
inductive Value
  | null
  | bool (b : Bool)
  | int (n : Int)
  | float (x : Binary64)
  | text (s : String)
  | list (items : List Value)
  | object (fields : List (String × Value))
  deriving Inhabited

/-- The fields of an object, in order. -/
abbrev Fields := List (String × Value)

/-- What sort of value a value is. -/
inductive Value.Kind
  | null | bool | int | float | text | list | object
  deriving DecidableEq, Repr

namespace Value

/-- The kind of a value. -/
def kind : Value → Kind
  | null => .null
  | bool _ => .bool
  | int _ => .int
  | float _ => .float
  | text _ => .text
  | list _ => .list
  | object _ => .object

/-- The name of a kind in messages. -/
def Kind.name : Kind → String
  | null => "NoneType"
  | bool => "bool"
  | int => "int"
  | float => "float"
  | text => "str"
  | list => "list"
  | object => "dict"

/-- Whether a value counts as given: null, false, zero and everything empty do not. -/
def isGiven : Value → Bool
  | null => false
  | bool b => b
  | int n => n != 0
  | float x => !x.isZero
  | text s => !s.isEmpty
  | list items => !items.isEmpty
  | object fields => !fields.isEmpty

/-- Whether a value is null. -/
def isNull : Value → Bool
  | null => true
  | _ => false

/-- A number as a value. -/
def ofNumber : Number → Value
  | .int n => int n
  | .float x => float x

/-- A text as a value, null where there is none. -/
def ofText? : Option String → Value
  | some s => text s
  | none => null

end Value

namespace Fields

/-- The value of a field. -/
def get? (fields : Fields) (key : String) : Option Value := fields.lookup key

/-- The value of a field, null where the field is missing. -/
def getD (fields : Fields) (key : String) : Value := (fields.lookup key).getD .null

/-- The fields with one of them set: a field that is there keeps its place. -/
def set (fields : Fields) (key : String) (value : Value) : Fields :=
  match fields with
  | [] => [(key, value)]
  | (k, v) :: rest => if k = key then (key, value) :: rest else (k, v) :: Fields.set rest key value

/-- The fields without one of them. -/
def erase (fields : Fields) (key : String) : Fields := fields.filter fun (k, _) => k != key

/-- Fields in the order of their first mention, each with the value mentioned last. -/
def ofMentions (mentions : List (String × Value)) : Fields :=
  mentions.foldl (fun fields (key, value) => Fields.set fields key value) []

end Fields
end Paperwork
