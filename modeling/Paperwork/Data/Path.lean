/-
Following a dotted path into a value.

Each segment of a path is the key of a field, or the position of an item where the
value reached so far is a list.  Where nothing is found the path leads to null.  A
segment of digits that is asked of a list is converted to a number, which can fail: a
digit may have no decimal value, and too many digits are refused.
-/
import Paperwork.Data.Value
import Paperwork.Number.Reading
import Paperwork.Text.Words

namespace Paperwork

open Paperwork.Text

/-- Why a segment of digits is not the position of an item. -/
inductive PathError
  | notDecimal (segment : String)
  | tooManyDigits (segment : String)
  deriving DecidableEq, Repr

namespace Path

/-- The segments of a path, which stand between its dots. -/
def segments (path : String) : List String :=
  (splitWhere (· == '.') path.toList).map String.ofList

/-- The number written by a segment of digits. -/
def position (segment : String) : Except PathError Nat :=
  match segment.toList.mapM decimalDigit? with
  | some digits =>
    if Decimal.digitLimit < digits.length then .error (.tooManyDigits segment)
    else .ok (digits.foldl (fun n digit => n * 10 + digit) 0)
  | none => .error (.notDecimal segment)

/-- Whether a segment asks for an item: it is not empty and has digits only. -/
def isPosition (segment : String) : Bool :=
  !segment.toList.isEmpty && segment.toList.all isDigit

/-- What one segment leads to. -/
def step (value : Value) (segment : String) : Except PathError Value :=
  match value with
  | .object fields => .ok (Fields.getD fields segment)
  | .list items =>
    if isPosition segment then do
      return items.getD (← position segment) .null
    else .ok .null
  | _ => .ok .null

/-- What a row of segments leads to. -/
def follow (value : Value) : List String → Except PathError Value
  | [] => .ok value
  | segment :: rest => do follow (← step value segment) rest

end Path

/-- What a path leads to; no path and the empty path lead nowhere. -/
def Value.at? (value : Value) (path : Option String) : Except PathError Value :=
  match path with
  | none => .ok .null
  | some path => if path.isEmpty then .ok .null else Path.follow value (Path.segments path)

end Paperwork
