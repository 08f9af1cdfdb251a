/-
Form values shaped to the types their fields declare.

What comes from a form is often text.  Each value is taken to the declared type of its
field as far as it can be; a value that is no number counts as zero.  Values of fields
that are not declared are dropped, unless nothing is declared at all.
-/
import Paperwork.Data.Display
import Paperwork.Data.Rehydrate
import Paperwork.Form.Schema.Basic
import Paperwork.Number.Reading
import Paperwork.Text.LetterCase

namespace Paperwork.Form

open Paperwork.Text

/-- An integer is too large for a number of double precision. -/
structure NumberTooLarge where
  deriving DecidableEq, Repr

/-- A number of double precision as a form value: none that is not finite, and an
integer where it is whole or is meant to be. -/
def ofDouble (whole : Bool) (x : Binary64) : Value :=
  match x.truncate? with
  | none => .int 0
  | some n => if whole || x.isWhole then .int n else .float x

/-- A value as a number. -/
def toNumber (whole : Bool) : Value → Except NumberTooLarge Value
  | .bool b => .ok (.int (if b then 1 else 0))
  | .int n =>
    match Binary64.ofInt n with
    | .infinite _ => .error ⟨⟩
    | x => .ok (ofDouble whole x)
  | .float x => .ok (ofDouble whole x)
  | .text s => .ok (ofDouble whole ((Decimal.toFloat? s).getD (Binary64.zero false)))
  | _ => .ok (.int 0)

/-- The words for yes. -/
def affirmations : List String := ["true", "1", "yes", "on"]

/-- A value as a truth value. -/
def toBoolean : Value → Bool
  | .text s =>
    affirmations.contains (String.ofList (lowerText (trimmed isBlank s.toList)))
  | value => value.isGiven

/-- Whether a value stands for no items at all. -/
def standsForNone : Value → Bool
  | .null => true
  | .bool b => !b
  | .int n => n == 0
  | .float x => x.isZero
  | .text s => s.isEmpty
  | .list _ => false
  | .object _ => false

/-- A value as a list: itself, or the list of it alone. -/
def toList (value : Value) : List Value :=
  match value.rehydrate with
  | .list items => items
  | value => if standsForNone value then [] else [value]

/-- A value taken to the type of a field. -/
def coerce (type : Option String) (value : Value) : Except NumberTooLarge Value :=
  match type with
  | some "string" => .ok (.text value.display)
  | some "number" => toNumber false value
  | some "integer" => toNumber true value
  | some "boolean" => .ok (.bool (toBoolean value))
  | some "array" => .ok (.list (toList value))
  | some "object" => .ok value.rehydrate
  | _ => .ok value

/-- The values of declared fields, each taken to its type. -/
def coerceDeclared (declared : List (String × Schema)) :
    Fields → Except NumberTooLarge Fields
  | [] => .ok []
  | (key, value) :: rest =>
    match declared.lookup key with
    | some schema => do
      let value ← coerce schema.type value
      return (key, value) :: (← coerceDeclared declared rest)
    | none => coerceDeclared declared rest

/-- The properties that a form declares. -/
def declaredBy (schema : Option Schema) : List (String × Schema) :=
  (schema.map Schema.declared).getD []

/-- Form values shaped by a schema; without declared fields all are kept. -/
def shapeInputs (schema : Option Schema) (inputs : Fields) : Except NumberTooLarge Fields :=
  if (declaredBy schema).isEmpty then .ok inputs.rehydrate
  else coerceDeclared (declaredBy schema) inputs

/-- Whether a value counts as not filled in. -/
def isUnfilled : Value → Bool
  | .null => true
  | .text s => s.isEmpty
  | _ => false

/-- The required fields that are not filled in. -/
def missing (schema : Option Schema) (data : Fields) : List String :=
  match schema with
  | some schema => schema.required.filter fun key => isUnfilled (data.getD key)
  | none => []

end Paperwork.Form
