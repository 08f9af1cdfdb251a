/-
Form data given in place of an object.

Nothing, or anything empty, is an object without fields.  A list of pairs is an object
with these fields, and a text of two characters or an object with two keys is a pair
as well.  An entry whose key is not a text can never be asked for and is left out.
-/
import Paperwork.Data.Value

namespace Paperwork

/-- Why a value does not serve as the fields of an object. -/
inductive PairsError
  | notPairs (kind : Value.Kind)
  | wrongLength (position : Nat)
  | unusableKey (position : Nat)
  deriving DecidableEq, Repr

namespace Fields

/-- The members of a value that serves as a row of values. -/
def members? : Value → Option (List Value)
  | .list items => some items
  | .text s => some (s.toList.map fun c => .text (String.singleton c))
  | .object fields => some (fields.map fun (key, _) => .text key)
  | _ => none

/-- The field that a pair stands for, if its key is a text. -/
def ofPair (position : Nat) (pair : Value) : Except PairsError (Option (String × Value)) :=
  match members? pair with
  | none => .error (.notPairs pair.kind)
  | some [.text key, value] => .ok (some (key, value))
  | some [.list _, _] => .error (.unusableKey position)
  | some [.object _, _] => .error (.unusableKey position)
  | some [_, _] => .ok none
  | some _ => .error (.wrongLength position)

/-- The fields of a row of pairs. -/
def ofPairs : Nat → List Value → Except PairsError (List (String × Value))
  | _, [] => .ok []
  | position, pair :: rest => do
    let field ← ofPair position pair
    let fields ← ofPairs (position + 1) rest
    return field.toList ++ fields

/-- The fields that a value given as form data stands for. -/
def ofData (value : Value) : Except PairsError Fields :=
  if !value.isGiven then .ok []
  else
    match value with
    | .object fields => .ok fields
    | value =>
      match members? value with
      | some pairs => do return ofMentions (← ofPairs 0 pairs)
      | none => .error (.notPairs value.kind)

end Fields
end Paperwork
