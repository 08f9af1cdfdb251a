/-
Accepting values for what they are meant to be.

Values are read generously: a text that spells a number serves as a number, and a few
words and numbers serve as truth values.  What a value cannot be read as is a fault of
it.
-/
import Paperwork.Checking.Checked
import Paperwork.Data.Value
import Paperwork.Number.Reading

namespace Paperwork.Accept

open Checked (valid fault)

variable {α : Type}

/-- A text. -/
def text : Value → Checked String
  | .text s => valid s
  | _ => fault .notText

/-- The integers of 64 bits. -/
def inWord (n : Int) : Bool := -0x8000000000000000 ≤ n && n < 0x8000000000000000

/-- The words for false. -/
def falseWords : List String := ["0", "off", "f", "false", "n", "no"]

/-- The words for true. -/
def trueWords : List String := ["1", "on", "t", "true", "y", "yes"]

/-- The truth value of a number: zero and one have one. -/
def truthOf (n : Int) : Checked Bool :=
  if n = 0 then valid false
  else if n = 1 then valid true
  else fault .unreadableBoolean

/-- The integer that a number of double precision is. -/
def wholeNumber (x : Binary64) : Checked Int :=
  match x.truncate? with
  | none => fault .notFinite
  | some n =>
    if !x.isWhole then fault .fractional
    else if -0x8000000000000000 < n ∧ n < 0x8000000000000000 then valid n
    else fault .integerTooLong

/-- A truth value. -/
def boolean : Value → Checked Bool
  | .bool b => valid b
  | .text s =>
    let word := String.ofList (s.toList.map Char.toLower)
    if falseWords.contains word then valid false
    else if trueWords.contains word then valid true
    else fault .unreadableBoolean
  | .int n => if inWord n then truthOf n else fault .notBoolean
  | .float x =>
    match wholeNumber x with
    | .valid n => truthOf n
    | _ => fault .notBoolean
  | _ => fault .notBoolean

/-- An integer. -/
def integer : Value → Checked Int
  | .int n => valid n
  | .bool b => valid (if b then 1 else 0)
  | .float x => wholeNumber x
  | .text s =>
    match Decimal.plainInt s with
    | .ok n => valid n
    | .error .notDigits => fault .unreadableInteger
    | .error .tooLong => fault .integerTooLong
  | _ => fault .notInteger

/-- A number of double precision. -/
def double : Value → Checked Binary64
  | .float x => valid x
  | .int n =>
    match Binary64.ofInt n with
    | .infinite _ => fault .notNumber
    | x => valid x
  | .bool b => valid (Binary64.ofInt (if b then 1 else 0))
  | .text s =>
    match Decimal.plainFloat? s with
    | some x => valid x
    | none => fault .unreadableNumber
  | _ => fault .notNumber

/-- A number that keeps its kind; a text is read as an integer if it can be. -/
def number : Value → Checked Number
  | .int n => valid (.int n)
  | .float x => valid (.float x)
  | value =>
    ((integer value).map Number.int |>.under (.field "int")).orElse
      ((double value).map Number.float |>.under (.field "float"))

/-- Something that may be null. -/
def optional (accept : Value → Checked α) : Value → Checked (Option α)
  | .null => valid none
  | value => some <$> accept value

/-- A list of things of one sort. -/
def list (accept : Value → Checked α) : Value → Checked (List α)
  | .list items => Checked.items (items.map accept)
  | _ => fault .notList

/-- An object whose fields all are of one sort. -/
def object (accept : Value → Checked α) : Value → Checked (List (String × α))
  | .object fields =>
    Checked.all (fields.map fun (key, value) =>
      ((accept value).map fun a => (key, a)).under (.field key))
  | _ => fault .notObject

/-- An object with fields of its own. -/
def record (accept : Fields → Checked α) : Value → Checked α
  | .object fields => accept fields
  | _ => fault .notRecord

/-- A field under the first of its names that occurs, and `missing` where none does. -/
def field (fields : Fields) (names : List String) (accept : Value → Checked α) (missing : α) :
    Checked α :=
  match names.findSome? fun name => (fields.get? name).map fun value => (name, value) with
  | some (name, value) => (accept value).under (.field name)
  | none => valid missing

end Paperwork.Accept
