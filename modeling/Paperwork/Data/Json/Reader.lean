/-
Reading JSON text.

Blanks are the space, the tab, the line feed and the carriage return only, control
characters may not stand in strings, and the three values that are not numbers in
JSON are understood all the same.  Of a key that is repeated in an object the last
value counts, at the place of the first.  Containers may be nested up to a limit.
-/
import Paperwork.Data.Value
import Paperwork.Number.Reading
import Paperwork.Text.Pattern

namespace Paperwork.Json

open Paperwork.Text

/-- Why a text is not read as JSON. -/
inductive ReadError
  | malformed
  | integerTooLong
  | tooDeep
  deriving DecidableEq, Repr

/-- Reads something at the head of a text and answers it with the rest. -/
abbrev Reader (α : Type) := List Char → Except ReadError (α × List Char)

/-- How many containers may be nested in each other. -/
def nestingLimit : Nat := 1000

/-- The blanks of JSON. -/
def isBlank (c : Char) : Bool := c == ' ' || c == '\t' || c == '\n' || c == '\r'

/-- A text without the blanks at its head. -/
def skipBlanks (cs : List Char) : List Char := cs.dropWhile isBlank

/-! ### Strings -/

/-- The value of a digit of a number with up to sixteen digits. -/
def hexDigit? (c : Char) : Option Nat :=
  if '0' ≤ c ∧ c ≤ '9' then some (c.toNat - '0'.toNat)
  else if 'a' ≤ c ∧ c ≤ 'f' then some (c.toNat - 'a'.toNat + 10)
  else if 'A' ≤ c ∧ c ≤ 'F' then some (c.toNat - 'A'.toNat + 10)
  else none

/-- The number of four such digits. -/
def unit? (a b c d : Char) : Option Nat := do
  return ((← hexDigit? a) * 16 + (← hexDigit? b)) * 256 + ((← hexDigit? c) * 16 + (← hexDigit? d))

/-- The character that a letter behind a backslash stands for. -/
def escaped? (c : Char) : Option Char :=
  match c with
  | '"' => some '"'
  | '\\' => some '\\'
  | '/' => some '/'
  | 'b' => some '\x08'
  | 'f' => some '\x0c'
  | 'n' => some '\n'
  | 'r' => some '\r'
  | 't' => some '\t'
  | _ => none

/-- The character of two halves written one after the other. -/
def ofHalves (high low : Nat) : Char :=
  Char.ofNat (0x10000 + (high - 0xD800) * 0x400 + (low - 0xDC00))

/-- The character of a code unit; a half that stands alone is replaced. -/
def ofUnit (code : Nat) : Char :=
  if 0xD800 ≤ code ∧ code ≤ 0xDFFF then '\uFFFD' else Char.ofNat code

/-- The characters of a row of code units: two halves in a row are one character. -/
def ofUnits : List Nat → List Char
  | [] => []
  | high :: low :: rest =>
    if 0xD800 ≤ high ∧ high ≤ 0xDBFF ∧ 0xDC00 ≤ low ∧ low ≤ 0xDFFF then
      ofHalves high low :: ofUnits rest
    else ofUnit high :: ofUnits (low :: rest)
  | code :: rest => ofUnit code :: ofUnits rest

/-- The code units of a string behind its opening quote, up to and with the closing one. -/
def readUnits : Reader (List Nat)
  | [] => .error .malformed
  | '"' :: rest => .ok ([], rest)
  | '\\' :: 'u' :: a :: b :: c :: d :: rest =>
    match unit? a b c d with
    | some code => do
      let (units, rest) ← readUnits rest
      return (code :: units, rest)
    | none => .error .malformed
  | '\\' :: c :: rest =>
    match escaped? c with
    | some c => do
      let (units, rest) ← readUnits rest
      return (c.toNat :: units, rest)
    | none => .error .malformed
  | c :: rest =>
    if c.toNat < 0x20 ∨ c = '\\' then .error .malformed
    else do
      let (units, rest) ← readUnits rest
      return (c.toNat :: units, rest)

/-- A string behind its opening quote, up to and with the closing one. -/
def readString (cs : List Char) : Except ReadError (List Char × List Char) := do
  let (units, rest) ← readUnits cs
  return (ofUnits units, rest)

/-! ### Numbers -/

/-- The digits of a whole number: a zero alone, or digits that begin with another. -/
def wholeDigits (cs : List Char) : List Char × List Char :=
  match cs with
  | '0' :: rest => (['0'], rest)
  | cs => Decimal.digits cs

/-- A point with the digits behind it, where there are any. -/
def fractionDigits (cs : List Char) : List Char × List Char :=
  match cs with
  | '.' :: rest =>
    let (ds, after) := Decimal.digits rest
    if ds.isEmpty then ([], cs) else (ds, after)
  | cs => ([], cs)

/-- A number.  Without a fraction and an exponent it is an integer. -/
def readNumber (cs : List Char) : Except ReadError (Value × List Char) :=
  let (negative, rest) :=
    match cs with
    | '-' :: rest => (true, rest)
    | rest => (false, rest)
  let (whole, rest) := wholeDigits rest
  if whole.isEmpty then .error .malformed
  else
    let (fraction, rest) := fractionDigits rest
    match Decimal.exponent? rest with
    | some (exponent, rest) =>
      .ok (.float (Decimal.assemble negative whole fraction exponent), rest)
    | none =>
      if !fraction.isEmpty then .ok (.float (Decimal.assemble negative whole fraction 0), rest)
      else if Decimal.digitLimit < whole.length then .error .integerTooLong
      else
        let n : Int := Decimal.value whole
        .ok (.int (if negative then -n else n), rest)

/-- The words of JSON and what they mean. -/
def keywords : List (List Char × Value) :=
  [("null".toList, .null), ("true".toList, .bool true), ("false".toList, .bool false),
   ("NaN".toList, .float .nan), ("Infinity".toList, .float (.infinite false)),
   ("-Infinity".toList, .float (.infinite true))]

/-- A word of JSON or a number. -/
def readAtom (cs : List Char) : Except ReadError (Value × List Char) :=
  match keywords.findSome? fun (word, value) => (behind? word cs).map fun rest => (value, rest) with
  | some answer => .ok answer
  | none => readNumber cs

/-! ### Containers -/

/-- The items of a list up to its closing bracket.  Each takes at least one character,
so the length of the text bounds their number. -/
def readItems (item : Reader Value) : Nat → Reader (List Value)
  | 0, _ => .error .malformed
  | bound + 1, cs => do
    let (value, rest) ← item (skipBlanks cs)
    match skipBlanks rest with
    | ',' :: rest =>
      let (values, rest) ← readItems item bound rest
      return (value :: values, rest)
    | ']' :: rest => return ([value], rest)
    | _ => .error .malformed

/-- A key with the colon behind it. -/
def readKey (cs : List Char) : Except ReadError (String × List Char) :=
  match cs with
  | '"' :: rest => do
    let (key, rest) ← readString rest
    match skipBlanks rest with
    | ':' :: rest => return (String.ofList key, rest)
    | _ => .error .malformed
  | _ => .error .malformed

/-- The fields of an object up to its closing brace. -/
def readFields (item : Reader Value) : Nat → Reader (List (String × Value))
  | 0, _ => .error .malformed
  | bound + 1, cs => do
    let (key, rest) ← readKey (skipBlanks cs)
    let (value, rest) ← item (skipBlanks rest)
    match skipBlanks rest with
    | ',' :: rest =>
      let (fields, rest) ← readFields item bound rest
      return ((key, value) :: fields, rest)
    | '\x7d' :: rest => return ([(key, value)], rest)
    | _ => .error .malformed

/-- A value with at most `levels` containers nested in each other. -/
def readValue : Nat → Reader Value
  | _, '"' :: rest => do
    let (text, rest) ← readString rest
    return (.text (String.ofList text), rest)
  | 0, '[' :: _ => .error .tooDeep
  | 0, '\x7b' :: _ => .error .tooDeep
  | levels + 1, '[' :: rest =>
    match skipBlanks rest with
    | ']' :: rest => .ok (.list [], rest)
    | _ => do
      let (values, rest) ← readItems (readValue levels) rest.length rest
      return (.list values, rest)
  | levels + 1, '\x7b' :: rest =>
    match skipBlanks rest with
    | '\x7d' :: rest => .ok (.object [], rest)
    | _ => do
      let (fields, rest) ← readFields (readValue levels) rest.length rest
      return (.object (Fields.ofMentions fields), rest)
  | _, cs => readAtom cs

/-- The value a whole text is the JSON text of. -/
def read (text : List Char) : Except ReadError Value := do
  let (value, rest) ← readValue nestingLimit (skipBlanks text)
  if (skipBlanks rest).isEmpty then return value else .error .malformed

/-- The value a whole text is the JSON text of. -/
def ofText (text : String) : Except ReadError Value := read text.toList

end Paperwork.Json
