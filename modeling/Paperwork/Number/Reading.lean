/-
Reading numbers from text.

The core is one grammar of decimal literals: digits with an optional point and an
optional exponent.  Around it stand the two ways in which a whole text may be a
number.  The tolerant way allows white space around the number, digits of any script
and single underscores between digits; the plain way takes a number in its simplest form
or else strips white space, leading zeros and underscores beforehand.
-/
import Paperwork.Number.Binary64
import Paperwork.Text.Blank
import Paperwork.Text.Digit
import Paperwork.Text.LetterCase
import Paperwork.Text.Words

namespace Paperwork

open Paperwork.Text

namespace Decimal

/-- Whether a character is a digit from zero to nine. -/
def isDigit (c : Char) : Bool := '0' ≤ c && c ≤ '9'

/-- The number written by a run of digits. -/
def value (digits : List Char) : Nat :=
  digits.foldl (fun n c => n * 10 + (c.toNat - '0'.toNat)) 0

/-- The digits a text begins with, and the rest. -/
def digits (cs : List Char) : List Char × List Char := cs.span isDigit

/-- The most digits of an integer that are converted. -/
def digitLimit : Nat := 4300

/-- An optional sign, and the rest. -/
def sign : List Char → Bool × List Char
  | '-' :: rest => (true, rest)
  | '+' :: rest => (false, rest)
  | rest => (false, rest)

/-- An exponent with its mark, and the rest; nothing where the mark has no digits. -/
def exponent? : List Char → Option (Int × List Char)
  | mark :: rest =>
    if mark = 'e' ∨ mark = 'E' then
      let (negative, rest) := sign rest
      let (ds, rest) := digits rest
      if ds.isEmpty then none
      else some (if negative then -(value ds) else value ds, rest)
    else none
  | [] => none

/-- A number from the digits before and after its point and its exponent. -/
def assemble (negative : Bool) (whole fraction : List Char) (exponent : Int) : Binary64 :=
  let ds := (whole ++ fraction).dropWhile (· == '0')
  Binary64.ofDecimal negative (value ds) ds.length (exponent - fraction.length)

/-- A text that is one decimal literal without a sign: digits before or after the point
may be missing, though not both. -/
def unsigned? (negative : Bool) (cs : List Char) : Option Binary64 :=
  let (whole, rest) := digits cs
  let (fraction, rest) :=
    match rest with
    | '.' :: rest => digits rest
    | rest => ([], rest)
  if whole.isEmpty && fraction.isEmpty then none
  else
    match rest with
    | [] => some (assemble negative whole fraction 0)
    | rest =>
      match exponent? rest with
      | some (exponent, []) => some (assemble negative whole fraction exponent)
      | _ => none

/-- A text that is one number: a decimal literal or a spelled out value, with a sign. -/
def literal? (cs : List Char) : Option Binary64 :=
  let (negative, rest) := sign cs
  let word := String.ofList (rest.map Char.toLower)
  if word = "inf" ∨ word = "infinity" then some (.infinite negative)
  else if word = "nan" then some .nan
  else unsigned? negative rest

/-! ### The tolerant way -/

/-- A text with the decimal digits of all scripts written from zero to nine; nothing
where another character beyond ASCII occurs. -/
def inAscii? (cs : List Char) : Option (List Char) :=
  cs.mapM fun c =>
    if c.toNat < 127 then some c
    else (decimalDigit? c).map fun digit => Char.ofNat ('0'.toNat + digit)

/-- A text without its underscores, if each stands between two digits; `after` says
whether the character before was a digit. -/
def joinDigits? : Bool → List Char → Option (List Char)
  | _, [] => some []
  | after, '_' :: rest =>
    match rest with
    | next :: _ => if after && isDigit next then joinDigits? false rest else none
    | [] => none
  | _, c :: rest => (joinDigits? (isDigit c) rest).map (c :: ·)

/-- The text of a number in plain form: trimmed, in ASCII, without underscores. -/
def tolerant? (cs : List Char) : Option (List Char) :=
  (inAscii? (trimmed isSpace cs)).bind (joinDigits? false)

/-- A double precision number, read tolerantly. -/
def toFloat? (text : String) : Option Binary64 := (tolerant? text.toList).bind literal?

/-- An integer, read tolerantly; none of more digits than are converted. -/
def toInt? (text : String) : Option Int :=
  (tolerant? text.toList).bind fun cs =>
    let (negative, rest) := sign cs
    if rest.isEmpty || !rest.all isDigit || digitLimit < rest.length then none
    else some (if negative then -(value rest) else value rest)

/-! ### The plain way -/

/-- A text without underscores, if it has none at its ends and no two in a row. -/
def strippedUnderscores? (cs : List Char) : Option (List Char) :=
  let pieces := splitWhere (· == '_') cs
  if 1 < pieces.length && pieces.any List.isEmpty then none else some pieces.flatten

/-- A double precision number, read plainly. -/
def plainFloat? (text : String) : Option Binary64 :=
  match literal? (trimmed isSpace text.toList) with
  | some x => some x
  | none => (strippedUnderscores? text.toList).bind literal?

/-- Why a text is not an integer. -/
inductive IntegerError
  | notDigits
  | tooLong
  deriving DecidableEq, Repr

/-- An integer in its simplest form: a minus if it is negative, and digits of which the
first is no zero unless it is the only one.  More characters than are converted are too
many whatever stands behind them. -/
def simpleInt (cs : List Char) : Except IntegerError Int :=
  let (negative, rest) :=
    match cs with
    | '-' :: rest => (true, rest)
    | rest => (false, rest)
  let (ds, rest) := digits rest
  if ds.isEmpty || (ds.head? == some '0' && 1 < ds.length) then .error .notDigits
  else if digitLimit < ds.length + (if negative then 1 else 0) then .error .tooLong
  else if rest.isEmpty then .ok (if negative then -(value ds) else value ds)
  else .error .notDigits

/-- A text without a plus in front of it; nothing where a minus follows the plus. -/
def withoutPlus? : List Char → Option (List Char)
  | '+' :: '-' :: _ => none
  | '+' :: rest => some rest
  | rest => some rest

/-- Whether an integer in its simplest form may begin with a character, zero aside. -/
def startsInt (c : Char) : Bool := ('1' ≤ c && c ≤ '9') || c == '-'

/-- A text without the zeros and underscores in front of a number, the last of them kept
where a point or nothing follows; nothing where something else follows or the text
begins with an underscore. -/
def withoutLeadingZeros? : List Char → Option (List Char)
  | '0' :: rest => afterZeros '0' rest
  | c :: rest => if startsInt c then some (c :: rest) else none
  | [] => none
where
  /-- Continues behind a zero or an underscore. -/
  afterZeros (last : Char) : List Char → Option (List Char)
    | [] => some [last]
    | c :: rest =>
      if c = '0' ∨ c = '_' then afterZeros c rest
      else if startsInt c then some (c :: rest)
      else if c = '.' then some (last :: c :: rest)
      else none

/-- A text up to its point, if zeros and nothing else follow the point; the text itself
otherwise. -/
def withoutZeroFraction (cs : List Char) : List Char :=
  let whole := cs.takeWhile (· != '.')
  match cs.drop whole.length with
  | _ :: '0' :: fraction => if fraction.all (· == '0') then whole else cs
  | _ => cs

/-- The simplest form that a text is meant for: without blanks around it, a plus, leading
zeros, a fraction of zeros and underscores. -/
def simplified? (cs : List Char) : Option (List Char) := do
  let cs ← withoutPlus? (trimmed isSpace cs)
  strippedUnderscores? (withoutZeroFraction (← withoutLeadingZeros? cs))

/-- An integer, read plainly.  That it is too long is told only of the simplest form. -/
def plainInt (text : String) : Except IntegerError Int :=
  match simpleInt text.toList with
  | .error .notDigits =>
    match (simplified? text.toList).map simpleInt with
    | some (.ok n) => .ok n
    | _ => .error .notDigits
  | answer => answer

end Decimal
end Paperwork
