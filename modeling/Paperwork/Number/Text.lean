/-
How numbers are written.

A finite double precision number is written with its shortest digits: positionally
while the exponent of its leading digit is at least -4 and below 16, otherwise with
one digit before the point and a signed exponent of two digits or more.  A whole
number keeps `.0` in both respects, so that it reads as a number with a fraction.
Where a number is shown to a reader instead, a whole number is written in full
without a point.
-/
import Paperwork.Number.Shortest

namespace Paperwork

/-- A number that is either an integer of any size or of double precision. -/
inductive Number
  | int (n : Int)
  | float (x : Binary64)
  deriving DecidableEq, Repr, Inhabited

namespace Binary64

/-- How the values without digits are spelled. -/
structure Spelling where
  infinity : String
  notANumber : String

/-- The spelling in plain text. -/
def Spelling.plain : Spelling := ⟨"inf", "nan"⟩

/-- The spelling in JSON text. -/
def Spelling.json : Spelling := ⟨"Infinity", "NaN"⟩

/-- The least exponent of the leading digit that is written positionally. -/
def leastPositional : Int := -4

/-- The first exponent of the leading digit that is written in scientific form. -/
def firstScientific : Int := 16

/-- A decimal exponent: its sign and at least two digits. -/
def exponentText (exponent : Int) : String :=
  let digits := toString exponent.natAbs
  (if exponent < 0 then "e-" else "e+") ++ (if digits.length < 2 then "0" ++ digits else digits)

/-- The text of a numeral that is not zero. -/
def numeralText (numeral : Numeral) : String :=
  let digits := toString numeral.digits
  let count : Int := digits.length
  let leading := numeral.exponent + count - 1
  if leading < leastPositional ∨ firstScientific ≤ leading then
    let tail := String.ofList (digits.toList.drop 1)
    String.ofList (digits.toList.take 1) ++ (if tail.isEmpty then "" else "." ++ tail)
      ++ exponentText leading
  else if leading < 0 then
    "0." ++ String.ofList (List.replicate (leading.natAbs - 1) '0') ++ digits
  else if 0 ≤ numeral.exponent then
    digits ++ String.ofList (List.replicate numeral.exponent.natAbs '0') ++ ".0"
  else
    let whole := (leading + 1).natAbs
    String.ofList (digits.toList.take whole) ++ "." ++ String.ofList (digits.toList.drop whole)

/-- The text of a number that reads back as the same number. -/
def text (x : Binary64) (spelling : Spelling) : String :=
  match x with
  | .nan => spelling.notANumber
  | .infinite negative => (if negative then "-" else "") ++ spelling.infinity
  | .finite negative exponent fraction =>
    (if negative then "-" else "") ++
      if exponent.val = 0 ∧ fraction.val = 0 then "0.0"
      else numeralText (shortest exponent fraction)

/-- The text of a number for a reader: a whole number in full, without a point. -/
def shown (x : Binary64) : String :=
  if x.isWhole then
    match x.truncate? with
    | some n => toString n
    | none => ""
  else x.text .plain

end Binary64

/-- The text of a number for a reader. -/
def Number.shown : Number → String
  | .int n => toString n
  | .float x => x.shown

end Paperwork
