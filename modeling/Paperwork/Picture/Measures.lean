/-
What the head of a picture tells about its size.
-/
import Paperwork.Number.Binary64

namespace Paperwork.Picture

/-- The size of a picture in pixels, and pixels per inch. -/
structure Measures where
  width : Nat
  height : Nat
  across : Nat
  down : Nat
  deriving DecidableEq, Repr

/-- Why a picture is not measured. -/
inductive MeasureError
  | unrecognized
  | truncated
  | unreadableText
  | emptyText
  | noHeader
  | shortHeader
  | noMarker
  | noFrame
  | noDensity
  | noDenominator
  | notANumber
  deriving DecidableEq, Repr

/-- A number that has to be there. -/
def told (number : Option Nat) : Except MeasureError Nat :=
  match number with
  | some n => .ok n
  | none => .error .truncated

/-! ### Resolution -/

/-- The resolution of pictures that tell none. -/
def usualResolution : Nat := 72

/-- The whole number nearest to a number, of two the even one. -/
def nearest (x : Binary64) : Nat :=
  match x.toRatio? with
  | some (numerator, denominator) => Binary64.roundedQuotient numerator.natAbs denominator
  | none => 0

/-- How many meters make an inch. -/
def metersPerInch : Binary64 := Binary64.ofDecimal false 254 3 (-4)

/-- How many centimeters make an inch. -/
def centimetersPerInch : Binary64 := Binary64.ofDecimal false 254 3 (-2)

/-- Pixels per inch, of pixels per meter. -/
def perInch (perMeter : Nat) : Nat := nearest ((Binary64.ofInt perMeter).mul metersPerInch)

end Paperwork.Picture
