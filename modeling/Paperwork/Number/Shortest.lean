/-
The fewest decimal digits that name a double precision number.

A positive number stands for an interval of reals, those that round to it; the ends
belong to it exactly when its significand is even.  For one digit, two digits and so
on, the two multiples of the matching power of ten beside the number are tried; the
first count at which one of them lies in the interval wins, and of two the nearer
one.  Seventeen digits always suffice, so the search ends.
-/
import Paperwork.Number.Binary64

namespace Paperwork

/-- A decimal numeral: `digits * 10 ^ exponent`. -/
structure Numeral where
  digits : Nat
  exponent : Int
  deriving DecidableEq, Repr, Inhabited

namespace Binary64

/-- How many decimal digits a number is written with. -/
def decimalLength (n : Nat) : Nat := (Nat.toDigits 10 n).length

/-- The decimal exponent of the leading digit of the positive quantity
`size * 2 ^ (-tiniest)`. -/
def leadingExponent (size : Nat) : Int :=
  let whole := size / Nat.pow 2 tiniest
  if whole = 0 then -(decimalLength (Nat.pow 2 tiniest / size) : Int)
  else (decimalLength whole : Int) - 1

/-- The reals that round to a number, in quarters of the smallest positive number. -/
structure Rounding where
  lowest : Nat
  value : Nat
  highest : Nat
  endsIncluded : Bool

/-- The rounding interval of the finite number with these fields.  Just above a power
of two the numbers below lie twice as close. -/
def roundingOf (exponent : Fin 2047) (fraction : Fin fractions) : Rounding :=
  let unit := Nat.pow 2 (shift exponent)
  let value := 4 * significand exponent fraction * unit
  let below := if fraction.val = 0 ∧ 1 < exponent.val then unit else 2 * unit
  ⟨value - below, value, value + 2 * unit, fraction.val % 2 == 0⟩

/-- Of the two multiples of `10 ^ exponent` beside the number, the one inside its
rounding interval; of two the nearer, and of two equally near the even one. -/
def Rounding.neighbour? (r : Rounding) (exponent : Int) : Option Nat :=
  let scale := if exponent < 0 then Nat.pow 10 exponent.natAbs else 1
  let step := Nat.pow 2 (tiniest + 2) * (if exponent < 0 then 1 else Nat.pow 10 exponent.natAbs)
  let inside (multiple : Nat) : Bool :=
    if r.endsIncluded then r.lowest * scale ≤ multiple && multiple ≤ r.highest * scale
    else r.lowest * scale < multiple && multiple < r.highest * scale
  let floor := r.value * scale / step
  let up := (floor + 1) * step
  let down := floor * step
  let toDown := r.value * scale - down
  let toUp := up - r.value * scale
  match inside down, inside up with
  | true, true =>
    if toDown < toUp then some floor
    else if toUp < toDown then some (floor + 1)
    else some (floor + floor % 2)
  | true, false => some floor
  | false, true => some (floor + 1)
  | false, false => none

/-- The number without its trailing zeros, and how many there were. -/
def withoutTrailingZeros : Nat → Nat → Nat × Nat
  | 0, n => (n, 0)
  | bound + 1, n =>
    if n % 10 = 0 ∧ n ≠ 0 then
      let (rest, count) := withoutTrailingZeros bound (n / 10)
      (rest, count + 1)
    else (n, 0)

/-- The shortest numeral of the positive finite number with these fields. -/
def shortest (exponent : Fin 2047) (fraction : Fin fractions) : Numeral :=
  let leading := leadingExponent (significand exponent fraction * Nat.pow 2 (shift exponent))
  let rounding := roundingOf exponent fraction
  let found := (List.range 17).findSome? fun (more : Nat) =>
    (rounding.neighbour? (leading - more)).map fun digits => Numeral.mk digits (leading - more)
  let numeral := found.getD ⟨0, 0⟩
  let (digits, zeros) := withoutTrailingZeros 20 numeral.digits
  ⟨digits, numeral.exponent + zeros⟩

end Binary64
end Paperwork
