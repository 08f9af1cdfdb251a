/-
Double precision numbers as plain data.

A finite number is its sign, its exponent field and its fraction field, so every
value of the type is a number of the format and two values are equal exactly when
they are the same number with the same sign.  All arithmetic is one operation:
`ofRatio` takes an exact quotient of natural numbers to the nearest number of the
format, ties going to the even neighbour.  Sums never occur in this library, so
products and quotients are all that is built on it.
-/
namespace Paperwork

/-- How many fractions there are for one exponent: `2 ^ 52`. -/
abbrev Binary64.fractions : Nat := 0x10000000000000

/-- A double precision number. -/
inductive Binary64
  | finite (negative : Bool) (exponent : Fin 2047) (fraction : Fin Binary64.fractions)
  | infinite (negative : Bool)
  | nan
  deriving DecidableEq, Repr, Inhabited

namespace Binary64

/-! ### The size of a number

Sizes are counted in units of the smallest positive number, `2 ^ (-1074)`: the size
of a finite number is `significand * 2 ^ shift` of them.
-/

/-- The whole significand of a finite number, its leading bit made explicit. -/
def significand (exponent : Fin 2047) (fraction : Fin fractions) : Nat :=
  if exponent.val = 0 then fraction.val else fractions + fraction.val

/-- How far the significand is shifted above the smallest positive number. -/
def shift (exponent : Fin 2047) : Nat := exponent.val - 1

/-- The binary exponent of the smallest positive number, without its sign. -/
def tiniest : Nat := 1074

/-- The number whose exponent and fraction fields, read as one word, are `word`;
a word past the largest finite number stands for infinity. -/
def ofWord (negative : Bool) (word : Nat) : Binary64 :=
  if h : word < 2047 * fractions then
    .finite negative ⟨word / fractions, Nat.div_lt_of_lt_mul (Nat.mul_comm 2047 _ ▸ h)⟩
      ⟨word % fractions, Nat.mod_lt word (by decide)⟩
  else
    .infinite negative

/-- The quotient rounded to a whole number, a half going to the even neighbour. -/
def roundedQuotient (numerator denominator : Nat) : Nat :=
  let quotient := numerator / denominator
  let rest := numerator % denominator
  if 2 * rest < denominator then quotient
  else if denominator < 2 * rest then quotient + 1
  else quotient + quotient % 2

/-- The number nearest to `numerator / denominator`.

The quotient is counted in units of the smallest positive number.  Its leading 53
bits, rounded, are the significand; adding them to the shift carries a significand
that rounds up to `2 ^ 53` into the next exponent by itself. -/
def ofRatio (negative : Bool) (numerator denominator : Nat) : Binary64 :=
  let scaled := numerator * Nat.pow 2 tiniest
  let shift := Nat.log2 (scaled / denominator) - 52
  ofWord negative (shift * fractions + roundedQuotient scaled (denominator * Nat.pow 2 shift))

/-- Zero with a sign. -/
def zero (negative : Bool) : Binary64 := ofWord negative 0

/-- The number nearest to an integer. -/
def ofInt (n : Int) : Binary64 := ofRatio (n < 0) n.natAbs 1

/-- The number nearest to `significand * 10 ^ exponent`.

The exponent may be written with any number of digits, so quantities that are
certainly too large or too small are answered before the power is computed: the
significand lies between `10 ^ (digits - 1)` and `10 ^ digits`. -/
def ofDecimal (negative : Bool) (significand digits : Nat) (exponent : Int) : Binary64 :=
  if significand = 0 then zero negative
  else if digits + exponent > 310 then .infinite negative
  else if digits + exponent < -330 then zero negative
  else if exponent < 0 then ofRatio negative significand (Nat.pow 10 exponent.natAbs)
  else ofRatio negative (significand * Nat.pow 10 exponent.natAbs) 1

/-! ### Exact readings -/

/-- A finite number as an exact fraction with a positive denominator. -/
def toRatio? : Binary64 → Option (Int × Nat)
  | .finite negative exponent fraction =>
    let size := significand exponent fraction * Nat.pow 2 (shift exponent)
    some (if negative then -size else size, Nat.pow 2 tiniest)
  | _ => none

/-- The whole number a finite number rounds to towards zero. -/
def truncate? (x : Binary64) : Option Int :=
  x.toRatio?.map fun (numerator, denominator) => numerator.tdiv denominator

/-- Whether the number is a finite whole number. -/
def isWhole (x : Binary64) : Bool :=
  match x.toRatio? with
  | some (numerator, denominator) => numerator.natAbs % denominator == 0
  | none => false

/-- Whether the number is zero of either sign. -/
def isZero : Binary64 → Bool
  | .finite _ exponent fraction => exponent.val == 0 && fraction.val == 0
  | _ => false

/-- Whether the number is greater than zero; not-a-number is not. -/
def isPositive : Binary64 → Bool
  | .finite negative exponent fraction => !negative && !(exponent.val == 0 && fraction.val == 0)
  | .infinite negative => !negative
  | .nan => false

/-- Whether the number is zero or below; not-a-number is not. -/
def isAtMostZero : Binary64 → Bool
  | .nan => false
  | x => !x.isPositive

/-- Whether the sign of the number is set. -/
def isNegative : Binary64 → Bool
  | .finite negative _ _ => negative
  | .infinite negative => negative
  | .nan => false

/-! ### Products, quotients and order -/

/-- The product, rounded once. -/
def mul (x y : Binary64) : Binary64 :=
  let negative := x.isNegative != y.isNegative
  match x, y with
  | .nan, _ | _, .nan => .nan
  | .infinite _, z | z, .infinite _ => if z.isZero then .nan else .infinite negative
  | .finite _ e f, .finite _ e' f' =>
    ofRatio negative
      (significand e f * Nat.pow 2 (shift e) * (significand e' f' * Nat.pow 2 (shift e')))
      (Nat.pow 2 (2 * tiniest))

/-- The quotient by a number that is not zero, rounded once. -/
def div (x y : Binary64) : Binary64 :=
  let negative := x.isNegative != y.isNegative
  match x, y with
  | .nan, _ | _, .nan => .nan
  | .infinite _, .infinite _ => .nan
  | .infinite _, _ => .infinite negative
  | _, .infinite _ => zero negative
  | .finite _ e f, .finite _ e' f' =>
    ofRatio negative (significand e f * Nat.pow 2 (shift e))
      (significand e' f' * Nat.pow 2 (shift e'))

/-- Whether one number is below another; never so of not-a-number. -/
def below (x y : Binary64) : Bool :=
  match x, y with
  | .nan, _ | _, .nan => false
  | .infinite negative, y => negative && y != .infinite true
  | _, .infinite negative => !negative
  | x, y =>
    match x.toRatio?, y.toRatio? with
    | some (a, _), some (b, _) => a < b
    | _, _ => false

/-- One. -/
def one : Binary64 := ofInt 1

end Binary64
end Paperwork
