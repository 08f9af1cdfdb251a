/-
Sets of characters given as ranges of code points.
-/
namespace Paperwork.Text

/-- Ranges of code points, both ends included, in increasing order. -/
abbrev RangeTable := List (Nat × Nat)

/-- Whether a code point lies in one of the ranges; the search stops at the first
range above it. -/
def RangeTable.holds : RangeTable → Nat → Bool
  | [], _ => false
  | (first, last) :: rest, code =>
    if code < first then false
    else if code ≤ last then true
    else RangeTable.holds rest code

end Paperwork.Text
