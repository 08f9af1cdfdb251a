/-
From where on numbers are too large for double precision.

A quotient is rounded to 53 bits wherever it lies, so whether it is finite is seen from
the largest finite number and the next power of two: from half way between them on it is
taken to be infinite.  Half way counts as too large, as the last bit of the largest
finite number is odd.
-/
import Mathlib
import Paperwork.Number.Binary64

namespace Paperwork.Binary64

/-! ### Rounding to whole numbers -/

theorem le_roundedQuotient (a d : Nat) : a / d ≤ roundedQuotient a d := by
  simp only [roundedQuotient]
  split_ifs <;> omega

theorem roundedQuotient_le (a d : Nat) : roundedQuotient a d ≤ a / d + 1 := by
  simp only [roundedQuotient]
  split_ifs <;> omega

/-- A quotient is rounded past an odd number from half way to the next one on. -/
theorem lt_roundedQuotient {a d k : Nat} (hd : 0 < d) (hk : k % 2 = 1) :
    k < roundedQuotient a d ↔ (2 * k + 1) * d ≤ 2 * a := by
  have hdivision := Nat.div_add_mod a d
  have hrest := Nat.mod_lt a hd
  rcases Nat.lt_trichotomy (a / d) k with hlt | rfl | hgt
  · have hsmall := roundedQuotient_le a d
    have hmul : d * (a / d + 1) ≤ d * k := Nat.mul_le_mul_left d hlt
    refine iff_of_false (by omega) (Nat.not_le.mpr ?_)
    calc 2 * a < 2 * (d * (a / d + 1)) := by rw [Nat.mul_add]; omega
      _ ≤ 2 * (d * k) := Nat.mul_le_mul_left 2 hmul
      _ ≤ (2 * k + 1) * d := by nlinarith
  · have hbound : (2 * (a / d) + 1) * d = 2 * (d * (a / d)) + d := by ring
    simp only [roundedQuotient, hk, hbound]
    split_ifs <;> omega
  · have hlarge := le_roundedQuotient a d
    have hmul : d * (k + 1) ≤ d * (a / d) := Nat.mul_le_mul_left d hgt
    refine iff_of_true (by omega) ?_
    calc (2 * k + 1) * d ≤ 2 * (d * (k + 1)) := by nlinarith
      _ ≤ 2 * (d * (a / d)) := Nat.mul_le_mul_left 2 hmul
      _ ≤ 2 * a := by omega

/-! ### Overflow -/

/-- Whether a number is infinite, of either sign. -/
def IsInfinite (x : Binary64) : Prop := ∃ negative, x = .infinite negative

theorem isInfinite_ofWord {negative : Bool} {word : Nat} :
    (ofWord negative word).IsInfinite ↔ 2047 * fractions ≤ word := by
  unfold ofWord
  split
  · rename_i hword
    exact iff_of_false (fun ⟨_, h⟩ => absurd h nofun) (Nat.not_le.mpr hword)
  · rename_i hword
    exact iff_of_true ⟨negative, rfl⟩ (Nat.not_lt.mp hword)

/-- How far a quotient is shifted to the right for 53 bits of it to be left. -/
def shiftFor (scaled d : Nat) : Nat := Nat.log2 (scaled / d) - 52

/-- A quotient is shifted until 53 bits are left, unless it has fewer. -/
theorem leading_bits (scaled : Nat) {d : Nat} (hd : 0 < d) :
    scaled < 2 * fractions * (d * 2 ^ shiftFor scaled d) ∧
      (0 < shiftFor scaled d → fractions * (d * 2 ^ shiftFor scaled d) ≤ scaled) := by
  have hfractions : fractions = 2 ^ 52 := by decide
  have hhigh : scaled / d < 2 ^ (Nat.log2 (scaled / d) + 1) := Nat.lt_log2_self
  unfold shiftFor
  constructor
  · have hpower : 2 ^ (Nat.log2 (scaled / d) + 1)
        ≤ 2 ^ (53 + (Nat.log2 (scaled / d) - 52)) := Nat.pow_le_pow_right (by decide) (by omega)
    have hlt := hhigh.trans_le hpower
    rw [Nat.div_lt_iff_lt_mul hd, Nat.pow_add] at hlt
    calc scaled < 2 ^ 53 * 2 ^ (Nat.log2 (scaled / d) - 52) * d := hlt
      _ = 2 * fractions * (d * 2 ^ (Nat.log2 (scaled / d) - 52)) := by rw [hfractions]; ring
  · intro hshift
    have hne : scaled / d ≠ 0 := by
      intro hzero
      simp [hzero] at hshift
    have hlow := Nat.log2_self_le hne
    rw [Nat.le_div_iff_mul_le hd] at hlow
    have hpower : 2 ^ Nat.log2 (scaled / d) = 2 ^ 52 * 2 ^ (Nat.log2 (scaled / d) - 52) := by
      rw [← Nat.pow_add]
      congr 1
      omega
    calc fractions * (d * 2 ^ (Nat.log2 (scaled / d) - 52))
        = 2 ^ Nat.log2 (scaled / d) * d := by rw [hfractions, hpower]; ring
      _ ≤ scaled := hlow

/-- From which size on the shift and the rounded bits of a quotient, read as one word, pass
the exponent that lies one above `t`: its bits then round up to the next power of two. -/
theorem le_word_iff {scaled d t : Nat} (hd : 0 < d) (ht : 0 < t) :
    (t + 2) * fractions ≤ shiftFor scaled d * fractions
        + roundedQuotient scaled (d * 2 ^ shiftFor scaled d)
      ↔ (4 * fractions - 1) * (d * 2 ^ t) ≤ 2 * scaled := by
  obtain ⟨hhigh, hlow⟩ := leading_bits scaled hd
  generalize shiftFor scaled d = shift at *
  have hfractions : 0 < fractions := by decide
  have hpos : 0 < d * 2 ^ shift := Nat.mul_pos hd (Nat.two_pow_pos _)
  have hdouble : ∀ {i j : Nat}, i < j → 2 * (d * 2 ^ i) ≤ d * 2 ^ j := by
    intro i j hij
    calc 2 * (d * 2 ^ i) = d * 2 ^ (i + 1) := by rw [Nat.pow_succ]; ring
      _ ≤ d * 2 ^ j := Nat.mul_le_mul_left d (Nat.pow_le_pow_right Nat.two_pos hij)
  rcases Nat.lt_trichotomy shift t with hbelow | rfl | habove
  · have hquotient : scaled / (d * 2 ^ shift) < 2 * fractions :=
      (Nat.div_lt_iff_lt_mul hpos).mpr hhigh
    have hrounded := roundedQuotient_le scaled (d * 2 ^ shift)
    have hword : (shift + 1) * fractions ≤ t * fractions := Nat.mul_le_mul_right _ hbelow
    have hless : 2 * scaled < (4 * fractions - 1) * (d * 2 ^ t) := by
      calc 2 * scaled < 2 * (2 * fractions * (d * 2 ^ shift)) := by omega
        _ = 2 * fractions * (2 * (d * 2 ^ shift)) := by ring
        _ ≤ 2 * fractions * (d * 2 ^ t) := Nat.mul_le_mul_left _ (hdouble hbelow)
        _ ≤ (4 * fractions - 1) * (d * 2 ^ t) := Nat.mul_le_mul_right _ (by decide)
    rw [Nat.add_mul] at hword ⊢
    exact iff_of_false (by omega) (by omega)
  · have hbits : 2 * (2 * fractions - 1) + 1 = 4 * fractions - 1 := by decide
    rw [← hbits, ← lt_roundedQuotient hpos (by decide), Nat.add_mul]
    omega
  · have hrounded : fractions ≤ roundedQuotient scaled (d * 2 ^ shift) :=
      ((Nat.le_div_iff_mul_le hpos).mpr (hlow (by omega))).trans (le_roundedQuotient _ _)
    have hword : (t + 1) * fractions ≤ shift * fractions := Nat.mul_le_mul_right _ habove
    have hmore : (4 * fractions - 1) * (d * 2 ^ t) ≤ 2 * scaled := by
      calc (4 * fractions - 1) * (d * 2 ^ t)
          ≤ 4 * fractions * (d * 2 ^ t) := Nat.mul_le_mul_right _ (Nat.sub_le _ _)
        _ = 2 * fractions * (2 * (d * 2 ^ t)) := by ring
        _ ≤ 2 * fractions * (d * 2 ^ shift) := Nat.mul_le_mul_left _ (hdouble habove)
        _ = 2 * (fractions * (d * 2 ^ shift)) := by ring
        _ ≤ 2 * scaled := Nat.mul_le_mul_left 2 (hlow (by omega))
    refine iff_of_true ?_ hmore
    calc (t + 2) * fractions = (t + 1) * fractions + fractions := by ring
      _ ≤ shift * fractions + roundedQuotient scaled (d * 2 ^ shift) :=
          Nat.add_le_add hword hrounded

/-- **A quotient is infinite from half way on** between the largest finite number and the
next power of two. -/
theorem isInfinite_ofRatio {negative : Bool} {a d : Nat} (hd : 0 < d) :
    (ofRatio negative a d).IsInfinite ↔ (4 * fractions - 1) * (d * 2 ^ 970) ≤ a := by
  -- The powers of two are too large to be computed.
  obtain ⟨unit, hunit⟩ : ∃ unit, unit = 2 ^ tiniest := ⟨_, rfl⟩
  obtain ⟨half, hhalf⟩ : ∃ half, half = 2 ^ 970 := ⟨_, rfl⟩
  have hsplit : ∀ i j, 2 ^ (i + 1 + j) = 2 ^ i * 2 * 2 ^ j := by
    intro i j
    rw [Nat.pow_add, Nat.pow_succ]
  have hpower : 2 ^ 2045 = half * 2 * unit := by
    have hexponent : 2045 = 970 + 1 + tiniest := by decide
    rw [hexponent, hsplit, ← hunit, ← hhalf]
  have hpositive : 0 < 2 * unit := by
    rw [hunit]
    exact Nat.mul_pos Nat.two_pos (Nat.two_pow_pos _)
  have hword : ofRatio negative a d = ofWord negative (shiftFor (a * unit) d * fractions
      + roundedQuotient (a * unit) (d * 2 ^ shiftFor (a * unit) d)) := by
    simp only [ofRatio, Nat.pow_eq, ← hunit, shiftFor]
  have hsides : (4 * fractions - 1) * (d * (half * 2 * unit))
      = (4 * fractions - 1) * (d * half) * (2 * unit) := by ring
  have htwice : 2 * (a * unit) = a * (2 * unit) := by ring
  rw [hword, isInfinite_ofWord, ← hhalf]
  rw [le_word_iff (t := 2045) hd (by decide), hpower, hsides, htwice]
  exact Nat.mul_le_mul_right_iff hpositive

/-- **An integer is too large for double precision** from half way on between the largest
finite number and the next power of two. -/
theorem isInfinite_ofInt {n : Int} :
    (ofInt n).IsInfinite ↔ 2 ^ 1024 - 2 ^ 970 ≤ n.natAbs := by
  have hbound : (4 * fractions - 1) * (1 * 2 ^ 970) = 2 ^ 1024 - 2 ^ 970 := by
    rw [show 1024 = 54 + 970 by rfl, Nat.pow_add, one_mul, Nat.sub_mul, one_mul,
      show 4 * fractions = 2 ^ 54 by decide]
  rw [ofInt, isInfinite_ofRatio Nat.one_pos, hbound]

end Paperwork.Binary64
