/-
The integers that double precision holds.

A number of double precision is 53 bits and a power of two.  So an integer is rounded unless
its bits, up to the last one that is set, are at most 53 of them; one that is not rounded is
found again whole when the number is cut off to an integer.
-/
import Paperwork.Proofs.Number.Range

namespace Paperwork.Binary64

/-- A number with a sign. -/
def signed (negative : Bool) (n : Nat) : Int := if negative then -n else n

/-- An integer is a number of double precision: at most 53 bits with zeros behind them, and not
too large. -/
def Holds (n : Int) : Prop :=
  ∃ bits zeros, bits < 2 * fractions ∧ zeros ≤ 971 ∧ n.natAbs = bits * 2 ^ zeros

theorem natAbs_signed (negative : Bool) (n : Nat) : (signed negative n).natAbs = n := by
  cases negative <;> simp [signed]

theorem signed_natAbs (n : Int) : signed (decide (n < 0)) n.natAbs = n := by
  by_cases h : n < 0
  · simp [signed, h, abs_of_neg h]
  · simp [signed, h, abs_of_nonneg (Int.not_lt.mp h)]

theorem signed_mul (negative : Bool) (n unit : Nat) :
    signed negative (n * unit) = signed negative n * unit := by
  cases negative <;> simp [signed]

/-- What is held is not too large for double precision. -/
theorem Holds.lt {n : Int} (h : Holds n) : n.natAbs < 2 ^ 1024 - 2 ^ 970 := by
  obtain ⟨bits, zeros, hbits, hzeros, hn⟩ := h
  have hbound : (2 * fractions - 1) * 2 ^ 971 < 2 ^ 1024 - 2 ^ 970 := by decide +kernel
  -- The power of two is too large to be computed.
  obtain ⟨most, hmost⟩ : ∃ most, most = 2 ^ 971 := ⟨_, rfl⟩
  have hpower : 2 ^ zeros ≤ most := by
    rw [hmost]
    exact pow_le_pow_right₀ one_le_two hzeros
  rw [← hmost] at hbound
  calc n.natAbs = bits * 2 ^ zeros := hn
    _ ≤ (2 * fractions - 1) * most := Nat.mul_le_mul (Nat.le_sub_one_of_lt hbits) hpower
    _ < 2 ^ 1024 - 2 ^ 970 := hbound

/-- An integer of at most 53 bits is held. -/
theorem holds_of_lt {n : Int} (h : n.natAbs < 2 * fractions) : Holds n :=
  ⟨n.natAbs, 0, h, Nat.zero_le _, (Nat.mul_one _).symm⟩

theorem holds_zero : Holds 0 := holds_of_lt (by decide)

theorem ofRatio_zero (negative : Bool) : ofRatio negative 0 1 = zero negative := by
  simp [ofRatio, zero, roundedQuotient]

theorem ofInt_zero : ofInt 0 = zero false := ofRatio_zero false

/-! ### Cutting numbers off -/

theorem significand_lt (exponent : Fin 2047) (fraction : Fin fractions) :
    significand exponent fraction < 2 * fractions := by
  have hfraction := fraction.isLt
  unfold significand
  split <;> omega

theorem toRatio?_finite (negative : Bool) (exponent : Fin 2047) (fraction : Fin fractions) :
    (finite negative exponent fraction).toRatio?
      = some (signed negative (significand exponent fraction * 2 ^ shift exponent),
          2 ^ tiniest) := by
  simp only [toRatio?, signed, Nat.pow_eq]

theorem truncate?_of_toRatio? {x : Binary64} {a : Int} {d : Nat} (h : x.toRatio? = some (a, d)) :
    x.truncate? = some (a.tdiv d) := by
  rw [truncate?, h]
  rfl

theorem isWhole_of_toRatio? {x : Binary64} {a : Int} {d : Nat} (h : x.toRatio? = some (a, d)) :
    x.isWhole = (a.natAbs % d == 0) := by
  rw [isWhole, h]

/-- Cutting a number off leaves an integer that is held. -/
theorem holds_of_truncate? {x : Binary64} {n : Int} (h : x.truncate? = some n) : Holds n := by
  cases x with
  | infinite negative => cases h
  | nan => cases h
  | finite negative exponent fraction =>
      rw [truncate?_of_toRatio? (toRatio?_finite ..), Option.some.injEq] at h
      have hbits := significand_lt exponent fraction
      have hsize : n.natAbs
          = significand exponent fraction * 2 ^ shift exponent / 2 ^ tiniest := by
        rw [← h, Int.natAbs_tdiv, natAbs_signed, Int.natAbs_natCast]
        rfl
      have hexponent : shift exponent ≤ 2045 :=
        Nat.sub_le_of_le_add (Nat.le_of_lt_succ exponent.isLt)
      generalize significand exponent fraction = bits at *
      generalize shift exponent = s at *
      rcases Nat.le_total s tiniest with hsmall | hlarge
      · refine ⟨bits / 2 ^ (tiniest - s), 0, (Nat.div_le_self _ _).trans_lt hbits, by decide, ?_⟩
        have hsplit : 2 ^ tiniest = 2 ^ (tiniest - s) * 2 ^ s := by
          rw [← Nat.pow_add, Nat.sub_add_cancel hsmall]
        rw [hsize, hsplit, Nat.mul_div_mul_right _ _ (Nat.two_pow_pos s), Nat.pow_zero, Nat.mul_one]
      · have hzeros : s - tiniest ≤ 971 := Nat.sub_le_of_le_add hexponent
        refine ⟨bits, s - tiniest, hbits, hzeros, ?_⟩
        have hsplit : 2 ^ s = 2 ^ (s - tiniest) * 2 ^ tiniest := by
          rw [← Nat.pow_add, Nat.sub_add_cancel hlarge]
        rw [hsize, hsplit, ← Nat.mul_assoc, Nat.mul_div_cancel _ (Nat.two_pow_pos tiniest)]

/-! ### Rounding what is held -/

theorem roundedQuotient_of_dvd {a d : Nat} (hd : 0 < d) (h : d ∣ a) :
    roundedQuotient a d = a / d := by
  have hrest : a % d = 0 := Nat.mod_eq_zero_of_dvd h
  simp [roundedQuotient, hrest, hd]

/-- Were more bits cut off than there are zeros, the number would have more than 53 bits. -/
theorem le_of_significand_lt {bits s t : Nat} (hbits : bits < 2 * fractions)
    (h : fractions * 2 ^ s ≤ bits * 2 ^ t) : s ≤ t := by
  by_contra hmore
  have hpower : 2 ^ (t + 1) ≤ 2 ^ s := Nat.pow_le_pow_right Nat.two_pos (Nat.not_le.mp hmore)
  refine absurd h (Nat.not_le.mpr ?_)
  calc bits * 2 ^ t
      < 2 * fractions * 2 ^ t := Nat.mul_lt_mul_of_pos_right hbits (Nat.two_pow_pos _)
    _ = fractions * 2 ^ (t + 1) := by rw [Nat.pow_succ]; ring
    _ ≤ fractions * 2 ^ s := Nat.mul_le_mul_left _ hpower

/-- The bits and the shift of a number are found again in the word that they are written as. -/
theorem toRatio?_ofWord {negative : Bool} {s bits : Nat} (hbits : bits < 2 * fractions)
    (hnormal : 0 < s → fractions ≤ bits) (hword : s * fractions + bits < 2047 * fractions) :
    (ofWord negative (s * fractions + bits)).toRatio?
      = some (signed negative (bits * 2 ^ s), 2 ^ tiniest) := by
  have hpos : 0 < fractions := by decide
  rw [ofWord, dif_pos hword, toRatio?_finite]
  congr 3
  by_cases hlow : bits < fractions
  · obtain rfl : s = 0 := by
      by_contra hne
      exact absurd (hnormal (Nat.pos_of_ne_zero hne)) (Nat.not_le.mpr hlow)
    simp [significand, shift, Nat.div_eq_of_lt hlow, Nat.mod_eq_of_lt hlow]
  · obtain ⟨rest, rfl⟩ := Nat.exists_eq_add_of_le (Nat.not_lt.mp hlow)
    have hrest : rest < fractions := by omega
    have hsplit : s * fractions + (fractions + rest) = rest + (s + 1) * fractions := by ring
    have hquotient : (s * fractions + (fractions + rest)) / fractions = s + 1 := by
      rw [hsplit, Nat.add_mul_div_right _ _ hpos, Nat.div_eq_of_lt hrest, Nat.zero_add]
    have hremainder : (s * fractions + (fractions + rest)) % fractions = rest := by
      rw [hsplit, Nat.add_mul_mod_self_right, Nat.mod_eq_of_lt hrest]
    simp only [significand, shift, hquotient, hremainder]
    simp

/-- **What is held is not rounded.** -/
theorem toRatio?_ofInt {n : Int} (h : Holds n) :
    (ofInt n).toRatio? = some (n * (2 ^ tiniest : Nat), 2 ^ tiniest) := by
  have hfinite : ¬ (ofInt n).IsInfinite := mt isInfinite_ofInt.mp (Nat.not_le.mpr h.lt)
  obtain ⟨bits, zeros, hbits, -, hn⟩ := h
  obtain ⟨unit, hunit⟩ : ∃ unit, unit = 2 ^ tiniest := ⟨_, rfl⟩
  have hword : ofInt n = ofWord (n < 0) (shiftFor (n.natAbs * unit) 1 * fractions
      + roundedQuotient (n.natAbs * unit) (1 * 2 ^ shiftFor (n.natAbs * unit) 1)) := by
    simp only [ofInt, ofRatio, Nat.pow_eq, ← hunit, shiftFor]
  obtain ⟨hhigh, hlow⟩ := leading_bits (n.natAbs * unit) Nat.one_pos
  rw [hword, isInfinite_ofWord, Nat.not_le] at hfinite
  generalize shiftFor (n.natAbs * unit) 1 = s at *
  rw [Nat.one_mul] at *
  have hzeros : 2 ^ zeros * unit = 2 ^ (zeros + tiniest) := by rw [hunit, Nat.pow_add]
  have hshift : s ≤ zeros + tiniest := by
    rcases Nat.eq_zero_or_pos s with rfl | hs
    · exact Nat.zero_le _
    · have hscaled := hlow hs
      rw [hn, Nat.mul_assoc, hzeros] at hscaled
      exact le_of_significand_lt hbits hscaled
  have hdvd : 2 ^ s ∣ n.natAbs * unit := by
    rw [hn, Nat.mul_assoc, hzeros]
    exact Dvd.dvd.mul_left (Nat.pow_dvd_pow 2 hshift) bits
  have hpos : 0 < 2 ^ s := Nat.two_pow_pos s
  rw [roundedQuotient_of_dvd hpos hdvd] at hfinite hword
  rw [hword, toRatio?_ofWord ((Nat.div_lt_iff_lt_mul hpos).mpr hhigh)
    (fun hs => (Nat.le_div_iff_mul_le hpos).mpr (hlow hs)) hfinite, Nat.div_mul_cancel hdvd,
    signed_mul, signed_natAbs, hunit]

theorem truncate?_ofInt {n : Int} (h : Holds n) : (ofInt n).truncate? = some n := by
  have hunit : ((2 ^ tiniest : Nat) : Int) ≠ 0 :=
    Int.natCast_ne_zero.mpr (Nat.two_pow_pos tiniest).ne'
  rw [truncate?_of_toRatio? (toRatio?_ofInt h), Int.mul_tdiv_cancel _ hunit]

theorem isWhole_ofInt {n : Int} (h : Holds n) : (ofInt n).isWhole = true := by
  rw [isWhole_of_toRatio? (toRatio?_ofInt h), Int.natAbs_mul, Int.natAbs_natCast,
    Nat.mul_mod_left, beq_self_eq_true]

end Paperwork.Binary64
