/-
Integers that are written in digits.

The text of an integer is a decimal literal already: nothing in it is taken away or put in
another form before it is read.  So it is read as the number nearest to the integer, with
white space around it or without.  Blanks that are no white space are not taken away, and with
one of them the text is no number.
-/
import Paperwork.Proofs.Data.Json.Atoms
import Paperwork.Proofs.Number.Brackets
import Paperwork.Proofs.Number.Exact
import Paperwork.Proofs.Number.Text
import Paperwork.Proofs.Text.Lines

namespace Paperwork

open Paperwork.Text

namespace Decimal

/-! ### What numbers are shown with -/

theorem isDigit_iff {c : Char} : isDigit c = true ↔ 48 ≤ c.toNat ∧ c.toNat ≤ 57 := by
  simp only [isDigit, Bool.and_eq_true, decide_eq_true_eq, Char.le_def, UInt32.le_iff_toNat_le]
  rfl

/-- What numbers are shown with can be seen and is ASCII. -/
theorem code_of_spelled {cs : List Char} (h : Spelled cs) {c : Char} (hc : c ∈ cs) :
    32 < c.toNat ∧ c.toNat < 127 := by
  rcases h c hc with hdigit | hsign
  · have hcode : 48 ≤ c.toNat ∧ c.toNat ≤ 57 := by
      simpa [Char.isDigit, UInt32.le_iff_toNat_le] using hdigit
    omega
  · simp only [List.mem_cons, List.not_mem_nil, or_false] at hsign
    rcases hsign with rfl | rfl | rfl | rfl | rfl | rfl | rfl | rfl <;> decide

theorem notSpace_of_spelled {cs : List Char} (h : Spelled cs) {c : Char} (hc : c ∈ cs) :
    isSpace c = false := by
  have hcode := code_of_spelled h hc
  simp only [isSpace, Bool.or_eq_false_iff, Bool.and_eq_false_iff, decide_eq_false_iff_not,
    beq_eq_false_iff_ne]
  omega

/-! ### The text of an integer is a literal -/

theorem inAscii?_of_spelled {cs : List Char} (h : Spelled cs) : inAscii? cs = some cs :=
  mapM_eq_some.mpr (List.forall₂_same.mpr fun _ hc => if_pos (code_of_spelled h hc).2)

theorem joinDigits?_of_not_mem {cs : List Char} (h : '_' ∉ cs) (after : Bool) :
    joinDigits? after cs = some cs := by
  induction cs generalizing after with
  | nil => rfl
  | cons c cs ih =>
      obtain ⟨hne, hrest⟩ := not_or.mp (mt List.mem_cons.mpr h)
      rw [joinDigits?, ih hrest, Option.map_some]
      exact fun hcons => hne hcons.symm

theorem toLower_of_isDigit {c : Char} (h : isDigit c = true) : c.toLower = c := by
  have hcode := isDigit_iff.mp h
  rw [Char.toLower, dif_neg]
  intro hupper
  have hletter : 65 ≤ c.toNat := UInt32.le_iff_toNat_le.mp hupper.1
  omega

theorem sign_of_isDigit {d : Char} (hd : isDigit d = true) (ds : List Char) :
    sign (d :: ds) = (false, d :: ds) := by
  have hsigns : d ∉ ['-', '+'] := Json.not_mem_of_isDigit hd rfl
  rw [sign]
  · exact fun rest hminus => hsigns (by simp [(List.cons.inj hminus).1])
  · exact fun rest hplus => hsigns (by simp [(List.cons.inj hplus).1])

/-- A natural number that is not certainly too large is rounded as it is. -/
theorem ofDecimal_natural (negative : Bool) {n length : Nat} (hn : 0 < n) (h : length ≤ 310) :
    Binary64.ofDecimal negative n length 0 = Binary64.ofRatio negative n 1 := by
  have hsmall : ¬ (length : Int) + 0 > 310 := by omega
  have hlarge : ¬ (length : Int) + 0 < -330 := by omega
  rw [Binary64.ofDecimal, if_neg hn.ne', if_neg hsmall, if_neg hlarge, if_neg (lt_irrefl 0)]
  simp

/-- Fewer digits than are certainly too large are read as what they stand for. -/
theorem unsigned?_toDigits (negative : Bool) {n : Nat} (h : n < 10 ^ 310) :
    unsigned? negative (Nat.toDigits 10 n) = some (Binary64.ofRatio negative n 1) := by
  rcases Nat.eq_zero_or_pos n with rfl | hn
  · rw [Binary64.ofRatio_zero]
    rfl
  have hdigits : digits (Nat.toDigits 10 n) = (Nat.toDigits 10 n, []) := by
    simpa using Json.digits_append (fun c => Json.isDigit_toDigits (n := n)) Json.stops_nil
  have hvalue := Json.value_toDigits n
  have hlength : (Nat.toDigits 10 n).length ≤ 310 := Nat.toDigits_length 10 n 310 (by decide) h
  obtain ⟨d, ds, heq, hd, hzero⟩ := Json.toDigits_eq_cons n
  rw [heq] at hdigits hvalue hlength ⊢
  have hfirst : d ≠ '0' := by
    rintro rfl
    rw [hzero rfl] at hvalue
    exact hn.ne hvalue
  have hkept : (d :: ds).dropWhile (· == '0') = d :: ds :=
    List.dropWhile_cons_of_neg (by simpa using hfirst)
  simp only [unsigned?, hdigits, List.isEmpty_cons, Bool.false_and, Bool.false_eq_true, if_false,
    assemble, List.append_nil, List.length_nil, hkept, hvalue, Nat.cast_zero, sub_zero,
    ofDecimal_natural negative hn hlength]

/-- The text of an integer is read as the number nearest to it. -/
theorem literal?_toString {n : Int} (h : n.natAbs < 10 ^ 310) :
    literal? (toString n).toList = some (Binary64.ofInt n) := by
  obtain ⟨d, ds, heq, hd, -⟩ := Json.toDigits_eq_cons n.natAbs
  have hsign : sign (toString n).toList = (decide (n < 0), d :: ds) := by
    rw [Json.toList_toString_int, heq]
    by_cases hneg : n < 0
    · simp [hneg, sign]
    · rw [if_neg hneg, List.nil_append, decide_eq_false hneg, sign_of_isDigit hd]
  have hwords : ∀ word ∈ spelledOut, word.toList.all (fun c => !isDigit c) = true := by decide
  rw [literal?_eq_unsigned? (toLower_of_isDigit hd) (hsign ▸ List.mem_cons_self)
    fun word hword => Json.not_mem_of_isDigit hd (hwords word hword), hsign, ← heq,
    unsigned?_toDigits _ h, Binary64.ofInt]

section Padded

variable {before after : String}

/-- White space around an integer is taken away. -/
theorem toFloat?_padded {n : Int} (h : n.natAbs < 10 ^ 310)
    (hbefore : ∀ c ∈ before.toList, isSpace c = true)
    (hafter : ∀ c ∈ after.toList, isSpace c = true) :
    toFloat? (before ++ toString n ++ after) = some (Binary64.ofInt n) := by
  have hspelled := Spelled.int n
  have hjoined : '_' ∉ (toString n).toList := fun hmem => absurd (hspelled '_' hmem) (by decide)
  have htrimmed : trimmed isSpace (toString n).toList = (toString n).toList :=
    trimmed_eq_self (fun c hc => notSpace_of_spelled hspelled (List.mem_of_mem_head? hc))
      (fun c hc => notSpace_of_spelled hspelled (List.mem_of_getLast? hc))
  rw [toFloat?, tolerant?, String.toList_append, String.toList_append,
    trimmed_padded hbefore hafter, htrimmed, inAscii?_of_spelled hspelled, Option.bind_some,
    joinDigits?_of_not_mem hjoined, Option.bind_some, literal?_toString h]

/-- With another blank around it, an integer is no number. -/
theorem toFloat?_padded_none {n : Int}
    (hblank : ∀ c ∈ before.toList ++ after.toList, isBlank c = true)
    (h : ¬ ∀ c ∈ before.toList ++ after.toList, isSpace c = true) :
    toFloat? (before ++ toString n ++ after) = none := by
  push Not at h
  obtain ⟨c, hc, hspace⟩ := h
  have hforeign := foreign_of_blank (hblank c hc) (eq_false_of_ne_true hspace)
  cases hread : toFloat? (before ++ toString n ++ after) with
  | none => rfl
  | some x =>
      refine absurd ?_ (toFloat?_not_mem hforeign hread)
      simp only [String.toList_append, List.mem_append] at hc ⊢
      exact hc.elim (fun hc => .inl (.inl hc)) .inr

end Padded

end Decimal

end Paperwork
