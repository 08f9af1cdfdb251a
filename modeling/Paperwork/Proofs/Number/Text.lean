/-
The characters that numbers are shown with.

Besides digits these are signs, a point, the letter of an exponent, and the letters of the
values that have no digits.
-/
import Mathlib
import Paperwork.Number.Text

namespace Paperwork

/-- All characters of a text are digits, signs, points or one of a few letters. -/
def Spelled (cs : List Char) : Prop :=
  ∀ c ∈ cs, c.isDigit = true ∨ c ∈ ['-', '+', '.', 'e', 'i', 'n', 'f', 'a']

namespace Spelled

theorem append {a b : List Char} (ha : Spelled a) (hb : Spelled b) : Spelled (a ++ b) :=
  fun c hc => (List.mem_append.mp hc).elim (ha c) (hb c)

theorem sublist {a b : List Char} (hb : Spelled b) (h : a.Sublist b) : Spelled a :=
  fun c hc => hb c (h.subset hc)

theorem toString_append {a b : String} (ha : Spelled a.toList) (hb : Spelled b.toList) :
    Spelled (a ++ b).toList := by
  rw [String.toList_append]
  exact ha.append hb

theorem sign (negative : Bool) : Spelled (if negative then "-" else "").toList := by
  cases negative <;> simp [Spelled]

theorem zeros (n : Nat) : Spelled (String.ofList (List.replicate n '0')).toList := by
  intro c hc
  rw [String.toList_ofList] at hc
  rw [List.eq_of_mem_replicate hc]
  exact .inl (by decide)

theorem nat (n : Nat) : Spelled (toString n).toList := by
  intro c hc
  rw [Nat.toString_eq_repr, Nat.repr, String.toList_ofList] at hc
  exact .inl (Nat.isDigit_of_mem_toDigits (by decide) (by decide) hc)

theorem int (n : Int) : Spelled (toString n).toList := by
  cases n with
  | ofNat n => exact nat n
  | negSucc n => exact toString_append (sign true) (nat (n + 1))

theorem exponentText (exponent : Int) : Spelled (Binary64.exponentText exponent).toList := by
  unfold Binary64.exponentText
  refine toString_append ?_ ?_
  · split <;> simp [Spelled]
  · split
    · exact toString_append (by simp [Spelled]) (nat _)
    · exact nat _

theorem numeralText (numeral : Numeral) : Spelled (Binary64.numeralText numeral).toList := by
  have hdigits := nat numeral.digits
  have htake : ∀ n, Spelled (String.ofList ((toString numeral.digits).toList.take n)).toList := by
    intro n
    rw [String.toList_ofList]
    exact hdigits.sublist (List.take_sublist _ _)
  have hdrop : ∀ n, Spelled (String.ofList ((toString numeral.digits).toList.drop n)).toList := by
    intro n
    rw [String.toList_ofList]
    exact hdigits.sublist (List.drop_sublist _ _)
  have hpoint : Spelled ".".toList := by simp [Spelled]
  unfold Binary64.numeralText
  dsimp only
  split
  · refine toString_append (toString_append (htake 1) ?_) (exponentText _)
    split
    · simp [Spelled]
    · exact toString_append hpoint (hdrop 1)
  · split
    · exact toString_append (toString_append (by simp [Spelled]) (zeros _)) hdigits
    · split
      · exact toString_append (toString_append hdigits (zeros _)) (by simp [Spelled])
      · exact toString_append (toString_append (htake _) hpoint) (hdrop _)

theorem text (x : Binary64) : Spelled (x.text .plain).toList := by
  cases x with
  | nan => simp [Binary64.text, Binary64.Spelling.plain, Spelled]
  | infinite negative =>
      exact toString_append (sign negative) (by simp [Binary64.Spelling.plain, Spelled])
  | finite negative exponent fraction =>
      refine toString_append (sign negative) ?_
      split
      · simp [Spelled]
      · exact numeralText _

end Spelled

/-- **A number is shown with these characters only.** -/
theorem Number.spelled_shown (size : Number) : Spelled size.shown.toList := by
  cases size with
  | int n => exact Spelled.int n
  | float x =>
      show Spelled x.shown.toList
      rw [Binary64.shown]
      by_cases hwhole : x.isWhole = true
      · rw [if_pos hwhole]
        cases x.truncate? with
        | some n => exact Spelled.int n
        | none => simp [Spelled]
      · rw [if_neg hwhole]
        exact Spelled.text x

end Paperwork
