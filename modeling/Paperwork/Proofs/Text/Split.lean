/-
Cutting a text at separators.

There is always a first piece, and a text without separators only adds to it.  So texts
that are written with a separator between them are found again if none of them
holds it.
-/
import Mathlib
import Paperwork.Text.Words

namespace Paperwork.Text

variable {α : Type} {p : α → Bool}

/-- The first piece is everything up to the first separator. -/
theorem splitWhere_eq_cons (p : α → Bool) (as : List α) :
    ∃ more, splitWhere p as = as.takeWhile (fun a => !p a) :: more := by
  induction as with
  | nil => exact ⟨[], rfl⟩
  | cons a as ih =>
      obtain ⟨more, hmore⟩ := ih
      by_cases ha : p a = true
      · exact ⟨splitWhere p as, by simp [splitWhere, ha]⟩
      · exact ⟨more, by simp [splitWhere, ha, hmore]⟩

theorem splitWhere_cons_of_true {a : α} (ha : p a = true) (as : List α) :
    splitWhere p (a :: as) = [] :: splitWhere p as := by
  rw [splitWhere, if_pos ha]

theorem splitWhere_cons_of_false {a : α} {as piece : List α} {more : List (List α)}
    (ha : p a = false) (h : splitWhere p as = piece :: more) :
    splitWhere p (a :: as) = (a :: piece) :: more := by
  simp [splitWhere, ha, h]

/-- What holds no separator goes to the first piece. -/
theorem splitWhere_append_of_false {front as piece : List α} {more : List (List α)}
    (hfront : ∀ a ∈ front, p a = false) (h : splitWhere p as = piece :: more) :
    splitWhere p (front ++ as) = (front ++ piece) :: more := by
  induction front with
  | nil => exact h
  | cons a front ih =>
      exact splitWhere_cons_of_false (hfront a (by simp))
        (ih fun b hb => hfront b (by simp [hb]))

theorem splitWhere_eq_singleton {as : List α} (h : ∀ a ∈ as, p a = false) :
    splitWhere p as = [as] := by
  have hsplit := splitWhere_append_of_false h (show splitWhere p [] = [[]] from rfl)
  rwa [List.append_nil] at hsplit

/-- A separator ends a piece. -/
theorem splitWhere_append_of_true {a : α} (ha : p a = true) (front back : List α) :
    splitWhere p (front ++ a :: back) = splitWhere p front ++ splitWhere p back := by
  induction front with
  | nil => exact splitWhere_cons_of_true ha back
  | cons b front ih =>
      cases hb : p b with
      | true =>
          rw [List.cons_append, splitWhere_cons_of_true hb, splitWhere_cons_of_true hb, ih]
          rfl
      | false =>
          obtain ⟨more, hmore⟩ := splitWhere_eq_cons p front
          rw [hmore] at ih
          rw [List.cons_append, splitWhere_cons_of_false hb ih, splitWhere_cons_of_false hb hmore]
          rfl

/-- Where no separator stands between two lists, the last piece of the first and the first
piece of the second become one. -/
theorem splitWhere_append (front back : List α) {last first : α} (hlast : p last = false)
    (hfirst : p first = false) : ∃ before piece next after,
      splitWhere p (front ++ [last]) = before ++ [piece] ∧ piece ≠ [] ∧
      splitWhere p (first :: back) = next :: after ∧ next ≠ [] ∧
      splitWhere p (front ++ last :: first :: back) = before ++ (piece ++ next) :: after := by
  obtain ⟨after, hafter⟩ := splitWhere_eq_cons p back
  have hnext := splitWhere_cons_of_false hfirst hafter
  induction front with
  | nil =>
      have hsingle := splitWhere_cons_of_false hlast (show splitWhere p [] = [[]] from rfl)
      exact ⟨[], _, _, _, hsingle, by simp, hnext, by simp,
        splitWhere_cons_of_false hlast hnext⟩
  | cons b front ih =>
      obtain ⟨before, piece, next, after, hfront, hpiece, hback, hne, hall⟩ := ih
      cases hb : p b with
      | true =>
          refine ⟨[] :: before, piece, next, after, ?_, hpiece, hback, hne, ?_⟩
          · rw [List.cons_append, splitWhere_cons_of_true hb, hfront]
            rfl
          · rw [List.cons_append, splitWhere_cons_of_true hb, hall]
            rfl
      | false =>
          cases before with
          | nil =>
              exact ⟨[], b :: piece, next, after, splitWhere_cons_of_false hb hfront, by simp,
                hback, hne, splitWhere_cons_of_false hb hall⟩
          | cons other before =>
              exact ⟨(b :: other) :: before, piece, next, after,
                splitWhere_cons_of_false hb hfront, hpiece, hback, hne,
                splitWhere_cons_of_false hb hall⟩

/-- The pieces are all that is no separator. -/
theorem flatten_splitWhere (p : α → Bool) (as : List α) :
    (splitWhere p as).flatten = as.filter fun a => !p a := by
  induction as with
  | nil => rfl
  | cons a as ih =>
      cases ha : p a with
      | true =>
          rw [splitWhere_cons_of_true ha, List.filter_cons_of_neg (by simp [ha])]
          exact ih
      | false =>
          obtain ⟨more, hmore⟩ := splitWhere_eq_cons p as
          rw [splitWhere_cons_of_false ha hmore, List.filter_cons_of_pos (by simp [ha]), ← ih,
            hmore]
          rfl

/-- No piece holds a separator. -/
theorem of_mem_splitWhere {as piece : List α} (h : piece ∈ splitWhere p as) :
    ∀ a ∈ piece, p a = false := by
  induction as generalizing piece with
  | nil =>
      obtain rfl := List.mem_singleton.mp h
      simp
  | cons a as ih =>
      cases ha : p a with
      | true =>
          rw [splitWhere_cons_of_true ha] at h
          rcases List.mem_cons.mp h with rfl | h
          · simp
          · exact ih h
      | false =>
          obtain ⟨more, hmore⟩ := splitWhere_eq_cons p as
          rw [splitWhere_cons_of_false ha hmore] at h
          rcases List.mem_cons.mp h with rfl | h
          · intro b hb
            rcases List.mem_cons.mp hb with rfl | hb
            · exact ha
            · exact ih (hmore ▸ List.mem_cons_self) b hb
          · exact ih (hmore ▸ List.mem_cons_of_mem _ h)

end Paperwork.Text
