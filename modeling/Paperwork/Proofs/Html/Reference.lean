/-
Which texts have readable references.

Reading references undoes escaping, whatever the text was.  In general it fails for
one reason only: somewhere a decimal reference has more digits than are converted.
Both facts come from cutting a text at its ampersands: a reference never reaches past
the next one, so the pieces can be looked at one by one.
-/
import Paperwork.Html.Escape
import Paperwork.Html.Reference
import Paperwork.Proofs.Answers
import Paperwork.Proofs.Text.Split

namespace Paperwork.Html

open Paperwork.Text

/-! ### Escaped text is read back -/

/-- How a character is written: as itself, or as a reference that stands for it in front
of every text. -/
theorem escapeChar_cases (c : Char) :
    (escapeChar c = [c] ∧ c ≠ '&' ∧ c ≠ '<' ∧ c ≠ '>' ∧ c ≠ '"' ∧ c ≠ '\'') ∨
      ∃ body, escapeChar c = '&' :: body ∧ (∀ d ∈ body, (d == '&') = false) ∧
        ∀ piece, referenceText (body ++ piece) = .ok (c :: piece) := by
  unfold escapeChar
  split
  · exact .inr ⟨['a', 'm', 'p', ';'], rfl, by simp, fun _ => rfl⟩
  · exact .inr ⟨['l', 't', ';'], rfl, by simp, fun _ => rfl⟩
  · exact .inr ⟨['g', 't', ';'], rfl, by simp, fun _ => rfl⟩
  · exact .inr ⟨['q', 'u', 'o', 't', ';'], rfl, by simp, fun _ => rfl⟩
  · exact .inr ⟨['#', 'x', '2', '7', ';'], rfl, by simp, fun _ => rfl⟩
  · rename_i hamp hlt hgt hquote happ
    exact .inl ⟨rfl, hamp, hlt, hgt, hquote, happ⟩

/-- The pieces of an escaped text: plain text, and the readable references after it. -/
private theorem escaped_pieces (cs : List Char) :
    ∃ first rest texts, splitWhere (· == '&') (escapeChars cs) = first :: rest ∧
      rest.mapM referenceText = .ok texts ∧ first ++ texts.flatten = cs := by
  induction cs with
  | nil => exact ⟨[], [], [], rfl, rfl, rfl⟩
  | cons c cs ih =>
      obtain ⟨first, rest, texts, hsplit, hread, htext⟩ := ih
      rw [escapeChars_cons]
      rcases escapeChar_cases c with ⟨hc, hamp, -⟩ | ⟨body, hc, hbody, href⟩
      · refine ⟨c :: first, rest, texts, ?_, hread, by simp [htext]⟩
        rw [hc]
        exact splitWhere_cons_of_false (by simpa using hamp) hsplit
      · have hpiece := splitWhere_append_of_false hbody hsplit
        refine ⟨[], (body ++ first) :: rest, (c :: first) :: texts, ?_, ?_, by simp [htext]⟩
        · rw [hc, List.cons_append, splitWhere, if_pos (by simp), hpiece]
        · rw [mapM_eq_ok] at hread ⊢
          exact .cons (href first) hread

/-- **Reading the references of an escaped text gives the text.** -/
theorem unescape_escapeChars (cs : List Char) : unescape (escapeChars cs) = .ok cs := by
  obtain ⟨first, rest, texts, hsplit, hread, htext⟩ := escaped_pieces cs
  simp only [unescape, hsplit, hread]
  rw [← htext]
  rfl

/-! ### The texts that cannot be read -/

/-- A decimal reference of too many digits, behind its ampersand. -/
def StartsLong (cs : List Char) : Prop :=
  ∃ digits after, cs = '#' :: (digits ++ after) ∧ (∀ c ∈ digits, isDecimal c = true) ∧
    digitLimit < digits.length

/-- Somewhere in a text a decimal reference has more digits than are converted. -/
def HasLongReference (cs : List Char) : Prop :=
  ∃ before rest, cs = before ++ '&' :: rest ∧ StartsLong rest

theorem hasLongReference_cons {c : Char} {cs : List Char} :
    HasLongReference (c :: cs) ↔ (c = '&' ∧ StartsLong cs) ∨ HasLongReference cs := by
  constructor
  · rintro ⟨before, rest, heq, hrest⟩
    cases before with
    | nil =>
        obtain ⟨rfl, rfl⟩ := List.cons.inj heq
        exact .inl ⟨rfl, hrest⟩
    | cons b before => exact .inr ⟨before, rest, (List.cons.inj heq).2, hrest⟩
  · rintro (⟨rfl, hlong⟩ | ⟨before, rest, rfl, hrest⟩)
    · exact ⟨[], cs, rfl, hlong⟩
    · exact ⟨c :: before, rest, rfl, hrest⟩

/-- A single reference fails exactly if it has too many digits. -/
theorem referenceText_fails_iff (cs : List Char) :
    (∃ cause, referenceText cs = .error cause) ↔ StartsLong cs := by
  constructor
  · rintro ⟨cause, h⟩
    unfold referenceText at h
    split at h
    · rename_i rest
      by_cases hlong : digitLimit < (rest.takeWhile isDecimal).length
      · exact ⟨rest.takeWhile isDecimal, rest.dropWhile isDecimal,
          by rw [List.takeWhile_append_dropWhile],
          fun c hc => List.mem_takeWhile_imp hc, hlong⟩
      · simp only [if_neg hlong] at h
        repeat' split at h
        all_goals simp at h
    · simp at h
  · rintro ⟨digits, after, rfl, hdigits, hlong⟩
    have htake : digits.length ≤ ((digits ++ after).takeWhile isDecimal).length := by
      rw [List.takeWhile_append_of_pos hdigits, List.length_append]
      omega
    have hmany : digitLimit < ((digits ++ after).takeWhile isDecimal).length := by omega
    have hne : ((digits ++ after).takeWhile isDecimal).isEmpty = false := by
      cases htw : (digits ++ after).takeWhile isDecimal with
      | nil => rw [htw] at hmany; simp at hmany
      | cons => rfl
    exact ⟨⟨((digits ++ after).takeWhile isDecimal).length⟩, by
      simp only [referenceText, hne, Bool.not_false, if_true, if_pos hmany]⟩

/-- The digits of a reference hold no ampersand, so the piece up to the next one tells. -/
private theorem startsLong_takeWhile (cs : List Char) :
    StartsLong (cs.takeWhile fun c => !(c == '&')) ↔ StartsLong cs := by
  constructor
  · rintro ⟨digits, after, heq, hdigits, hlong⟩
    refine ⟨digits, after ++ cs.dropWhile fun c => !(c == '&'), ?_, hdigits, hlong⟩
    conv_lhs => rw [← List.takeWhile_append_dropWhile (p := fun c => !(c == '&')) (l := cs), heq]
    simp
  · rintro ⟨digits, after, rfl, hdigits, hlong⟩
    refine ⟨digits, after.takeWhile fun c => !(c == '&'), ?_, hdigits, hlong⟩
    have hplain : ∀ c ∈ digits, (!(c == '&')) = true := by
      intro c hc
      have := hdigits c hc
      by_contra hamp
      simp only [Bool.not_eq_true', Bool.not_eq_false, beq_iff_eq] at hamp
      rw [hamp] at this
      exact absurd this (by decide)
    rw [List.takeWhile_cons_of_pos (by decide), List.takeWhile_append_of_pos hplain]

private theorem long_piece_iff (cs : List Char) :
    (∃ piece ∈ (splitWhere (· == '&') cs).tail, StartsLong piece) ↔ HasLongReference cs := by
  induction cs with
  | nil => simp [splitWhere, HasLongReference]
  | cons c cs ih =>
      obtain ⟨more, hmore⟩ := splitWhere_eq_cons (· == '&') cs
      rw [hasLongReference_cons, ← ih, hmore]
      by_cases hc : c = '&'
      · subst hc
        rw [show splitWhere (· == '&') ('&' :: cs) = [] :: splitWhere (· == '&') cs from rfl,
          hmore]
        simp [startsLong_takeWhile]
      · rw [splitWhere_cons_of_false (by simpa using hc) hmore]
        simp [hc]

/-- **A text cannot be read exactly if one of its decimal references is too long.** -/
theorem unescape_fails_iff (cs : List Char) :
    (∃ cause, unescape cs = .error cause) ↔ HasLongReference cs := by
  obtain ⟨more, hmore⟩ := splitWhere_eq_cons (· == '&') cs
  rw [← long_piece_iff, hmore, List.tail_cons]
  have hpieces : (∃ cause, unescape cs = .error cause) ↔
      ∃ cause, more.mapM referenceText = .error cause := by
    simp only [unescape, hmore, bind_eq_error]
    simp [pure, Except.pure]
  rw [hpieces, mapM_eq_error]
  simp only [referenceText_fails_iff]

end Paperwork.Html
