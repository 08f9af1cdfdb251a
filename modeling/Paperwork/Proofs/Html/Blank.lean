/-
Blanks around and between the parts of a written page.

A blank is written as itself and nothing else begins or ends with one.  So blanks can be
counted and trimmed in a page as they are in its row of parts.
-/
import Paperwork.Proofs.Html.Content

namespace Paperwork.Html

open Paperwork.Text

/-- A part that is a blank. -/
def Token.isBlank : Token → Bool
  | char c => Text.isBlank c
  | tag _ => false

/-- A character is written as itself, or, unless it is blank, as a reference, which ends
with a semicolon. -/
private theorem escapeChar_ends (c : Char) :
    escapeChar c = [c] ∨ Text.isBlank c = false ∧ ∃ body, escapeChar c = '&' :: (body ++ [';']) := by
  unfold escapeChar
  split
  · exact .inr ⟨by decide, ['a', 'm', 'p'], rfl⟩
  · exact .inr ⟨by decide, ['l', 't'], rfl⟩
  · exact .inr ⟨by decide, ['g', 't'], rfl⟩
  · exact .inr ⟨by decide, ['q', 'u', 'o', 't'], rfl⟩
  · exact .inr ⟨by decide, ['#', 'x', '2', '7'], rfl⟩
  · exact .inl rfl

/-- A blank is written as itself; every other part begins and ends with what is not one. -/
theorem Token.write_cases (t : Token) :
    (∃ c, t = .char c ∧ t.write = [c] ∧ t.isBlank = true ∧ Text.isBlank c = true) ∨
      t.isBlank = false ∧ (∃ c more, t.write = c :: more ∧ Text.isBlank c = false) ∧
        ∃ front c, t.write = front ++ [c] ∧ Text.isBlank c = false := by
  cases t with
  | tag inner =>
      exact .inr ⟨rfl, ⟨'<', inner ++ ['>'], rfl, by decide⟩, '<' :: inner, '>', rfl, by decide⟩
  | char c =>
      rcases escapeChar_ends c with hc | ⟨hblank, body, hc⟩
      · by_cases hblank : Text.isBlank c = true
        · exact .inl ⟨c, rfl, hc, hblank, hblank⟩
        · rw [Bool.not_eq_true] at hblank
          exact .inr ⟨hblank, ⟨c, [], hc, hblank⟩, [], c, hc, hblank⟩
      · exact .inr ⟨hblank, ⟨'&', body ++ [';'], hc, by decide⟩, '&' :: body, ';', hc, by decide⟩

theorem takeWhile_isBlank_writeTokens (ts : List Token) :
    (writeTokens ts).takeWhile isBlank = writeTokens (ts.takeWhile Token.isBlank) := by
  induction ts with
  | nil => rfl
  | cons t ts ih =>
      rw [writeTokens_cons, List.takeWhile_cons]
      rcases t.write_cases with ⟨c, -, hwrite, hblank, hc⟩ | ⟨hblank, ⟨c, more, hwrite, hc⟩, -⟩
      · simp [hwrite, hblank, hc, ih]
      · simp [hwrite, hblank, hc]

theorem dropWhile_isBlank_writeTokens (ts : List Token) :
    (writeTokens ts).dropWhile isBlank = writeTokens (ts.dropWhile Token.isBlank) := by
  induction ts with
  | nil => rfl
  | cons t ts ih =>
      rw [writeTokens_cons, List.dropWhile_cons]
      rcases t.write_cases with ⟨c, -, hwrite, hblank, hc⟩ | ⟨hblank, ⟨c, more, hwrite, hc⟩, -⟩
      · simp [hwrite, hblank, hc, ih]
      · simp [hwrite, hblank, hc]

theorem rdropWhile_isBlank_writeTokens (ts : List Token) :
    (writeTokens ts).rdropWhile isBlank = writeTokens (ts.rdropWhile Token.isBlank) := by
  induction ts using List.reverseRecOn with
  | nil => rfl
  | append_singleton ts t ih =>
      rw [writeTokens_append, writeTokens_cons, writeTokens_nil, List.append_nil]
      rcases t.write_cases with ⟨c, -, hwrite, hblank, hc⟩ | ⟨hblank, -, front, c, hwrite, hc⟩
      · rw [hwrite, List.rdropWhile_concat_pos _ _ _ hc, ih,
          List.rdropWhile_concat_pos _ _ _ hblank]
      · rw [hwrite, ← List.append_assoc, List.rdropWhile_concat_neg _ _ _ (by simp [hc]),
          List.rdropWhile_concat_neg _ _ _ (by simp [hblank]), writeTokens_append]
        simp [hwrite]

/-- The parts of a page without the blanks around them. -/
def trimmedTokens (ts : List Token) : List Token :=
  (ts.dropWhile Token.isBlank).rdropWhile Token.isBlank

theorem trimmed_writeTokens (ts : List Token) :
    trimmed isBlank (writeTokens ts) = writeTokens (trimmedTokens ts) := by
  rw [trimmedTokens, ← rdropWhile_isBlank_writeTokens, ← dropWhile_isBlank_writeTokens]
  rfl

theorem trimmedTokens_sublist (ts : List Token) : (trimmedTokens ts).Sublist ts :=
  (List.rdropWhile_prefix _ _).sublist.trans (List.dropWhile_sublist _)

/-! ### The letters of a page -/

/-- The characters in the text of a page that are not blank. -/
def lettersOf (ts : List Token) : List Char := letters (textOf ts)

@[simp] theorem lettersOf_nil : lettersOf [] = [] := rfl

@[simp] theorem lettersOf_append (a b : List Token) :
    lettersOf (a ++ b) = lettersOf a ++ lettersOf b := by
  simp [lettersOf]

theorem lettersOf_cons (t : Token) (ts : List Token) :
    lettersOf (t :: ts) = letters t.text ++ lettersOf ts := by
  simp [lettersOf]

/-- A tag leaves a line feed at most, and that is blank. -/
@[simp] theorem lettersOf_tag (inner : List Char) (ts : List Token) :
    lettersOf (.tag inner :: ts) = lettersOf ts := by
  rw [lettersOf_cons, Token.text]
  split
  · rfl
  · rfl

theorem lettersOf_sublist {a b : List Token} (h : a.Sublist b) :
    (lettersOf a).Sublist (lettersOf b) := by
  induction h with
  | slnil => exact List.Sublist.refl _
  | cons t _ ih =>
      rw [lettersOf_cons]
      exact ih.trans (List.sublist_append_right _ _)
  | cons_cons t _ ih =>
      rw [lettersOf_cons, lettersOf_cons]
      exact (List.Sublist.refl _).append ih

theorem lettersOf_of_blank {ts : List Token} (h : ∀ t ∈ ts, t.isBlank = true) :
    lettersOf ts = [] := by
  refine letters_eq_nil.mpr fun c hc => ?_
  obtain ⟨t, ht, hmem⟩ := List.mem_flatMap.mp hc
  cases t with
  | tag inner => exact absurd (h _ ht) (by simp [Token.isBlank])
  | char d =>
      obtain rfl := List.mem_singleton.mp hmem
      exact h _ ht

theorem lettersOf_dropWhile (ts : List Token) :
    lettersOf (ts.dropWhile Token.isBlank) = lettersOf ts := by
  conv_rhs => rw [← List.takeWhile_append_dropWhile (p := Token.isBlank) (l := ts)]
  rw [lettersOf_append, lettersOf_of_blank fun t ht => List.mem_takeWhile_imp ht, List.nil_append]

theorem lettersOf_trimmedTokens (ts : List Token) : lettersOf (trimmedTokens ts) = lettersOf ts := by
  conv_rhs => rw [← lettersOf_dropWhile,
    ← List.rdropWhile_append_rtakeWhile (p := Token.isBlank) (l := ts.dropWhile Token.isBlank)]
  rw [lettersOf_append, trimmedTokens,
    lettersOf_of_blank fun t ht => List.mem_rtakeWhile_imp ht, List.append_nil]

end Paperwork.Html
