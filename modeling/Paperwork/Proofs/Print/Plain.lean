/-
The words of plain pages.

Wrapping begins new lines between words only, and no line is lost where a page ends.  So plain
pages have the words of their text, in order.
-/
import Paperwork.Print.Plain
import Paperwork.Proofs.Text.Words

namespace Paperwork.Print

open Paperwork.Text

/-! ### Wrapping -/

theorem flatten_wrapFrom (line : List (List Char)) (width : Nat) (rest : List (List Char)) :
    (wrapFrom line width rest).flatten = line ++ rest := by
  fun_induction wrapFrom line width rest with
  | case1 line => simp
  | case2 line width word rest wider hfits ih => simp [ih]
  | case3 line width word rest wider hfits ih => simp [ih]

/-- Wrapped words are the words. -/
theorem flatten_wrapWords (ws : List (List Char)) : (wrapWords ws).flatten = ws := by
  cases ws with
  | nil => rfl
  | cons word rest => exact flatten_wrapFrom [word] (textWidth word) rest

theorem words_wrapped (line : List Char) : (wrapped line).flatMap words = words line := by
  have hflat := flatten_wrapWords (words line)
  rw [wrapped]
  cases hwrap : wrapWords (words line) with
  | nil =>
      rw [hwrap] at hflat
      exact hflat
  | cons first more =>
      rw [hwrap] at hflat
      have hspaced : ∀ ws ∈ first :: more, words (joined [' '] ws) = ws := by
        intro ws hws
        refine words_spaced fun w hw => of_mem_words (?_ : w ∈ words line)
        rw [← hflat]
        exact List.mem_flatten_of_mem hws hw
      conv_rhs => rw [← hflat]
      rw [List.flatMap_map, List.flatMap_def, List.map_congr_left hspaced, List.map_id']

theorem words_printedLines (text : List Char) : (printedLines text).flatMap words = words text := by
  rw [printedLines, ← words_lines text]
  cases lines text with
  | nil => rfl
  | cons first more =>
      rw [List.flatMap_assoc]
      exact List.flatMap_congr fun line _ => words_wrapped line

/-! ### Pages -/

/-- No line is lost where a page ends. -/
theorem texts_placeFrom (up : Int) (ls : List (List Char)) :
    ((placeFrom up ls).1 :: (placeFrom up ls).2).flatten.map PlacedLine.text
      = ls.map String.ofList := by
  induction ls generalizing up with
  | nil => rfl
  | cons line ls ih =>
      rw [placeFrom]
      split
      · simpa using ih (top - leading)
      · simpa using ih (up - leading)

/-- The words on pages, line by line. -/
def pageWords (pages : List Page) : List (List Char) :=
  pages.flatten.flatMap fun line => words line.text.toList

/-- **Plain pages have the words of their text.** -/
theorem words_plainPages (text : List Char) : pageWords (plainPages text) = words text := by
  have hpages : (plainPages text).flatten.map PlacedLine.text
      = (printedLines text).map String.ofList := texts_placeFrom top (printedLines text)
  calc pageWords (plainPages text)
      = ((plainPages text).flatten.map PlacedLine.text).flatMap fun t => words t.toList := by
        rw [List.flatMap_map, pageWords]
    _ = (printedLines text).flatMap words := by
        rw [hpages, List.flatMap_map]
        simp
    _ = words text := words_printedLines text

end Paperwork.Print
