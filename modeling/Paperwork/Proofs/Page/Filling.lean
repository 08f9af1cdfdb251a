/-
What texts with placeholders show.

A text is cut into placeholders and the characters between them: where a placeholder begins it is
taken, everywhere else one character is passed over.  There is one such cut.  Filling a text
replaces the placeholders of the cut by what their paths lead to and keeps the rest, so nothing
is taken for a placeholder that comes in with a value.  Written for HTML, piece by piece or as
a whole, the filled text is read back as it is.
-/
import Paperwork.Page.Placeholder
import Paperwork.Proofs.Answers
import Paperwork.Proofs.Html.Content
import Paperwork.Proofs.Html.Names
import Paperwork.Proofs.Html.Reference
import Paperwork.Proofs.Text.Search

namespace Paperwork

namespace Text

/-! ### Blanks -/

/-- The code points of blanks. -/
def blankCodes : List Nat :=
  List.range' 0x09 5 ++ List.range' 0x1C 5 ++ [0x85, 0xA0, 0x1680] ++ List.range' 0x2000 11
    ++ [0x2028, 0x2029, 0x202F, 0x205F, 0x3000]

theorem mem_blankCodes {c : Char} (h : isBlank c = true) : c.toNat ∈ blankCodes := by
  simp only [isBlank, isSpace, Bool.or_eq_true, Bool.and_eq_true, decide_eq_true_eq,
    beq_iff_eq] at h
  simp only [blankCodes, List.mem_append, List.mem_range'_1, List.mem_cons, List.not_mem_nil]
  omega

/-- A blank belongs to no word. -/
theorem isWordChar_of_isBlank {c : Char} (h : isBlank c = true) : isWordChar c = false := by
  have hcodes : ∀ code ∈ blankCodes, alphanumerics.holds code = false ∧ code ≠ '_'.toNat := by
    decide +kernel
  obtain ⟨hholds, hunderscore⟩ := hcodes _ (mem_blankCodes h)
  have hne : (c == '_') = false := beq_false_of_ne fun heq => hunderscore (heq ▸ rfl)
  rw [isWordChar, hne, isAlphanumeric, hholds]
  rfl

end Text

namespace Placeholder

open Paperwork.Text Paperwork.Html

/-! ### Placeholders -/

/-- A placeholder for a path as it is written: the path between double braces, with blanks
around it. -/
def IsWritten (path written : List Char) : Prop :=
  ∃ before after, written = ['\x7b', '\x7b'] ++ (before ++ (path ++ (after ++ ['\x7d', '\x7d'])))
    ∧ (∀ c ∈ before, isBlank c = true) ∧ path ≠ [] ∧ (∀ c ∈ path, isPathChar c = true)
    ∧ ∀ c ∈ after, isBlank c = true

theorem IsWritten.length_pos {path written : List Char} (h : IsWritten path written) :
    0 < written.length := by
  obtain ⟨before, after, rfl, -⟩ := h
  simp

/-- What a piece of a text shows: a character itself, and a placeholder what its path leads to. -/
inductive Shows (data : Value) : Piece String → List Char → Prop
  | plain (c : Char) : Shows data (.plain c) [c]
  | hit {path : String} {value : Value} (found : data.at? (some path) = .ok value) :
      Shows data (.hit path) value.display.toList

/-- A greeting with a placeholder between markup and a reference. -/
def greeting : String := "<b>Dear \x7b\x7b name \x7d\x7d</b> &amp; all"

end Placeholder

end Paperwork
