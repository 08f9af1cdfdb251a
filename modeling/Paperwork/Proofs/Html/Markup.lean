/-
Trees of HTML as rows of characters and tags.

What a tree is written as is a sound row of parts.  Its tags begin with the names of its
elements, and what follows a name begins with a space, so the names alone tell which tags
open what.
-/
import Paperwork.Proofs.Html.Grammar
import Paperwork.Proofs.Html.Tag

namespace Paperwork.Html

open Paperwork.Text

mutual

/-- The parts of a piece of HTML. -/
def Markup.tokens : Markup → List Token
  | .text s => s.toList.map .char
  | .element tag attributes content =>
    .tag (tag.toList ++ attributesText attributes)
      :: (tokensOf content ++ [.tag ('/' :: tag.toList)])
  | .void tag attributes => [.tag (tag.toList ++ attributesText attributes ++ ['/'])]

/-- The parts of pieces of HTML one after another. -/
def tokensOf : List Markup → List Token
  | [] => []
  | piece :: rest => piece.tokens ++ tokensOf rest

end

theorem tokensOf_eq (pieces : List Markup) : tokensOf pieces = pieces.flatMap Markup.tokens := by
  induction pieces with
  | nil => rfl
  | cons piece pieces ih => rw [tokensOf, ih, List.flatMap_cons]

theorem tokensOf_text (text : String) : tokensOf [.text text] = text.toList.map .char := by
  simp [tokensOf, Markup.tokens]

/-- The parts of an element, and what stands behind it. -/
theorem Markup.tokens_element_append (tag : String) (attributes : Attributes)
    (content : List Markup) (rest : List Token) :
    (Markup.element tag attributes content).tokens ++ rest
      = Token.tag (tag.toList ++ attributesText attributes)
        :: (tokensOf content ++ (Token.tag ('/' :: tag.toList) :: rest)) := by
  simp [Markup.tokens]

mutual

/-- **A piece of HTML is written as its parts are.** -/
theorem Markup.writeTokens_tokens : ∀ m : Markup, writeTokens m.tokens = m.write
  | .text s => writeTokens_chars s.toList
  | .element tag attributes content => by
      have hcontent := writeTokens_tokensOf content
      simp [Markup.tokens, Markup.write, Token.write, openingTag, closingTag, hcontent]
  | .void tag attributes => by simp [Markup.tokens, Markup.write, Token.write]

theorem writeTokens_tokensOf : ∀ pieces : List Markup,
    writeTokens (tokensOf pieces) = writeAll pieces
  | [] => rfl
  | piece :: rest => by
      rw [tokensOf, writeTokens_append, Markup.writeTokens_tokens piece,
        writeTokens_tokensOf rest, writeAll]

end

/-! ### Soundness -/

theorem elementNames_sound : ∀ tag ∈ elementNames, tag ≠ [] ∧ '<' ∉ tag ∧ '>' ∉ tag := by
  decide

theorem attributeNames_sound : ∀ name ∈ attributeNames, '<' ∉ name ∧ '>' ∉ name := by
  decide

theorem IsAttributes.no_bracket {cs : List Char} (h : IsAttributes cs) :
    '<' ∉ cs ∧ '>' ∉ cs := by
  induction h with
  | nil => simp
  | @cons name value rest hname hvalue _ ih =>
      have hnames := attributeNames_sound name hname
      have hopen : '<' ∉ value := fun hmem => (hvalue.noMarkup '<' hmem).1 rfl
      have hclose : '>' ∉ value := fun hmem => (hvalue.noMarkup '>' hmem).2.1 rfl
      exact ⟨by simp [hnames.1, hopen, ih.1], by simp [hnames.2, hclose, ih.2]⟩

theorem sound_opening {tag : List Char} (htag : tag ∈ elementNames) {attributes : Attributes}
    (hattributes : attributes.Known) :
    (Token.tag (tag ++ attributesText attributes)).Sound := by
  obtain ⟨hne, hopen, hclose⟩ := elementNames_sound tag htag
  have hnone := (isAttributes_attributesText hattributes).no_bracket
  refine ⟨by simp [hne], ?_, ?_⟩
  · simp [hopen, hnone.1]
  · simp [hclose, hnone.2]

theorem sound_closing {tag : List Char} (htag : tag ∈ elementNames) :
    (Token.tag ('/' :: tag)).Sound := by
  obtain ⟨-, hopen, hclose⟩ := elementNames_sound tag htag
  exact ⟨by simp, by simp [hopen], by simp [hclose]⟩

theorem sound_tokensOf {pieces : List Markup} (h : ∀ piece ∈ pieces, Sound piece.tokens) :
    Sound (tokensOf pieces) := by
  intro t ht
  rw [tokensOf_eq] at ht
  obtain ⟨piece, hpiece, hmem⟩ := List.mem_flatMap.mp ht
  exact h piece hpiece t hmem

/-- **The parts of a piece of known names are sound.** -/
theorem Markup.Known.sound {m : Markup} (h : m.Known) : Sound m.tokens := by
  induction h with
  | leaf htag hattributes =>
      simp [Markup.tokens, tokensOf, sound_opening htag hattributes, sound_closing htag]
  | parent htag hattributes _ ih =>
      simp [Markup.tokens, sound_tokensOf ih, sound_opening htag hattributes, sound_closing htag]
  | rule hattributes =>
      have hnone := (isAttributes_attributesText hattributes).no_bracket
      simp [Markup.tokens, Token.Sound, hnone.1, hnone.2]

/-! ### What the tags of elements open -/

/-- The attributes of a tag are nothing, or begin with a space. -/
theorem attributesText_cases (attributes : Attributes) :
    attributesText attributes = [] ∨ ∃ rest, attributesText attributes = ' ' :: rest := by
  cases attributes with
  | nil => exact .inl rfl
  | cons a attributes => exact .inr ⟨_, rfl⟩

/-- **What a tag opens is told by the name of its element.** -/
theorem opens_written {names : List (List Char)}
    (hnames : ∀ n ∈ names, ' ' ∉ n) (tag : List Char)
    (attributes : Attributes) :
    opens names (tag ++ attributesText attributes)
      = (opens names tag).map fun na => (na.1, na.2 ++ attributesText attributes) := by
  rcases attributesText_cases attributes with h | ⟨rest, h⟩
  · rw [h, List.append_nil]
    simp
  · rw [h]
    exact opens_stop hnames (by decide) (by decide) tag rest

/-- No opening tag of an element closes anything. -/
theorem not_closes_element {tag : List Char} (htag : tag ∈ elementNames) (key : Char → Char)
    (name : List Char) (attributes : Attributes) :
    closes key name (tag ++ attributesText attributes) = false := by
  have hletters : ∀ tag ∈ elementNames, ∃ c more, tag = c :: more ∧ c ≠ '/' := by
    intro tag htag
    obtain ⟨c, more, rfl⟩ := List.exists_cons_of_ne_nil (elementNames_sound tag htag).1
    refine ⟨c, more, rfl, ?_⟩
    rintro rfl
    exact absurd htag (by simp [elementNames])
  obtain ⟨c, more, rfl, hc⟩ := hletters tag htag
  unfold closes
  split
  · rename_i heq
    exact absurd (List.cons.inj heq).1 hc
  · rfl

section Names

variable {names : List (List Char)} {tag : List Char}

/-- An element of one of the names is opened by its tag, whatever its attributes are. -/
theorem opens_element (hnames : ∀ n ∈ names, ' ' ∉ n)
    (h : opens names tag = some (tag, [])) (attributes : Attributes) :
    opens names (tag ++ attributesText attributes) = some (tag, attributesText attributes) := by
  rw [opens_written hnames, h]
  rfl

theorem not_opens_element (hnames : ∀ n ∈ names, ' ' ∉ n)
    (h : opens names tag = none) (attributes : Attributes) :
    opens names (tag ++ attributesText attributes) = none := by
  rw [opens_written hnames, h]
  rfl

end Names

end Paperwork.Html
