/-
Plain text as a normal form.

The plain text of a page is its paragraphs with an empty line between them.  Written for
HTML, such a text is a page without tags and without hidden parts, and reading its
references gives the text back.  What is left to show is that cutting it into paragraphs
and lines changes nothing, which is so for texts of paragraphs and for no others.
-/
import Paperwork.Proofs.Html.Visible
import Paperwork.Proofs.Text.Paragraphs

namespace Paperwork.Html

open Paperwork.Text

/-- The plain text of a text that is written for HTML is its paragraphs. -/
theorem plainText_escapeChars (cs : List Char) :
    plainText (escapeChars cs) = .ok (joined ['\n', '\n'] (paragraphs cs)) := by
  rw [plainText, plainParagraphs, contentParagraphs, visible_escapeChars, content_escapeChars]
  rfl

/-- Plain text is made of paragraphs, whatever the page was. -/
theorem parted_of_plainText {page text : List Char} (h : plainText page = .ok text) :
    Parted text := by
  obtain ⟨texts, htexts, hjoined⟩ := bind_eq_ok.mp h
  obtain ⟨source, -, hparagraphs⟩ := bind_eq_ok.mp htexts
  obtain rfl := Except.ok.inj hparagraphs
  obtain rfl := Except.ok.inj hjoined
  exact parted_paragraphs source

/-- **A text is its own plain text exactly if it is made of paragraphs.** -/
theorem plainText_escapeChars_eq_self {text : List Char} :
    plainText (escapeChars text) = .ok text ↔ Parted text := by
  rw [plainText_escapeChars, Except.ok.injEq, joined_paragraphs_eq_self]

/--
**Plain text is a normal form.**  The plain text of a page, written for HTML, is a page with
the same plain text.  And the paragraphs of a piece of HTML hold the lines of its text that
are not blank: written below each other they are these lines, with the blanks between words
collapsed, so cutting a text into paragraphs breaks, joins and loses no line.
-/
theorem plainText_normal :
    (∀ page text, plainText page = .ok text → plainText (escapeChars text) = .ok text) ∧
      ∀ fragment text, content fragment = .ok text →
        ∃ texts, contentParagraphs fragment = .ok texts ∧
          HoldsLines texts (((lines text).filter fun line => !isAllBlank line).map collapsed) := by
  constructor
  · intro page text htext
    exact plainText_escapeChars_eq_self.mpr (parted_of_plainText htext)
  · intro fragment text htext
    refine ⟨paragraphs text, ?_, holdsLines_paragraphs text⟩
    rw [contentParagraphs, htext]
    rfl

/-- A page with gaps, line breaks and blanks of many kinds, written out and as references. -/
def mixedPage : List Char :=
  "<p>a&#9;&#160;b<br>\u2028c &lt;d&gt;</p>\n\x1c\u3000\n<!-- x --><li>e&#xD;&#10;f</li>".toList

theorem mixedPage_normal :
    plainText mixedPage = .ok "a b\nc <d>\n\ne\nf".toList ∧
      plainText "a b\nc &lt;d&gt;\n\ne\nf".toList = .ok "a b\nc <d>\n\ne\nf".toList ∧
      ∃ texts, contentParagraphs mixedPage = .ok texts ∧
        HoldsLines texts ["a b".toList, "c <d>".toList, "e".toList, "f".toList] := by
  have htext : plainText mixedPage = .ok "a b\nc <d>\n\ne\nf".toList := by decide +kernel
  have hescaped : escapeChars "a b\nc <d>\n\ne\nf".toList
      = "a b\nc &lt;d&gt;\n\ne\nf".toList := by decide
  have hcontent : content mixedPage
      = .ok "a\t\u00a0b\n\u2028c <d>\n\n\x1c\u3000\ne\r\nf\n".toList := by decide +kernel
  have hlines : ((lines "a\t\u00a0b\n\u2028c <d>\n\n\x1c\u3000\ne\r\nf\n".toList).filter
      fun line => !isAllBlank line).map collapsed
      = ["a b".toList, "c <d>".toList, "e".toList, "f".toList] := by decide
  refine ⟨htext, ?_, ?_⟩
  · rw [← hescaped]
    exact plainText_normal.1 mixedPage _ htext
  · rw [← hlines]
    exact plainText_normal.2 mixedPage _ hcontent

end Paperwork.Html
