/-
The pages that are written.

A written piece of HTML is an element: its opening tag, what it holds, and its closing
tag; or a rule, which holds nothing.  The names of tags and attributes are among a few,
and whatever else is written, between tags or as the value of an attribute, is inert: it
holds nothing that could begin or end a tag or a value, and every ampersand in it begins
one of five references.
-/
import Mathlib
import Paperwork.Html.Markup

namespace Paperwork.Html

/-! ### Inert text -/

/-- The references that stand for what means something to markup. -/
def references : List (List Char) :=
  [['&', 'a', 'm', 'p', ';'], ['&', 'l', 't', ';'], ['&', 'g', 't', ';'],
   ['&', 'q', 'u', 'o', 't', ';'], ['&', '#', 'x', '2', '7', ';']]

/-- A text that is never taken for markup, wherever it stands. -/
structure Inert (cs : List Char) : Prop where
  noMarkup : ∀ c ∈ cs, c ≠ '<' ∧ c ≠ '>' ∧ c ≠ '"' ∧ c ≠ '\''
  escaped : ∀ before after, cs = before ++ '&' :: after →
    ∃ reference ∈ references, reference <+: '&' :: after

theorem inert_nil : Inert [] where
  noMarkup := by simp
  escaped := by simp

theorem Inert.append {a b : List Char} (ha : Inert a) (hb : Inert b) : Inert (a ++ b) where
  noMarkup c hc := (List.mem_append.mp hc).elim (ha.noMarkup c) (hb.noMarkup c)
  escaped before after h := by
    rcases List.append_eq_append_iff.mp h with ⟨middle, -, hmiddle⟩ | ⟨middle, hbefore, hmiddle⟩
    · exact hb.escaped middle after hmiddle
    · cases middle with
      | nil => exact hb.escaped [] after (by simpa using hmiddle.symm)
      | cons c middle =>
          obtain ⟨rfl, rfl⟩ := List.cons.inj hmiddle
          obtain ⟨reference, hmem, hprefix⟩ := ha.escaped before middle hbefore
          exact ⟨reference, hmem, hprefix.trans (List.prefix_append ('&' :: middle) b)⟩

theorem inert_singleton {c : Char} (hamp : c ≠ '&') (h : c ≠ '<' ∧ c ≠ '>' ∧ c ≠ '"' ∧ c ≠ '\'') :
    Inert [c] where
  noMarkup d hd := List.mem_singleton.mp hd ▸ h
  escaped before after heq := by
    have hmem : '&' ∈ [c] := by rw [heq]; simp
    exact absurd (List.mem_singleton.mp hmem).symm hamp

/-- In a reference no second one begins. -/
theorem inert_reference {reference : List Char} (h : reference ∈ references) :
    Inert reference where
  noMarkup := by
    have hall : ∀ r ∈ references, ∀ c ∈ r, c ≠ '<' ∧ c ≠ '>' ∧ c ≠ '"' ∧ c ≠ '\'' := by
      simp [references]
    exact hall reference h
  escaped before after heq := by
    have hhead : ∀ r ∈ references, '&' ∉ r.tail := by decide
    cases before with
    | nil => exact ⟨reference, h, heq ▸ List.prefix_rfl⟩
    | cons c before =>
        refine absurd ?_ (hhead reference h)
        rw [heq]
        simp

theorem inert_escapeChar (c : Char) : Inert (escapeChar c) := by
  unfold escapeChar
  split
  all_goals first
    | exact inert_reference (by decide)
    | exact inert_singleton ‹_› ⟨‹_›, ‹_›, ‹_›, ‹_›⟩

/-- **Escaped text is inert.** -/
theorem inert_escapeChars (cs : List Char) : Inert (escapeChars cs) := by
  induction cs with
  | nil => exact inert_nil
  | cons c cs ih =>
      rw [escapeChars_cons]
      exact (inert_escapeChar c).append ih

/-! ### Elements -/

/-- The names of the elements that are written. -/
def elementNames : List (List Char) :=
  [['h', '1'], ['h', '2'], ['h', '3'], ['h', '4'], ['h', '5'], ['h', '6'], ['p'],
   ['d', 'i', 'v'], ['u', 'l'], ['o', 'l'], ['l', 'i'], ['t', 'a', 'b', 'l', 'e'],
   ['t', 'h', 'e', 'a', 'd'], ['t', 'b', 'o', 'd', 'y'], ['t', 'r'], ['t', 'h'], ['t', 'd']]

/-- The names of the attributes that are written. -/
def attributeNames : List (List Char) :=
  [['c', 'l', 'a', 's', 's'], ['s', 't', 'y', 'l', 'e']]

/-- Attributes with inert values between double quotes. -/
inductive IsAttributes : List Char → Prop
  | nil : IsAttributes []
  | cons {name value rest : List Char} (hname : name ∈ attributeNames) (hvalue : Inert value)
      (hrest : IsAttributes rest) :
      IsAttributes (' ' :: name ++ ['=', '"'] ++ value ++ ['"'] ++ rest)

mutual

/-- An element that is opened and closed, or a rule. -/
inductive IsElement : List Char → Prop
  | element {tag attributes content : List Char} (htag : tag ∈ elementNames)
      (hattributes : IsAttributes attributes) (hcontent : IsContent content) :
      IsElement ('<' :: tag ++ attributes ++ ['>'] ++ content ++ ('<' :: '/' :: tag ++ ['>']))
  | rule {attributes : List Char} (hattributes : IsAttributes attributes) :
      IsElement ('<' :: ['h', 'r'] ++ attributes ++ ['/', '>'])

/-- Inert text and elements, one after another. -/
inductive IsContent : List Char → Prop
  | nil : IsContent []
  | text {text rest : List Char} (htext : Inert text) (hrest : IsContent rest) :
      IsContent (text ++ rest)
  | element {element rest : List Char} (helement : IsElement element) (hrest : IsContent rest) :
      IsContent (element ++ rest)

end

/-! ### What is written -/

/-- Attributes that have the names of written ones. -/
def Attributes.Known (attributes : Attributes) : Prop :=
  ∀ a ∈ attributes, a.1.toList ∈ attributeNames

/-- Pieces of HTML of known names: elements that hold a text or other elements, and
rules. -/
inductive Markup.Known : Markup → Prop
  | leaf {tag text : String} {attributes : Attributes} (htag : tag.toList ∈ elementNames)
      (hattributes : attributes.Known) : Known (.element tag attributes [.text text])
  | parent {tag : String} {attributes : Attributes} {content : List Markup}
      (htag : tag.toList ∈ elementNames) (hattributes : attributes.Known)
      (hcontent : ∀ piece ∈ content, piece.Known) : Known (.element tag attributes content)
  | rule {attributes : Attributes} (hattributes : attributes.Known) :
      Known (.void "hr" attributes)

theorem isAttributes_attributesText {attributes : Attributes} (h : attributes.Known) :
    IsAttributes (attributesText attributes) := by
  induction attributes with
  | nil => exact .nil
  | cons a attributes ih =>
      have hrest : Attributes.Known attributes := fun b hb => h b (List.mem_cons_of_mem a hb)
      exact .cons (h a List.mem_cons_self) (inert_escapeChars _) (ih hrest)

theorem isContent_writeAll {pieces : List Markup} (h : ∀ piece ∈ pieces, IsElement piece.write) :
    IsContent (writeAll pieces) := by
  induction pieces with
  | nil => exact .nil
  | cons piece pieces ih =>
      have hrest : ∀ other ∈ pieces, IsElement other.write :=
        fun other ho => h other (List.mem_cons_of_mem piece ho)
      exact .element (h piece List.mem_cons_self) (ih hrest)

private theorem isElement_write {tag : String} {attributes : Attributes} {content : List Markup}
    (htag : tag.toList ∈ elementNames) (hattributes : attributes.Known)
    (hcontent : IsContent (writeAll content)) :
    IsElement (Markup.element tag attributes content).write := by
  have h := IsElement.element htag (isAttributes_attributesText hattributes) hcontent
  simpa [Markup.write, openingTag, closingTag] using h

/-- **A piece of known names is written as an element.** -/
theorem Markup.Known.isElement {m : Markup} (h : m.Known) : IsElement m.write := by
  induction h with
  | leaf htag hattributes =>
      exact isElement_write htag hattributes (.text (inert_escapeChars _) .nil)
  | parent htag hattributes _ ih =>
      exact isElement_write htag hattributes (isContent_writeAll ih)
  | rule hattributes =>
      have h := IsElement.rule (isAttributes_attributesText hattributes)
      simpa [Markup.write] using h

end Paperwork.Html
