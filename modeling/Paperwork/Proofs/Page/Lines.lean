/-
Blocks on lines of their own, read one after another.

Blocks are read in front of whatever is read behind them.  Dividers are read as nothing, like
the blanks between the lines, and a division that holds nothing else is one empty paragraph.
-/
import Paperwork.Proofs.Page.Stands

namespace Paperwork

open Paperwork.Text
open Paperwork.Html

/-! ### Parts that are read as nothing -/

/-- The name of the element around the content of a page. -/
def divisionName : List Char := ['d', 'i', 'v']

/-- Parts that are read as nothing in a division and do not end it. -/
structure Silent (ts : List Token) : Prop where
  quiet : Quiet ts
  unclosed : NoTag (wholeTag (closes caseFree (lowerText divisionName))) ts
  noBold : NoTag (opens boldNames) ts

namespace Silent

theorem append {a b : List Token} (ha : Silent a) (hb : Silent b) : Silent (a ++ b) where
  quiet := quiet_append.mpr ⟨ha.quiet, hb.quiet⟩
  unclosed := noTag_append.mpr ⟨ha.unclosed, hb.unclosed⟩
  noBold := noTag_append.mpr ⟨ha.noBold, hb.noBold⟩

theorem nil : Silent [] := ⟨quiet_nil, noTag_nil, noTag_nil⟩

theorem blanks {cs : List Char} (h : cs.all isBlank = true) : Silent (cs.map .char) where
  quiet t ht := by
    obtain ⟨c, hc, rfl⟩ := List.mem_map.mp ht
    exact List.all_eq_true.mp h c hc
  unclosed := noTag_chars cs
  noBold := noTag_chars cs

theorem within {ts : List Token} (h : Silent ts) : Within divisionName ts where
  sound := h.quiet.sound
  noRegion := h.quiet.noRegion
  noWrapper inner hinner := by
    have hstop := h.quiet.noStop inner hinner
    rw [opens_stopNames, Option.or_eq_none_iff] at hstop
    exact hstop.1
  unclosed := h.unclosed

end Silent

/-- What the tag of a rule opens is told by its name. -/
theorem not_opens_rule {names : List (List Char)} (hnames : ∀ n ∈ names, ' ' ∉ n ∧ '/' ∉ n)
    (h : opens names ['h', 'r'] = none) (attributes : Attributes) :
    opens names ("hr".toList ++ attributesText attributes ++ ['/']) = none := by
  rcases attributesText_cases attributes with hnone | ⟨rest, hsome⟩
  · rw [hnone, List.append_nil]
    have hstop := opens_stop (fun n hn => (hnames n hn).2) (by decide) (by decide)
      ['h', 'r'] []
    rw [h] at hstop
    exact hstop
  · rw [hsome, List.append_assoc]
    have hstop := opens_stop (fun n hn => (hnames n hn).1) (by decide) (by decide)
      ['h', 'r'] (rest ++ ['/'])
    rw [h] at hstop
    exact hstop

theorem silent_rule {attributes : Attributes} (hattributes : attributes.Known) :
    Silent (Markup.void "hr" attributes).tokens where
  quiet := by
    have hsound : (Token.tag ("hr".toList ++ attributesText attributes ++ ['/'])).Sound :=
      (Markup.Known.rule hattributes).sound _ List.mem_cons_self
    have hnames : ∀ n ∈ stopNames, ' ' ∉ n ∧ '/' ∉ n := by decide
    have hstops := not_opens_rule hnames (by decide) attributes
    have hkinds : ∀ kind ∈ RegionKind.all, (∀ n ∈ kind.tagNames, ' ' ∉ n ∧ '/' ∉ n) ∧
        opens kind.tagNames ['h', 'r'] = none := by
      decide
    refine quiet_cons.mpr ⟨⟨hsound, hstops, fun kind hkind => ?_⟩, quiet_nil⟩
    exact not_opens_rule (hkinds kind hkind).1 (hkinds kind hkind).2 attributes
  unclosed := noTag_tag.mpr ⟨rfl, noTag_nil⟩
  noBold := by
    have hnames : ∀ n ∈ boldNames, ' ' ∉ n ∧ '/' ∉ n := by decide
    have hbold := not_opens_rule hnames (by decide) attributes
    exact noTag_tag.mpr ⟨hbold, noTag_nil⟩

/-- **A division around nothing that is read is an empty paragraph.** -/
theorem Ready.division {attributes : Attributes} (hattributes : attributes.Known)
    {content rest : List Token} (hcontent : Silent content) {more : List Node}
    (h : Ready rest more) :
    Ready (.tag (divisionName ++ attributesText attributes)
        :: (content ++ .tag ('/' :: divisionName) :: rest))
      (.paragraph "" (isBold attributes) :: more) := by
  have hready := Ready.wrapped (by decide) hattributes hcontent.within h
  rw [isWrappedBold_of_noTag hcontent.quiet.sound hcontent.noBold, Bool.or_false,
    hasBoldStyle_attributesText hattributes, paragraphText,
    hcontent.quiet.visibleLines_textOf] at hready
  exact hready

/-! ### Blocks one after another -/

/-- The parts of pieces that stand on lines of their own. -/
def tokenLines : List Markup → List Token
  | [] => []
  | [m] => m.tokens
  | m :: rest => m.tokens ++ .char '\n' :: tokenLines rest

theorem writeTokens_tokenLines : ∀ ms : List Markup,
    writeTokens (tokenLines ms) = joined ['\n'] (ms.map Markup.write)
  | [] => rfl
  | [m] => m.writeTokens_tokens
  | m :: n :: rest => by
      have ih := writeTokens_tokenLines (n :: rest)
      rw [tokenLines, writeTokens_append, m.writeTokens_tokens, writeTokens_cons, ih]
      · simp [joined_cons_cons, Token.write, escapeChar]
      · simp

/-- Between a piece and the next ones stands a line feed or nothing. -/
theorem tokenLines_cons (m : Markup) (ms : List Markup) : ∃ gap : List Char,
    gap.all isBlank = true ∧
      tokenLines (m :: ms) = m.tokens ++ (gap.map .char ++ tokenLines ms) := by
  cases ms with
  | nil => exact ⟨[], rfl, by simp [tokenLines]⟩
  | cons n rest => exact ⟨['\n'], by decide, rfl⟩

namespace Fill

variable {context : Context} {bs : List Block} {ms : List Markup}

theorem divider_silent {b : Block} {m : Markup} (hb : b.isDivider = true)
    (h : block context b = .ok m) : nodes context b = .ok [] ∧ Silent m.tokens := by
  cases b with
  | divider style =>
      obtain rfl := Except.ok.inj h
      exact ⟨rfl, silent_rule (known_attributesFor _ _ _)⟩
  | _ => exact absurd hb (by simp [Block.isDivider])

/-- **Every block but a divider is read as what it stands for.** -/
theorem block_stands {b : Block} {m : Markup} (hlevel : b.Leveled) (hb : b.isDivider = false)
    (h : block context b = .ok m) : ∃ ns, nodes context b = .ok ns ∧ Stands m ns := by
  cases b with
  | heading b => exact heading_stands hlevel h
  | paragraph b => exact paragraph_stands h
  | line b => exact line_stands h
  | list b => exact list_stands h
  | table b => exact table_stands h
  | keyValueTable b => exact keyValueTable_stands h
  | keyValueList b => exact keyValueList_stands h
  | divider style => exact absurd hb (by simp [Block.isDivider])
  | spacer size => exact spacer_stands h
  | signature b => exact signature_stands h

theorem dividers_silent (hbs : bs.all Block.isDivider = true)
    (h : List.Forall₂ (fun b m => block context b = .ok m) bs ms) : Silent (tokenLines ms) := by
  induction h with
  | nil => exact .nil
  | @cons b m bs ms hm _ ih =>
      simp only [List.all_cons, Bool.and_eq_true] at hbs
      obtain ⟨gap, hgap, hlines⟩ := tokenLines_cons m ms
      rw [hlines]
      exact (divider_silent hbs.1 hm).2.append ((Silent.blanks hgap).append (ih hbs.2))

/-- Filled blocks are read in front of every row that is ready. -/
theorem blocks_ready (hlevels : ∀ b ∈ bs, b.Leveled)
    (h : List.Forall₂ (fun b m => block context b = .ok m) bs ms) :
    ∃ nss, bs.mapM (nodes context) = .ok nss ∧ ∀ {rest more}, Ready rest more →
      Ready (tokenLines ms ++ rest) (nss.flatten ++ more) := by
  induction h with
  | nil => exact ⟨[], rfl, fun hrest => hrest⟩
  | @cons b m bs ms hm _ ih =>
      obtain ⟨nss, hnss, hready⟩ := ih fun b hb => hlevels b (List.mem_cons_of_mem _ hb)
      obtain ⟨gap, hgap, hlines⟩ := tokenLines_cons m ms
      have hpiece : ∃ ns, nodes context b = .ok ns ∧ ∀ {rest more}, Ready rest more →
          Ready (m.tokens ++ rest) (ns ++ more) := by
        cases hb : b.isDivider with
        | true =>
            obtain ⟨hnodes, hsilent⟩ := divider_silent hb hm
            exact ⟨[], hnodes, fun hrest => hrest.quiet hsilent.quiet⟩
        | false =>
            obtain ⟨ns, hnodes, hstands⟩ := block_stands (hlevels b List.mem_cons_self) hb hm
            exact ⟨ns, hnodes, fun hrest => hstands.ready hrest⟩
      obtain ⟨ns, hnodes, hfirst⟩ := hpiece
      refine ⟨ns :: nss, ?_, fun hrest => ?_⟩
      · rw [List.mapM_cons, hnodes, ok_bind, hnss]
        rfl
      · rw [hlines, List.append_assoc, List.append_assoc, List.flatten_cons, List.append_assoc]
        exact hfirst ((hready hrest).quiet (Silent.blanks hgap).quiet)

/-- In front of the first block that is read stand dividers only. -/
theorem blocks_start (hlevels : ∀ b ∈ bs, b.Leveled) (hbs : bs.all Block.isDivider = false)
    (h : List.Forall₂ (fun b m => block context b = .ok m) bs ms) {rest : List Token}
    {more : List Node} (hrest : Ready rest more) :
    ∃ gap after, tokenLines ms ++ rest = gap ++ after ∧ Silent gap ∧ Starts after := by
  induction h with
  | nil => simp at hbs
  | @cons b m bs ms hm hms ih =>
      have hmore : ∀ b ∈ bs, b.Leveled := fun b hb => hlevels b (List.mem_cons_of_mem _ hb)
      obtain ⟨gap, hgap, hlines⟩ := tokenLines_cons m ms
      rw [hlines, List.append_assoc, List.append_assoc]
      cases hb : b.isDivider with
      | true =>
          obtain ⟨before, after, heq, hbefore, hstarts⟩ := ih hmore (by simpa [hb] using hbs)
          refine ⟨m.tokens ++ (gap.map .char ++ before), after, by simp [heq], ?_, hstarts⟩
          exact (divider_silent hb hm).2.append ((Silent.blanks hgap).append hbefore)
      | false =>
          obtain ⟨ns, -, hstands⟩ := block_stands (hlevels b List.mem_cons_self) hb hm
          obtain ⟨nss, -, hready⟩ := blocks_ready hmore hms
          exact ⟨[], _, rfl, .nil, hstands.starts ((hready hrest).quiet (Silent.blanks hgap).quiet)⟩

end Fill

end Paperwork
