/-
Values are read back from their indented text.

The indented text of a value differs from the compact one by blanks around its parts only,
and a reader passes over them.  As characters that would end a line are escaped in
strings, the text is also the same after its ends of lines have been made alike.
-/
import Paperwork.Proofs.Data.Json.RoundTrip
import Paperwork.Text.Lines

namespace Paperwork

namespace Json

variable {levels : Nat}

theorem indentedItems_eq_map (level : Nat) (items : List Value) :
    indentedItems level items = items.map (indented level) := by
  induction items with
  | nil => rfl
  | cons item items ih => rw [indentedItems, ih, List.map_cons]

theorem indentedFields_eq_map (level : Nat) (fields : Fields) :
    indentedFields level fields
      = fields.map fun field => quoted field.1 ++ ':' :: ' ' :: indented level field.2 := by
  induction fields with
  | nil => rfl
  | cons field fields ih => rw [indentedFields, ih, List.map_cons]

/-- Line feeds and spaces, which are all that indenting adds. -/
def Spacing (cs : List Char) : Prop := ∀ c ∈ cs, c = '\n' ∨ c = ' '

theorem Spacing.gap {cs : List Char} (h : Spacing cs) : Gap cs := by
  intro c hc
  rcases h c hc with rfl | rfl <;> rfl

theorem Spacing.no_return {cs : List Char} (h : Spacing cs) : '\r' ∉ cs := by
  intro hmem
  exact absurd (h '\r' hmem) (by decide)

theorem spacing_line (level : Nat) : Spacing ('\n' :: indentation level) := by
  intro c hc
  rcases List.mem_cons.mp hc with hfeed | hspace
  · exact .inl hfeed
  · exact .inr (List.eq_of_mem_replicate hspace)

/-- A block is its texts between the brackets, with line feeds and spaces around them. -/
theorem block_eq (opening closing : Char) (level : Nat) (texts : List (List Char)) :
    ∃ gap, Spacing gap ∧ block opening closing level texts
      = opening :: commaSeparated (texts.map fun text => '\n' :: indentation (level + 1) ++ text)
        ++ (gap ++ [closing]) := by
  cases texts with
  | nil => exact ⟨[], by simp [Spacing], rfl⟩
  | cons text texts =>
      refine ⟨'\n' :: indentation level, spacing_line level, ?_⟩
      have hblock : block opening closing level (text :: texts) = opening :: commaSeparated
          ((text :: texts).map fun text => '\n' :: indentation (level + 1) ++ text)
            ++ '\n' :: indentation level ++ [closing] := rfl
      rw [hblock, List.append_assoc]

/-- **A plain value is read back from its indented text**, at whatever level it begins. -/
theorem readsBack_indented {value : Value} (h : value.Plain levels) :
    ∀ (level : Nat) {deep : Nat}, levels ≤ deep → ReadsBack deep (indented level value) value := by
  induction h with
  | null => exact fun _ _ _ => readsBack_null
  | bool b => exact fun _ _ _ => readsBack_bool b
  | int digits => exact fun _ _ _ => readsBack_int digits
  | text s => exact fun _ _ _ => readsBack_text s
  | @list levels items _ ih =>
      rintro level (_ | deep) hdeep
      · omega
      obtain ⟨gap, hgap, hblock⟩ := block_eq '[' ']' level (items.map (indented (level + 1)))
      rw [indented, indentedItems_eq_map, hblock, List.map_map]
      refine readsBack_list ?_ hgap.gap
      rw [List.forall₂_map_left_iff, List.forall₂_same]
      intro item hitem
      have hread := ih item hitem (level + 1) (Nat.le_of_succ_le_succ hdeep)
      exact ⟨_, _, rfl, (spacing_line (level + 1)).gap, hread⟩
  | @object levels fields hkeys _ ih =>
      rintro level (_ | deep) hdeep
      · omega
      obtain ⟨gap, hgap, hblock⟩ := block_eq '\x7b' '\x7d' level
        (fields.map fun field => quoted field.1 ++ ':' :: ' ' :: indented (level + 1) field.2)
      rw [indented, indentedFields_eq_map, hblock, List.map_map]
      refine readsBack_object ?_ hkeys hgap.gap
      rw [List.forall₂_map_left_iff, List.forall₂_same]
      intro field hfield
      have hread := ih field hfield (level + 1) (Nat.le_of_succ_le_succ hdeep)
      have hblank : Gap [' '] := by simp [Gap, isBlank]
      exact ⟨_, _, rfl, (spacing_line (level + 1)).gap, [' '], _, rfl, hblank, hread⟩

/-! ### Ends of lines -/

theorem return_not_mem_quoted (text : String) : '\r' ∉ quoted text := by
  have hchar : ∀ c : Char, '\r' ∉ stringChar c := by
    intro c
    unfold stringChar
    split
    case h_8 hreturn _ _ _ =>
      split
      · have hdigit : ∀ n < 16, '\r' ≠ hexChar n := by decide
        have hhigh := hdigit (c.toNat / 16) (by omega)
        have hlow := hdigit (c.toNat % 16) (by omega)
        simp [hhigh, hlow]
      · simpa using Ne.symm hreturn
    all_goals decide
  simp [quoted, hchar]

theorem not_mem_commaSeparated {c : Char} (hc : c ≠ ',') {texts : List (List Char)}
    (h : ∀ text ∈ texts, c ∉ text) : c ∉ commaSeparated texts := by
  induction texts with
  | nil => simp [commaSeparated]
  | cons text texts ih =>
      have hmore := ih fun text htext => h text (List.mem_cons_of_mem _ htext)
      have htext := h text List.mem_cons_self
      cases texts with
      | nil => exact htext
      | cons next texts =>
          rw [commaSeparated_cons _ (by simp)]
          simp [htext, hc, hmore]

theorem return_not_mem_block {opening closing : Char} (hopening : '\r' ≠ opening)
    (hclosing : '\r' ≠ closing) (level : Nat) {texts : List (List Char)}
    (h : ∀ text ∈ texts, '\r' ∉ text) : '\r' ∉ block opening closing level texts := by
  have hline := (spacing_line (level + 1)).no_return
  have hlines : ∀ text ∈ texts.map fun text => '\n' :: indentation (level + 1) ++ text,
      '\r' ∉ text := by
    intro line hmem
    obtain ⟨text, htext, rfl⟩ := List.mem_map.mp hmem
    exact List.not_mem_append hline (h text htext)
  have hinner := not_mem_commaSeparated (by decide : '\r' ≠ ',') hlines
  obtain ⟨gap, hgap, hblock⟩ := block_eq opening closing level texts
  have hlast := List.not_mem_append hgap.no_return (mt List.mem_singleton.mp hclosing)
  rw [hblock, List.cons_append]
  exact List.not_mem_cons_of_ne_of_not_mem hopening (List.not_mem_append hinner hlast)

/-- No line of the indented text of a plain value ends other than with a line feed. -/
theorem return_not_mem_indented {value : Value} (h : value.Plain levels) :
    ∀ level : Nat, '\r' ∉ indented level value := by
  induction h with
  | null =>
      intro _
      show '\r' ∉ "null".toList
      decide
  | bool b =>
      intro _
      show '\r' ∉ (if b then "true" else "false").toList
      revert b
      decide
  | @int _ n _ =>
      intro _ hmem
      rw [indented, atomText, toList_toString_int, List.mem_append] at hmem
      rcases hmem with hsign | hdigits
      · split at hsign <;> simp at hsign
      · exact absurd (isDigit_toDigits hdigits) (by decide)
      · simp
      · simp
  | text s => exact fun _ => return_not_mem_quoted s
  | @list levels items _ ih =>
      intro level
      rw [indented, indentedItems_eq_map]
      refine return_not_mem_block (by decide) (by decide) level fun text htext => ?_
      obtain ⟨item, hitem, rfl⟩ := List.mem_map.mp htext
      exact ih item hitem (level + 1)
  | @object levels fields _ _ ih =>
      intro level
      rw [indented, indentedFields_eq_map]
      refine return_not_mem_block (by decide) (by decide) level fun text htext => ?_
      obtain ⟨field, hfield, rfl⟩ := List.mem_map.mp htext
      have hkey := return_not_mem_quoted field.1
      simp [hkey, ih field hfield (level + 1)]

end Json

theorem Text.withLineFeeds_eq_self {cs : List Char} (h : '\r' ∉ cs) : withLineFeeds cs = cs := by
  induction cs with
  | nil => rfl
  | cons c cs ih =>
      simp only [List.mem_cons, not_or] at h
      have hreturn : c ≠ '\r' := Ne.symm h.1
      rw [withLineFeeds, if_neg hreturn, ih h.2]
      rintro rest rfl
      exact absurd rfl hreturn

end Paperwork
