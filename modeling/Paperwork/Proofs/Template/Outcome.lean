/-
How the check of a template ends.

Of all values in a template only one cannot be examined: an infinite level of a heading.
Where there is none, the check comes to an end, with faults or with a template.  A template
has the blocks of known types in their order, and its headings have one of the six levels.
-/
import Paperwork.Proofs.Checking.Abandoned
import Paperwork.Proofs.Number.Exact
import Paperwork.Proofs.Template.Authored
import Paperwork.Proofs.Template.Level

namespace Paperwork

open Checked (valid)

/-! ### Parts that always are examined -/

theorem StyleValue.check_ends : Accept.Ends StyleValue.check := by
  intro value
  unfold StyleValue.check
  split
  iterate 5 exact Checked.not_isAbandoned_valid _
  refine Checked.not_isAbandoned_orElse ?_ ?_
  · simpa using Accept.text_ends _
  · simpa using Accept.number_ends _

theorem Style.check_ends : Accept.Ends Style.check := StyleValue.check_ends.object

theorem StyleSheet.check_ends : Accept.Ends StyleSheet.check := by
  intro value
  unfold StyleSheet.check
  split
  · exact Style.check_ends.object value
  · simp

theorem Block.styleOf_ends (fields : Fields) (names : List String) :
    ¬(Block.styleOf fields names).IsAbandoned := Style.check_ends.optional.field fields names none

theorem Block.textOf_ends (fields : Fields) (names : List String) :
    ¬(Block.textOf fields names).IsAbandoned := Accept.text_ends.optional.field fields names none

theorem Binding.check_ends : Accept.Ends Binding.check :=
  Accept.record_ends fun fields => by
    simpa using Accept.text_ends.optional.field fields ["path"] none

theorem Reference.ofFields_ends (fields : Fields) : ¬(Reference.ofFields fields).IsAbandoned := by
  simp [ofFields, Binding.check_ends.optional.field, Accept.text_ends.optional.field]

theorem Part.check_ends : Accept.Ends Part.check :=
  Accept.record_ends fun fields => by
    simp [Reference.ofFields_ends, Accept.text_ends.optional.field]

theorem Column.check_ends : Accept.Ends Column.check :=
  Accept.record_ends fun fields => by simp [Accept.text_ends.field]

theorem Row.check_ends : Accept.Ends Row.check :=
  Accept.record_ends fun fields => by simp [Reference.ofFields_ends, Accept.text_ends.field]

/-- A text or something else is examined if the other thing is. -/
theorem Accept.textOr_ends {α β : Type} {accept : Value → Checked β} (h : Accept.Ends accept)
    (made : String → α) (other : β → α) (name : String) :
    Accept.Ends fun value => (((Accept.text value).map made).under (.field "str")).orElse
      (((accept value).map other).under (.field name)) := by
  intro value
  refine Checked.not_isAbandoned_orElse ?_ ?_
  · simpa using Accept.text_ends value
  · simpa using h value

theorem ListEntry.check_ends : Accept.Ends ListEntry.check :=
  Accept.textOr_ends Part.check_ends ListEntry.text ListEntry.part "LinePart"

theorem Naming.check_ends : Accept.Ends Naming.check :=
  Accept.textOr_ends (Accept.record_ends Reference.ofFields_ends) Naming.text Naming.reference
    "BindRef"

/-! ### Levels -/

/-- Only an infinite level is not examined. -/
theorem HeadingBlock.checkLevel_isAbandoned {value : Value} :
    (HeadingBlock.checkLevel value).IsAbandoned ↔
      ∃ x : Binary64, value = .float x ∧ x.IsInfinite := by
  rw [checkLevel, Checked.isAbandoned_map]
  unfold requestedLevel
  cases value with
  | float x =>
      cases x with
      | finite negative exponent fraction =>
          obtain ⟨n, hn⟩ : ∃ n, (Binary64.finite negative exponent fraction).truncate? = some n :=
            ⟨_, Binary64.truncate?_of_toRatio? (Binary64.toRatio?_finite ..)⟩
          refine iff_of_false ?_ (by simp [Binary64.IsInfinite])
          split
          · exact Checked.not_isAbandoned_valid 2
          · dsimp only
            rw [hn]
            exact Checked.not_isAbandoned_valid n
      | infinite negative =>
          refine iff_of_true ⟨.infiniteLevel, rfl⟩ ⟨_, rfl, negative, rfl⟩
      | nan => simp [Value.isGiven, Binary64.isZero, Binary64.IsInfinite]
  | _ =>
      simp only [reduceCtorEq, false_and, exists_false, iff_false]
      split <;> simp

/-! ### Blocks -/

/-- A heading whose level is infinite. -/
def Value.IsEndless (value : Value) : Prop :=
  ∃ (fields : Fields) (level : Binary64), value = .object fields ∧
    fields.get? "type" = some (.text "heading") ∧ fields.get? "level" = some (.float level) ∧
    level.IsInfinite

theorem HeadingBlock.check_isAbandoned {fields : Fields} :
    (HeadingBlock.check fields).IsAbandoned ↔
      ∃ level, fields.get? "level" = some (.float level) ∧ level.IsInfinite := by
  simp only [check, Checked.isAbandoned_seq, Checked.isAbandoned_fmap, Block.styleOf_ends,
    Accept.text_ends.field, Accept.isAbandoned_field, checkLevel_isAbandoned, or_false, false_or]
  constructor
  · rintro ⟨_, hget, level, rfl, hlevel⟩
    exact ⟨level, hget, hlevel⟩
  · rintro ⟨level, hget, hlevel⟩
    exact ⟨_, hget, level, rfl, hlevel⟩

/-- Blocks of all types but headings are examined. -/
theorem Block.reader_isAbandoned {type : String} {read : Fields → Checked Block} {fields : Fields}
    (hread : Block.reader? type = some read) :
    (read fields).IsAbandoned ↔ type = "heading" ∧ (HeadingBlock.check fields).IsAbandoned := by
  unfold Block.reader? at hread
  split at hread
  case h_11 => simp at hread
  all_goals
    obtain rfl := Option.some.inj hread
    simp [ParagraphBlock.check, LineBlock.check, ListBlock.check, TableBlock.check,
      RowsBlock.check, SignatureBlock.check, Reference.ofFields_ends, Block.textOf_ends,
      Block.styleOf_ends, Accept.boolean_ends.field, Accept.number_ends.field,
      Part.check_ends.list.field, ListEntry.check_ends.list.field, Column.check_ends.list.field,
      Row.check_ends.list.field, Naming.check_ends.optional.field]

theorem Block.check?_isAbandoned {value : Value} :
    (∃ outcome, Block.check? value = some outcome ∧ outcome.IsAbandoned) ↔ value.IsEndless := by
  constructor
  · rintro ⟨outcome, hcheck, habandoned⟩
    obtain ⟨fields, type, rfl, htype, hknown⟩ := Block.check?_isSome.mp (by rw [hcheck]; rfl)
    obtain ⟨read, hread⟩ := Block.reader?_of_mem hknown
    rw [Block.check?_of_type htype hread, Option.some.injEq] at hcheck
    rw [← hcheck, Checked.isAbandoned_under, Block.reader_isAbandoned hread,
      HeadingBlock.check_isAbandoned] at habandoned
    obtain ⟨rfl, level, hget, hlevel⟩ := habandoned
    exact ⟨fields, level, rfl, htype, hget, hlevel⟩
  · rintro ⟨fields, level, rfl, htype, hget, hlevel⟩
    refine ⟨_, Block.check?_of_type htype rfl, ?_⟩
    rw [Checked.isAbandoned_under, Checked.isAbandoned_fmap, HeadingBlock.check_isAbandoned]
    exact ⟨level, hget, hlevel⟩

/-- The type of a block, if it is known. -/
def Value.blockType? : Value → Option String
  | .object fields =>
    match Fields.get? fields "type" with
    | some (.text type) => if type ∈ Block.typeNames then some type else none
    | _ => none
  | _ => none

theorem Value.blockType?_eq_some {value : Value} {type : String} :
    value.blockType? = some type ↔ ∃ fields : Fields, value = .object fields ∧
      fields.get? "type" = some (.text type) ∧ type ∈ Block.typeNames := by
  cases value with
  | object fields =>
      simp only [blockType?, object.injEq, exists_eq_left']
      split
      · rename_i found hget
        simp only [hget, Option.some.injEq, text.injEq, Option.ite_none_right_eq_some]
        constructor
        · rintro ⟨hknown, rfl⟩
          exact ⟨rfl, hknown⟩
        · rintro ⟨rfl, hknown⟩
          exact ⟨hknown, rfl⟩
      · rename_i hother
        exact iff_of_false (by simp) fun h => hother type h.1
  | _ => simp [blockType?]

theorem Block.reader_typeName {type : String} {read : Fields → Checked Block} {fields : Fields}
    {b : Block} (hread : Block.reader? type = some read) (h : read fields = valid b) :
    b.typeName = type := by
  unfold Block.reader? at hread
  split at hread
  case h_11 => simp at hread
  all_goals
    obtain rfl := Option.some.inj hread
    obtain ⟨_, -, rfl⟩ := Checked.fmap_eq_valid.mp h
    rfl

/-- A block is of the type of a value, and what the value is read as. -/
def Block.IsReadFrom (value : Value) (b : Block) : Prop :=
  value.blockType? = some b.typeName ∧ Block.check? value = some (valid b)

theorem Block.isReadFrom {value : Value} {b : Block} (h : Block.check? value = some (valid b)) :
    b.IsReadFrom value := by
  obtain ⟨fields, type, rfl, htype, hknown⟩ := Block.check?_isSome.mp (by rw [h]; rfl)
  obtain ⟨read, hread⟩ := Block.reader?_of_mem hknown
  have hvalid := h
  rw [Block.check?_of_type htype hread, Option.some.injEq, Checked.under_eq_valid] at hvalid
  rw [IsReadFrom, Block.reader_typeName hread hvalid]
  exact ⟨Value.blockType?_eq_some.mpr ⟨fields, rfl, htype, hknown⟩, h⟩

theorem Block.check?_eq_none {value : Value} :
    Block.check? value = none ↔ value.blockType? = none := by
  rw [← Option.not_isSome_iff_eq_none, ← Option.not_isSome_iff_eq_none, not_iff_not,
    Block.check?_isSome, Option.isSome_iff_exists]
  simp only [Value.blockType?_eq_some]
  exact exists_comm

/-- The blocks that are read are those of known types, in their order. -/
theorem Block.filterMap_isReadFrom {items : List Value} {blocks : List Block}
    (h : items.filterMap Block.check? = blocks.map valid) :
    List.Forall₂ (fun value b => b.IsReadFrom value)
      (items.filter fun value => value.blockType?.isSome) blocks := by
  induction items generalizing blocks with
  | nil =>
      obtain rfl := List.map_eq_nil_iff.mp h.symm
      exact .nil
  | cons value items ih =>
      cases hcheck : Block.check? value with
      | none =>
          rw [List.filterMap_cons_none hcheck] at h
          have htype := Block.check?_eq_none.mp hcheck
          rw [List.filter_cons_of_neg (by simp [htype])]
          exact ih h
      | some outcome =>
          rw [List.filterMap_cons_some hcheck] at h
          obtain ⟨b, rest, rfl, rfl, hrest⟩ := List.map_eq_cons_iff.mp h.symm
          have hread := Block.isReadFrom hcheck
          rw [List.filter_cons_of_pos (by simp [hread.1])]
          exact .cons hread (ih hrest.symm)

/-! ### Templates -/

/-- The blocks that are given for a template. -/
def Fields.givenBlocks (fields : Fields) : List Value :=
  match fields.getD "blocks" with
  | .list items => items
  | _ => []

/-- A template has the given blocks of known types, in their order, and headings of the six
levels. -/
structure Template.HasBlocksOf (t : Template) (fields : Fields) : Prop where
  leveled : ∀ b ∈ t.blocks, b.Leveled
  read : List.Forall₂ (fun value b => b.IsReadFrom value)
    (fields.givenBlocks.filter fun value => value.blockType?.isSome) t.blocks

/-- The check of a template is abandoned exactly for an infinite level. -/
theorem Template.check_isAbandoned (fields : Fields) :
    (Template.check (.object fields)).value.IsAbandoned ↔
      ∃ value ∈ fields.givenBlocks, value.IsEndless := by
  have hblocks : (Block.checkAll (fields.getD "blocks")).value.IsAbandoned ↔
      ∃ value ∈ fields.givenBlocks, value.IsEndless := by
    unfold Fields.givenBlocks
    cases fields.getD "blocks" with
    | list items =>
        show (Checked.items (Block.checkEach 0 items).value).IsAbandoned ↔ _
        rw [Block.checkEach_value, Checked.isAbandoned_items]
        simp only [List.mem_filterMap, ← Block.check?_isAbandoned]
        constructor
        · rintro ⟨outcome, ⟨value, hvalue, hcheck⟩, habandoned⟩
          exact ⟨value, hvalue, outcome, hcheck, habandoned⟩
        · rintro ⟨value, hvalue, outcome, hcheck, habandoned⟩
          exact ⟨outcome, ⟨value, hvalue, hcheck⟩, habandoned⟩
    | null => exact iff_of_false (Checked.not_isAbandoned_valid _) (by simp)
    | _ => exact iff_of_false (Checked.not_isAbandoned_fault _) (by simp)
  simp only [Template.check_object, Checked.isAbandoned_seq, Checked.isAbandoned_fmap,
    Checked.isAbandoned_under, Accept.text_ends.optional.field, StyleSheet.check_ends.field,
    hblocks, false_or]

theorem Template.hasBlocksOf {fields : Fields} {t : Template}
    (h : (Template.check (.object fields)).value = valid t) : t.HasBlocksOf fields where
  leveled := Template.check_leveled h
  read := by
    obtain ⟨-, -, hblocks⟩ := Template.check_eq_valid.mp h
    unfold Fields.givenBlocks
    cases hgiven : fields.getD "blocks" with
    | list items =>
        rw [hgiven] at hblocks
        exact Block.filterMap_isReadFrom (Block.checkAll_list.mp hblocks)
    | null =>
        rw [hgiven] at hblocks
        obtain hnone := Checked.valid.inj hblocks
        rw [← hnone]
        exact .nil
    | _ =>
        rw [hgiven] at hblocks
        exact absurd hblocks (by simp [Block.checkAll, pure, Noted.silent, Checked.fault])

end Paperwork
