/-
What an accepted template was put together from.

The check of a block is put together from checks of its fields, so a block is found exactly
if each of its fields is.
-/
import Paperwork.Proofs.Checking.Valid
import Paperwork.Template.Check

namespace Paperwork

open Checked (valid)

/-! ### References and parts -/

theorem Reference.ofFields_eq_valid {fields : Fields} {r : Reference} :
    Reference.ofFields fields = valid r ↔
      Accept.field fields ["bind"] (Accept.optional Binding.check) none = valid r.binding ∧
        Accept.field fields ["path"] (Accept.optional Accept.text) none = valid r.path := by
  constructor
  · intro h
    obtain ⟨f, path, hf, hpath, rfl⟩ := Checked.seq_eq_valid.mp h
    obtain ⟨binding, hbinding, rfl⟩ := Checked.fmap_eq_valid.mp hf
    exact ⟨hbinding, hpath⟩
  · rintro ⟨hbinding, hpath⟩
    rw [Reference.ofFields, hbinding, hpath]
    rfl

theorem Part.check_eq_valid {fields : Fields} {p : Part} :
    Part.check (.object fields) = valid p ↔
      Reference.ofFields fields = valid p.reference ∧
        Block.textOf fields ["text"] = valid p.text := by
  constructor
  · intro h
    obtain ⟨f, text, hf, htext, rfl⟩ := Checked.seq_eq_valid.mp h
    obtain ⟨reference, hreference, rfl⟩ := Checked.fmap_eq_valid.mp hf
    exact ⟨hreference, htext⟩
  · rintro ⟨hreference, htext⟩
    show Part.mk <$> Reference.ofFields fields <*> Block.textOf fields ["text"] = _
    rw [hreference, htext]
    rfl

theorem Row.check_eq_valid {fields : Fields} {r : Row} :
    Row.check (.object fields) = valid r ↔
      Reference.ofFields fields = valid r.reference ∧
        Accept.field fields ["label"] Accept.text "" = valid r.label := by
  constructor
  · intro h
    obtain ⟨f, label, hf, hlabel, rfl⟩ := Checked.seq_eq_valid.mp h
    obtain ⟨reference, hreference, rfl⟩ := Checked.fmap_eq_valid.mp hf
    exact ⟨hreference, hlabel⟩
  · rintro ⟨hreference, hlabel⟩
    show Row.mk <$> Reference.ofFields fields <*> Accept.field fields ["label"] _ _ = _
    rw [hreference, hlabel]
    rfl

theorem Column.check_eq_valid {fields : Fields} {c : Column} :
    Column.check (.object fields) = valid c ↔
      Accept.field fields ["header"] Accept.text "" = valid c.header ∧
        Accept.field fields ["path"] Accept.text "" = valid c.path := by
  constructor
  · intro h
    obtain ⟨f, path, hf, hpath, rfl⟩ := Checked.seq_eq_valid.mp h
    obtain ⟨header, hheader, rfl⟩ := Checked.fmap_eq_valid.mp hf
    exact ⟨hheader, hpath⟩
  · rintro ⟨hheader, hpath⟩
    show Column.mk <$> Accept.field fields ["header"] _ _ <*> Accept.field fields ["path"] _ _ = _
    rw [hheader, hpath]
    rfl

/-! ### Blocks -/

section Blocks

variable {fields : Fields}

theorem HeadingBlock.check_eq_valid {b : HeadingBlock} :
    HeadingBlock.check fields = valid b ↔
      Accept.field fields ["text"] Accept.text "" = valid b.text ∧
        Accept.field fields ["level"] HeadingBlock.checkLevel 2 = valid b.level ∧
          Block.styleOf fields ["style"] = valid b.style := by
  constructor
  · intro h
    obtain ⟨g, style, hg, hstyle, rfl⟩ := Checked.seq_eq_valid.mp h
    obtain ⟨f, level, hf, hlevel, rfl⟩ := Checked.seq_eq_valid.mp hg
    obtain ⟨text, htext, rfl⟩ := Checked.fmap_eq_valid.mp hf
    exact ⟨htext, hlevel, hstyle⟩
  · rintro ⟨htext, hlevel, hstyle⟩
    rw [HeadingBlock.check, htext, hlevel, hstyle]
    rfl

theorem ParagraphBlock.check_eq_valid {b : ParagraphBlock} :
    ParagraphBlock.check fields = valid b ↔
      Reference.ofFields fields = valid b.reference ∧ Block.textOf fields ["text"] = valid b.text ∧
        Block.styleOf fields ["style"] = valid b.style := by
  constructor
  · intro h
    obtain ⟨g, style, hg, hstyle, rfl⟩ := Checked.seq_eq_valid.mp h
    obtain ⟨f, text, hf, htext, rfl⟩ := Checked.seq_eq_valid.mp hg
    obtain ⟨reference, hreference, rfl⟩ := Checked.fmap_eq_valid.mp hf
    exact ⟨hreference, htext, hstyle⟩
  · rintro ⟨hreference, htext, hstyle⟩
    rw [ParagraphBlock.check, hreference, htext, hstyle]
    rfl

theorem LineBlock.check_eq_valid {b : LineBlock} :
    LineBlock.check fields = valid b ↔
      Accept.field fields ["parts"] (Accept.list Part.check) [] = valid b.parts ∧
        Block.styleOf fields ["style"] = valid b.style := by
  constructor
  · intro h
    obtain ⟨f, style, hf, hstyle, rfl⟩ := Checked.seq_eq_valid.mp h
    obtain ⟨parts, hparts, rfl⟩ := Checked.fmap_eq_valid.mp hf
    exact ⟨hparts, hstyle⟩
  · rintro ⟨hparts, hstyle⟩
    rw [LineBlock.check, hparts, hstyle]
    rfl

theorem ListBlock.check_eq_valid {b : ListBlock} :
    ListBlock.check fields = valid b ↔
      Reference.ofFields fields = valid b.reference ∧
        Accept.field fields ["items"] (Accept.list ListEntry.check) [] = valid b.entries ∧
        Accept.field fields ["ordered"] Accept.boolean false = valid b.ordered ∧
        Block.textOf fields ["dataPath", "data_path"] = valid b.dataPath ∧
        Block.textOf fields ["sourcePath", "source_path"] = valid b.sourcePath ∧
        Block.styleOf fields ["style"] = valid b.style := by
  constructor
  · intro h
    obtain ⟨g, style, hg, hstyle, rfl⟩ := Checked.seq_eq_valid.mp h
    obtain ⟨f, source, hf, hsource, rfl⟩ := Checked.seq_eq_valid.mp hg
    obtain ⟨e, data, he, hdata, rfl⟩ := Checked.seq_eq_valid.mp hf
    obtain ⟨d, ordered, hd, hordered, rfl⟩ := Checked.seq_eq_valid.mp he
    obtain ⟨c, items, hc, hitems, rfl⟩ := Checked.seq_eq_valid.mp hd
    obtain ⟨reference, hreference, rfl⟩ := Checked.fmap_eq_valid.mp hc
    exact ⟨hreference, hitems, hordered, hdata, hsource, hstyle⟩
  · rintro ⟨hreference, hitems, hordered, hdata, hsource, hstyle⟩
    rw [ListBlock.check, hreference, hitems, hordered, hdata, hsource, hstyle]
    rfl

theorem TableBlock.check_eq_valid {b : TableBlock} :
    TableBlock.check fields = valid b ↔
      Reference.ofFields fields = valid b.reference ∧
        Accept.field fields ["columns"] (Accept.list Column.check) [] = valid b.columns ∧
        Block.textOf fields ["dataPath", "data_path"] = valid b.dataPath ∧
        Block.textOf fields ["sourcePath", "source_path"] = valid b.sourcePath ∧
        Block.styleOf fields ["style"] = valid b.style ∧
        Block.styleOf fields ["headerStyle", "header_style"] = valid b.headerStyle ∧
        Block.styleOf fields ["cellStyle", "cell_style"] = valid b.cellStyle := by
  constructor
  · intro h
    obtain ⟨g, cell, hg, hcell, rfl⟩ := Checked.seq_eq_valid.mp h
    obtain ⟨f, header, hf, hheader, rfl⟩ := Checked.seq_eq_valid.mp hg
    obtain ⟨e, style, he, hstyle, rfl⟩ := Checked.seq_eq_valid.mp hf
    obtain ⟨d, source, hd, hsource, rfl⟩ := Checked.seq_eq_valid.mp he
    obtain ⟨c, data, hc, hdata, rfl⟩ := Checked.seq_eq_valid.mp hd
    obtain ⟨a, columns, ha, hcolumns, rfl⟩ := Checked.seq_eq_valid.mp hc
    obtain ⟨reference, hreference, rfl⟩ := Checked.fmap_eq_valid.mp ha
    exact ⟨hreference, hcolumns, hdata, hsource, hstyle, hheader, hcell⟩
  · rintro ⟨hreference, hcolumns, hdata, hsource, hstyle, hheader, hcell⟩
    rw [TableBlock.check, hreference, hcolumns, hdata, hsource, hstyle, hheader, hcell]
    rfl

theorem RowsBlock.check_eq_valid {b : RowsBlock} :
    RowsBlock.check fields = valid b ↔
      Accept.field fields ["rows"] (Accept.list Row.check) [] = valid b.rows ∧
        Block.styleOf fields ["style"] = valid b.style := by
  constructor
  · intro h
    obtain ⟨f, style, hf, hstyle, rfl⟩ := Checked.seq_eq_valid.mp h
    obtain ⟨rows, hrows, rfl⟩ := Checked.fmap_eq_valid.mp hf
    exact ⟨hrows, hstyle⟩
  · rintro ⟨hrows, hstyle⟩
    rw [RowsBlock.check, hrows, hstyle]
    rfl

theorem SignatureBlock.check_eq_valid {b : SignatureBlock} :
    SignatureBlock.check fields = valid b ↔
      Accept.field fields ["name"] (Accept.optional Naming.check) none = valid b.name ∧
        Accept.field fields ["title"] (Accept.optional Naming.check) none = valid b.title ∧
        Accept.field fields ["showRegards", "show_regards"] Accept.boolean false
          = valid b.showRegards ∧
        Block.styleOf fields ["style"] = valid b.style := by
  constructor
  · intro h
    obtain ⟨g, style, hg, hstyle, rfl⟩ := Checked.seq_eq_valid.mp h
    obtain ⟨f, regards, hf, hregards, rfl⟩ := Checked.seq_eq_valid.mp hg
    obtain ⟨e, title, he, htitle, rfl⟩ := Checked.seq_eq_valid.mp hf
    obtain ⟨name, hname, rfl⟩ := Checked.fmap_eq_valid.mp he
    exact ⟨hname, htitle, hregards, hstyle⟩
  · rintro ⟨hname, htitle, hregards, hstyle⟩
    rw [SignatureBlock.check, hname, htitle, hregards, hstyle]
    rfl

end Blocks

/-- A block is read from an object by the reader of its type. -/
theorem Block.check?_eq_valid {value : Value} {b : Block}
    (h : Block.check? value = some (valid b)) :
    ∃ type read fields, Block.reader? type = some read ∧ read fields = valid b := by
  unfold Block.check? at h
  split at h
  · split at h
    · obtain ⟨read, hread, hvalid⟩ := Option.map_eq_some_iff.mp h
      exact ⟨_, read, _, hread, Checked.under_eq_valid.mp hvalid⟩
    · exact absurd h (by simp)
  · exact absurd h (by simp)

/-! ### Templates -/

/-- Only an object is accepted as a template. -/
theorem Template.object_of_check {value : Value} {t : Template}
    (h : (Template.check value).value = valid t) : ∃ fields, value = .object fields := by
  cases value with
  | object fields => exact ⟨fields, rfl⟩
  | _ => exact absurd h (by simp [Template.check, pure, Noted.silent, Checked.fault])

theorem Template.check_object (fields : Fields) :
    Template.check (.object fields) =
      ⟨Template.mk <$> Accept.field fields ["title"] (Accept.optional Accept.text) none
        <*> Accept.field fields ["styles"] StyleSheet.check []
        <*> (Block.checkAll (fields.getD "blocks")).value.under (.field "blocks"),
        (Block.checkAll (fields.getD "blocks")).notices⟩ := by
  simp [Template.check, bind, Noted.andThen, pure, Noted.silent]

theorem Template.check_eq_valid {fields : Fields} {t : Template} :
    (Template.check (.object fields)).value = valid t ↔
      Accept.field fields ["title"] (Accept.optional Accept.text) none = valid t.title ∧
        Accept.field fields ["styles"] StyleSheet.check [] = valid t.styles ∧
        (Block.checkAll (fields.getD "blocks")).value = valid t.blocks := by
  rw [Template.check_object]
  constructor
  · intro h
    obtain ⟨f, blocks, hf, hblocks, rfl⟩ := Checked.seq_eq_valid.mp h
    obtain ⟨e, styles, he, hstyles, rfl⟩ := Checked.seq_eq_valid.mp hf
    obtain ⟨title, htitle, rfl⟩ := Checked.fmap_eq_valid.mp he
    exact ⟨htitle, hstyles, Checked.under_eq_valid.mp hblocks⟩
  · rintro ⟨htitle, hstyles, hblocks⟩
    rw [htitle, hstyles, hblocks]
    rfl

/-- The blocks that are found are those of known types, in their order. -/
theorem Block.checkEach_value (position : Nat) (values : List Value) :
    (Block.checkEach position values).value = values.filterMap Block.check? := by
  induction values generalizing position with
  | nil => rfl
  | cons value values ih =>
      have hrest := ih (position + 1)
      rw [Block.checkEach]
      cases hcheck : Block.check? value with
      | some outcome =>
          rw [List.filterMap_cons_some hcheck, ← hrest]
          rfl
      | none =>
          rw [List.filterMap_cons_none hcheck, ← hrest]
          rfl

/-- The blocks of a list are those of its items. -/
theorem Block.checkAll_list {items : List Value} {blocks : List Block} :
    (Block.checkAll (.list items)).value = valid blocks ↔
      items.filterMap Block.check? = blocks.map valid := by
  rw [← Checked.items_eq_valid, ← Block.checkEach_value 0]
  rfl

/-- A block of a template was read from a value. -/
theorem Block.checkAll_found {value : Value} {blocks : List Block}
    (h : (Block.checkAll value).value = valid blocks) :
    ∀ b ∈ blocks, ∃ value, Block.check? value = some (valid b) := by
  intro b hb
  cases value with
  | null =>
      obtain rfl := Checked.valid.inj h
      simp at hb
  | list items =>
      have hmem := List.mem_map_of_mem (f := valid) hb
      rw [← Block.checkAll_list.mp h] at hmem
      obtain ⟨value, -, hvalue⟩ := List.mem_filterMap.mp hmem
      exact ⟨value, hvalue⟩
  | _ => exact absurd h (by simp [Block.checkAll, pure, Noted.silent, Checked.fault])

end Paperwork
