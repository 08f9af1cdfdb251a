/-
What compiled templates look like.

A compiled template has blocks of four kinds only, none with a style of its own, and the
levels of its headings are in range.  So it is plain, and so is the value it is written
as, which has no numbers but these levels.
-/
import Paperwork.Proofs.Data.Json.RoundTrip
import Paperwork.Proofs.Form.Outline
import Paperwork.Proofs.Template.Written
import Paperwork.Form.Record

namespace Paperwork

/-! ### Blocks -/

/-- What a block of a compiled template can be. -/
inductive Form.Compiled : Block → Prop
  | rows (rows : List Row) : Compiled (.keyValueList ⟨rows, none⟩)
  | list (path : String) (items : Option Schema) : Compiled (listBlock path items)
  | heading (text : String) (depth : Nat) : Compiled (.heading ⟨text, headingLevel depth, none⟩)

namespace Form

/-- The block for a list is a table of some columns or a plain list. -/
theorem listBlock_cases (path : String) (items : Option Schema) :
    (∃ columns, listBlock path items
      = .table ⟨unbound, columns, some path, none, none, none, none⟩) ∨
    listBlock path items = .list ⟨unbound, [], false, some path, none, none⟩ := by
  unfold listBlock
  split
  · split
    · exact .inl ⟨_, rfl⟩
    · exact .inr rfl
  · exact .inr rfl

theorem compiled_rowsBlock (rows : List Row) : ∀ b ∈ rowsBlock rows, Compiled b := by
  intro b hb
  unfold rowsBlock at hb
  split at hb
  · simp at hb
  · obtain rfl := List.mem_singleton.mp hb
    exact .rows rows

theorem compiled_behind_rows (rows : List Row) {block : Block} {more : List Block}
    (hblock : Compiled block) (hmore : ∀ b ∈ more, Compiled b) :
    ∀ b ∈ rowsBlock rows ++ block :: more, Compiled b :=
  List.forall_mem_append.mpr ⟨compiled_rowsBlock rows, List.forall_mem_cons.mpr ⟨hblock, hmore⟩⟩

theorem compiled_blocks (path : String) (depth : Nat) (rows : List Row)
    (properties : List (String × Schema)) :
    ∀ b ∈ blocks path depth rows properties, Compiled b := by
  fun_induction blocks path depth rows properties
  case case1 rows => exact compiled_rowsBlock rows
  case case2 rows _ _ _ _ items _ _ _ here ih => exact compiled_behind_rows rows (.list here items) ih
  case case3 rows key _ _ _ _ _ _ here property more _ schema ih ihrest =>
    exact compiled_behind_rows rows (.heading _ _) (List.forall_mem_append.mpr ⟨ih, ihrest⟩)
  case case4 ih => exact ih
  case case5 ih => exact ih

variable {b : Block}

theorem Compiled.leveled (h : Compiled b) : b.Leveled := by
  cases h with
  | rows rows => trivial
  | list path items =>
      rcases listBlock_cases path items with ⟨columns, heq⟩ | heq
      · rw [heq]
        trivial
      · rw [heq]
        trivial
  | heading text depth =>
      show 1 ≤ headingLevel depth ∧ headingLevel depth ≤ 6
      unfold headingLevel
      omega

theorem Compiled.plain (h : Compiled b) : b.Plain := by
  have hnone : Style.PlainIf none := by simp [Style.PlainIf]
  cases h with
  | rows rows => exact hnone
  | list path items =>
      rcases listBlock_cases path items with ⟨columns, heq⟩ | heq
      · rw [heq]
        exact ⟨hnone, hnone, hnone⟩
      · rw [heq]
        exact hnone
  | heading text depth => exact hnone

end Form

/-! ### The value that is written -/

/-- A list of what is written as plain values is plain. -/
theorem Value.Plain.written {α : Type} {write : α → Value} {as : List α} {levels : Nat}
    (h : ∀ a ∈ as, (write a).Plain levels) : (Value.list (as.map write)).Plain (levels + 1) := by
  refine .list fun item hitem => ?_
  obtain ⟨a, ha, rfl⟩ := List.mem_map.mp hitem
  exact h a ha

theorem Row.plain_toValue (r : Row) : r.toValue.Plain 2 := by
  obtain ⟨⟨binding, path⟩, label⟩ := r
  have hbinding : ∀ b : Binding, (Value.object (fieldIf "path" Value.text b.path)).Plain 1 := by
    rintro ⟨_ | path⟩
    · exact .object (by simp [fieldIf]) (by simp [fieldIf])
    · exact .object (by simp [fieldIf]) (by simp [fieldIf, Value.Plain.text])
  refine .object ?_ ?_
  · cases binding <;> cases path <;> simp [Reference.toFields, fieldIf]
  · intro field hfield
    simp only [Reference.toFields, List.mem_append, List.mem_singleton] at hfield
    rcases hfield with (hfield | hfield) | rfl
    · cases binding with
      | none => simp [fieldIf] at hfield
      | some b =>
          obtain rfl := List.mem_singleton.mp hfield
          exact hbinding b
    · cases path with
      | none => simp [fieldIf] at hfield
      | some p =>
          obtain rfl := List.mem_singleton.mp hfield
          exact .text p
    · exact .text label

theorem Column.plain_toValue (c : Column) : c.toValue.Plain 1 :=
  .object (by simp) (by simp [Value.Plain.text])

theorem Form.Compiled.plain_toValue {b : Block} (h : Form.Compiled b) : b.toValue.Plain 4 := by
  cases h with
  | rows rows =>
      have hrows : (Value.list (rows.map Row.toValue)).Plain 3 :=
        .written fun r _ => r.plain_toValue
      refine .object ?_ ?_
      · simp [Block.reference?, Block.ownFields, Block.styleField, fieldIf]
      · simp [Block.reference?, Block.ownFields, Block.styleField, fieldIf, hrows, Value.Plain.text]
  | list path items =>
      rcases Form.listBlock_cases path items with ⟨columns, heq⟩ | heq
      · have hcolumns : (Value.list (columns.map Column.toValue)).Plain 3 :=
          .written fun c _ => c.plain_toValue.mono (by omega)
        rw [heq]
        refine .object ?_ ?_
        · simp [Block.reference?, Block.ownFields, Block.styleField, fieldIf, Form.unbound,
            Reference.toFields]
        · simp [Block.reference?, Block.ownFields, Block.styleField, fieldIf, Form.unbound,
            Reference.toFields, hcolumns, Value.Plain.text]
      · have hentries : (Value.list []).Plain 3 := .list (by simp)
        rw [heq]
        refine .object ?_ ?_
        · simp [Block.reference?, Block.ownFields, Block.styleField, fieldIf, Form.unbound,
            Reference.toFields]
        · simp [Block.reference?, Block.ownFields, Block.styleField, fieldIf, Form.unbound,
            Reference.toFields, hentries, Value.Plain.text, Value.Plain.bool]
  | heading text depth =>
      have hlevel : (Value.int (headingLevel depth)).Plain 3 := by
        obtain ⟨hlower, hupper⟩ := (Form.Compiled.heading text depth).leveled
        refine .int ?_
        revert hlower hupper
        show 1 ≤ headingLevel depth → headingLevel depth ≤ 6 → _
        generalize headingLevel depth = level
        intro hlower hupper
        interval_cases level <;> decide
      refine .object ?_ ?_
      · simp [Block.reference?, Block.ownFields, Block.styleField, fieldIf]
      · simp [Block.reference?, Block.ownFields, Block.styleField, fieldIf, hlevel,
          Value.Plain.text]

/-- Such a template is written as a plain value, in which six containers are nested. -/
theorem Template.plain_toValue {t : Template} (hstyles : t.styles = [])
    (hblocks : ∀ b ∈ t.blocks, Form.Compiled b) : t.toValue.Plain 6 := by
  have hsheet : t.styles.toValue.Plain 5 := by
    rw [hstyles]
    exact .object (by simp) (by simp)
  have hlist : (Value.list (t.blocks.map Block.toValue)).Plain 5 :=
    .written fun b hb => (hblocks b hb).plain_toValue
  refine .object ?_ ?_
  · cases t.title <;> simp [fieldIf]
  · cases t.title <;> simp [fieldIf, hsheet, hlist, Value.Plain.text]

/-! ### Compiled templates -/

/-- A compiled template has no styles, and its blocks are of four kinds. -/
theorem Record.compiled_blocks (schema : Value) :
    (Record.compiled schema).value.styles = [] ∧
      ∀ b ∈ (Record.compiled schema).value.blocks, Form.Compiled b := by
  have hempty : Template.empty.styles = [] ∧ ∀ b ∈ Template.empty.blocks, Form.Compiled b :=
    ⟨rfl, by simp [Template.empty]⟩
  unfold Record.compiled
  split
  · exact hempty
  · simp only [bind, Noted.andThen]
    split
    · rename_i schema _
      exact ⟨rfl, Form.compiled_blocks "" 0 [] schema.declared⟩
    · exact hempty

/-- A compiled template is plain. -/
theorem Record.compiled_plain (schema : Value) : (Record.compiled schema).value.Plain := by
  obtain ⟨hstyles, hblocks⟩ := Record.compiled_blocks schema
  refine ⟨fun b hb => (hblocks b hb).leveled, fun b hb => (hblocks b hb).plain, ?_⟩
  rw [hstyles]
  simp

/-- A compiled template is written as a plain value. -/
theorem Record.compiled_plain_toValue (schema : Value) :
    (Record.compiled schema).value.toValue.Plain 6 := by
  obtain ⟨hstyles, hblocks⟩ := Record.compiled_blocks schema
  exact Template.plain_toValue hstyles hblocks

end Paperwork
