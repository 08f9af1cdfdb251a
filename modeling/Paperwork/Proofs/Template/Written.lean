/-
Templates are read as they are written.

A field that is written is read under its first name, and a field that is left out is read
as missing.  What reading leaves is not everything a template can be: levels are in range,
and no style holds a truth value, which would be read as a number.
-/
import Paperwork.Proofs.Data.Fields
import Paperwork.Proofs.Template.Level
import Paperwork.Template.Write

namespace Paperwork

open Checked (valid)

/-! ### Fields as they are written -/

namespace Fields

@[simp] theorem get?_fieldIf {α : Type} (key name : String) (written : α → Value) (o : Option α) :
    get? (fieldIf key written o) name = if name = key then o.map written else none := by
  cases o with
  | none => simp [fieldIf]
  | some a => simp [fieldIf]

end Fields

section Fields

variable {α : Type} {fields : Fields} {name : String} {others : List String}
  {accept : Value → Checked α}

/-- A field that is there is read. -/
theorem Accept.field_of_get {value : Value} {missing a : α} (hget : fields.get? name = some value)
    (haccept : accept value = valid a) :
    Accept.field fields (name :: others) accept missing = valid a := by
  rw [Accept.field, List.findSome?_cons, hget]
  show (accept value).under _ = valid a
  rw [haccept]
  rfl

/-- A field that may be missing is read as what it was written for. -/
theorem Accept.field_of_fieldIf (written : α → Value) {o : Option α}
    (hget : fields.get? name = o.map written) (hothers : ∀ other ∈ others, fields.get? other = none)
    (haccept : ∀ a, o = some a → Accept.optional accept (written a) = valid (some a)) :
    Accept.field fields (name :: others) (Accept.optional accept) none = valid o := by
  cases o with
  | some a => exact Accept.field_of_get hget (haccept a rfl)
  | none =>
      have hnone : (name :: others).findSome? (fun name =>
          (fields.get? name).map fun value => (name, value)) = none := by
        rw [List.findSome?_eq_none_iff]
        intro other hother
        rcases List.mem_cons.mp hother with rfl | hother
        · rw [hget]
          rfl
        · rw [hothers other hother]
          rfl
      rw [Accept.field, hnone]

end Fields

section Written

variable {α : Type} {accept : Value → Checked α} {written : α → Value}

/-- A list is read if its items are. -/
theorem Accept.list_of_written {as : List α} (h : ∀ a ∈ as, accept (written a) = valid a) :
    Accept.list accept (.list (as.map written)) = valid as := by
  rw [Accept.list, Checked.items_eq_valid, List.map_map]
  exact List.map_congr_left h

/-- An object is read if the values of its fields are. -/
theorem Accept.object_of_written {as : List (String × α)}
    (h : ∀ a ∈ as, accept (written a.2) = valid a.2) :
    Accept.object accept (.object (as.map fun (key, a) => (key, written a))) = valid as := by
  rw [Accept.object, Checked.all_eq_valid, List.map_map]
  refine List.map_congr_left fun a ha => ?_
  show ((accept (written a.2)).map _).under _ = valid a
  rw [h a ha]
  rfl

end Written

/-! ### Styles -/

/-- A style without truth values, as every style is that was read. -/
def Style.Plain (style : Style) : Prop := ∀ property ∈ style, ∀ b, property.2 ≠ .flag b

theorem StyleValue.check_not_flag {value : Value} {v : StyleValue}
    (h : StyleValue.check value = valid v) (b : Bool) : v ≠ .flag b := by
  rintro rfl
  cases value with
  | list items => cases h
  | object fields => cases h
  | _ => simp [StyleValue.check] at h

theorem Style.check_plain {value : Value} {style : Style} (h : Style.check value = valid style) :
    style.Plain := Accept.object_all (fun _ _ h => StyleValue.check_not_flag h) h

theorem StyleValue.check_toValue {v : StyleValue} (h : ∀ b, v ≠ .flag b) :
    StyleValue.check v.toValue = valid v := by
  cases v with
  | flag b => exact absurd rfl (h b)
  | number n => cases n <;> rfl
  | _ => rfl

theorem Style.check_toValue {style : Style} (h : style.Plain) :
    Style.check style.toValue = valid style :=
  Accept.object_of_written fun property hproperty => StyleValue.check_toValue (h property hproperty)


/-! ### References -/

theorem Reference.get?_toFields (r : Reference) {name : String} (hbind : name ≠ "bind")
    (hpath : name ≠ "path") : Fields.get? r.toFields name = none := by
  simp [Reference.toFields, hbind, hpath]

theorem Reference.ofFields_toFields (r : Reference) {others : Fields}
    (hbind : others.get? "bind" = none) (hpath : others.get? "path" = none) :
    Reference.ofFields (r.toFields ++ others) = valid r := by
  have hbinding : ∀ b, r.binding = some b → Accept.optional Binding.check
      (.object (fieldIf "path" Value.text b.path)) = valid (some b) := by
    intro b _
    have hown : Accept.field (fieldIf "path" Value.text b.path) ["path"]
        (Accept.optional Accept.text) none = valid b.path :=
      Accept.field_of_fieldIf Value.text (by simp) (by simp) fun _ _ => rfl
    show some <$> (Binding.mk <$> _) = _
    rw [hown]
    rfl
  have hfirst : Accept.field (r.toFields ++ others) ["bind"] (Accept.optional Binding.check) none
      = valid r.binding :=
    Accept.field_of_fieldIf _ (by simp [Reference.toFields, hbind]) (by simp) hbinding
  have hsecond : Accept.field (r.toFields ++ others) ["path"] (Accept.optional Accept.text) none
      = valid r.path :=
    Accept.field_of_fieldIf Value.text (by simp [Reference.toFields, hpath]) (by simp)
      fun _ _ => rfl
  exact Reference.ofFields_eq_valid.mpr ⟨hfirst, hsecond⟩

/-! ### Texts and styles among fields -/

section Fields

variable {fields : Fields} {name : String} {others : List String}

theorem Block.textOf_of_get {text : Option String} (hget : fields.get? name = text.map .text)
    (hothers : ∀ other ∈ others, fields.get? other = none) :
    Block.textOf fields (name :: others) = valid text :=
  Accept.field_of_fieldIf Value.text hget hothers fun _ _ => rfl

/-- A style that there may be, without truth values. -/
def Style.PlainIf (style : Option Style) : Prop := ∀ s, style = some s → s.Plain

theorem Block.styleOf_of_get {style : Option Style} (hplain : Style.PlainIf style)
    (hget : fields.get? name = style.map Style.toValue)
    (hothers : ∀ other ∈ others, fields.get? other = none) :
    Block.styleOf fields (name :: others) = valid style := by
  refine Accept.field_of_fieldIf Style.toValue hget hothers fun s hs => ?_
  show some <$> Style.check s.toValue = _
  rw [Style.check_toValue (hplain s hs)]
  rfl

end Fields

/-! ### Parts of blocks -/

theorem Part.check_toValue (p : Part) : Part.check p.toValue = valid p := by
  have hreference : Reference.ofFields (p.reference.toFields ++ fieldIf "text" Value.text p.text)
      = valid p.reference := p.reference.ofFields_toFields (by simp) (by simp)
  have htext : Accept.field (p.reference.toFields ++ fieldIf "text" Value.text p.text) ["text"]
      (Accept.optional Accept.text) none = valid p.text :=
    Accept.field_of_fieldIf Value.text
      (by simp [p.reference.get?_toFields]) (by simp) fun _ _ => rfl
  exact Part.check_eq_valid.mpr ⟨hreference, htext⟩

theorem Row.check_toValue (r : Row) : Row.check r.toValue = valid r := by
  have hreference : Reference.ofFields (r.reference.toFields ++ [("label", .text r.label)])
      = valid r.reference := r.reference.ofFields_toFields (by simp) (by simp)
  have hlabel : Accept.field (r.reference.toFields ++ [("label", .text r.label)]) ["label"]
      Accept.text "" = valid r.label :=
    Accept.field_of_get (by simp [r.reference.get?_toFields]; rfl) rfl
  exact Row.check_eq_valid.mpr ⟨hreference, hlabel⟩

theorem Column.check_toValue (c : Column) : Column.check c.toValue = valid c := rfl

theorem ListEntry.check_toValue (e : ListEntry) : ListEntry.check e.toValue = valid e := by
  cases e with
  | text s => rfl
  | part p =>
      have hpart := p.check_toValue
      unfold Part.toValue at hpart
      rw [ListEntry.toValue, Part.toValue, ListEntry.check, hpart]
      rfl

theorem Naming.check_toValue (n : Naming) : Naming.check n.toValue = valid n := by
  cases n with
  | text s => rfl
  | reference r =>
      have hreference : Reference.ofFields (r.toFields ++ []) = valid r :=
        r.ofFields_toFields rfl rfl
      rw [List.append_nil] at hreference
      have hcheck : Reference.check (.object r.toFields) = valid r := hreference
      rw [Naming.toValue, Naming.check, hcheck]
      rfl

/-! ### Blocks -/

namespace Block

/-- The fields of a block as it is written. -/
def fields (b : Block) : Fields :=
  (b.reference?.map Reference.toFields).getD [] ++ [("type", .text b.typeName)] ++ b.ownFields

theorem toValue_eq (b : Block) : b.toValue = .object b.fields := rfl

/-- The styles of a block have no truth values. -/
def Plain : Block → Prop
  | heading b => Style.PlainIf b.style
  | paragraph b => Style.PlainIf b.style
  | line b => Style.PlainIf b.style
  | list b => Style.PlainIf b.style
  | table b => Style.PlainIf b.style ∧ Style.PlainIf b.headerStyle ∧ Style.PlainIf b.cellStyle
  | keyValueTable b => Style.PlainIf b.style
  | keyValueList b => Style.PlainIf b.style
  | divider style => Style.PlainIf style
  | spacer _ => True
  | signature b => Style.PlainIf b.style

theorem get?_reference (b : Block) {name : String} (hbind : name ≠ "bind") (hpath : name ≠ "path") :
    Fields.get? ((b.reference?.map Reference.toFields).getD []) name = none := by
  cases b.reference? with
  | none => rfl
  | some r => exact r.get?_toFields hbind hpath

theorem get?_type (b : Block) : b.fields.get? "type" = some (.text b.typeName) := by
  simp [fields, b.get?_reference]

/-- The names of the fields that all kinds of blocks may share stand before its own fields. -/
theorem get?_fields (b : Block) {name : String} (hbind : name ≠ "bind") (hpath : name ≠ "path")
    (htype : name ≠ "type") : b.fields.get? name = b.ownFields.get? name := by
  simp [fields, b.get?_reference hbind hpath, htype]

theorem ofFields_fields {b : Block} {r : Reference} (h : b.reference? = some r) :
    Reference.ofFields b.fields = valid r := by
  have hown : ∀ name ∈ ["bind", "path"],
      Fields.get? ([("type", .text b.typeName)] ++ b.ownFields) name = none := by
    intro name hname
    cases b with
    | paragraph b | list b | table b =>
        simp only [List.mem_cons, List.not_mem_nil, or_false] at hname
        rcases hname with rfl | rfl <;> simp [ownFields, styleField]
    | _ => exact absurd h (by simp [reference?])
  rw [fields, h, List.append_assoc]
  exact r.ofFields_toFields (hown "bind" (by simp)) (hown "path" (by simp))

/-- A field of its own that a block always has is read. -/
theorem field_of_own {α : Type} {b : Block} {name : String} {others : List String} {value : Value}
    {accept : Value → Checked α} {missing a : α} (hname : name ∉ ["bind", "path", "type"])
    (hget : b.ownFields.get? name = some value) (haccept : accept value = valid a) :
    Accept.field b.fields (name :: others) accept missing = valid a := by
  simp only [List.mem_cons, List.not_mem_nil, or_false, not_or] at hname
  exact Accept.field_of_get ((b.get?_fields hname.1 hname.2.1 hname.2.2).trans hget) haccept

end Block

theorem HeadingBlock.checkLevel_int {level : Int} (h : 1 ≤ level ∧ level ≤ 6) :
    HeadingBlock.checkLevel (.int level) = valid level := by
  obtain ⟨hlower, hupper⟩ := h
  interval_cases level <;> rfl

theorem HeadingBlock.check_fields {b : HeadingBlock} (hlevel : 1 ≤ b.level ∧ b.level ≤ 6)
    (hstyle : Style.PlainIf b.style) :
    HeadingBlock.check (Block.heading b).fields = valid b := by
  have htext : Accept.field (Block.heading b).fields ["text"] Accept.text "" = valid b.text :=
    Block.field_of_own (by simp) rfl rfl
  have hlevels : Accept.field (Block.heading b).fields ["level"] HeadingBlock.checkLevel 2
      = valid b.level :=
    Block.field_of_own (by simp) rfl (HeadingBlock.checkLevel_int hlevel)
  have hstyles : Block.styleOf (Block.heading b).fields ["style"] = valid b.style :=
    Block.styleOf_of_get hstyle
      (by simp [Block.get?_fields, Block.ownFields, Block.styleField]) (by simp)
  exact HeadingBlock.check_eq_valid.mpr ⟨htext, hlevels, hstyles⟩

theorem ParagraphBlock.check_fields {b : ParagraphBlock} (hstyle : Style.PlainIf b.style) :
    ParagraphBlock.check (Block.paragraph b).fields = valid b := by
  have htext : Block.textOf (Block.paragraph b).fields ["text"] = valid b.text :=
    Block.textOf_of_get (by simp [Block.get?_fields, Block.ownFields, Block.styleField]) (by simp)
  have hstyles : Block.styleOf (Block.paragraph b).fields ["style"] = valid b.style :=
    Block.styleOf_of_get hstyle
      (by simp [Block.get?_fields, Block.ownFields, Block.styleField]) (by simp)
  have hreference := Block.ofFields_fields (b := .paragraph b) rfl
  exact ParagraphBlock.check_eq_valid.mpr ⟨hreference, htext, hstyles⟩

theorem LineBlock.check_fields {b : LineBlock} (hstyle : Style.PlainIf b.style) :
    LineBlock.check (Block.line b).fields = valid b := by
  have hparts : Accept.field (Block.line b).fields ["parts"] (Accept.list Part.check) []
      = valid b.parts :=
    Block.field_of_own (by simp) rfl (Accept.list_of_written fun p _ => p.check_toValue)
  have hstyles : Block.styleOf (Block.line b).fields ["style"] = valid b.style :=
    Block.styleOf_of_get hstyle
      (by simp [Block.get?_fields, Block.ownFields, Block.styleField]) (by simp)
  exact LineBlock.check_eq_valid.mpr ⟨hparts, hstyles⟩

theorem ListBlock.check_fields {b : ListBlock} (hstyle : Style.PlainIf b.style) :
    ListBlock.check (Block.list b).fields = valid b := by
  have hitems : Accept.field (Block.list b).fields ["items"] (Accept.list ListEntry.check) []
      = valid b.entries :=
    Block.field_of_own (by simp) rfl (Accept.list_of_written fun e _ => e.check_toValue)
  have hordered : Accept.field (Block.list b).fields ["ordered"] Accept.boolean false
      = valid b.ordered :=
    Block.field_of_own (by simp) rfl rfl
  have hdata : Block.textOf (Block.list b).fields ["dataPath", "data_path"] = valid b.dataPath :=
    Block.textOf_of_get (by simp [Block.get?_fields, Block.ownFields, Block.styleField])
      (by simp [Block.get?_fields, Block.ownFields, Block.styleField])
  have hsource : Block.textOf (Block.list b).fields ["sourcePath", "source_path"]
      = valid b.sourcePath :=
    Block.textOf_of_get (by simp [Block.get?_fields, Block.ownFields, Block.styleField])
      (by simp [Block.get?_fields, Block.ownFields, Block.styleField])
  have hstyles : Block.styleOf (Block.list b).fields ["style"] = valid b.style :=
    Block.styleOf_of_get hstyle
      (by simp [Block.get?_fields, Block.ownFields, Block.styleField]) (by simp)
  have hreference := Block.ofFields_fields (b := .list b) rfl
  exact ListBlock.check_eq_valid.mpr ⟨hreference, hitems, hordered, hdata, hsource, hstyles⟩

theorem TableBlock.check_fields {b : TableBlock} (h : (Block.table b).Plain) :
    TableBlock.check (Block.table b).fields = valid b := by
  obtain ⟨hstyle, hheader, hcell⟩ := h
  have hcolumns : Accept.field (Block.table b).fields ["columns"] (Accept.list Column.check) []
      = valid b.columns :=
    Block.field_of_own (by simp) rfl (Accept.list_of_written fun c _ => c.check_toValue)
  have hdata : Block.textOf (Block.table b).fields ["dataPath", "data_path"] = valid b.dataPath :=
    Block.textOf_of_get (by simp [Block.get?_fields, Block.ownFields, Block.styleField])
      (by simp [Block.get?_fields, Block.ownFields, Block.styleField])
  have hsource : Block.textOf (Block.table b).fields ["sourcePath", "source_path"]
      = valid b.sourcePath :=
    Block.textOf_of_get (by simp [Block.get?_fields, Block.ownFields, Block.styleField])
      (by simp [Block.get?_fields, Block.ownFields, Block.styleField])
  have hstyles : Block.styleOf (Block.table b).fields ["style"] = valid b.style :=
    Block.styleOf_of_get hstyle
      (by simp [Block.get?_fields, Block.ownFields, Block.styleField]) (by simp)
  have hheaders : Block.styleOf (Block.table b).fields ["headerStyle", "header_style"]
      = valid b.headerStyle :=
    Block.styleOf_of_get hheader
      (by simp [Block.get?_fields, Block.ownFields, Block.styleField])
      (by simp [Block.get?_fields, Block.ownFields, Block.styleField])
  have hcells : Block.styleOf (Block.table b).fields ["cellStyle", "cell_style"]
      = valid b.cellStyle :=
    Block.styleOf_of_get hcell
      (by simp [Block.get?_fields, Block.ownFields, Block.styleField])
      (by simp [Block.get?_fields, Block.ownFields, Block.styleField])
  have hreference := Block.ofFields_fields (b := .table b) rfl
  exact TableBlock.check_eq_valid.mpr
    ⟨hreference, hcolumns, hdata, hsource, hstyles, hheaders, hcells⟩

/-- Labelled rows are read alike whichever of the two kinds of blocks they are in. -/
theorem RowsBlock.check_fields {b : RowsBlock} {block : Block}
    (hblock : block = .keyValueTable b ∨ block = .keyValueList b) (hstyle : Style.PlainIf b.style) :
    RowsBlock.check block.fields = valid b := by
  have hown : block.ownFields = [("rows", .list (b.rows.map Row.toValue))]
      ++ Block.styleField b.style := by
    rcases hblock with rfl | rfl <;> rfl
  have hrows : Accept.field block.fields ["rows"] (Accept.list Row.check) [] = valid b.rows :=
    Block.field_of_own (by simp) (by rw [hown]; rfl)
      (Accept.list_of_written fun r _ => r.check_toValue)
  have hstyles : Block.styleOf block.fields ["style"] = valid b.style :=
    Block.styleOf_of_get hstyle (by simp [Block.get?_fields, hown, Block.styleField]) (by simp)
  exact RowsBlock.check_eq_valid.mpr ⟨hrows, hstyles⟩

theorem SignatureBlock.check_fields {b : SignatureBlock} (hstyle : Style.PlainIf b.style) :
    SignatureBlock.check (Block.signature b).fields = valid b := by
  have hnaming : ∀ n : Naming, Accept.optional Naming.check n.toValue = valid (some n) := by
    intro n
    have hcheck := n.check_toValue
    cases n with
    | text s => rfl
    | reference r =>
        show some <$> Naming.check (Naming.reference r).toValue = _
        rw [hcheck]
        rfl
  have hname : Accept.field (Block.signature b).fields ["name"] (Accept.optional Naming.check) none
      = valid b.name :=
    Accept.field_of_fieldIf Naming.toValue
      (by simp [Block.get?_fields, Block.ownFields, Block.styleField]) (by simp)
      fun n _ => hnaming n
  have htitle : Accept.field (Block.signature b).fields ["title"] (Accept.optional Naming.check)
      none = valid b.title :=
    Accept.field_of_fieldIf Naming.toValue
      (by simp [Block.get?_fields, Block.ownFields, Block.styleField]) (by simp)
      fun n _ => hnaming n
  have hregards : Accept.field (Block.signature b).fields ["showRegards", "show_regards"]
      Accept.boolean false = valid b.showRegards :=
    Block.field_of_own (by simp)
      (by simp [Block.ownFields, Block.styleField]; rfl) rfl
  have hstyles : Block.styleOf (Block.signature b).fields ["style"] = valid b.style :=
    Block.styleOf_of_get hstyle
      (by simp [Block.get?_fields, Block.ownFields, Block.styleField]) (by simp)
  exact SignatureBlock.check_eq_valid.mpr ⟨hname, htitle, hregards, hstyles⟩

namespace Block

theorem check?_of_fields {α : Type} {make : α → Block} {accept : Fields → Checked α} {a : α}
    (hreader : reader? (make a).typeName = some fun fields => make <$> accept fields)
    (haccept : accept (make a).fields = valid a) :
    check? (make a).toValue = some (valid (make a)) := by
  have htype : Fields.getD (make a).fields "type" = .text (make a).typeName := by
    rw [Fields.getD, show (make a).fields.lookup "type" = some _ from (make a).get?_type]
    rfl
  rw [toValue_eq, check?]
  simp only [htype, hreader, Option.map_some, haccept]
  rfl

/-- **A block is read as it is written**, if its level is in range and its styles are plain. -/
theorem check?_toValue {b : Block} (hlevel : b.Leveled) (hplain : b.Plain) :
    check? b.toValue = some (valid b) := by
  cases b with
  | heading b => exact check?_of_fields rfl (HeadingBlock.check_fields hlevel hplain)
  | paragraph b => exact check?_of_fields rfl (ParagraphBlock.check_fields hplain)
  | line b => exact check?_of_fields rfl (LineBlock.check_fields hplain)
  | list b => exact check?_of_fields rfl (ListBlock.check_fields hplain)
  | table b => exact check?_of_fields rfl (TableBlock.check_fields hplain)
  | keyValueTable b => exact check?_of_fields rfl (RowsBlock.check_fields (.inl rfl) hplain)
  | keyValueList b => exact check?_of_fields rfl (RowsBlock.check_fields (.inr rfl) hplain)
  | divider style =>
      have hstyle : styleOf (divider style).fields ["style"] = valid style :=
        styleOf_of_get hplain (by simp [get?_fields, ownFields, styleField]) (by simp)
      exact check?_of_fields rfl hstyle
  | spacer size =>
      have hsize : Accept.field (spacer size).fields ["size"] Accept.number (.int 12)
          = valid size := field_of_own (by simp) rfl (by cases size <;> rfl)
      exact check?_of_fields rfl hsize
  | signature b => exact check?_of_fields rfl (SignatureBlock.check_fields hplain)

end Block

/-! ### Templates -/

/-- A template as reading leaves it: its levels are in range and its styles are plain. -/
structure Template.Plain (t : Template) : Prop where
  levels : ∀ b ∈ t.blocks, b.Leveled
  styles : ∀ b ∈ t.blocks, b.Plain
  sheet : ∀ named ∈ t.styles, Style.Plain named.2

theorem Block.checkEach_toValue {blocks : List Block}
    (h : ∀ b ∈ blocks, check? b.toValue = some (valid b)) (position : Nat) :
    checkEach position (blocks.map toValue) = ⟨blocks.map valid, []⟩ := by
  induction blocks generalizing position with
  | nil => rfl
  | cons b blocks ih =>
      have hrest := ih (fun b hb => h b (List.mem_cons_of_mem _ hb)) (position + 1)
      rw [List.map_cons, checkEach, h b List.mem_cons_self]
      show Noted.andThen (checkEach (position + 1) (blocks.map toValue)) _ = _
      rw [hrest]
      rfl

/-- **A plain template is read as it is written**, and nothing is noted. -/
theorem Template.Plain.check_toValue {t : Template} (h : t.Plain) :
    Template.check t.toValue = ⟨valid t, []⟩ := by
  have hchecked : ∀ b ∈ t.blocks, Block.check? b.toValue = some (valid b) :=
    fun b hb => Block.check?_toValue (h.levels b hb) (h.styles b hb)
  let fields : Fields := fieldIf "title" Value.text t.title
    ++ [("styles", t.styles.toValue), ("blocks", .list (t.blocks.map Block.toValue))]
  have hblocks : Block.checkAll (Fields.getD fields "blocks") = ⟨valid t.blocks, []⟩ := by
    have hget : Fields.getD fields "blocks" = .list (t.blocks.map Block.toValue) := by
      have hlookup : fields.get? "blocks" = some (.list (t.blocks.map Block.toValue)) := by
        simp [fields]
      rw [Fields.getD, show fields.lookup "blocks" = some _ from hlookup]
      rfl
    rw [hget, Block.checkAll, Block.checkEach_toValue hchecked]
    show (⟨Checked.items (t.blocks.map valid), [] ++ []⟩ : Noted (Checked (List Block))) = _
    rw [Checked.items_eq_valid.mpr rfl]
    rfl
  have htitle : Accept.field fields ["title"] (Accept.optional Accept.text) none = valid t.title :=
    Accept.field_of_fieldIf Value.text (by simp [fields]) (by simp) fun _ _ => rfl
  have hsheet : StyleSheet.check t.styles.toValue = valid t.styles := by
    have hobject : Accept.object Style.check t.styles.toValue = valid t.styles :=
      Accept.object_of_written fun named hnamed => Style.check_toValue (h.sheet named hnamed)
    rw [StyleSheet.check]
    split
    · exact hobject
    · rename_i hempty
      have hnil : t.styles = [] := by simpa [StyleSheet.toValue, Value.isGiven] using hempty
      rw [hnil]
  have hstyles : Accept.field fields ["styles"] StyleSheet.check [] = valid t.styles :=
    Accept.field_of_get (by simp [fields]) hsheet
  have htoValue : t.toValue = .object fields := rfl
  rw [htoValue, Template.check_object, hblocks, htitle, hstyles]
  rfl

/-! ### What is read is plain -/

theorem Block.styleOf_plain {fields : Fields} {names : List String} {style : Option Style}
    (h : Block.styleOf fields names = valid style) : Style.PlainIf style := by
  rintro s rfl
  rcases Accept.field_eq_valid h with hnone | ⟨value, hvalue⟩
  · exact absurd hnone (by simp)
  · have hstyle : Style.check value = valid s := by
      unfold Accept.optional at hvalue
      split at hvalue
      · exact absurd hvalue (by simp)
      · obtain ⟨_, hcheck, hsome⟩ := Checked.fmap_eq_valid.mp hvalue
        exact Option.some.inj hsome ▸ hcheck
    exact Style.check_plain hstyle


theorem Block.reader_plain {type : String} {read : Fields → Checked Block} {fields : Fields}
    {b : Block} (hread : Block.reader? type = some read) (h : read fields = valid b) :
    b.Plain := by
  unfold Block.reader? at hread
  split at hread
  all_goals cases hread
  · exact Checked.fmap_all h fun _ h => Block.styleOf_plain (HeadingBlock.check_eq_valid.mp h).2.2
  · exact Checked.fmap_all h fun _ h =>
      Block.styleOf_plain (ParagraphBlock.check_eq_valid.mp h).2.2
  · exact Checked.fmap_all h fun _ h => Block.styleOf_plain (LineBlock.check_eq_valid.mp h).2
  · exact Checked.fmap_all h fun _ h =>
      Block.styleOf_plain (ListBlock.check_eq_valid.mp h).2.2.2.2.2
  · refine Checked.fmap_all h fun _ h => ?_
    obtain ⟨-, -, -, -, hstyle, hheader, hcell⟩ := TableBlock.check_eq_valid.mp h
    exact ⟨Block.styleOf_plain hstyle, Block.styleOf_plain hheader, Block.styleOf_plain hcell⟩
  · exact Checked.fmap_all h fun _ h => Block.styleOf_plain (RowsBlock.check_eq_valid.mp h).2
  · exact Checked.fmap_all h fun _ h => Block.styleOf_plain (RowsBlock.check_eq_valid.mp h).2
  · exact Checked.fmap_all h fun _ => Block.styleOf_plain
  · exact Checked.fmap_all h fun _ _ => trivial
  · exact Checked.fmap_all h fun _ h =>
      Block.styleOf_plain (SignatureBlock.check_eq_valid.mp h).2.2.2

theorem StyleSheet.check_plain {value : Value} {sheet : StyleSheet}
    (h : StyleSheet.check value = valid sheet) : ∀ named ∈ sheet, Style.Plain named.2 := by
  unfold StyleSheet.check at h
  split at h
  · exact Accept.object_all (fun _ _ => Style.check_plain) h
  · obtain rfl := Checked.valid.inj h
    simp

/-- **An accepted template is plain.** -/
theorem Template.check_plain {value : Value} {t : Template}
    (h : (Template.check value).value = valid t) : t.Plain := by
  have hlevels := Template.check_leveled h
  obtain ⟨fields, rfl⟩ := Template.object_of_check h
  obtain ⟨-, hstyles, hblocks⟩ := Template.check_eq_valid.mp h
  refine ⟨hlevels, fun b hb => ?_, ?_⟩
  · obtain ⟨value, hvalue⟩ := Block.checkAll_found hblocks b hb
    obtain ⟨type, read, fields, hread, hvalid⟩ := Block.check?_eq_valid hvalue
    exact Block.reader_plain hread hvalid
  · rcases Accept.field_eq_valid hstyles with hnone | ⟨value, hvalue⟩
    · simp [hnone]
    · exact StyleSheet.check_plain hvalue

end Paperwork
