/-
What is accepted of a template after its texts have been opened.

The checks of a template are put together from checks of texts, numbers and truth values.
Each keeps what it accepts of rehydrated values where what it accepted is settled, and so
do the checks that are put together from them, down to the blocks.
-/
import Paperwork.Proofs.Checking.Opened
import Paperwork.Proofs.Template.Written

namespace Paperwork

open Checked (valid)

/-! ### Fields of blocks -/

theorem not_isContainerText_empty : ¬IsContainerText "" := by
  rintro ⟨hlooks, -⟩
  exact absurd hlooks (by decide)

section Fields

variable {levels : Nat} {fields : Fields} {names : List String}

theorem Accept.textField_opened (hlevels : 1 ≤ levels) {s : String}
    (h : Accept.field fields names Accept.text "" = valid s) :
    Accept.field (fields.rehydrateWithin levels) names Accept.text "" = valid s
      ↔ (Value.text s).SettledWithin levels := by
  refine Accept.text_keeps.field hlevels ?_ h
  obtain ⟨levels, rfl⟩ := Nat.exists_eq_add_of_le' hlevels
  rw [Value.settledWithin_text]
  exact not_isContainerText_empty

theorem Block.textOf_opened (hlevels : 1 ≤ levels) {o : Option String}
    (h : Block.textOf fields names = valid o) :
    Block.textOf (fields.rehydrateWithin levels) names = valid o
      ↔ ((o.map Value.text).getD .null).SettledWithin levels :=
  Accept.text_keeps.optional.field hlevels Value.settledWithin_null h

theorem Accept.Keeps.listField {α : Type} {accept : Value → Checked α} {written : α → Value}
    {depth : Nat} (hkeeps : Accept.Keeps depth accept written) (hlevels : depth + 1 ≤ levels)
    {as : List α} (h : Accept.field fields names (Accept.list accept) [] = valid as) :
    Accept.field (fields.rehydrateWithin levels) names (Accept.list accept) [] = valid as
      ↔ (Value.list (as.map written)).SettledWithin levels := by
  refine hkeeps.list.field hlevels ?_ h
  obtain ⟨levels, rfl⟩ := Nat.exists_eq_add_of_le' (Nat.le_of_add_left_le hlevels)
  exact Value.settledWithin_list.mpr (by simp)

theorem StyleValue.check_keeps : Accept.Keeps 1 StyleValue.check StyleValue.toValue := by
  rintro (_ | levels) hlevels value v h
  · omega
  have hlist : ∀ items, StyleValue.check (.list items) ≠ valid v := fun items h => by cases h
  have hobject : ∀ fields, StyleValue.check (.object fields) ≠ valid v := fun items h => by cases h
  cases value with
  | text s =>
      obtain rfl := Checked.valid.inj h
      show _ ↔ (Value.text s).SettledWithin (levels + 1)
      rw [Value.settledWithin_text]
      by_cases hcontainer : IsContainerText s
      · rcases Value.rehydrateWithin_text_of_container levels hcontainer with
          ⟨items, hopened⟩ | ⟨fields, hopened⟩
        · simp [hopened, hlist, hcontainer]
        · simp [hopened, hobject, hcontainer]
      · rw [Value.rehydrateWithin_text_of_not hcontainer]
        exact iff_of_true rfl hcontainer
  | list items => exact absurd h (hlist items)
  | object fields => exact absurd h (hobject fields)
  | _ =>
      obtain rfl := Checked.valid.inj h
      refine iff_of_true rfl (Value.settledWithin_of_kind ?_)
      simp [toValue, Value.ofNumber, Value.kind]

theorem Style.check_keeps : Accept.Keeps 2 Style.check Style.toValue :=
  StyleValue.check_keeps.object

theorem Block.styleOf_opened (hlevels : 2 ≤ levels) {o : Option Style}
    (h : Block.styleOf fields names = valid o) :
    Block.styleOf (fields.rehydrateWithin levels) names = valid o
      ↔ ((o.map Style.toValue).getD .null).SettledWithin levels :=
  Style.check_keeps.optional.field hlevels Value.settledWithin_null h

end Fields

/-- What does not count as given has nothing to be opened. -/
theorem Value.rehydrateWithin_of_not_given (levels : Nat) {value : Value}
    (h : value.isGiven = false) : value.rehydrateWithin (levels + 1) = value := by
  cases value with
  | text s =>
      obtain rfl : s = "" := by simpa [isGiven] using h
      exact rehydrateWithin_text_of_not not_isContainerText_empty
  | list items =>
      obtain rfl : items = [] := by simpa [isGiven] using h
      rfl
  | object fields =>
      obtain rfl : fields = [] := by simpa [isGiven] using h
      rfl
  | _ => rfl

/-- In place of a style sheet anything empty may be given, and it is as empty afterwards. -/
theorem StyleSheet.check_keeps : Accept.Keeps 3 StyleSheet.check StyleSheet.toValue := by
  rintro (_ | levels) hlevels value sheet h
  · omega
  unfold StyleSheet.check at h
  split at h
  · rename_i hgiven
    have hkept := Style.check_keeps.object (levels + 1) hlevels value sheet h
    cases value with
    | object fields =>
        rw [StyleSheet.check, if_pos]
        · exact hkept
        · rw [Fields.rehydrateWithin_object]
          simpa [Value.isGiven, Fields.rehydrateWithin] using hgiven
    | _ => exact absurd h (by simp [Accept.object, Checked.fault])
  · rename_i hgiven
    have hsame := Value.rehydrateWithin_of_not_given levels (eq_false_of_ne_true hgiven)
    obtain rfl := Checked.valid.inj h
    rw [hsame, StyleSheet.check, if_neg hgiven]
    exact iff_of_true rfl (Value.settledWithin_object.mpr (by simp))

/-! ### References and parts -/

theorem Binding.check_keeps :
    Accept.Keeps 2 Binding.check fun b => .object (fieldIf "path" Value.text b.path) := by
  have hfields : Accept.KeepsFields 1
      (fun fields => Binding.mk
        <$> Accept.field fields ["path"] (Accept.optional Accept.text) none)
      fun b => fieldIf "path" Value.text b.path := by
    intro levels hlevels fields b h
    obtain ⟨path, hpath, rfl⟩ := Checked.fmap_eq_valid.mp h
    rw [Fields.settledWithin_fieldIf, ← Block.textOf_opened hlevels hpath, Checked.fmap_eq_valid]
    simp [Block.textOf]
  exact hfields.record

theorem Reference.ofFields_keeps :
    Accept.KeepsFields 2 Reference.ofFields Reference.toFields := by
  intro levels hlevels fields r h
  obtain ⟨hbinding, hpath⟩ := Reference.ofFields_eq_valid.mp h
  have hbindings := Binding.check_keeps.optional.field hlevels Value.settledWithin_null hbinding
  have hpaths := Block.textOf_opened (Nat.le_of_succ_le hlevels) hpath
  rw [Reference.ofFields_eq_valid, Reference.toFields, Fields.settledWithin_append,
    Fields.settledWithin_fieldIf, Fields.settledWithin_fieldIf, ← hbindings, ← hpaths]
  rfl

theorem Reference.check_keeps :
    Accept.Keeps 3 Reference.check fun r => .object r.toFields := Reference.ofFields_keeps.record

theorem Part.check_keeps : Accept.Keeps 3 Part.check Part.toValue := by
  suffices hfields : Accept.KeepsFields 2 (fun fields => Part.check (.object fields))
      fun p => p.reference.toFields ++ fieldIf "text" Value.text p.text from hfields.record
  intro levels hlevels fields p h
  obtain ⟨hreference, htext⟩ := Part.check_eq_valid.mp h
  have hreferences := Reference.ofFields_keeps levels hlevels fields _ hreference
  have htexts := Block.textOf_opened (Nat.le_of_succ_le hlevels) htext
  rw [Fields.settledWithin_append, Fields.settledWithin_fieldIf, ← hreferences, ← htexts]
  exact Part.check_eq_valid

theorem Row.check_keeps : Accept.Keeps 3 Row.check Row.toValue := by
  suffices hfields : Accept.KeepsFields 2 (fun fields => Row.check (.object fields))
      fun r => r.reference.toFields ++ [("label", .text r.label)] from hfields.record
  intro levels hlevels fields r h
  obtain ⟨hreference, hlabel⟩ := Row.check_eq_valid.mp h
  have hreferences := Reference.ofFields_keeps levels hlevels fields _ hreference
  have hlabels := Accept.textField_opened (Nat.le_of_succ_le hlevels) hlabel
  simp only [Fields.settledWithin_append, Fields.settledWithin_cons, Fields.settledWithin_nil,
    and_true, ← hreferences, ← hlabels]
  exact Row.check_eq_valid

theorem Column.check_keeps : Accept.Keeps 2 Column.check Column.toValue := by
  suffices hfields : Accept.KeepsFields 1 (fun fields => Column.check (.object fields))
      fun c => [("header", .text c.header), ("path", .text c.path)] from hfields.record
  intro levels hlevels fields c h
  obtain ⟨hheader, hpath⟩ := Column.check_eq_valid.mp h
  have hheaders := Accept.textField_opened hlevels hheader
  have hpaths := Accept.textField_opened hlevels hpath
  simp only [Fields.settledWithin_cons, Fields.settledWithin_nil, and_true, ← hheaders, ← hpaths]
  exact Column.check_eq_valid

/-- A check of a text or else of an object keeps what it accepts: a text that is opened is
accepted as a text no more, whatever else it may be accepted as. -/
theorem Accept.textOr_keeps {α β : Type} {accept : Value → Checked β} {written : β → Value}
    {w : α → Value} {f : String → α} {g : β → α} {depth : Nat} {name : String}
    (haccept : Accept.Keeps depth accept written) (hdepth : 1 ≤ depth)
    (hobject : ∀ value b, accept value = valid b → ∃ fields, value = .object fields)
    (hf : ∀ s, w (f s) = .text s) (hg : ∀ b, w (g b) = written b) (hne : ∀ s b, f s ≠ g b)
    (hinjective : Function.Injective g) :
    Accept.Keeps depth (fun value => ((Accept.text value).map f |>.under (.field "str")).orElse
      ((accept value).map g |>.under (.field name))) w := by
  -- what is no text is accepted in the second way, if at all
  have hother : ∀ {value : Value} {a : α}, (∀ s, value ≠ .text s) →
      (((Accept.text value).map f |>.under (.field "str")).orElse
          ((accept value).map g |>.under (.field name)) = valid a
        ↔ ∃ b, accept value = valid b ∧ g b = a) := by
    intro value a hvalue
    have hfaulty : ∃ faults, ((Accept.text value).map f).under (.field "str")
        = .faulty faults := by
      cases value with
      | text s => exact absurd rfl (hvalue s)
      | _ => exact ⟨_, rfl⟩
    obtain ⟨faults, hfaults⟩ := hfaulty
    rw [hfaults, Checked.orElse_eq_valid, Checked.under_eq_valid, Checked.map_eq_valid]
    simp
  intro levels hlevels value a h
  obtain ⟨levels, rfl⟩ := Nat.exists_eq_add_of_le' (hdepth.trans hlevels)
  by_cases htext : ∃ s, value = .text s
  · obtain ⟨s, rfl⟩ := htext
    obtain rfl := Checked.valid.inj h
    rw [hf, Value.settledWithin_text]
    by_cases hcontainer : IsContainerText s
    · have hnone : ∀ b, g b ≠ f s := fun b heq => hne s b heq.symm
      rcases Value.rehydrateWithin_text_of_container levels hcontainer with
        ⟨items, hopened⟩ | ⟨fields, hopened⟩
      · rw [hopened, hother (by simp)]
        simp [hnone, hcontainer]
      · rw [hopened, hother (by simp)]
        simp [hnone, hcontainer]
    · rw [Value.rehydrateWithin_text_of_not hcontainer]
      exact iff_of_true rfl hcontainer
  · obtain ⟨b, hb, rfl⟩ := (hother (not_exists.mp htext)).mp h
    obtain ⟨fields, rfl⟩ := hobject value b hb
    rw [hg, ← haccept _ hlevels _ _ hb, Fields.rehydrateWithin_object, hother (by simp)]
    simp [hinjective.eq_iff]

theorem ListEntry.check_keeps : Accept.Keeps 3 ListEntry.check ListEntry.toValue := by
  refine Accept.textOr_keeps Part.check_keeps (by omega) ?_ (fun _ => rfl) (fun _ => rfl)
    (fun _ _ h => by cases h) fun _ _ h => ListEntry.part.inj h
  intro value p h
  cases value with
  | object fields => exact ⟨fields, rfl⟩
  | _ => exact absurd h (by simp [Part.check, Accept.record, Checked.fault])

theorem Naming.check_keeps : Accept.Keeps 3 Naming.check Naming.toValue := by
  refine Accept.textOr_keeps Reference.check_keeps (by omega) ?_ (fun _ => rfl) (fun _ => rfl)
    (fun _ _ h => by cases h) fun _ _ h => Naming.reference.inj h
  intro value r h
  cases value with
  | object fields => exact ⟨fields, rfl⟩
  | _ => exact absurd h (by simp [Reference.check, Accept.record, Checked.fault])

/-! ### Blocks -/

/-- A text for a level that is opened is no level before and none afterwards. -/
theorem HeadingBlock.checkLevel_keeps : Accept.Keeps 1 HeadingBlock.checkLevel Value.int := by
  rintro (_ | levels) hlevels value level h
  · omega
  refine iff_of_true ?_ (Value.settledWithin_of_kind (by simp [Value.kind]))
  have hcontainer : ∀ items fields, HeadingBlock.checkLevel (.list items) = valid 2 ∧
      HeadingBlock.checkLevel (.object fields) = valid 2 := by
    intro items fields
    cases items <;> cases fields <;> exact ⟨rfl, rfl⟩
  cases value with
  | text s =>
      by_cases hs : IsContainerText s
      · have hnone : Decimal.toInt? s = none := by
          obtain ⟨c, hc, hmem⟩ := openingSigns_mem_of_looksLikeContainer hs.1
          by_contra hsome
          obtain ⟨n, hn⟩ := Option.ne_none_iff_exists'.mp hsome
          exact Decimal.toInt?_not_mem (Decimal.foreign_of_opening hc) hn hmem
        have hgiven : (Value.text s).isGiven = true := by
          by_contra hempty
          obtain rfl : s = "" := by simpa [Value.isGiven] using hempty
          exact not_isContainerText_empty hs
        have hsecond : level = 2 := by
          rw [checkLevel, requestedLevel, hgiven] at h
          simp only [hnone] at h
          exact (Checked.valid.inj h).symm
        rcases Value.rehydrateWithin_text_of_container levels hs with
          ⟨items, hopened⟩ | ⟨fields, hopened⟩
        · rw [hopened, (hcontainer items []).1, hsecond]
        · rw [hopened, (hcontainer [] fields).2, hsecond]
      · rwa [Value.rehydrateWithin_text_of_not hs]
  | list items =>
      rw [(hcontainer items []).1] at h
      rw [Value.rehydrateWithin_list, (hcontainer _ []).1, h]
  | object fields =>
      rw [(hcontainer [] fields).2] at h
      rw [Fields.rehydrateWithin_object, (hcontainer [] _).2, h]
  | _ => exact h

/-- The types of blocks that are known. -/
def Block.typeNames : List String :=
  ["heading", "paragraph", "line", "list", "table", "keyValueTable", "keyValueList", "divider",
    "spacer", "signature"]

theorem Block.not_container_of_typeNames {name : String} (h : name ∈ Block.typeNames) :
    ¬IsContainerText name := by
  rintro ⟨hlooks, -⟩
  obtain ⟨c, hc, hmem⟩ := openingSigns_mem_of_looksLikeContainer hlooks
  have hnone : ∀ c ∈ openingSigns, ∀ name ∈ Block.typeNames, c ∉ name.toList :=
    forall_mem_opening.mpr ⟨by decide, by decide⟩
  exact hnone c hc name h hmem

theorem Block.typeName_mem (b : Block) : b.typeName ∈ Block.typeNames := by
  cases b <;> simp [typeName, typeNames]

theorem Block.mem_typeNames {type : String} {read : Fields → Checked Block}
    (h : Block.reader? type = some read) : type ∈ Block.typeNames := by
  unfold reader? at h
  split at h
  case h_11 => cases h
  all_goals simp [typeNames]

/-- The type of a block is never opened. -/
theorem Block.settledWithin_fields {levels : Nat} (hlevels : 1 ≤ levels) (b : Block) :
    b.fields.SettledWithin levels
      ↔ Fields.SettledWithin levels ((b.reference?.map Reference.toFields).getD []) ∧
        b.ownFields.SettledWithin levels := by
  obtain ⟨levels, rfl⟩ := Nat.exists_eq_add_of_le' hlevels
  have htype : (Value.text b.typeName).SettledWithin (levels + 1) := Value.settledWithin_text.mpr
    (Block.not_container_of_typeNames b.typeName_mem)
  simp [Block.fields, htype]

section Blocks

theorem HeadingBlock.check_keeps :
    Accept.KeepsFields 4 HeadingBlock.check fun b => (Block.heading b).fields := by
  intro levels hlevels fields b h
  have hone : 1 ≤ levels := by omega
  have htwo : 2 ≤ levels := by omega
  have hmissing : (Value.int 2).SettledWithin levels :=
    Value.settledWithin_of_kind (by simp [Value.kind])
  obtain ⟨htext, hlevel, hstyle⟩ := HeadingBlock.check_eq_valid.mp h
  have hnumbers := HeadingBlock.checkLevel_keeps.field hone hmissing hlevel
  rw [HeadingBlock.check_eq_valid, Accept.textField_opened hone htext, hnumbers,
    Block.styleOf_opened htwo hstyle, Block.settledWithin_fields hone]
  simp [Block.reference?, Block.ownFields, Block.styleField]

theorem ParagraphBlock.check_keeps :
    Accept.KeepsFields 4 ParagraphBlock.check fun b => (Block.paragraph b).fields := by
  intro levels hlevels fields b h
  have hone : 1 ≤ levels := by omega
  have htwo : 2 ≤ levels := by omega
  obtain ⟨hreference, htext, hstyle⟩ := ParagraphBlock.check_eq_valid.mp h
  rw [ParagraphBlock.check_eq_valid, Reference.ofFields_keeps levels htwo fields _ hreference,
    Block.textOf_opened hone htext, Block.styleOf_opened htwo hstyle,
    Block.settledWithin_fields hone]
  simp [Block.reference?, Block.ownFields, Block.styleField]

theorem LineBlock.check_keeps :
    Accept.KeepsFields 4 LineBlock.check fun b => (Block.line b).fields := by
  intro levels hlevels fields b h
  have hone : 1 ≤ levels := by omega
  have htwo : 2 ≤ levels := by omega
  obtain ⟨hparts, hstyle⟩ := LineBlock.check_eq_valid.mp h
  rw [LineBlock.check_eq_valid, Part.check_keeps.listField hlevels hparts,
    Block.styleOf_opened htwo hstyle, Block.settledWithin_fields hone]
  simp [Block.reference?, Block.ownFields, Block.styleField]

theorem ListBlock.check_keeps :
    Accept.KeepsFields 4 ListBlock.check fun b => (Block.list b).fields := by
  intro levels hlevels fields b h
  have hone : 1 ≤ levels := by omega
  have htwo : 2 ≤ levels := by omega
  have hmissing : ∀ b, (Value.bool b).SettledWithin levels :=
    fun b => Value.settledWithin_of_kind (by simp [Value.kind])
  obtain ⟨hreference, hentries, hordered, hdata, hsource, hstyle⟩ := ListBlock.check_eq_valid.mp h
  have hordereds := Accept.boolean_keeps.field hone (hmissing false) hordered
  rw [ListBlock.check_eq_valid, Reference.ofFields_keeps levels htwo fields _ hreference,
    ListEntry.check_keeps.listField hlevels hentries, hordereds, Block.textOf_opened hone hdata,
    Block.textOf_opened hone hsource, Block.styleOf_opened htwo hstyle,
    Block.settledWithin_fields hone]
  simp [Block.reference?, Block.ownFields, Block.styleField]

theorem TableBlock.check_keeps :
    Accept.KeepsFields 4 TableBlock.check fun b => (Block.table b).fields := by
  intro levels hlevels fields b h
  have hone : 1 ≤ levels := by omega
  have htwo : 2 ≤ levels := by omega
  have hthree : 3 ≤ levels := by omega
  obtain ⟨hreference, hcolumns, hdata, hsource, hstyle, hheader, hcell⟩ :=
    TableBlock.check_eq_valid.mp h
  rw [TableBlock.check_eq_valid, Reference.ofFields_keeps levels htwo fields _ hreference,
    Column.check_keeps.listField hthree hcolumns, Block.textOf_opened hone hdata,
    Block.textOf_opened hone hsource, Block.styleOf_opened htwo hstyle,
    Block.styleOf_opened htwo hheader, Block.styleOf_opened htwo hcell,
    Block.settledWithin_fields hone]
  simp [Block.reference?, Block.ownFields, Block.styleField]

/-- Labelled rows are kept alike in both kinds of blocks that have them. -/
theorem RowsBlock.check_keeps {make : RowsBlock → Block}
    (hmake : make = .keyValueTable ∨ make = .keyValueList) :
    Accept.KeepsFields 4 RowsBlock.check fun b => (make b).fields := by
  intro levels hlevels fields b h
  have hone : 1 ≤ levels := by omega
  have htwo : 2 ≤ levels := by omega
  obtain ⟨hrows, hstyle⟩ := RowsBlock.check_eq_valid.mp h
  rw [RowsBlock.check_eq_valid, Row.check_keeps.listField hlevels hrows,
    Block.styleOf_opened htwo hstyle, Block.settledWithin_fields hone]
  rcases hmake with rfl | rfl <;> simp [Block.reference?, Block.ownFields, Block.styleField]

theorem SignatureBlock.check_keeps :
    Accept.KeepsFields 4 SignatureBlock.check fun b => (Block.signature b).fields := by
  intro levels hlevels fields b h
  have hone : 1 ≤ levels := by omega
  have htwo : 2 ≤ levels := by omega
  have hthree : 3 ≤ levels := by omega
  have hmissing : ∀ b, (Value.bool b).SettledWithin levels :=
    fun b => Value.settledWithin_of_kind (by simp [Value.kind])
  obtain ⟨hname, htitle, hregards, hstyle⟩ := SignatureBlock.check_eq_valid.mp h
  have hnames := Naming.check_keeps.optional.field hthree Value.settledWithin_null hname
  have htitles := Naming.check_keeps.optional.field hthree Value.settledWithin_null htitle
  have hregardss := Accept.boolean_keeps.field hone (hmissing false) hregards
  rw [SignatureBlock.check_eq_valid, hnames, htitles, hregardss,
    Block.styleOf_opened htwo hstyle, Block.settledWithin_fields hone]
  simp [Block.reference?, Block.ownFields, Block.styleField]

/-- A reader keeps blocks if it keeps what they are made of. -/
theorem Block.keeps_made {α : Type} {accept : Fields → Checked α} {make : α → Block}
    (h : Accept.KeepsFields 4 accept fun a => (make a).fields)
    (hinjective : Function.Injective make) :
    Accept.KeepsFields 4 (fun fields => make <$> accept fields) Block.fields := by
  intro levels hlevels fields b hvalid
  obtain ⟨a, ha, rfl⟩ := Checked.fmap_eq_valid.mp hvalid
  rw [Checked.fmap_eq_valid, ← h levels hlevels fields a ha]
  simp [hinjective.eq_iff]

theorem Block.reader_keeps {type : String} {read : Fields → Checked Block}
    (hread : Block.reader? type = some read) : Accept.KeepsFields 4 read Block.fields := by
  unfold Block.reader? at hread
  split at hread
  all_goals cases hread
  · exact keeps_made HeadingBlock.check_keeps fun _ _ => Block.heading.inj
  · exact keeps_made ParagraphBlock.check_keeps fun _ _ => Block.paragraph.inj
  · exact keeps_made LineBlock.check_keeps fun _ _ => Block.line.inj
  · exact keeps_made ListBlock.check_keeps fun _ _ => Block.list.inj
  · exact keeps_made TableBlock.check_keeps fun _ _ => Block.table.inj
  · exact keeps_made (RowsBlock.check_keeps (.inl rfl)) fun _ _ => Block.keyValueTable.inj
  · exact keeps_made (RowsBlock.check_keeps (.inr rfl)) fun _ _ => Block.keyValueList.inj
  · refine keeps_made ?_ fun _ _ => Block.divider.inj
    intro levels hlevels fields style h
    rw [Block.styleOf_opened (by omega : 2 ≤ levels) h,
      Block.settledWithin_fields (by omega : 1 ≤ levels)]
    simp [Block.reference?, Block.ownFields, Block.styleField]
  · refine keeps_made ?_ fun _ _ => Block.spacer.inj
    intro levels hlevels fields size h
    have hmissing : (Value.ofNumber (.int 12)).SettledWithin levels :=
      Value.settledWithin_of_kind (by simp [Value.ofNumber, Value.kind])
    rw [Accept.number_keeps.field (by omega : 1 ≤ levels) hmissing h,
      Block.settledWithin_fields (by omega : 1 ≤ levels)]
    simp [Block.reference?, Block.ownFields]
  · exact keeps_made SignatureBlock.check_keeps fun _ _ => Block.signature.inj

end Blocks

end Paperwork
