/-
Templates that were written by hand and stored in a record.

The template in a record is rehydrated before it is read, and so are all of its literal texts.
It is read as the template it is on its own exactly if none of these texts is the text of
a container, and no text among its blocks, which is passed over otherwise, is the text of a
block.
-/
import Paperwork.Form.Record
import Paperwork.Proofs.Template.Opened

namespace Paperwork

open Checked (valid)

/-! ### Values that are blocks -/

theorem Block.reader?_of_mem {type : String} (h : type ∈ Block.typeNames) :
    ∃ read, Block.reader? type = some read := by
  simp only [typeNames, List.mem_cons, List.not_mem_nil, or_false] at h
  rcases h with rfl | rfl | rfl | rfl | rfl | rfl | rfl | rfl | rfl | rfl <;> exact ⟨_, rfl⟩

theorem Block.check?_of_type {fields : Fields} {type : String} {read : Fields → Checked Block}
    (htype : fields.get? "type" = some (.text type)) (hread : Block.reader? type = some read) :
    Block.check? (.object fields) = some ((read fields).under (.field type)) := by
  have hget : Fields.getD fields "type" = .text type :=
    congrArg (Option.getD · Value.null) htype
  unfold check?
  simp only [hget, hread]
  rfl

/-- A value is read as a block if it is an object of a known type. -/
theorem Block.check?_isSome {value : Value} :
    (Block.check? value).isSome ↔ ∃ (fields : Fields) (type : String), value = .object fields ∧
      fields.get? "type" = some (.text type) ∧ type ∈ Block.typeNames := by
  constructor
  · intro h
    unfold check? at h
    split at h
    · rename_i fields
      split at h
      · rename_i type htype
        rw [Option.isSome_map] at h
        obtain ⟨read, hread⟩ := Option.isSome_iff_exists.mp h
        refine ⟨fields, type, rfl, ?_, mem_typeNames hread⟩
        have hlookup : (fields.lookup "type").getD .null = .text type := htype
        cases hget : fields.lookup "type" with
        | none => simp [hget] at hlookup
        | some value =>
            rw [hget] at hlookup
            exact hget.trans (congrArg some hlookup)
      · cases h
    · cases h
  · rintro ⟨fields, type, rfl, htype, hknown⟩
    obtain ⟨read, hread⟩ := reader?_of_mem hknown
    rw [check?_of_type htype hread]
    rfl

theorem Value.rehydrateWithin_eq_text {levels : Nat} {value : Value} {s : String} :
    value.rehydrateWithin (levels + 1) = .text s ↔ value = .text s ∧ ¬IsContainerText s := by
  cases value with
  | text t =>
      by_cases hcontainer : IsContainerText t
      · rcases rehydrateWithin_text_of_container levels hcontainer with ⟨_, h⟩ | ⟨_, h⟩
        all_goals
          rw [h]
          simp only [reduceCtorEq, text.injEq, false_iff, not_and, not_not]
          rintro rfl
          exact hcontainer
      · rw [rehydrateWithin_text_of_not hcontainer]
        simp only [text.injEq, iff_self_and]
        rintro rfl
        exact hcontainer
  | _ => simp [rehydrateWithin, opened]

section Opened

variable {levels : Nat}

/-- Rehydration leaves the type of an object as it is where it is known. -/
theorem Fields.type_opened {fields : Fields} {type : String} (h : type ∈ Block.typeNames) :
    (fields.rehydrateWithin (levels + 1)).get? "type" = some (.text type)
      ↔ fields.get? "type" = some (.text type) := by
  rw [get?_rehydrateWithin]
  cases fields.get? "type" with
  | none => simp
  | some value =>
      have hopen := Block.not_container_of_typeNames h
      simp [Value.rehydrateWithin_eq_text, hopen]

theorem Block.check?_object_opened (fields : Fields) :
    (Block.check? (.object (fields.rehydrateWithin (levels + 1)))).isSome
      = (Block.check? (.object fields)).isSome := by
  rw [Bool.eq_iff_iff, check?_isSome, check?_isSome]
  constructor
  · rintro ⟨_, type, hobject, htype, hknown⟩
    rw [← Value.object.inj hobject] at htype
    exact ⟨fields, type, rfl, (Fields.type_opened hknown).mp htype, hknown⟩
  · rintro ⟨_, type, hobject, htype, hknown⟩
    rw [← Value.object.inj hobject] at htype
    exact ⟨_, type, rfl, (Fields.type_opened hknown).mpr htype, hknown⟩

/-- What is read as a block is read as a block after rehydration, be it faulty then. -/
theorem Block.exists_check?_opened (levels : Nat) {value : Value} {outcome : Checked Block}
    (h : Block.check? value = some outcome) :
    ∃ again, Block.check? (value.rehydrateWithin (levels + 2)) = some again := by
  obtain ⟨fields, -, rfl, -⟩ := check?_isSome.mp (Option.isSome_of_mem h)
  rw [← Option.isSome_iff_exists, Fields.rehydrateWithin_object, check?_object_opened, h]
  rfl

/-- **A block is read of the rehydrated value as it was** if what it is written as is settled. -/
theorem Block.check?_opened (hlevels : 4 ≤ levels) {value : Value} {b : Block}
    (h : Block.check? value = some (valid b)) :
    Block.check? (value.rehydrateWithin (levels + 1)) = some (valid b)
      ↔ b.toValue.SettledWithin (levels + 1) := by
  obtain ⟨fields, type, rfl, htype, hknown⟩ := check?_isSome.mp (Option.isSome_of_mem h)
  obtain ⟨levels, rfl⟩ := Nat.exists_eq_add_of_le' (by omega : 1 ≤ levels)
  obtain ⟨read, hread⟩ := reader?_of_mem hknown
  rw [check?_of_type htype hread] at h
  have hvalid := Checked.under_eq_valid.mp (Option.some.inj h)
  rw [Fields.rehydrateWithin_object, check?_of_type ((Fields.type_opened hknown).mpr htype) hread,
    toValue_eq, Value.settledWithin_object, Option.some.injEq, Checked.under_eq_valid]
  exact reader_keeps hread _ hlevels fields b hvalid

/-- A value that is no block is one when it is rehydrated if it is the text of one. -/
theorem Block.check?_hidden {value : Value} (h : Block.check? value = none) :
    (Block.check? (value.rehydrateWithin (levels + 2))).isSome ↔
      ∃ s container, value = .text s ∧ containerOf? s = some container ∧
        (Block.check? container).isSome := by
  cases value with
  | text s =>
      cases hcontainer : containerOf? s with
      | none =>
          rw [Value.rehydrateWithin_text_of_not (containerOf?_eq_none.mp hcontainer)]
          simp [hcontainer, check?]
      | some container =>
          have hkind := (containerOf?_eq_some.mp hcontainer).2.2
          have hopened : (Value.text s).rehydrateWithin (levels + 2)
              = container.rehydrateWithin (levels + 2) := by
            rw [Value.rehydrateWithin, Value.opened, hcontainer, Value.rehydrateWithin]
            cases container with
            | list items => rfl
            | object fields => rfl
            | _ => simp [Value.kind] at hkind
          rw [hopened]
          cases container with
          | list items => simp [hcontainer, check?, Value.rehydrateWithin_list]
          | object fields =>
              rw [Fields.rehydrateWithin_object, check?_object_opened]
              simp [hcontainer]
          | _ => simp [Value.kind] at hkind
  | object fields =>
      rw [Fields.rehydrateWithin_object, check?_object_opened, h]
      simp
  | _ => simp [Value.rehydrateWithin, Value.opened, check?]

/-! ### Rows of blocks -/

/-- Rehydration makes no block of a row something else than a block. -/
theorem Block.length_le_opened (levels : Nat) (items : List Value) :
    (items.filterMap Block.check?).length
      ≤ ((items.map (Value.rehydrateWithin (levels + 2))).filterMap Block.check?).length := by
  induction items with
  | nil => exact Nat.le_refl 0
  | cons item items ih =>
      rw [List.map_cons]
      cases hitem : Block.check? item with
      | none =>
          rw [List.filterMap_cons_none hitem]
          exact ih.trans ((List.sublist_cons_self _ _).filterMap _).length_le
      | some outcome =>
          obtain ⟨again, hagain⟩ := exists_check?_opened levels hitem
          rw [List.filterMap_cons_some hitem, List.filterMap_cons_some hagain]
          exact Nat.succ_le_succ ih

/-- **A row of values is read as the same blocks after rehydration** exactly if what these are
written as is settled and no value that was passed over is a block now. -/
theorem Block.filterMap_opened (hlevels : 3 ≤ levels) {items : List Value} {blocks : List Block}
    (h : items.filterMap Block.check? = blocks.map valid) :
    (items.map (Value.rehydrateWithin (levels + 2))).filterMap Block.check? = blocks.map valid ↔
      (∀ b ∈ blocks, b.toValue.SettledWithin (levels + 2)) ∧
        ∀ item ∈ items, Block.check? item = none →
          Block.check? (item.rehydrateWithin (levels + 2)) = none := by
  induction items generalizing blocks with
  | nil =>
      obtain rfl := List.map_eq_nil_iff.mp h.symm
      simp
  | cons item items ih =>
      rw [List.map_cons, List.forall_mem_cons]
      cases hitem : Block.check? item with
      | none =>
          rw [List.filterMap_cons_none hitem] at h
          cases hagain : Block.check? (item.rehydrateWithin (levels + 2)) with
          | none =>
              rw [List.filterMap_cons_none hagain, ih h]
              simp
          | some outcome =>
              have hlength := length_le_opened levels items
              rw [h] at hlength
              rw [List.filterMap_cons_some hagain]
              refine iff_of_false (fun heq => ?_) (by simp)
              rw [← heq, List.length_cons] at hlength
              omega
      | some outcome =>
          rw [List.filterMap_cons_some hitem] at h
          cases blocks with
          | nil => cases h
          | cons b blocks =>
              obtain ⟨rfl, hrest⟩ := List.cons.inj h
              have hkept := check?_opened (by omega : 4 ≤ levels + 1) hitem
              obtain ⟨again, hagain⟩ := exists_check?_opened levels hitem
              rw [hagain, Option.some.injEq] at hkept
              rw [List.filterMap_cons_some hagain, List.map_cons, List.cons.injEq, hkept, ih hrest,
                List.forall_mem_cons]
              simp [and_assoc]

/-! ### Templates -/

/-- A text among the values for the blocks is the text of a block. -/
def Fields.HidesBlock (fields : Fields) : Prop :=
  ∃ items s container, fields.getD "blocks" = .list items ∧ .text s ∈ items ∧
    containerOf? s = some container ∧ (Block.check? container).isSome

theorem Block.checkAll_opened (hlevels : 3 ≤ levels) {fields : Fields} {blocks : List Block}
    (h : (Block.checkAll (fields.getD "blocks")).value = valid blocks) :
    (Block.checkAll ((fields.rehydrateWithin (levels + 3)).getD "blocks")).value = valid blocks ↔
      (Value.list (blocks.map Block.toValue)).SettledWithin (levels + 3) ∧ ¬fields.HidesBlock := by
  rw [Fields.getD_rehydrateWithin, Value.settledWithin_list, List.forall_mem_map]
  cases hblocks : fields.getD "blocks" with
  | null =>
      rw [hblocks] at h
      obtain rfl := Checked.valid.inj h
      refine iff_of_true rfl ⟨by simp, ?_⟩
      rintro ⟨items, s, container, hlist, -⟩
      rw [hblocks] at hlist
      cases hlist
  | list items =>
      rw [hblocks] at h
      rw [Value.rehydrateWithin_list, checkAll_list, filterMap_opened hlevels (checkAll_list.mp h)]
      refine and_congr_right fun _ => ?_
      have hhides : fields.HidesBlock ↔ ∃ item ∈ items, Block.check? item = none ∧
          (Block.check? (item.rehydrateWithin (levels + 2))).isSome := by
        constructor
        · rintro ⟨_, s, container, hlist, hmem, hcontainer, hknown⟩
          obtain rfl := Value.list.inj (hblocks.symm.trans hlist)
          refine ⟨.text s, hmem, rfl, ?_⟩
          exact (check?_hidden rfl).mpr ⟨s, container, rfl, hcontainer, hknown⟩
        · rintro ⟨item, hmem, hnone, hsome⟩
          obtain ⟨s, container, rfl, hcontainer, hknown⟩ := (check?_hidden hnone).mp hsome
          exact ⟨items, s, container, hblocks, hmem, hcontainer, hknown⟩
      rw [hhides]
      simp only [not_exists, not_and, Bool.not_eq_true, Option.isSome_eq_false_iff,
        Option.isNone_iff_eq_none]
  | _ =>
      rw [hblocks] at h
      cases h

/-- A template is read of the rehydrated fields as it was exactly if it is written as a settled
value and no block was hidden. -/
theorem Template.check_opened (hlevels : 3 ≤ levels) {fields : Fields} {t : Template}
    (h : (Template.check (.object fields)).value = valid t) :
    (Template.check (.object (fields.rehydrateWithin (levels + 3)))).value = valid t ↔
      t.toValue.SettledWithin (levels + 4) ∧ ¬fields.HidesBlock := by
  obtain ⟨htitle, hstyles, hblocks⟩ := Template.check_eq_valid.mp h
  have htitles := Block.textOf_opened (by omega : 1 ≤ levels + 3) htitle
  have hempty : (StyleSheet.toValue []).SettledWithin (levels + 3) :=
    Value.settledWithin_object.mpr (by simp)
  have hsheets := StyleSheet.check_keeps.field (by omega : 3 ≤ levels + 3) hempty hstyles
  have hall := Block.checkAll_opened hlevels hblocks
  rw [Block.textOf] at htitles
  rw [Template.check_eq_valid, htitles, hsheets, hall]
  have hsettled : t.toValue.SettledWithin (levels + 4) ↔
      Fields.SettledWithin (levels + 3) (fieldIf "title" Value.text t.title
        ++ [("styles", t.styles.toValue), ("blocks", .list (t.blocks.map Block.toValue))]) :=
    Value.settledWithin_object
  rw [hsettled]
  simp [and_assoc]

end Opened

/-! ### Records -/

theorem Record.titled_inj {record : Record} {t again : Template} (htitle : again.title = t.title)
    (h : record.titled again = record.titled t) : again = t := by
  obtain ⟨title, styles, blocks⟩ := t
  obtain ⟨_, againStyles, againBlocks⟩ := again
  obtain rfl := htitle
  have hsame : ∀ u : Template, (record.titled u).styles = u.styles ∧
      (record.titled u).blocks = u.blocks := by
    intro u
    unfold titled
    split <;> exact ⟨rfl, rfl⟩
  have hstyles := (hsame _).1.symm.trans ((congrArg Template.styles h).trans (hsame _).1)
  have hblocks := (hsame _).2.symm.trans ((congrArg Template.blocks h).trans (hsame _).2)
  simp only at hstyles hblocks
  rw [hstyles, hblocks]

/-- **A stored template is the template that it is on its own**, with a title, exactly if none of
its literal texts is the text of a container and no text among its blocks is the text of a
block. -/
theorem Record.resolve_authored_iff {record : Record} {fields : Fields} {t : Template}
    (hauthored : record.metadata.getD "templateConfig" = .object fields) (hne : fields ≠ [])
    (h : (Template.check (.object fields)).value = valid t) :
    record.resolve.value = valid (record.titled t) ↔ t.toValue.Settled ∧ ¬fields.HidesBlock := by
  have hgiven : (Value.object fields).isGiven = true := by simpa [Value.isGiven] using hne
  have hlayout : record.layout = Template.check (.object (fields.rehydrateWithin 200)) := by
    unfold Record.layout
    rw [hauthored, if_pos hgiven]
    rfl
  have hresolve : record.resolve.value
      = (Template.check (.object (fields.rehydrateWithin 200))).value.map record.titled := by
    rw [← hlayout]
    rfl
  have hopened : (Template.check (.object (fields.rehydrateWithin 200))).value = valid t ↔
      t.toValue.Settled ∧ ¬fields.HidesBlock := Template.check_opened (by omega : 3 ≤ 197) h
  rw [hresolve, ← hopened, Checked.map_eq_valid]
  constructor
  · rintro ⟨again, hagain, heq⟩
    have htitle : again.title = t.title :=
      Accept.textIf_unique (Template.check_eq_valid.mp h).1 (Template.check_eq_valid.mp hagain).1
    rw [titled_inj htitle heq] at hagain
    exact hagain
  · intro hagain
    exact ⟨t, hagain, rfl⟩

/-- A template with a reference to a source in one of its texts. -/
def citedTemplate : Fields :=
  [("blocks", .list [.object [("type", .text "paragraph"), ("text", .text "as shown in [1]")]])]

theorem citedTemplate_authored :
    ∃ t, (Template.check (.object citedTemplate)).value = valid t ∧
      ((Record.resolve ⟨none, "Report", none, [("templateConfig", .object citedTemplate)]⟩).value
          = valid (Record.titled ⟨none, "Report", none, [("templateConfig", .object citedTemplate)]⟩ t)
        ↔ t.toValue.Settled ∧ ¬citedTemplate.HidesBlock) :=
  ⟨_, rfl, Record.resolve_authored_iff rfl (by simp [citedTemplate]) rfl⟩

/-- A template with nothing but such a reference, which is the text of a list. -/
def bracketedTemplate : Fields :=
  [("blocks", .list [.object [("type", .text "paragraph"), ("text", .text "[1]")]])]

theorem bracketedTemplate_refused :
    ∃ t, (Template.check (.object bracketedTemplate)).value = valid t ∧
      (Record.resolve ⟨none, "Report", none, [("templateConfig", .object bracketedTemplate)]⟩).value
        = .faulty [⟨.notText, [.field "blocks", .item 0, .field "paragraph", .field "text"]⟩] :=
  ⟨_, rfl, rfl⟩

end Paperwork
