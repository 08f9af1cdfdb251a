/-
What is accepted of a value after its texts have been opened.

A text that is opened becomes a list or an object, and where a text is asked for neither is
accepted.  So what has been accepted of a value is accepted of it once more after it was
rehydrated exactly if no text in what was accepted is the text of a container.  A text
that serves as a number or a truth value has no brackets, and is never opened.
-/
import Paperwork.Proofs.Checking.Valid
import Paperwork.Proofs.Data.Fields
import Paperwork.Proofs.Data.NormalForm
import Paperwork.Proofs.Number.Brackets
import Paperwork.Template.Write

namespace Paperwork

open Checked (valid)

/-! ### Texts that are opened -/

namespace Value

variable {levels : Nat}

theorem rehydrateWithin_text_of_not {s : String} (h : ¬IsContainerText s) :
    rehydrateWithin (levels + 1) (text s) = text s := by
  rw [rehydrateWithin, opened, containerOf?_eq_none.mpr h]
  rfl

/-- A text that is opened becomes a container. -/
theorem rehydrateWithin_text_of_container (levels : Nat) {s : String} (h : IsContainerText s) :
    (∃ items, rehydrateWithin (levels + 1) (text s) = list items) ∨
      ∃ fields, rehydrateWithin (levels + 1) (text s) = object fields := by
  obtain ⟨hlooks, value, hread, hkind⟩ := h
  have hcontainer := containerOf?_eq_some.mpr ⟨hlooks, hread, hkind⟩
  rw [rehydrateWithin, opened, hcontainer, Option.getD_some]
  cases value with
  | list items => exact .inl ⟨_, rfl⟩
  | object fields => exact .inr ⟨_, rfl⟩
  | _ => simp [kind] at hkind

theorem rehydrateWithin_list (items : List Value) :
    rehydrateWithin (levels + 1) (list items) = list (items.map (rehydrateWithin levels)) := rfl

theorem settledWithin_text {s : String} :
    SettledWithin (levels + 1) (text s) ↔ ¬IsContainerText s := by
  rw [settledWithin_atom (by simp [kind])]
  simp

/-- What is no text and no container is settled. -/
theorem settledWithin_of_kind {value : Value} (h : value.kind ∉ [.text, .list, .object]) :
    SettledWithin levels value := by
  intro depth s _ hpart
  cases hpart with
  | here => simp [kind] at h
  | item => simp [kind] at h
  | field => simp [kind] at h

theorem settledWithin_null : SettledWithin levels null := settledWithin_of_kind (by simp [kind])

/-- What is neither a container nor the text of one stays as it is. -/
theorem rehydrateWithin_atom {value : Value} (hkind : value.kind ≠ .list ∧ value.kind ≠ .object)
    (htext : ∀ s, value = text s → ¬IsContainerText s) :
    rehydrateWithin (levels + 1) value = value :=
  rehydrateWithin_eq_self ((settledWithin_atom hkind).mpr htext)

theorem rehydrateWithin_eq_null {value : Value} :
    rehydrateWithin levels value = null ↔ value = null := by
  cases levels with
  | zero => rfl
  | succ levels =>
      cases value with
      | text s =>
          by_cases hcontainer : IsContainerText s
          · rcases rehydrateWithin_text_of_container levels hcontainer with ⟨_, h⟩ | ⟨_, h⟩
            · simp [h]
            · simp [h]
          · simp [rehydrateWithin_text_of_not hcontainer]
      | _ => simp [rehydrateWithin, opened]

end Value

namespace Fields

variable {levels : Nat}

/-- Fields whose values have been rehydrated. -/
def rehydrateWithin (levels : Nat) (fields : Fields) : Fields :=
  fields.map fun (key, value) => (key, value.rehydrateWithin levels)

theorem get?_rehydrateWithin (fields : Fields) (key : String) :
    (fields.rehydrateWithin levels).get? key = (fields.get? key).map (·.rehydrateWithin levels) :=
  get?_map _ fields key

theorem getD_rehydrateWithin (fields : Fields) (key : String) :
    (fields.rehydrateWithin levels).getD key = (fields.getD key).rehydrateWithin levels := by
  have hget := @get?_rehydrateWithin levels fields key
  rw [get?, get?] at hget
  rw [getD, getD, hget]
  cases fields.lookup key with
  | none => exact (Value.rehydrateWithin_eq_null.mpr rfl).symm
  | some value => rfl

theorem rehydrateWithin_object (fields : Fields) :
    (Value.object fields).rehydrateWithin (levels + 1) = .object (fields.rehydrateWithin levels) :=
  rfl

/-- The values of fields are settled. -/
def SettledWithin (levels : Nat) (fields : Fields) : Prop :=
  ∀ field ∈ fields, field.2.SettledWithin levels

@[simp] theorem settledWithin_nil : SettledWithin levels [] := by simp [SettledWithin]

@[simp] theorem settledWithin_cons (field : String × Value) (fields : Fields) :
    SettledWithin levels (field :: fields)
      ↔ field.2.SettledWithin levels ∧ SettledWithin levels fields := by
  simp [SettledWithin]

@[simp] theorem settledWithin_append (first second : Fields) :
    SettledWithin levels (first ++ second)
      ↔ SettledWithin levels first ∧ SettledWithin levels second := by
  simp [SettledWithin, or_imp, forall_and]

@[simp] theorem settledWithin_fieldIf {α : Type} (key : String) (written : α → Value)
    (o : Option α) : SettledWithin levels (fieldIf key written o)
      ↔ ((o.map written).getD .null).SettledWithin levels := by
  cases o with
  | some a => simp [fieldIf]
  | none => simp [fieldIf, Value.settledWithin_null]

end Fields

/-! ### Checks that keep what they accept -/

section Checks

variable {α β : Type} {depth levels : Nat}

/-- What is accepted of a value is accepted of the rehydrated value exactly if what it is
written as is settled. -/
def Accept.Keeps (depth : Nat) (accept : Value → Checked α) (written : α → Value) : Prop :=
  ∀ levels, depth ≤ levels → ∀ value a, accept value = valid a →
    (accept (value.rehydrateWithin levels) = valid a ↔ (written a).SettledWithin levels)

/-- The same of fields. -/
def Accept.KeepsFields (depth : Nat) (accept : Fields → Checked α) (written : α → Fields) : Prop :=
  ∀ levels, depth ≤ levels → ∀ fields a, accept fields = valid a →
    (accept (fields.rehydrateWithin levels) = valid a ↔ (written a).SettledWithin levels)

variable {accept : Value → Checked α} {written : α → Value}

theorem Accept.text_eq_valid {value : Value} {s : String} (h : Accept.text value = valid s) :
    value = .text s := by
  cases value with
  | text t => rw [Checked.valid.inj h]
  | _ => exact absurd h (by simp [Accept.text, Checked.fault])

theorem Accept.text_keeps : Accept.Keeps 1 Accept.text Value.text := by
  rintro (_ | levels) hlevels value s h
  · omega
  obtain rfl := Accept.text_eq_valid h
  rw [Value.settledWithin_text]
  by_cases hcontainer : IsContainerText s
  · rcases Value.rehydrateWithin_text_of_container levels hcontainer with ⟨_, h⟩ | ⟨_, h⟩
    · simp [h, Accept.text, Checked.fault, hcontainer]
    · simp [h, Accept.text, Checked.fault, hcontainer]
  · simp [Value.rehydrateWithin_text_of_not hcontainer, Accept.text, hcontainer]

/-- What is accepted of atoms only, and never of the text of a container, is kept. -/
theorem Accept.keeps_atom
    (hkind : ∀ value a, accept value = valid a → value.kind ≠ .list ∧ value.kind ≠ .object)
    (htext : ∀ s a, accept (.text s) = valid a → ¬IsContainerText s)
    (hwritten : ∀ a, (written a).kind ∉ [.text, .list, .object]) :
    Accept.Keeps 1 accept written := by
  rintro (_ | levels) hlevels value a h
  · omega
  have hsame : value.rehydrateWithin (levels + 1) = value :=
    Value.rehydrateWithin_atom (hkind value a h) fun s hs => htext s a (hs ▸ h)
  rw [hsame]
  exact iff_of_true h (Value.settledWithin_of_kind (hwritten a))

theorem Accept.boolean_keeps : Accept.Keeps 1 Accept.boolean Value.bool := by
  refine Accept.keeps_atom ?_ ?_ (by simp [Value.kind])
  · intro value b h
    cases value with
    | list items => cases h
    | object fields => cases h
    | _ => simp [Value.kind]
  · rintro s b h ⟨hlooks, -⟩
    obtain ⟨c, hc, hmem⟩ := openingSigns_mem_of_looksLikeContainer hlooks
    have hlower := List.mem_map_of_mem (f := Char.toLower) hmem
    rw [Decimal.toLower_of_foreign c (Decimal.foreign_of_opening hc)] at hlower
    have hwords : ∀ c ∈ openingSigns, ∀ word ∈ Accept.falseWords ++ Accept.trueWords,
        c ∉ word.toList := forall_mem_opening.mpr ⟨by decide, by decide⟩
    have hnone : String.ofList (s.toList.map Char.toLower)
        ∉ Accept.falseWords ++ Accept.trueWords := by
      intro hword
      exact hwords c hc _ hword (by rwa [String.toList_ofList])
    rw [List.mem_append, not_or] at hnone
    simp [Accept.boolean, hnone, Checked.fault] at h

theorem Accept.number_keeps : Accept.Keeps 1 Accept.number Value.ofNumber := by
  refine Accept.keeps_atom ?_ ?_ (fun n => by cases n <;> simp [Value.ofNumber, Value.kind])
  · intro value n h
    cases value with
    | list items => cases h
    | object fields => cases h
    | _ => simp [Value.kind]
  · rintro s n h ⟨hlooks, -⟩
    obtain ⟨c, hc, hmem⟩ := openingSigns_mem_of_looksLikeContainer hlooks
    rcases Checked.orElse_eq_valid.mp h with hfirst | ⟨-, hsecond⟩
    · obtain ⟨i, hi, -⟩ := Checked.map_eq_valid.mp (Checked.under_eq_valid.mp hfirst)
      unfold Accept.integer at hi
      simp only at hi
      split at hi
      · exact Decimal.plainInt_not_mem (Decimal.foreign_of_opening hc) ‹_› hmem
      · cases hi
      · cases hi
    · obtain ⟨x, hx, -⟩ := Checked.map_eq_valid.mp (Checked.under_eq_valid.mp hsecond)
      unfold Accept.double at hx
      simp only at hx
      split at hx
      · exact Decimal.plainFloat?_not_mem (Decimal.foreign_of_opening hc) ‹_› hmem
      · cases hx

theorem Accept.optional_of_ne_null {value : Value} (h : value ≠ .null) :
    Accept.optional accept value = some <$> accept value := by
  cases value with
  | null => exact absurd rfl h
  | _ => rfl

theorem Accept.Keeps.optional (h : Accept.Keeps depth accept written) :
    Accept.Keeps depth (Accept.optional accept) fun o => (o.map written).getD .null := by
  intro levels hlevels value o hvalid
  by_cases hnull : value = .null
  · subst hnull
    obtain rfl := Checked.valid.inj hvalid
    rw [Value.rehydrateWithin_eq_null.mpr rfl]
    exact iff_of_true rfl Value.settledWithin_null
  · have hopened : value.rehydrateWithin levels ≠ .null :=
      fun heq => hnull (Value.rehydrateWithin_eq_null.mp heq)
    rw [Accept.optional_of_ne_null hnull] at hvalid
    obtain ⟨a, ha, rfl⟩ := Checked.fmap_eq_valid.mp hvalid
    rw [Accept.optional_of_ne_null hopened, Checked.fmap_eq_valid]
    simpa using h levels hlevels value a ha

theorem Accept.Keeps.list (h : Accept.Keeps depth accept written) :
    Accept.Keeps (depth + 1) (Accept.list accept) fun as => .list (as.map written) := by
  rintro (_ | levels) hlevels value as hvalid
  · omega
  cases value with
  | list items =>
      have hall := Checked.items_eq_valid.mp hvalid
      rw [Value.rehydrateWithin_list, Value.settledWithin_list, Accept.list,
        Checked.items_eq_valid, List.map_map, List.forall_mem_map]
      clear hvalid
      induction items generalizing as with
      | nil =>
          obtain rfl := List.map_eq_nil_iff.mp hall.symm
          simp
      | cons item items ih =>
          cases as with
          | nil => cases hall
          | cons a as =>
              obtain ⟨hitem, hrest⟩ := List.cons.inj hall
              have hfirst := h levels (Nat.le_of_succ_le_succ hlevels) item a hitem
              have hmore := ih as hrest
              rw [List.map_cons, List.map_cons, List.cons.injEq, List.forall_mem_cons]
              exact and_congr hfirst hmore
  | _ => exact absurd hvalid (by simp [Accept.list, Checked.fault])

theorem Accept.Keeps.object (h : Accept.Keeps depth accept written) :
    Accept.Keeps (depth + 1) (Accept.object accept) fun as =>
      .object (as.map fun (key, a) => (key, written a)) := by
  rintro (_ | levels) hlevels value as hvalid
  · omega
  cases value with
  | object fields =>
      have hall := Checked.all_eq_valid.mp hvalid
      rw [Fields.rehydrateWithin_object, Value.settledWithin_object, Accept.object,
        Checked.all_eq_valid, Fields.rehydrateWithin, List.map_map, List.forall_mem_map]
      clear hvalid
      induction fields generalizing as with
      | nil =>
          obtain rfl := List.map_eq_nil_iff.mp hall.symm
          simp
      | cons field fields ih =>
          cases as with
          | nil => cases hall
          | cons a as =>
              obtain ⟨hfield, hrest⟩ := List.cons.inj hall
              rw [Checked.under_eq_valid] at hfield
              obtain ⟨found, hfound, rfl⟩ := Checked.map_eq_valid.mp hfield
              have hfirst := h levels (Nat.le_of_succ_le_succ hlevels) field.2 found hfound
              have hmore := ih as hrest
              have hkept : ((accept (field.2.rehydrateWithin levels)).map (field.1, ·)).under
                  (.field field.1) = valid (field.1, found)
                    ↔ (written found).SettledWithin levels := by
                rw [Checked.under_eq_valid, Checked.map_eq_valid, ← hfirst]
                simp
              rw [List.map_cons, List.map_cons, List.cons.injEq, List.forall_mem_cons]
              exact and_congr hkept hmore
  | _ => exact absurd hvalid (by simp [Accept.object, Checked.fault])

theorem Accept.KeepsFields.record {accept : Fields → Checked α} {written : α → Fields}
    (h : Accept.KeepsFields depth accept written) :
    Accept.Keeps (depth + 1) (Accept.record accept) fun a => .object (written a) := by
  rintro (_ | levels) hlevels value a hvalid
  · omega
  cases value with
  | object fields =>
      rw [Fields.rehydrateWithin_object, Value.settledWithin_object]
      exact h levels (Nat.le_of_succ_le_succ hlevels) fields a hvalid
  | _ => exact absurd hvalid (by simp [Accept.record, Checked.fault])

/-- A field of rehydrated fields is that field, rehydrated before it is checked. -/
theorem Accept.field_rehydrateWithin (fields : Fields) (names : List String)
    (accept : Value → Checked α) (missing : α) :
    Accept.field (fields.rehydrateWithin levels) names accept missing
      = Accept.field fields names (fun value => accept (value.rehydrateWithin levels)) missing := by
  have hfind : (names.findSome? fun name => ((fields.rehydrateWithin levels).get? name).map
        fun value => (name, value))
      = (names.findSome? fun name => (fields.get? name).map fun value => (name, value)).map
        fun (name, value) => (name, value.rehydrateWithin levels) := by
    rw [List.map_findSome?]
    congr 1
    funext name
    rw [Fields.get?_rehydrateWithin, Function.comp_apply]
    cases fields.get? name <;> rfl
  rw [Accept.field, hfind, Accept.field]
  cases names.findSome? fun name => (fields.get? name).map fun value => (name, value) <;> rfl

/-- What two checks of a field answer is related like what they answer for its value. -/
theorem Accept.field_related {first second : Value → Checked α} {missing : α}
    {r : α → Checked α → Prop} (hmissing : r missing (valid missing))
    (hvalue : ∀ value a step, first value = valid a → r a ((second value).under step))
    {fields : Fields} {names : List String} {a : α}
    (h : Accept.field fields names first missing = valid a) :
    r a (Accept.field fields names second missing) := by
  rw [Accept.field] at h
  rw [Accept.field]
  cases hfound : names.findSome? fun name => (fields.get? name).map fun value => (name, value) with
  | none =>
      rw [hfound] at h
      obtain rfl := Checked.valid.inj h
      exact hmissing
  | some found =>
      rw [hfound] at h
      exact hvalue found.2 a _ (Checked.under_eq_valid.mp h)

/-- A field is kept if the check of its value keeps it, and what stands for a missing field is
settled. -/
theorem Accept.Keeps.field (h : Accept.Keeps depth accept written) (hlevels : depth ≤ levels)
    {missing : α} (hmissing : (written missing).SettledWithin levels) {fields : Fields}
    {names : List String} {a : α} (hvalid : Accept.field fields names accept missing = valid a) :
    Accept.field (fields.rehydrateWithin levels) names accept missing = valid a
      ↔ (written a).SettledWithin levels := by
  rw [Accept.field_rehydrateWithin]
  refine Accept.field_related
    (r := fun a outcome => outcome = valid a ↔ (written a).SettledWithin levels)
    (iff_of_true rfl hmissing) (fun value a step hvalue => ?_) hvalid
  rw [Checked.under_eq_valid]
  exact h levels hlevels value a hvalue

/-- A text is accepted as no other text after rehydration. -/
theorem Accept.textIf_unique {fields : Fields} {names : List String} {o again : Option String}
    (h : Accept.field fields names (Accept.optional Accept.text) none = valid o)
    (hagain : Accept.field (fields.rehydrateWithin (levels + 1)) names
      (Accept.optional Accept.text) none = valid again) : again = o := by
  rw [Accept.field_rehydrateWithin] at hagain
  refine Accept.field_related (r := fun o outcome => outcome = valid again → again = o)
    (fun h => (Checked.valid.inj h).symm) (fun value o step hvalue h => ?_) h hagain
  rw [Checked.under_eq_valid] at h
  cases value with
  | text s =>
      obtain rfl := Checked.valid.inj hvalue
      by_cases hcontainer : IsContainerText s
      · rcases Value.rehydrateWithin_text_of_container levels hcontainer with
          ⟨_, hopened⟩ | ⟨_, hopened⟩
        · rw [hopened] at h
          cases h
        · rw [hopened] at h
          cases h
      · rw [Value.rehydrateWithin_text_of_not hcontainer] at h
        exact (Checked.valid.inj h).symm
  | null => exact (Checked.valid.inj h).symm.trans (Checked.valid.inj hvalue)
  | _ => cases hvalue

end Checks

end Paperwork
