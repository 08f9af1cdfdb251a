/-
Which checks are abandoned.

A check that is put together from others is abandoned exactly if one of them is, whatever faults
the others find.  So a check whose parts come to an end comes to an end itself, with a value or
with faults.
-/
import Paperwork.Proofs.Checking.Valid

namespace Paperwork

namespace Checked

variable {α β : Type}

/-- A check was given up. -/
def IsAbandoned (x : Checked α) : Prop := ∃ cause, x = abandoned cause

@[simp] theorem not_isAbandoned_valid (a : α) : ¬(valid a).IsAbandoned := by simp [IsAbandoned]

@[simp] theorem not_isAbandoned_fault (kind : FaultKind) :
    ¬(fault kind : Checked α).IsAbandoned := by simp [IsAbandoned, fault]

/-- A check that comes to an end finds something valid, or it finds faults. -/
theorem ends_of_not_isAbandoned {x : Checked α} (h : ¬x.IsAbandoned) :
    (∃ faults, x = faulty faults) ∨ ∃ a, x = valid a := by
  cases x with
  | valid a => exact .inr ⟨a, rfl⟩
  | faulty faults => exact .inl ⟨faults, rfl⟩
  | abandoned cause => exact absurd ⟨cause, rfl⟩ h

@[simp] theorem isAbandoned_map {f : α → β} {x : Checked α} :
    (x.map f).IsAbandoned ↔ x.IsAbandoned := by
  cases x <;> simp [map, IsAbandoned]

@[simp] theorem isAbandoned_fmap {f : α → β} {x : Checked α} :
    (f <$> x).IsAbandoned ↔ x.IsAbandoned := isAbandoned_map

@[simp] theorem isAbandoned_seq {f : Checked (α → β)} {x : Checked α} :
    (f <*> x).IsAbandoned ↔ f.IsAbandoned ∨ x.IsAbandoned := by
  change (f.apply x).IsAbandoned ↔ _
  cases f <;> cases x <;> simp [apply, IsAbandoned]

@[simp] theorem isAbandoned_under {step : Step} {x : Checked α} :
    (x.under step).IsAbandoned ↔ x.IsAbandoned := by
  cases x <;> simp [under, IsAbandoned]

theorem not_isAbandoned_orElse {x y : Checked α} (hx : ¬x.IsAbandoned) (hy : ¬y.IsAbandoned) :
    ¬(x.orElse y).IsAbandoned := by
  cases x <;> cases y <;> simp_all [orElse, IsAbandoned]

theorem isAbandoned_all {outcomes : List (Checked α)} :
    (all outcomes).IsAbandoned ↔ ∃ x ∈ outcomes, x.IsAbandoned := by
  induction outcomes with
  | nil => simp [all]
  | cons x outcomes ih => simp [all, ih]

theorem isAbandoned_items {outcomes : List (Checked α)} :
    (items outcomes).IsAbandoned ↔ ∃ x ∈ outcomes, x.IsAbandoned := by
  rw [items, isAbandoned_all]
  constructor
  · rintro ⟨_, hx, habandoned⟩
    obtain ⟨⟨x, position⟩, hmem, rfl⟩ := List.mem_map.mp hx
    exact ⟨x, List.fst_mem_of_mem_zipIdx hmem, isAbandoned_under.mp habandoned⟩
  · rintro ⟨x, hx, habandoned⟩
    obtain ⟨position, hposition, rfl⟩ := List.getElem_of_mem hx
    exact ⟨_, List.mem_map_of_mem (List.mk_mem_zipIdx_iff_getElem?.mpr
      (List.getElem?_eq_getElem hposition)), isAbandoned_under.mpr habandoned⟩

end Checked

/-! ### Accepting values -/

namespace Accept

variable {α : Type} {accept : Value → Checked α}

/-- A way to accept values that always comes to an end. -/
def Ends (accept : Value → Checked α) : Prop := ∀ value, ¬(accept value).IsAbandoned

theorem text_ends : Ends text := by
  intro value
  cases value <;> simp [text]

theorem truthOf_ends (n : Int) : ¬(truthOf n).IsAbandoned := by
  unfold truthOf
  repeat' split
  all_goals simp

theorem wholeNumber_ends (x : Binary64) : ¬(wholeNumber x).IsAbandoned := by
  unfold wholeNumber
  repeat' split
  all_goals simp

theorem boolean_ends : Ends boolean := by
  intro value
  cases value with
  | bool b => exact Checked.not_isAbandoned_valid b
  | text s =>
      rw [boolean]
      repeat' split
      all_goals simp
  | int n =>
      rw [boolean]
      split
      · exact truthOf_ends n
      · simp
  | float x =>
      rw [boolean]
      split
      · exact truthOf_ends _
      · simp
  | _ => exact Checked.not_isAbandoned_fault _

theorem integer_ends : Ends integer := by
  intro value
  cases value with
  | int n => exact Checked.not_isAbandoned_valid n
  | bool b => exact Checked.not_isAbandoned_valid _
  | float x => exact wholeNumber_ends x
  | text s =>
      rw [integer]
      split <;> simp
  | _ => exact Checked.not_isAbandoned_fault _

theorem double_ends : Ends double := by
  -- Unfolding the call makes the kernel compute the rounding of an integer it does not know,
  -- so the function is unfolded on its own and rounding is given a name.
  have hany : ∀ way, double = way → Ends way := by
    intro way hway
    delta double at hway
    obtain ⟨rounded, hrounded⟩ : ∃ f, f = Binary64.ofInt := ⟨_, rfl⟩
    rw [← hrounded] at hway
    subst hway
    intro value
    cases value with
    | int n =>
        dsimp only
        split
        · exact Checked.not_isAbandoned_fault _
        · exact Checked.not_isAbandoned_valid _
    | text s =>
        dsimp only
        split
        · exact Checked.not_isAbandoned_valid _
        · exact Checked.not_isAbandoned_fault _
    | bool b => exact Checked.not_isAbandoned_valid _
    | float x => exact Checked.not_isAbandoned_valid x
    | _ => exact Checked.not_isAbandoned_fault _
  exact hany double rfl

theorem number_ends : Ends number := by
  intro value
  unfold number
  split
  · simp
  · simp
  · refine Checked.not_isAbandoned_orElse ?_ ?_
    · simpa using integer_ends _
    · simpa using double_ends _

theorem Ends.optional (h : Ends accept) : Ends (optional accept) := by
  intro value
  unfold Accept.optional
  split
  · simp
  · simpa using h _

theorem Ends.list (h : Ends accept) : Ends (list accept) := by
  intro value
  unfold Accept.list
  split
  · rw [Checked.isAbandoned_items]
    rintro ⟨_, hx, habandoned⟩
    obtain ⟨item, -, rfl⟩ := List.mem_map.mp hx
    exact h item habandoned
  · simp

theorem Ends.object (h : Ends accept) : Ends (object accept) := by
  intro value
  unfold Accept.object
  split
  · rw [Checked.isAbandoned_all]
    rintro ⟨_, hx, habandoned⟩
    obtain ⟨field, -, rfl⟩ := List.mem_map.mp hx
    rw [Checked.isAbandoned_under, Checked.isAbandoned_map] at habandoned
    exact h field.2 habandoned
  · simp

theorem record_ends {accept : Fields → Checked α} (h : ∀ fields, ¬(accept fields).IsAbandoned) :
    Ends (record accept) := by
  intro value
  unfold record
  split
  · exact h _
  · simp

theorem Ends.field (h : Ends accept) (fields : Fields) (names : List String) (missing : α) :
    ¬(field fields names accept missing).IsAbandoned := by
  unfold Accept.field
  split
  · simpa using h _
  · simp

/-- The check of a field with one name is abandoned if that of its value is. -/
theorem isAbandoned_field {fields : Fields} {name : String} {missing : α} :
    (field fields [name] accept missing).IsAbandoned ↔
      ∃ value, fields.get? name = some value ∧ (accept value).IsAbandoned := by
  unfold Accept.field
  cases hget : fields.get? name with
  | none => simp [hget]
  | some value => simp [hget]

end Accept

end Paperwork
