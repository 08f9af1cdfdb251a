/-
What a check that finds no fault has found.

A check is put together from checks of parts, and it is valid exactly if each of them is.
So whatever the checks of the parts guarantee holds of what they are put together to.
-/
import Mathlib
import Paperwork.Checking.Accept

namespace Paperwork

namespace Checked

variable {α β : Type}

theorem map_eq_valid {f : α → β} {x : Checked α} {b : β} :
    x.map f = valid b ↔ ∃ a, x = valid a ∧ f a = b := by
  cases x <;> simp [map]

theorem fmap_eq_valid {f : α → β} {x : Checked α} {b : β} :
    f <$> x = valid b ↔ ∃ a, x = valid a ∧ f a = b := map_eq_valid

/-- What is made of something valid is as all that is made of it. -/
theorem fmap_all {P : β → Prop} {f : α → β} {x : Checked α} {b : β} (h : f <$> x = valid b)
    (hall : ∀ a, x = valid a → P (f a)) : P b := by
  obtain ⟨a, ha, rfl⟩ := fmap_eq_valid.mp h
  exact hall a ha

theorem seq_eq_valid {f : Checked (α → β)} {x : Checked α} {b : β} :
    f <*> x = valid b ↔ ∃ g a, f = valid g ∧ x = valid a ∧ g a = b := by
  change f.apply x = valid b ↔ _
  cases f <;> cases x <;> simp [apply]

theorem under_eq_valid {step : Step} {x : Checked α} {a : α} :
    x.under step = valid a ↔ x = valid a := by
  cases x <;> simp [under]

/-- The second way to accept a value counts only where the first one finds faults. -/
theorem orElse_eq_valid {x y : Checked α} {a : α} :
    x.orElse y = valid a ↔ x = valid a ∨ (∃ faults, x = faulty faults) ∧ y = valid a := by
  cases x <;> cases y <;> simp [orElse]

theorem all_eq_valid {outcomes : List (Checked α)} {as : List α} :
    all outcomes = valid as ↔ outcomes = as.map valid := by
  induction outcomes generalizing as with
  | nil => cases as <;> simp [all]
  | cons x outcomes ih =>
      rw [all, seq_eq_valid]
      constructor
      · rintro ⟨g, rest, hg, hrest, rfl⟩
        obtain ⟨a, rfl, rfl⟩ := fmap_eq_valid.mp hg
        rw [ih.mp hrest, List.map_cons]
      · intro h
        cases as with
        | nil => simp at h
        | cons a as =>
            obtain ⟨rfl, hrest⟩ := List.cons.inj h
            exact ⟨List.cons a, as, fmap_eq_valid.mpr ⟨a, rfl, rfl⟩, ih.mpr hrest, rfl⟩

/-- The items of a list are valid if each of them is. -/
theorem items_eq_valid {outcomes : List (Checked α)} {as : List α} :
    items outcomes = valid as ↔ outcomes = as.map valid := by
  rw [items, all_eq_valid, ← List.forall₂_eq_eq_eq, List.forall₂_map_left_iff,
    List.forall₂_map_right_iff, List.forall₂_map_right_iff]
  simp only [under_eq_valid]
  conv_rhs => rw [← List.zipIdx_map_fst 0 outcomes, List.forall₂_map_left_iff]

end Checked

/-- A valid field is the one that is taken where none is given, or it has been accepted. -/
theorem Accept.field_eq_valid {α : Type} {fields : Fields} {names : List String}
    {accept : Value → Checked α} {missing a : α}
    (h : Accept.field fields names accept missing = .valid a) :
    a = missing ∨ ∃ value, accept value = .valid a := by
  rw [Accept.field] at h
  split at h
  · exact .inr ⟨_, Checked.under_eq_valid.mp h⟩
  · exact .inl (Checked.valid.inj h).symm

/-- What the check of one field guarantees holds of all fields of an object. -/
theorem Accept.object_all {α : Type} {P : α → Prop} {accept : Value → Checked α} {value : Value}
    {as : List (String × α)} (hall : ∀ value a, accept value = .valid a → P a)
    (h : Accept.object accept value = .valid as) : ∀ a ∈ as, P a.2 := by
  cases value with
  | object fields =>
      intro a ha
      have hmem := List.mem_map_of_mem (f := Checked.valid) ha
      rw [← Checked.all_eq_valid.mp h] at hmem
      obtain ⟨⟨key, value⟩, -, hvalue⟩ := List.mem_map.mp hmem
      obtain ⟨found, hfound, rfl⟩ := Checked.map_eq_valid.mp (Checked.under_eq_valid.mp hvalue)
      exact hall value found hfound
  | _ => exact absurd h (by simp [Accept.object, Checked.fault])

end Paperwork
