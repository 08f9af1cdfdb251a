/-
Fields of objects, looked up by their keys.

Two rows of fields are the same object if each key has the same value in both.  The order in
which the fields stand is not part of what an object says.
-/
import Mathlib
import Paperwork.Data.Rehydrate

namespace Paperwork

/-- Nothing is found under a key that nothing stands under. -/
theorem lookup_eq_none_iff {α β : Type} [BEq α] [LawfulBEq α] {entries : List (α × β)} {key : α} :
    entries.lookup key = none ↔ key ∉ entries.map Prod.fst := by
  simp only [List.lookup_eq_none_iff, List.mem_map, bne_iff_ne, not_exists, not_and]
  exact forall₂_congr fun entry _ => ne_comm

namespace Fields

@[simp] theorem get?_nil (name : String) : get? [] name = none := rfl

@[simp] theorem get?_cons (key name : String) (value : Value) (fields : Fields) :
    get? ((key, value) :: fields) name = if name = key then some value else get? fields name := by
  rw [get?, List.lookup_cons]
  by_cases h : name = key
  · simp [h]
  · simp [h, beq_false_of_ne h, get?]

@[simp] theorem get?_append (first second : Fields) (name : String) :
    get? (first ++ second) name = (get? first name).or (get? second name) := List.lookup_append

/-- A field of values that have been changed one by one is that value changed. -/
theorem get?_map (f : Value → Value) (fields : Fields) (key : String) :
    get? (fields.map fun (key, value) => (key, f value)) key = (fields.get? key).map f := by
  induction fields with
  | nil => rfl
  | cons field fields ih =>
      rw [List.map_cons, get?_cons, get?_cons, ih]
      split <;> rfl

theorem get?_set (fields : Fields) (key : String) (value : Value) (other : String) :
    (fields.set key value).get? other = if other = key then some value else fields.get? other := by
  induction fields with
  | nil => simp [set]
  | cons field fields ih =>
      rw [set]
      by_cases hkey : field.1 = key
      · rw [if_pos hkey, get?_cons, get?_cons, hkey]
        by_cases hother : other = key
        · rw [if_pos hother, if_pos hother]
        · rw [if_neg hother, if_neg hother, if_neg hother]
      · rw [if_neg hkey, get?_cons, get?_cons, ih]
        by_cases hother : other = field.1
        · rw [if_pos hother, if_pos hother, if_neg (hother ▸ hkey)]
        · rw [if_neg hother, if_neg hother]

/-! ### Objects with the same fields -/

/-- The same objects, whatever the order of their fields. -/
def Alike (first second : Fields) : Prop := ∀ key, first.get? key = second.get? key

theorem Alike.getD {first second : Fields} (h : Alike first second) (key : String) :
    first.getD key = second.getD key := congrArg (Option.getD · Value.null) (h key)

theorem Alike.rehydrate {first second : Fields} (h : Alike first second) :
    Alike first.rehydrate second.rehydrate := by
  intro key
  show get? (first.map _) key = get? (second.map _) key
  rw [get?_map, get?_map, h key]

theorem Alike.set {first second : Fields} (h : Alike first second) (key : String)
    (value : Value) : Alike (first.set key value) (second.set key value) := by
  intro other
  rw [get?_set, get?_set, h other]

end Fields

end Paperwork
