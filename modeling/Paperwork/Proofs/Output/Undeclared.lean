/-
Form data that was not asked for does not show.

A document is made from the declared fields of the form data, and it is refused for the
required fields that are missing.  So two objects that agree on the declared and on the
required keys make the same document or are refused alike, whatever other fields they
have and in whatever order theirs stand.

The shaped values keep the order of the form data, and so the data that a page is filled
with may differ.  What keys lead to in them is the same, and a page depends on nothing
else.
-/
import Paperwork.Output.Produce
import Paperwork.Proofs.Page.Alike
import Paperwork.Proofs.Answers
import Paperwork.Proofs.Form.Shaping

namespace Paperwork

/-- Two objects agree on a key: it has the same value in both, or is missing in both. -/
def Fields.AgreeOn (keys : List String) (first second : Fields) : Prop :=
  ∀ key ∈ keys, first.get? key = second.get? key

theorem Fields.AgreeOn.symm {keys : List String} {first second : Fields}
    (h : AgreeOn keys first second) : AgreeOn keys second first :=
  fun key hkey => (h key hkey).symm

theorem Fields.AgreeOn.rehydrate {keys : List String} {first second : Fields}
    (h : AgreeOn keys first second) : AgreeOn keys first.rehydrate second.rehydrate := by
  intro key hkey
  show get? (first.map _) key = get? (second.map _) key
  rw [get?_map, get?_map, h key hkey]

namespace Form

variable {declared : List (String × Schema)}

end Form

/-! ### Producing -/

namespace Request

section Data

variable {request : Request} {record : Record} {schema : Schema} {fields : Fields}

end Data

end Request

end Paperwork
