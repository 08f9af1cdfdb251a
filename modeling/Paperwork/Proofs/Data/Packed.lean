/-
Containers may be handed over as JSON text.

Any of the containers that rehydration reaches may be written as its compact text, also inside
one another: the text is opened where it stands, at the depth of the container that
was written, and is read back as that container.
-/
import Paperwork.Data.Display
import Paperwork.Proofs.Data.Json.RoundTrip
import Paperwork.Proofs.Data.NormalForm
import Paperwork.Proofs.Text.Lines

namespace Paperwork

open Paperwork.Text

namespace Value

theorem opened_of_kind {value : Value} (hkind : value.kind = .list ∨ value.kind = .object) :
    opened value = value := by
  cases value <;> simp_all [kind, opened]

variable {limit levels : Nat}

theorem rehydrateWithin_of_opened {a b : Value} (h : opened a = opened b) :
    rehydrateWithin (levels + 1) a = rehydrateWithin (levels + 1) b := by
  rw [rehydrateWithin, rehydrateWithin, h]

end Value

end Paperwork
