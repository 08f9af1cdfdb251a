/-
Reading pages: what can go wrong, and what may be noted on the way.
-/
import Paperwork.Html.Reference
import Paperwork.Notice

namespace Paperwork

/-- Why a page is not converted. -/
inductive ReadingError
  | reference (cause : Html.ReferenceTooLong)
  | unusableCap
  deriving DecidableEq, Repr

/-- A computation that reads a page. -/
abbrev Reading := ExceptT ReadingError Noted

namespace Reading

variable {α : Type}

/-- A result that may fail by a character reference. -/
def ofText (x : Except Html.ReferenceTooLong α) : Reading α :=
  match x with
  | .ok a => pure a
  | .error cause => throw (.reference cause)

/-- Gives a notice. -/
def note (notice : Notice) : Reading Unit := ExceptT.lift (Noted.note notice)

end Reading
end Paperwork
