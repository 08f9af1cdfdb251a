/-
The outcome of a check.

A check finds all faults of a value, not only the first.  It can also be abandoned: a
few values cannot even be examined, and then nothing else matters.  Outcomes of
independent checks are put together so that faults add up and an abandoned check
abandons the whole.
-/
import Paperwork.Checking.Fault

namespace Paperwork

/-- Why a check is abandoned. -/
inductive Interruption
  | infiniteLevel
  | nestedTooDeep
  deriving DecidableEq, Repr, Inhabited

/-- The outcome of a check. -/
inductive Checked (α : Type)
  | valid (a : α)
  | faulty (faults : List Fault)
  | abandoned (cause : Interruption)
  deriving Repr, Inhabited

namespace Checked

variable {α β : Type}

/-- A function applied to what is found to be valid. -/
def map (f : α → β) : Checked α → Checked β
  | valid a => valid (f a)
  | faulty faults => faulty faults
  | abandoned cause => abandoned cause

/-- Two checks of which neither depends on the other. -/
def apply : Checked (α → β) → Checked α → Checked β
  | abandoned cause, _ => abandoned cause
  | _, abandoned cause => abandoned cause
  | faulty faults, faulty more => faulty (faults ++ more)
  | faulty faults, valid _ => faulty faults
  | valid _, faulty faults => faulty faults
  | valid f, valid a => valid (f a)

instance : Applicative Checked where
  map := map
  pure := valid
  seq f a := apply f (a ())

/-- A single fault of the value itself. -/
def fault (kind : FaultKind) : Checked α := faulty [⟨kind, []⟩]

/-- The outcome for a part that one step leads to. -/
def under (step : Step) : Checked α → Checked α
  | faulty faults => faulty (faults.map (Fault.under step))
  | outcome => outcome

/-- The second of two ways to accept a value, tried where the first one finds faults. -/
def orElse (first second : Checked α) : Checked α :=
  match first with
  | faulty faults =>
    match second with
    | faulty more => faulty (faults ++ more)
    | outcome => outcome
  | outcome => outcome

/-- All outcomes of a row. -/
def all : List (Checked α) → Checked (List α)
  | [] => valid []
  | outcome :: rest => List.cons <$> outcome <*> all rest

/-- The outcomes for the items of a list, each under its position. -/
def items (outcomes : List (Checked α)) : Checked (List α) :=
  all ((outcomes.zipIdx).map fun (outcome, position) => outcome.under (.item position))

end Checked
end Paperwork
