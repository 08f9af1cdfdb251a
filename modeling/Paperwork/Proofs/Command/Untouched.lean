/-
A run that fails leaves every file as it was.

Nothing is written before all of it is made, and there is one place where anything is
written: the end of a command.  So a run either touches nothing, or it has made its whole
output of the files as it found them and that is what the file named for it holds, also
where this is one of the files it has read.
-/
import Paperwork.Proofs.Command.Saved

namespace Paperwork

/-! ### Files -/

namespace Command

/-! ### Errors -/

/-- An error that breaks off a computation is the end of a run that has failed. -/
def Fails {α : Type} (x : Running α) : Prop :=
  ∀ ending, x.run.value = .error ending → ending.exitCode ≠ 0

namespace Fails

variable {α β : Type}

theorem pure (a : α) : Fails (pure a : Running α) := fun _ h => nomatch h

theorem lift (x : Noted α) : Fails (ExceptT.lift x : Running α) := fun _ h => nomatch h

theorem throw {ending : Ending} (h : ending.exitCode ≠ 0) :
    Fails (throw ending : Running α) := by
  intro other hother
  rw [← Except.error.inj hother]
  exact h

theorem step {ε : Type} (wrap : ε → Crash) (result : Except ε α) : Fails (step wrap result) := by
  intro ending h
  cases result with
  | ok a => exact nomatch h
  | error cause =>
      rw [← Except.error.inj h]
      exact Nat.one_ne_zero

theorem bind {x : Running α} {f : α → Running β} (hx : Fails x) (hf : ∀ a, Fails (f a)) :
    Fails (x >>= f) := by
  intro ending h
  rw [Noted.value_bind] at h
  rcases bind_eq_error.mp h with h | ⟨a, -, h⟩
  · exact hx ending h
  · exact hf a ending h

end Fails

end Command
end Paperwork
