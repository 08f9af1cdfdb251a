/-
The levels of the headings of a template.

A level is never at fault: whatever is given for it, a template that is accepted has
levels from one to six only.
-/
import Paperwork.Proofs.Template.Parts

namespace Paperwork

/-- A heading has one of the six levels; other blocks have none. -/
def Block.Leveled : Block → Prop
  | .heading b => 1 ≤ b.level ∧ b.level ≤ 6
  | _ => True

theorem HeadingBlock.clamped_leveled (level : Int) : 1 ≤ clamped level ∧ clamped level ≤ 6 := by
  rw [clamped]
  omega

theorem HeadingBlock.check_leveled {fields : Fields} {b : HeadingBlock}
    (h : HeadingBlock.check fields = .valid b) : 1 ≤ b.level ∧ b.level ≤ 6 := by
  obtain ⟨-, hlevel, -⟩ := HeadingBlock.check_eq_valid.mp h
  rcases Accept.field_eq_valid hlevel with hmissing | ⟨value, hvalue⟩
  · rw [hmissing]
    exact (by decide : (1 : Int) ≤ 2 ∧ (2 : Int) ≤ 6)
  · obtain ⟨requested, -, hclamped⟩ := Checked.map_eq_valid.mp hvalue
    rw [← hclamped]
    exact clamped_leveled requested

theorem Block.reader_leveled {type : String} {read : Fields → Checked Block} {fields : Fields}
    {b : Block} (hread : Block.reader? type = some read) (h : read fields = .valid b) :
    b.Leveled := by
  unfold Block.reader? at hread
  split at hread
  case h_1 =>
    obtain rfl := Option.some.inj hread
    exact Checked.fmap_all h fun _ => HeadingBlock.check_leveled
  case h_11 => simp at hread
  all_goals
    obtain rfl := Option.some.inj hread
    refine Checked.fmap_all h ?_
    intro _ _
    trivial

theorem Block.check_leveled {value : Value} {b : Block}
    (h : Block.check? value = some (.valid b)) : b.Leveled := by
  obtain ⟨type, read, fields, hread, hvalid⟩ := Block.check?_eq_valid h
  exact Block.reader_leveled hread hvalid

/-- **An accepted template has headings of the six levels only.** -/
theorem Template.check_leveled {value : Value} {t : Template}
    (h : (Template.check value).value = .valid t) : ∀ b ∈ t.blocks, b.Leveled := by
  obtain ⟨fields, rfl⟩ := Template.object_of_check h
  obtain ⟨-, -, hblocks⟩ := Template.check_eq_valid.mp h
  intro b hb
  obtain ⟨value, hvalue⟩ := Block.checkAll_found hblocks b hb
  exact Block.check_leveled hvalue

end Paperwork
