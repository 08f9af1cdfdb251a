/-
When a page is converted by reading it, and when by its plain text.
-/
import Paperwork.Document.Convert
import Paperwork.Proofs.Document.Candidates

namespace Paperwork

open Paperwork.Text
open Paperwork.Html

/-- Enough steps are allowed for a text of some length: as many as it has characters. -/
def Cap.Allows (cap : Cap) (length : Nat) : Prop :=
  match cap with
  | atMost steps => length ≤ steps
  | unlimited => True
  | unusable => False

theorem scanPage_eq {cap : Cap} (hcap : cap ≠ .unusable) (page : List Char) :
    ∃ limit steps, scanPage cap page = scanAnew limit steps (trimmed isBlank (visible page)) := by
  cases cap with
  | atMost steps => exact ⟨steps, steps.toNat, scan_none_eq_scanAnew _ _ _⟩
  | unlimited => exact ⟨_, _, scan_none_eq_scanAnew _ _ _⟩
  | unusable => exact absurd rfl hcap

/-- Reading a page for its document fails. -/
def ScanFails (cap : Cap) (page : List Char) : Prop :=
  ∃ cause, (scanPage cap page).run.value = .error cause

theorem convert_value (cap : Cap) (page : List Char) :
    (convert cap page).run.value =
      match (scanPage cap page).run.value with
      | .ok nodes => .ok ⟨nodes, false⟩
      | .error _ => (plainNodes page).map fun nodes => ⟨nodes, true⟩ := by
  unfold convert convertPlainly
  generalize (scanPage cap page).run = scanned
  obtain ⟨value, notices⟩ := scanned
  cases value with
  | ok nodes => rfl
  | error cause => cases plainNodes page <;> rfl

theorem convert_of_scanned {cap : Cap} {page : List Char} {nodes : List Node}
    (h : (scanPage cap page).run.value = .ok nodes) :
    (convert cap page).run.value = .ok ⟨nodes, false⟩ := by
  rw [convert_value, h]

/-- What is converted, and not by its plain text, has been read. -/
theorem scanned_of_convert {cap : Cap} {page : List Char} {nodes : List Node}
    (h : (convert cap page).run.value = .ok ⟨nodes, false⟩) :
    (scanPage cap page).run.value = .ok nodes := by
  rw [convert_value] at h
  cases hscan : (scanPage cap page).run.value with
  | ok made =>
      rw [hscan] at h
      rw [(Conversion.mk.inj (Except.ok.inj h)).1]
  | error cause =>
      rw [hscan] at h
      cases hplain : plainNodes page with
      | error cause =>
          rw [hplain] at h
          exact absurd h nofun
      | ok texts =>
          rw [hplain] at h
          exact absurd (congrArg Conversion.fallback (Except.ok.inj h)) nofun

theorem convert_of_scanFails {cap : Cap} {page : List Char} (h : ScanFails cap page) :
    (convert cap page).run.value = (plainNodes page).map fun nodes => ⟨nodes, true⟩ := by
  obtain ⟨cause, hcause⟩ := h
  rw [convert_value, hcause]

end Paperwork
