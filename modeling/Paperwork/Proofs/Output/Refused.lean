/-
Which bad layouts are refused as such.

A layout that is read is refused for its faults, and whoever asked for the document is told
them.  With an infinite level of a heading the check does not come to an end, and nothing is
told.
-/
import Paperwork.Output.Produce
import Paperwork.Proofs.Answers
import Paperwork.Proofs.Template.Outcome

namespace Paperwork

open Checked (valid)

/-- The layout of a record is the one written by hand, rehydrated. -/
theorem Record.resolve_written {record : Record} {fields : Fields}
    (hwritten : record.metadata.getD "templateConfig" = .object fields) (hne : fields ≠ []) :
    record.resolve.value
      = (Template.check (.object fields.rehydrate)).value.map record.titled := by
  have hgiven : (Value.object fields).isGiven = true := by simpa [Value.isGiven] using hne
  have hlayout : record.layout = Template.check (.object fields.rehydrate) := by
    unfold Record.layout
    rw [hwritten, if_pos hgiven]
    rfl
  rw [← hlayout]
  rfl

namespace Request

/-- A request in a known format for a record with a layout written by hand. -/
structure IsFor (request : Request) (layout : Fields) : Prop where
  format : ∃ format, Format.choose request.format = .ok format
  record : ∃ record, Record.check request.template = valid record ∧
    record.metadata.getD "templateConfig" = .object layout
  given : layout ≠ []

/-- What is produced depends on how the check of the layout ends, and is an error if it does not
end with a template. -/
theorem IsFor.produce_of_bad {request : Request} {layout : Fields} (h : request.IsFor layout) :
    (∀ faults, (Template.check (.object layout.rehydrate)).value = .faulty faults →
      request.produce.run.value = .error (.template faults)) ∧
    ∀ cause, (Template.check (.object layout.rehydrate)).value = .abandoned cause →
      request.produce.run.value = .error (.abandoned cause) := by
  obtain ⟨format, hformat⟩ := h.format
  obtain ⟨record, hrecord, hwritten⟩ := h.record
  have hresolve := Record.resolve_written hwritten h.given
  have hproduce : ∃ rest : Template → Producing Produced, request.produce.run.value
      = (checked record.resolve.value).run.value >>= fun template => (rest template).run.value := by
    have hchosen : (ofExcept .format (.ok format)).run.value = .ok format := rfl
    have hchecked : (checked (valid record)).run.value = .ok record := rfl
    have hresolved : (ExceptT.lift record.resolve : Producing _).run.value
        = .ok record.resolve.value := rfl
    unfold produce
    rw [hformat, hrecord, Noted.value_bind, hchosen, ok_bind, Noted.value_bind, hchecked, ok_bind,
      Noted.value_bind, hresolved, ok_bind, Noted.value_bind]
    exact ⟨_, rfl⟩
  obtain ⟨rest, hproduce⟩ := hproduce
  rw [hproduce, hresolve]
  constructor
  · intro faults hfaulty
    rw [hfaulty]
    rfl
  · intro cause habandoned
    rw [habandoned]
    rfl

end Request

/--
**The check of a template comes to an end unless the level of a heading is infinite.**  It ends
with faults or with a template, which then has the blocks of known types in their order and
headings of the six levels.  A layout that does not become a template is refused for its faults
exactly if none of its levels is infinite.
-/
theorem Template.check_ends_iff (fields : Fields) :
    ((∃ cause, (Template.check (.object fields)).value = .abandoned cause) ↔
      ∃ value ∈ fields.givenBlocks, value.IsEndless) ∧
    (∀ t, (Template.check (.object fields)).value = valid t → t.HasBlocksOf fields) ∧
    ∀ request : Request, request.IsFor fields →
      (∀ t, (Template.check (.object fields.rehydrate)).value ≠ valid t) →
        ((∃ faults, request.produce.run.value = .error (.template faults)) ↔
          ¬∃ value ∈ fields.rehydrate.givenBlocks, value.IsEndless) := by
  refine ⟨Template.check_isAbandoned fields, fun _ => Template.hasBlocksOf, ?_⟩
  intro request hrequest hbad
  obtain ⟨hfaulty, habandoned⟩ := hrequest.produce_of_bad
  rw [← Template.check_isAbandoned]
  constructor
  · rintro ⟨faults, hproduce⟩ ⟨cause, hcause⟩
    rw [habandoned cause hcause] at hproduce
    cases hproduce
  · intro hends
    rcases Checked.ends_of_not_isAbandoned hends with ⟨faults, hfaults⟩ | ⟨t, ht⟩
    · exact ⟨faults, hfaulty faults hfaults⟩
    · exact absurd ht (hbad t)

/-- A layout with a heading. -/
def headedLayout (level title : Value) : Fields :=
  [("title", title), ("blocks", .list [.object [("type", .text "heading"), ("level", level)]])]

/-- A request for a record with a layout. -/
def layoutRequest (layout : Fields) : Request where
  template := .object [("metadata", .object [("templateConfig", .object layout)])]
  inputs := .null
  format := .text "pdf"
  settings := .standard
  printer := none
  time := ⟨2024, 2, 29, 12, 0, 0⟩

theorem layoutRequest_isFor {layout : Fields} (h : layout ≠ []) :
    (layoutRequest layout).IsFor layout where
  format := ⟨_, rfl⟩
  record := ⟨⟨none, "Document", none, [("templateConfig", .object layout)]⟩, rfl, rfl⟩
  given := h

/-- A level that is out of range is no fault, a title that is a number is one. -/
theorem numberedTitle_refused :
    ∃ faults, (layoutRequest (headedLayout (.int 9) (.int 7))).produce.run.value
      = .error (.template faults) := by
  have hlayout : (headedLayout (.int 9) (.int 7)).rehydrate = headedLayout (.int 9) (.int 7) := rfl
  have hcheck : (Template.check (.object (headedLayout (.int 9) (.int 7)))).value
      = .faulty [⟨.notText, [.field "title"]⟩] := rfl
  refine ((Template.check_ends_iff _).2.2 _ (layoutRequest_isFor (by simp [headedLayout]))
    ?_).mpr ?_
  · rw [hlayout, hcheck]
    exact fun t => nofun
  · rw [hlayout]
    rintro ⟨value, hvalue, fields, level, rfl, -, hlevel, -⟩
    obtain rfl := Value.object.inj (List.mem_singleton.mp hvalue)
    cases hlevel

/-- **An infinite level is not examined**, and the request for the document fails without a
reason that can be told.  A number that is too large is read as infinite. -/
theorem infiniteLevel_abandoned :
    Json.ofText "1e400" = .ok (.float (.infinite false)) ∧
    (Template.check (.object (headedLayout (.float (.infinite false)) .null))).value
      = .abandoned .infiniteLevel ∧
    (layoutRequest (headedLayout (.float (.infinite false)) .null)).produce.run.value
      = .error (.abandoned .infiniteLevel) := ⟨rfl, rfl, rfl⟩

end Paperwork
