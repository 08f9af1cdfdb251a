/-
A template that was saved is the same template when it is read.

Templates are read as they are written, and so they are the same after any number of times.
What `compile` puts in a file has no styles and no numbers other than the levels of its
headings, so its text is read back as the value that was written, and `render` starts
from the very template that the schema compiles to.
-/
import Paperwork.Command.Run
import Paperwork.Proofs.Data.Json.Indented
import Paperwork.Proofs.Form.Compiled

namespace Paperwork

open Checked (valid)

/-! ### Files -/

theorem Files.lookup_set (files : Files) (path : FileName) (content : FileContent) :
    (files.set path content).lookup path = some content := by
  unfold Files.set
  by_cases hfile : files.isFile path = true
  · rw [if_pos hfile]
    unfold isFile at hfile
    induction files with
    | nil => simp at hfile
    | cons file files ih =>
        obtain ⟨other, old⟩ := file
        by_cases hpath : other = path
        · simp [hpath]
        · have hne : (path == other) = false := beq_false_of_ne (Ne.symm hpath)
          rw [List.lookup_cons, hne] at hfile
          have hrest := ih hfile
          simp only [List.map_cons, if_neg hpath, List.lookup_cons, hne]
          exact hrest
  · have hnone : files.lookup path = none := Option.not_isSome_iff_eq_none.mp hfile
    rw [if_neg hfile, List.lookup_append, hnone]
    simp

/-- A file holds what was written to it. -/
theorem Files.get_of_write {files after : Files} {name : String} {content : FileContent}
    (h : files.write name content = .ok after) : after.get name = .ok content := by
  unfold Files.write at h
  by_cases hname : name.isEmpty = true
  · exact absurd h (by rw [if_pos hname]; simp)
  by_cases hfile : namesDirectory name = true
  · simp only [if_neg hname, hfile, if_true, Bool.true_or] at h
    split_ifs at h
  have hplain : namesDirectory name = false := eq_false_of_ne_true hfile
  simp only [if_neg hname, hplain, Bool.false_eq_true, if_false, Bool.false_or] at h
  split_ifs at h
  obtain rfl := Except.ok.inj h
  rw [Files.get, if_neg hname, Files.lookup_set]
  exact if_neg hfile

/-- A plain value is read from the file that it was written to. -/
theorem Command.readJson_written {value : Value} (hplain : value.Plain Json.nestingLimit)
    {files after : Files} {name : String}
    (h : files.write name (Command.jsonText value) = .ok after) :
    Command.readJson after name = pure value := by
  have hread := (Json.readsBack_indented hplain 0 (Nat.le_refl Json.nestingLimit)).ofText
  have htext : after.readText name = .ok (String.ofList (Json.indented 0 value)) := by
    have hlines := Text.withLineFeeds_eq_self (Json.return_not_mem_indented hplain 0)
    rw [Files.readText, Files.get_of_write h, Command.jsonText, ok_bind]
    show Except.ok (String.ofList (Text.withLineFeeds (String.ofList _).toList)) = _
    rw [String.toList_ofList, hlines]
  rw [Command.readJson, htext]
  show Command.step .json (Json.ofText (String.ofList (Json.indented 0 value))) = _
  rw [hread]
  rfl

/-! ### Templates -/

/-- **A template is the same when it is read again.**  What an accepted template is written as
is accepted as that very template, and no block is passed over.  So is the file that the
template compiled from a schema is written to. -/
theorem template_readAgain :
    (∀ (value : Value) (t : Template), (Template.check value).value = valid t →
      Template.check t.toValue = ⟨valid t, []⟩) ∧
    ∀ (schema : Value) (files after : Files) (name : String),
      files.write name (Command.jsonText (Record.compiled schema).value.toValue) = .ok after →
        (Command.readJson after name >>= Command.readTemplate)
          = pure (Record.compiled schema).value := by
  refine ⟨fun value t h => (Template.check_plain h).check_toValue, ?_⟩
  intro schema files after name h
  have hwithin : (Record.compiled schema).value.toValue.Plain Json.nestingLimit :=
    (Record.compiled_plain_toValue schema).mono (by decide)
  have hcheck := (Record.compiled_plain schema).check_toValue
  rw [Command.readJson_written hwithin h]
  show Command.readTemplate (Record.compiled schema).value.toValue = _
  rw [Command.readTemplate, hcheck]
  rfl

/-- A template with a level out of range, a second name for a field, a truth value in a style
and a block of a type that is not known. -/
def looseTemplate : Value :=
  .object [
    ("styles", .object [("paragraph", .object [("margin", .bool true)])]),
    ("blocks", .list [
      .object [("type", .text "heading"), ("text", .text "Order"), ("level", .text "9")],
      .object [("type", .text "picture")],
      .object [("type", .text "table"), ("data_path", .text "lines"),
        ("columns", .list [.object [("header", .text "Item"), ("path", .text "item")]])],
      .object [("type", .text "signature"),
        ("name", .object [("bind", .object [("path", .text "clerk")])])]])]

theorem looseTemplate_readAgain :
    (∃ t, (Template.check looseTemplate).value = valid t ∧ t.blocks.length = 3 ∧
      Template.check t.toValue = ⟨valid t, []⟩) ∧
    ∃ schema after, Files.write [] "order.json"
        (Command.jsonText (Record.compiled schema).value.toValue) = .ok after ∧
      (Command.readJson after "order.json" >>= Command.readTemplate)
        = pure (Record.compiled schema).value := by
  refine ⟨⟨_, rfl, rfl, template_readAgain.1 looseTemplate _ rfl⟩, ?_⟩
  exact ⟨.object [("properties", .object [("item", .object [("type", .text "string")])])], _, rfl,
    template_readAgain.2 _ [] _ "order.json" rfl⟩

end Paperwork
