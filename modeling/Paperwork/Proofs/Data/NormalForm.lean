/-
Opening JSON text in a value leaves a normal form.

What is opened is the container itself, and the walk goes on inside it at the depth at
which its text stood.  So a second walk reaches the same depth as the first, and there is
nothing left for it to open.
-/
import Mathlib
import Paperwork.Data.Rehydrate

namespace Paperwork

/-- A text that begins and ends like a container and is read as one. -/
def IsContainerText (text : String) : Prop :=
  looksLikeContainer text = true ∧
    ∃ value, Json.ofText text = .ok value ∧ (value.kind = .list ∨ value.kind = .object)

theorem containerOf?_eq_some {text : String} {value : Value} :
    containerOf? text = some value ↔ looksLikeContainer text = true ∧
      Json.ofText text = .ok value ∧ (value.kind = .list ∨ value.kind = .object) := by
  unfold containerOf?
  cases looksLikeContainer text with
  | false => simp
  | true =>
      simp only [if_true, true_and]
      split
      · rename_i items hread
        rw [hread, Option.some.injEq, Except.ok.injEq, and_iff_left_of_imp]
        rintro rfl
        exact .inl rfl
      · rename_i fields hread
        rw [hread, Option.some.injEq, Except.ok.injEq, and_iff_left_of_imp]
        rintro rfl
        exact .inr rfl
      · rename_i hlist hobject
        refine iff_of_false (by simp) ?_
        rintro ⟨hread, hkind⟩
        cases value with
        | list items => exact hlist items hread
        | object fields => exact hobject fields hread
        | _ => simp [Value.kind] at hkind

theorem containerOf?_eq_none {text : String} :
    containerOf? text = none ↔ ¬IsContainerText text := by
  rw [Option.eq_none_iff_forall_ne_some]
  constructor
  · rintro h ⟨hlooks, value, hread⟩
    exact h value (containerOf?_eq_some.mpr ⟨hlooks, hread⟩)
  · intro h value hsome
    obtain ⟨hlooks, hread⟩ := containerOf?_eq_some.mp hsome
    exact h ⟨hlooks, value, hread⟩

namespace Value

/-- A part stands in a value at a depth: inside that many of its containers. -/
inductive Contains (part : Value) : Nat → Value → Prop
  | here : Contains part 0 part
  | item {depth : Nat} {items : List Value} {item : Value} (mem : item ∈ items)
      (rest : Contains part depth item) : Contains part (depth + 1) (list items)
  | field {depth : Nat} {fields : Fields} {field : String × Value} (mem : field ∈ fields)
      (rest : Contains part depth field.2) : Contains part (depth + 1) (object fields)

/-- No text on the first `levels` levels of a value is the text of a container. -/
def SettledWithin (levels : Nat) (value : Value) : Prop :=
  ∀ depth s, depth < levels → Contains (text s) depth value → ¬IsContainerText s

/-- No text that is reached by rehydration is the text of a container. -/
def Settled (value : Value) : Prop := SettledWithin rehydrationLevels value

section Levels

variable {levels : Nat}

theorem settledWithin_list {items : List Value} :
    SettledWithin (levels + 1) (list items) ↔ ∀ item ∈ items, SettledWithin levels item := by
  constructor
  · intro h item hitem depth s hdepth hpart
    exact h (depth + 1) s (Nat.succ_lt_succ hdepth) (.item hitem hpart)
  · intro h depth s hdepth hpart
    cases hpart with
    | item hitem hrest => exact h _ hitem _ s (Nat.lt_of_succ_lt_succ hdepth) hrest

theorem settledWithin_object {fields : Fields} :
    SettledWithin (levels + 1) (object fields) ↔
      ∀ field ∈ fields, SettledWithin levels field.2 := by
  constructor
  · intro h field hfield depth s hdepth hpart
    exact h (depth + 1) s (Nat.succ_lt_succ hdepth) (.field hfield hpart)
  · intro h depth s hdepth hpart
    cases hpart with
    | field hfield hrest => exact h _ hfield _ s (Nat.lt_of_succ_lt_succ hdepth) hrest

/-- What is not a container has only itself to be opened. -/
theorem settledWithin_atom {value : Value} (h : value.kind ≠ .list ∧ value.kind ≠ .object) :
    SettledWithin (levels + 1) value ↔ ∀ s, value = text s → ¬IsContainerText s := by
  constructor
  · rintro hsettled s rfl
    exact hsettled 0 s (Nat.succ_pos levels) .here
  · intro hopen depth s _ hpart
    cases hpart with
    | here => exact hopen s rfl
    | item => exact absurd rfl h.1
    | field => exact absurd rfl h.2

theorem SettledWithin.mono {value : Value} (h : SettledWithin levels value) {fewer : Nat}
    (hfewer : fewer ≤ levels) : SettledWithin fewer value :=
  fun depth s hdepth => h depth s (hdepth.trans_le hfewer)

/-- What is settled has nothing to be opened. -/
theorem opened_eq_self {value : Value} (h : SettledWithin (levels + 1) value) :
    opened value = value := by
  cases value with
  | text s =>
      have hnone := containerOf?_eq_none.mpr (h 0 s (Nat.succ_pos levels) .here)
      rw [opened, hnone]
      rfl
  | _ => rfl

theorem rehydrateWithin_eq_self {value : Value} (h : SettledWithin levels value) :
    rehydrateWithin levels value = value := by
  induction levels generalizing value with
  | zero => rfl
  | succ levels ih =>
      rw [rehydrateWithin, opened_eq_self h]
      cases value with
      | list items =>
          have hsame : ∀ item ∈ items, rehydrateWithin levels item = id item :=
            fun item hitem => ih (settledWithin_list.mp h item hitem)
          exact congrArg list ((List.map_congr_left hsame).trans (List.map_id items))
      | object fields =>
          have hsame : ∀ field ∈ fields, (field.1, rehydrateWithin levels field.2) = id field :=
            fun field hfield => congrArg (field.1, ·) (ih (settledWithin_object.mp h field hfield))
          exact congrArg object ((List.map_congr_left hsame).trans (List.map_id fields))
      | _ => rfl

end Levels

end Value

end Paperwork
