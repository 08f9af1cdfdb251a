/-
Which paths can be followed, and where paths lead that are put together.

A segment of digits asks a list for one of its items, and it has to be converted to a number
first.  Not all digits can be converted, and not arbitrarily many.  Nothing else in a path can
go wrong: a key that is missing, a position past the end and a segment that is asked of a
value without parts all lead to null.

A path may be cut at any of its dots.  Following it does not stop early: null leads to null,
whatever is asked of it, so it is the same to follow the rest of a path from wherever its
front has led.
-/
import Paperwork.Data.Path
import Paperwork.Proofs.Answers
import Paperwork.Proofs.Text.Split

namespace Paperwork

open Paperwork.Text

namespace Path

/-- A segment can be converted to a number: its characters are decimal digits, and no more of
them than are converted. -/
def IsNumeral (segment : String) : Prop :=
  (∀ c ∈ segment.toList, decimalDigit? c ≠ none) ∧ segment.toList.length ≤ Decimal.digitLimit

theorem position_answers (segment : String) :
    (∃ n, position segment = .ok n) ↔ IsNumeral segment := by
  unfold position IsNumeral
  cases hdigits : segment.toList.mapM decimalDigit? with
  | none =>
      obtain ⟨c, hc, hnone⟩ := mapM_eq_none.mp hdigits
      exact iff_of_false (by simp) fun h => h.1 c hc hnone
  | some digits =>
      have hall : ∀ c ∈ segment.toList, decimalDigit? c ≠ none := by
        intro c hc hnone
        rw [mapM_eq_none.mpr ⟨c, hc, hnone⟩] at hdigits
        cases hdigits
      have hlength : segment.toList.length = digits.length := (mapM_eq_some.mp hdigits).length_eq
      rw [and_iff_right hall, hlength, ← Nat.not_lt]
      by_cases hlong : Decimal.digitLimit < digits.length
      · simp [hlong]
      · simp [hlong]

/-- A step fails only if a list is asked for a position that is not a number. -/
theorem step_answers (value : Value) (segment : String) :
    (∃ found, step value segment = .ok found) ↔
      ∀ items, value = .list items → isPosition segment = true → IsNumeral segment := by
  cases value with
  | list items =>
      rw [step]
      by_cases hposition : isPosition segment = true
      · rw [if_pos hposition, ← position_answers]
        constructor
        · rintro ⟨found, hfound⟩ _ _ _
          obtain ⟨n, hn, -⟩ := bind_eq_ok.mp hfound
          exact ⟨n, hn⟩
        · intro h
          obtain ⟨n, hn⟩ := h items rfl hposition
          exact ⟨items.getD n .null, bind_eq_ok.mpr ⟨n, hn, rfl⟩⟩
      · rw [if_neg hposition]
        exact iff_of_true ⟨.null, rfl⟩ fun _ _ h => absurd h hposition
  | object fields => exact iff_of_true ⟨Fields.getD fields segment, rfl⟩ nofun
  | _ => exact iff_of_true ⟨.null, rfl⟩ nofun

/-- Wherever a row of segments comes to a list, the next one can be counted if it is of digits. -/
def Followable (value : Value) (segments : List String) : Prop :=
  ∀ front segment rest items, segments = front ++ segment :: rest →
    follow value front = .ok (.list items) → isPosition segment = true → IsNumeral segment

theorem followable_cons {value : Value} {segment : String} {segments : List String} :
    Followable value (segment :: segments) ↔
      (∃ found, step value segment = .ok found) ∧
        ∀ found, step value segment = .ok found → Followable found segments := by
  rw [step_answers]
  constructor
  · intro h
    refine ⟨fun items heq hposition => ?_, ?_⟩
    · exact h [] segment segments items rfl (congrArg Except.ok heq) hposition
    · intro found hfound front next rest items hsplit hfollow
      refine h (segment :: front) next rest items (by rw [hsplit]; rfl) ?_
      rw [follow, hfound]
      exact hfollow
  · rintro ⟨hfirst, hrest⟩ front next rest items hsplit hfollow
    cases front with
    | nil =>
        obtain ⟨rfl, -⟩ := List.cons.inj hsplit
        exact hfirst items (Except.ok.inj hfollow)
    | cons key front =>
        obtain ⟨rfl, hsegments⟩ := List.cons.inj hsplit
        obtain ⟨found, hfound, hfollow⟩ := bind_eq_ok.mp hfollow
        exact hrest found hfound front next rest items hsegments hfollow

theorem follow_answers (value : Value) (segments : List String) :
    (∃ found, follow value segments = .ok found) ↔ Followable value segments := by
  induction segments generalizing value with
  | nil =>
      refine iff_of_true ⟨value, rfl⟩ ?_
      intro front segment rest items hsplit
      simp at hsplit
  | cons segment segments ih =>
      rw [followable_cons, follow]
      constructor
      · rintro ⟨found, hfound⟩
        obtain ⟨next, hnext, hrest⟩ := bind_eq_ok.mp hfound
        refine ⟨⟨next, hnext⟩, fun other hother => ?_⟩
        obtain rfl : next = other := Except.ok.inj (hnext.symm.trans hother)
        exact (ih next).mp ⟨found, hrest⟩
      · rintro ⟨⟨next, hnext⟩, hrest⟩
        obtain ⟨found, hfound⟩ := (ih next).mpr (hrest next hnext)
        exact ⟨found, bind_eq_ok.mpr ⟨next, hnext, hfound⟩⟩

/-! ### Paths that are put together -/

/-- A dot between two paths ends the last segment of the first. -/
theorem segments_append (p q : String) :
    segments (p ++ "." ++ q) = segments p ++ segments q := by
  have htext : (p ++ "." ++ q).toList = p.toList ++ '.' :: q.toList := by simp
  rw [segments, htext, splitWhere_append_of_true (by decide), List.map_append]
  rfl

/-- Segments are followed one after another, and an error on the way is the error of all. -/
theorem follow_append (value : Value) (front back : List String) :
    follow value (front ++ back) = follow value front >>= fun found => follow found back := by
  induction front generalizing value with
  | nil => rfl
  | cons segment front ih =>
      rw [List.cons_append, follow, follow]
      cases step value segment with
      | error cause => rfl
      | ok found => exact ih found

end Path

theorem Value.at?_eq_follow (data : Value) {path : String} (h : path ≠ "") :
    data.at? (some path) = Path.follow data (Path.segments path) := by
  rw [at?, if_neg (mt String.isEmpty_iff.mp h)]

/--
**Following a path is following its front and then, from there, its rest.**  Wherever a path is
cut at one of its dots, the rest of it leads to the same value, or fails in the same way; also
if the front leads to null or fails, if segments are empty, and if a cut lies between a list and
the position asked of it.  Both parts have to hold something, as the empty path leads nowhere.
-/
theorem Value.at?_append (data : Value) {p q : String} (hp : p ≠ "") (hq : q ≠ "") :
    data.at? (some (p ++ "." ++ q))
      = data.at? (some p) >>= fun found => found.at? (some q) := by
  have hjoined : p ++ "." ++ q ≠ "" := by simp
  have hrest : (fun found : Value => found.at? (some q))
      = fun found => Path.follow found (Path.segments q) :=
    funext fun found => found.at?_eq_follow hq
  rw [data.at?_eq_follow hjoined, data.at?_eq_follow hp, hrest, Path.segments_append,
    Path.follow_append]

/-- A list of which an item has a field without a name. -/
def unnamedField : Value := .object [("rows", .list [.null, .object [("", .list [.text "a"])]])]

theorem unnamedField_at?_append :
    "rows.1" ≠ "" ∧ ".0" ≠ "" ∧
      unnamedField.at? (some ("rows.1" ++ "." ++ ".0"))
        = unnamedField.at? (some "rows.1") >>= fun found => found.at? (some ".0") :=
  ⟨by decide, by decide, unnamedField.at?_append (by decide) (by decide)⟩

/--
**When a path leads somewhere, be it to null.**  It does unless it comes to a list, the next
segment has digits only, and these are no number: one of them is not a decimal digit, or there
are more than are converted.
-/
theorem Value.at?_answers_iff (data : Value) (path : String) :
    (∃ found, data.at? (some path) = .ok found) ↔ Path.Followable data (Path.segments path) := by
  rw [← Path.follow_answers, Value.at?]
  by_cases hempty : path.isEmpty = true
  · obtain rfl := String.isEmpty_iff.mp hempty
    refine iff_of_true ⟨.null, rfl⟩ ((Path.follow_answers data _).mpr ?_)
    intro front segment rest items hsplit _ hposition
    have hmem : segment ∈ Path.segments "" := by simp [hsplit]
    have hsegments : Path.segments "" = [""] := by decide
    obtain rfl : segment = "" := by simpa [hsegments] using hmem
    cases hposition
  · rw [if_neg hempty]

/-- The digit that is written above a line is no number. -/
theorem Value.superscript_refused :
    (Value.list [.int 1]).at? (some "²") = .error (.notDecimal "²") := by
  rfl

end Paperwork
