/-
Which integers a form keeps.

Whatever is given for a number is read in double precision first.  An integer that is rounded
there is not found again, whether it is given as such or as text, and one that is too large is
refused where it is given as such.  All others are kept digit by digit, and white space around
them is passed over.
-/
import Paperwork.Proofs.Form.Shaping
import Paperwork.Proofs.Number.Written

namespace Paperwork.Form

open Paperwork.Text

/-- Under its key a value comes to be `made`, in its place among what is made of the others. -/
def Becomes (schema : Schema) (key : String) (value made : Value) : Prop :=
  ∀ front rest : Fields, shapeInputs (some schema) (front ++ (key, value) :: rest) = do
    return (← shapeInputs (some schema) front) ++ (key, made) :: (← shapeInputs (some schema) rest)

/-! ### One value -/

theorem IsNumber.holds {whole : Bool} {n : Int} (h : IsNumber whole (.int n)) :
    Binary64.Holds n := by
  cases h with
  | int held => exact held

theorem toNumber_int_eq_self {whole : Bool} {n : Int} :
    toNumber whole (.int n) = .ok (.int n) ↔ Binary64.Holds n :=
  ⟨fun h => (toNumber_isNumber h).holds, fun held => (IsNumber.int held).toNumber_eq⟩

/-- The text of an integer is the integer if it is held and its blanks are passed over; zero is
also what other texts count as. -/
theorem toNumber_padded_eq {whole : Bool} {n : Int} {before after : String}
    (hblank : ∀ c ∈ before.toList ++ after.toList, isBlank c = true) :
    toNumber whole (.text (before ++ toString n ++ after)) = .ok (.int n) ↔
      Binary64.Holds n ∧ (n = 0 ∨ ∀ c ∈ before.toList ++ after.toList, isSpace c = true) := by
  by_cases hspace : ∀ c ∈ before.toList ++ after.toList, isSpace c = true
  · rw [and_iff_left (.inr hspace)]
    refine ⟨fun h => (toNumber_isNumber h).holds, fun held => ?_⟩
    have hsides := List.forall_mem_append.mp hspace
    have hbound : n.natAbs < 10 ^ 310 := held.lt.trans_le (by decide +kernel)
    rw [toNumber_text, Decimal.toFloat?_padded hbound hsides.1 hsides.2, Option.getD_some,
      ofDouble_ofInt whole held]
  · rw [toNumber_text, Decimal.toFloat?_padded_none hblank hspace, Option.getD_none,
      ofDouble_zero, Except.ok.injEq, Value.int.injEq]
    constructor
    · rintro rfl
      exact ⟨Binary64.holds_zero, .inl rfl⟩
    · rintro ⟨-, hn⟩
      exact (hn.resolve_right hspace).symm

/-! ### In a form -/

section Field

variable {schema field : Schema} {key : String}

theorem declared_ne_nil (hfield : schema.declared.lookup key = some field) :
    schema.declared ≠ [] := by
  intro hnil
  simp [hnil] at hfield

theorem typeOf_of_lookup (hfield : schema.declared.lookup key = some field) :
    typeOf schema.declared key = field.type := by
  rw [typeOf, hfield, Option.bind_some]

theorem asked_cons (hfield : schema.declared.lookup key = some field) (value : Value)
    (rest : Fields) : asked schema.declared ((key, value) :: rest)
      = (key, value) :: asked schema.declared rest :=
  List.filter_cons_of_pos (by simp [hfield])

/-- What becomes of a value depends on the type of its field only. -/
theorem becomes_iff (hfield : schema.declared.lookup key = some field) {value made : Value} :
    Becomes schema key value made ↔ coerce field.type value = .ok made := by
  have htype := typeOf_of_lookup hfield
  unfold Becomes
  simp only [shapeInputs_of_declared (declared_ne_nil hfield)]
  constructor
  · intro h
    have hmade := coerceDeclared_eq_ok.mp (h [] [])
    rw [List.nil_append, asked_cons hfield, List.nil_append, List.forall₂_cons, htype] at hmade
    exact hmade.1.2
  · intro h front rest
    have hone : coerceField schema.declared (key, value) = .ok (key, made) :=
      coerceField_eq_ok.mpr ⟨rfl, htype ▸ h⟩
    simp only [coerceDeclared_eq_mapM]
    rw [asked, List.filter_append, ← asked, ← asked, asked_cons hfield, List.mapM_append,
      List.mapM_cons, hone]
    simp

theorem shapeInputs_single_error (hfield : schema.declared.lookup key = some field)
    {value : Value} : (∃ e, shapeInputs (some schema) [(key, value)] = .error e) ↔
      ∃ e, coerce field.type value = .error e := by
  have hone : asked schema.declared [(key, value)] = [(key, value)] := asked_cons hfield value []
  rw [shapeInputs_of_declared (declared_ne_nil hfield), coerceDeclared_error, hone]
  simp [typeOf_of_lookup hfield]

/--
**An integer is kept exactly if double precision holds it.**  In a field for numbers the integers
that are kept are those that are not rounded, and so it is with their texts, if no other blanks
than white space stand around them.  An integer that is too large for double precision is
refused, though never its text.
-/
theorem integer_kept_iff (hfield : schema.declared.lookup key = some field)
    (hnumeric : IsNumeric field.type) (n : Int) {before after : String}
    (hblank : ∀ c ∈ before.toList ++ after.toList, isBlank c = true) :
    (Becomes schema key (.int n) (.int n) ↔ Binary64.Holds n) ∧
    (Becomes schema key (.text (before ++ toString n ++ after)) (.int n) ↔
      Binary64.Holds n ∧ (n = 0 ∨ ∀ c ∈ before.toList ++ after.toList, isSpace c = true)) ∧
    ((∃ e, shapeInputs (some schema) [(key, .int n)] = .error e) ↔ 2 ^ 1024 - 2 ^ 970 ≤ n.natAbs) ∧
    ∃ made, Becomes schema key (.text (before ++ toString n ++ after)) made := by
  obtain ⟨whole, hcoerce⟩ := coerce_of_isNumeric hnumeric
  simp only [becomes_iff hfield, shapeInputs_single_error hfield, hcoerce]
  refine ⟨toNumber_int_eq_self, toNumber_padded_eq hblank, ?_, _, rfl⟩
  rw [toNumber_error]
  simp only [Value.int.injEq, exists_eq_left']

end Field

/-- White space around an integer is passed over. -/
theorem paddedAmount_kept :
    ∃ field, amountForm.declared.lookup "amount" = some field ∧ IsNumeric field.type ∧
      (∀ c ∈ " ".toList ++ "\n".toList, isBlank c = true) ∧
      Becomes amountForm "amount" (.text (" " ++ toString (5 : Int) ++ "\n")) (.int 5) := by
  have hspace : ∀ c ∈ " ".toList ++ "\n".toList, isSpace c = true := by simp [isSpace]
  have hblank : ∀ c ∈ " ".toList ++ "\n".toList, isBlank c = true := by simp [isBlank, isSpace]
  have held : Binary64.Holds 5 := Binary64.holds_of_lt (by decide)
  exact ⟨_, rfl, .inr rfl, hblank,
    (integer_kept_iff rfl (.inr rfl) 5 hblank).2.1.mpr ⟨held, .inr hspace⟩⟩

/-- An integer of 54 bits is rounded to its neighbour. -/
theorem oddAmount_rounded :
    shapeInputs (some amountForm) [("amount", .int 9007199254740993)]
      = .ok [("amount", .int 9007199254740992)] := by
  have hcut : (Binary64.ofInt 9007199254740993).truncate? = some 9007199254740992 := by
    decide +kernel
  have hnumber : toNumber true (.int 9007199254740993) = .ok (.int 9007199254740992) := by
    rcases toNumber_int true 9007199254740993 with ⟨hlarge, -⟩ | ⟨-, hok⟩
    · exact absurd (Binary64.isInfinite_ofInt.mp hlarge) (by decide +kernel)
    · rw [hok, ofDouble, hcut]
      simp only [Bool.true_or, if_true]
  rw [shapeInputs_of_declared (by simp [amountForm, Schema.declared]), coerceDeclared_eq_ok]
  exact .cons ⟨rfl, hnumber⟩ .nil

end Paperwork.Form
