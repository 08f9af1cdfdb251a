/-
Form values fit the types that their fields declare.

What a value is taken to fits the declared type, and what fits a type is taken to itself: so
shaping reaches a normal form in one go.  The values keep their order, those of fields that are
not declared are left out, and nothing goes wrong but that an integer is too large.
-/
import Paperwork.Form.Inputs
import Paperwork.Proofs.Answers
import Paperwork.Proofs.Data.NormalForm
import Paperwork.Proofs.Number.Exact

namespace Paperwork.Form

open Paperwork.Text

/-! ### Numbers -/

/-- What a number is as a form value: an integer that double precision holds or, where no
integer is asked for, a finite number with a fraction. -/
inductive IsNumber : Bool → Value → Prop
  | int {whole : Bool} {n : Int} (held : Binary64.Holds n) : IsNumber whole (.int n)
  | fraction {x : Binary64} {n : Int} (finite : x.truncate? = some n) (part : x.isWhole = false) :
      IsNumber false (.float x)

theorem isNumber_ofDouble (whole : Bool) (x : Binary64) : IsNumber whole (ofDouble whole x) := by
  unfold ofDouble
  split
  · exact .int Binary64.holds_zero
  · rename_i n hfinite
    split_ifs with hwhole
    · exact .int (Binary64.holds_of_truncate? hfinite)
    · obtain ⟨rfl, hpart⟩ : whole = false ∧ x.isWhole = false := by simpa using hwhole
      exact .fraction hfinite hpart

theorem ofDouble_ofInt (whole : Bool) {n : Int} (h : Binary64.Holds n) :
    ofDouble whole (Binary64.ofInt n) = .int n := by
  rw [ofDouble, Binary64.truncate?_ofInt h, Binary64.isWhole_ofInt h]
  simp

theorem ofDouble_zero (whole : Bool) : ofDouble whole (Binary64.zero false) = .int 0 := by
  rw [← Binary64.ofInt_zero, ofDouble_ofInt whole Binary64.holds_zero]

/-- An integer is rounded to double precision, unless it is too large. -/
theorem toNumber_int (whole : Bool) (n : Int) :
    (Binary64.ofInt n).IsInfinite ∧ toNumber whole (.int n) = .error ⟨⟩ ∨
      ¬ (Binary64.ofInt n).IsInfinite ∧
        toNumber whole (.int n) = .ok (ofDouble whole (Binary64.ofInt n)) := by
  -- Unfolding the call makes the kernel compute the rounding of an integer it does not know,
  -- so the function is unfolded on its own and rounding is given a name.
  have hany : ∀ taken : Bool → Value → Except NumberTooLarge Value, toNumber = taken →
      (Binary64.ofInt n).IsInfinite ∧ taken whole (.int n) = .error ⟨⟩ ∨
        ¬ (Binary64.ofInt n).IsInfinite ∧
          taken whole (.int n) = .ok (ofDouble whole (Binary64.ofInt n)) := by
    intro taken htaken
    delta toNumber at htaken
    obtain ⟨rounded, hrounded⟩ : ∃ f, f = Binary64.ofInt := ⟨_, rfl⟩
    rw [← hrounded] at htaken ⊢
    subst htaken
    cases h : rounded n <;> simp [Binary64.IsInfinite, h]
  exact hany toNumber rfl

/-- A text that is no number counts as zero. -/
theorem toNumber_text (whole : Bool) (s : String) :
    toNumber whole (.text s)
      = .ok (ofDouble whole ((Decimal.toFloat? s).getD (Binary64.zero false))) := rfl

/-- Only an integer can be too large. -/
theorem toNumber_error {whole : Bool} {value : Value} :
    (∃ e, toNumber whole value = .error e) ↔
      ∃ n, value = .int n ∧ 2 ^ 1024 - 2 ^ 970 ≤ n.natAbs := by
  cases value with
  | int n =>
      simp only [Value.int.injEq, exists_eq_left', ← Binary64.isInfinite_ofInt]
      rcases toNumber_int whole n with ⟨hlarge, herror⟩ | ⟨hfinite, hok⟩
      · exact iff_of_true ⟨_, herror⟩ hlarge
      · rw [hok]
        exact iff_of_false nofun hfinite
  | _ => exact iff_of_false nofun nofun

/-- The number of double precision that a value is read as, if it is one. -/
def reading? : Value → Option Binary64
  | .bool b => some (.ofInt (if b then 1 else 0))
  | .int n => some (.ofInt n)
  | .float x => some x
  | .text s => Decimal.toFloat? s
  | _ => none

/-- What is made of a value is the number that it is read as, and zero if it is none. -/
theorem toNumber_reading {whole : Bool} {value made : Value}
    (h : toNumber whole value = .ok made) :
    made = ((reading? value).map (ofDouble whole)).getD (.int 0) := by
  cases value with
  | bool b =>
      obtain rfl := Except.ok.inj h
      have held : Binary64.Holds (if b then 1 else 0) :=
        Binary64.holds_of_lt (by cases b <;> decide)
      rw [reading?, Option.map_some, Option.getD_some, ofDouble_ofInt whole held]
  | int n =>
      rcases toNumber_int whole n with ⟨-, herror⟩ | ⟨-, hok⟩
      · rw [herror] at h
        cases h
      · rw [hok] at h
        rw [reading?, Option.map_some, Option.getD_some, ← Except.ok.inj h]
  | float x => exact (Except.ok.inj h).symm
  | text s =>
      rw [toNumber_text] at h
      obtain rfl := Except.ok.inj h
      cases hread : Decimal.toFloat? s with
      | none => simp [reading?, hread, ofDouble_zero]
      | some x => simp [reading?, hread]
  | _ => exact (Except.ok.inj h).symm

theorem toNumber_isNumber {whole : Bool} {value made : Value}
    (h : toNumber whole value = .ok made) : IsNumber whole made := by
  rw [toNumber_reading h]
  cases reading? value with
  | none => exact .int Binary64.holds_zero
  | some x => exact isNumber_ofDouble whole x

/-- **What has been made a number stays as it is.** -/
theorem IsNumber.toNumber_eq {whole : Bool} {value : Value} (h : IsNumber whole value) :
    toNumber whole value = .ok value := by
  cases h with
  | int held =>
      rename_i n
      rcases toNumber_int whole n with ⟨hlarge, -⟩ | ⟨-, hok⟩
      · exact absurd held.lt (Nat.not_lt.mpr (Binary64.isInfinite_ofInt.mp hlarge))
      · rw [hok, ofDouble_ofInt whole held]
  | fraction finite part =>
      refine congrArg Except.ok ?_
      rw [ofDouble, finite, part]
      rfl

/-! ### Single values -/

/-- The types of fields that are given numbers. -/
def IsNumeric (type : Option String) : Prop := type = some "number" ∨ type = some "integer"

/-- What a field for numbers makes of a value. -/
theorem coerce_of_isNumeric {type : Option String} (h : IsNumeric type) :
    ∃ whole, ∀ value, coerce type value = toNumber whole value := by
  rcases h with rfl | rfl
  · exact ⟨false, fun _ => rfl⟩
  · exact ⟨true, fun _ => rfl⟩

section Declared

variable {declared : List (String × Schema)}

/-- The values that a form asks for: those of declared fields, in the order they are given. -/
def asked (declared : List (String × Schema)) (fields : Fields) : Fields :=
  fields.filter fun field => (declared.lookup field.1).isSome

/-- The type that a field declares, if it does. -/
def typeOf (declared : List (String × Schema)) (key : String) : Option String :=
  (declared.lookup key).bind Schema.type

/-- A field with its value taken to its type. -/
def coerceField (declared : List (String × Schema)) (field : String × Value) :
    Except NumberTooLarge (String × Value) := do
  return (field.1, ← coerce (typeOf declared field.1) field.2)

theorem coerceDeclared_eq_mapM (fields : Fields) :
    coerceDeclared declared fields = (asked declared fields).mapM (coerceField declared) := by
  induction fields with
  | nil => rfl
  | cons field fields ih =>
      obtain ⟨key, value⟩ := field
      rw [coerceDeclared]
      cases hschema : declared.lookup key with
      | none =>
          rw [ih, asked, asked, List.filter_cons_of_neg (by simp [hschema])]
      | some schema =>
          have htype : typeOf declared key = schema.type := by
            rw [typeOf, hschema, Option.bind_some]
          rw [asked, List.filter_cons_of_pos (by simp [hschema]), List.mapM_cons, coerceField,
            htype, ih]
          simp only [bind_assoc, pure_bind]
          rfl

theorem coerceField_eq_ok {field made : String × Value} :
    coerceField declared field = .ok made ↔
      made.1 = field.1 ∧ coerce (typeOf declared field.1) field.2 = .ok made.2 := by
  obtain ⟨key, value⟩ := made
  rw [coerceField, bind_eq_ok]
  constructor
  · rintro ⟨shaped, hshaped, hmade⟩
    obtain ⟨rfl, rfl⟩ := Prod.mk.inj (Except.ok.inj hmade)
    exact ⟨rfl, hshaped⟩
  · rintro ⟨rfl, hshaped⟩
    exact ⟨value, hshaped, rfl⟩

theorem coerceField_error {field : String × Value} :
    (∃ e, coerceField declared field = .error e) ↔
      ∃ e, coerce (typeOf declared field.1) field.2 = .error e := by
  rw [coerceField]
  cases coerce (typeOf declared field.1) field.2 with
  | error e => exact iff_of_true ⟨e, rfl⟩ ⟨e, rfl⟩
  | ok shaped => exact iff_of_false nofun nofun

theorem coerceDeclared_eq_ok {fields made : Fields} :
    coerceDeclared declared fields = .ok made ↔
      List.Forall₂ (fun field made =>
        made.1 = field.1 ∧ coerce (typeOf declared field.1) field.2 = .ok made.2)
        (asked declared fields) made := by
  rw [coerceDeclared_eq_mapM, mapM_eq_ok]
  simp only [coerceField_eq_ok]

/-- Shaping fails if the value of a declared field does. -/
theorem coerceDeclared_error {fields : Fields} :
    (∃ e, coerceDeclared declared fields = .error e) ↔
      ∃ field ∈ asked declared fields,
        ∃ e, coerce (typeOf declared field.1) field.2 = .error e := by
  rw [coerceDeclared_eq_mapM, mapM_eq_error]
  simp only [coerceField_error]

end Declared

theorem shapeInputs_of_declared {schema : Schema} (h : schema.declared ≠ []) (inputs : Fields) :
    shapeInputs (some schema) inputs = coerceDeclared schema.declared inputs := by
  have hsome : (declaredBy (some schema)).isEmpty = false := by simpa [declaredBy] using h
  rw [shapeInputs, hsome]
  rfl

/-- A form that asks for one integer. -/
def amountForm : Schema :=
  ⟨none, none, none, none, none,
    some [("amount", ⟨some "integer", none, none, none, none, none, []⟩)], []⟩

end Paperwork.Form
