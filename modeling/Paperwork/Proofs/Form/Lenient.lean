/-
Reading a schema leniently against reading it strictly.

A schema that is read strictly is read leniently as the same one, and nothing is noted.  In
general the lenient reading keeps each property and item schema that can be read on its own, as
what it is read as on its own.  So what cannot be read has no effect on anything around it:
it could as well not be there.
-/
import Paperwork.Form.Schema.Read
import Paperwork.Proofs.Answers
import Paperwork.Proofs.Checking.Abandoned
import Paperwork.Proofs.Data.Fields

namespace Paperwork

theorem Noted.silent_bind {α β : Type} (a : α) (f : α → Noted β) : (silent a >>= f) = f a := rfl

namespace Schema

open Checked (valid)

/-! ### The fields of a schema that are schemas, one by one -/

theorem checkItems_cons (key : String) (value : Value) (rest : Fields) :
    checkItems ((key, value) :: rest) =
      if key = "items" then
        match value with
        | .null => valid none
        | value => (some <$> check value).under (.field "items")
      else checkItems rest := by
  cases value <;> rfl

theorem readItems_cons (place key : String) (value : Value) (rest : Fields) :
    readItems place ((key, value) :: rest) =
      if key = "items" then
        match value with
        | .null => Noted.silent none
        | value => read (place ++ ".items") value
      else readItems place rest := by
  cases value <;> rfl

theorem checkProperties_cons (key : String) (value : Value) (rest : Fields) :
    checkProperties ((key, value) :: rest) =
      if key = "properties" then
        match value with
        | .null => valid none
        | .object properties => (some <$> checkEach properties).under (.field "properties")
        | _ => (Checked.fault .notObject).under (.field "properties")
      else checkProperties rest := by
  cases value <;> rfl

theorem readProperties_cons (place key : String) (value : Value) (rest : Fields) :
    readProperties place ((key, value) :: rest) =
      if key = "properties" then
        match value with
        | .null => Noted.silent none
        | .object properties => some <$> readEach place properties
        | value => ⟨none, [.propertiesIgnored place value.kind]⟩
      else readProperties place rest := by
  cases value <;> rfl

/-! ### What is read strictly -/

mutual

/-- What is read strictly is read leniently without a notice. -/
theorem read_of_check (place : String) : ∀ {value : Value} {schema : Schema},
    check value = valid schema → read place value = Noted.silent (some schema)
  | .object fields, schema, h => by
      rw [check] at h
      obtain ⟨f, properties, hf, hproperties, rfl⟩ := Checked.seq_eq_valid.mp h
      obtain ⟨g, items, hg, hitems, rfl⟩ := Checked.seq_eq_valid.mp hf
      obtain ⟨header, hheader, rfl⟩ := Checked.fmap_eq_valid.mp hg
      rw [read, readProperties_of_check place hproperties, Noted.silent_bind,
        readItems_of_check place hitems, Noted.silent_bind, assembled, hheader]
      rfl
  | .null, _, h => nomatch h
  | .bool _, _, h => nomatch h
  | .int _, _, h => nomatch h
  | .float _, _, h => nomatch h
  | .text _, _, h => nomatch h
  | .list _, _, h => nomatch h

theorem readItems_of_check (place : String) : ∀ {fields : List (String × Value)}
    {items : Option Schema}, checkItems fields = valid items →
      readItems place fields = Noted.silent items
  | [], items, h => by
      obtain rfl := Checked.valid.inj h
      rfl
  | (key, value) :: rest, items, h => by
      rw [checkItems_cons] at h
      rw [readItems_cons]
      by_cases hkey : key = "items"
      · rw [if_pos hkey] at h ⊢
        split at h
        · obtain rfl := Checked.valid.inj h
          rfl
        · obtain ⟨schema, hschema, rfl⟩ := Checked.fmap_eq_valid.mp (Checked.under_eq_valid.mp h)
          exact read_of_check _ hschema
      · rw [if_neg hkey] at h ⊢
        exact readItems_of_check place h

theorem readProperties_of_check (place : String) : ∀ {fields : List (String × Value)}
    {properties : Option (List (String × Schema))}, checkProperties fields = valid properties →
      readProperties place fields = Noted.silent properties
  | [], properties, h => by
      obtain rfl := Checked.valid.inj h
      rfl
  | (key, value) :: rest, properties, h => by
      rw [checkProperties_cons] at h
      rw [readProperties_cons]
      by_cases hkey : key = "properties"
      · rw [if_pos hkey] at h ⊢
        split at h
        · obtain rfl := Checked.valid.inj h
          rfl
        · obtain ⟨schemas, hschemas, rfl⟩ := Checked.fmap_eq_valid.mp (Checked.under_eq_valid.mp h)
          exact congrArg (some <$> ·) (readEach_of_check place hschemas)
        · exact nomatch h
      · rw [if_neg hkey] at h ⊢
        exact readProperties_of_check place h

theorem readEach_of_check (place : String) : ∀ {properties : List (String × Value)}
    {schemas : List (String × Schema)}, checkEach properties = valid schemas →
      readEach place properties = Noted.silent schemas
  | [], schemas, h => by
      obtain rfl := Checked.valid.inj h
      rfl
  | (key, value) :: rest, schemas, h => by
      rw [checkEach] at h
      obtain ⟨f, more, hf, hmore, rfl⟩ := Checked.seq_eq_valid.mp h
      obtain ⟨schema, hschema, rfl⟩ := Checked.fmap_eq_valid.mp hf
      rw [readEach, read_of_check _ (Checked.under_eq_valid.mp hschema), Noted.silent_bind,
        readEach_of_check place hmore]
      rfl

end

/-! ### What is read leniently -/

/-- What a value is read as on its own. -/
def alone? (value : Value) : Option Schema := (read rootName value).value

/-- The properties that can be read on their own, each as what it is read as. -/
def usable (properties : Fields) : List (String × Schema) :=
  properties.filterMap fun (key, value) => (alone? value).map fun schema => (key, schema)

/-- The properties that are given for a schema. -/
def givenProperties? (fields : Fields) : Option Fields :=
  match fields.get? "properties" with
  | some (.object properties) => some properties
  | _ => none

mutual

/-- What is read does not depend on the place that is named in notices. -/
theorem read_value_place (first second : String) :
    ∀ value : Value, (read first value).value = (read second value).value
  | .object fields => by
      have hassembled : ∀ items properties,
          (assembled first fields items properties).value
            = (assembled second fields items properties).value := by
        intro items properties
        unfold assembled
        split <;> rfl
      rw [read, read]
      show (assembled first fields (readItems first fields).value
          (readProperties first fields).value).value
        = (assembled second fields (readItems second fields).value
          (readProperties second fields).value).value
      rw [hassembled, readItems_value_place first second fields,
        readProperties_value_place first second fields]
  | .null => rfl
  | .bool _ => rfl
  | .int _ => rfl
  | .float _ => rfl
  | .text _ => rfl
  | .list _ => rfl

theorem readItems_value_place (first second : String) :
    ∀ fields : List (String × Value),
      (readItems first fields).value = (readItems second fields).value
  | [] => rfl
  | (key, value) :: rest => by
      rw [readItems_cons, readItems_cons]
      by_cases hkey : key = "items"
      · rw [if_pos hkey, if_pos hkey]
        split
        · rfl
        · exact read_value_place _ _ value
      · rw [if_neg hkey, if_neg hkey]
        exact readItems_value_place first second rest

theorem readProperties_value_place (first second : String) :
    ∀ fields : List (String × Value),
      (readProperties first fields).value = (readProperties second fields).value
  | [] => rfl
  | (key, value) :: rest => by
      rw [readProperties_cons, readProperties_cons]
      by_cases hkey : key = "properties"
      · rw [if_pos hkey, if_pos hkey]
        split
        · rfl
        · rename_i properties
          exact congrArg some (readEach_value_place first second properties)
        · rfl
      · rw [if_neg hkey, if_neg hkey]
        exact readProperties_value_place first second rest

theorem readEach_value_place (first second : String) :
    ∀ properties : List (String × Value),
      (readEach first properties).value = (readEach second properties).value
  | [] => rfl
  | (key, value) :: rest => by
      rw [readEach, readEach]
      show ((read (first ++ ".properties." ++ key) value).value.map _).toList
          ++ (readEach first rest).value
        = ((read (second ++ ".properties." ++ key) value).value.map _).toList
          ++ (readEach second rest).value
      rw [read_value_place (first ++ ".properties." ++ key) (second ++ ".properties." ++ key) value,
        readEach_value_place first second rest]

end

theorem read_value (place : String) (value : Value) : (read place value).value = alone? value :=
  read_value_place place rootName value

theorem usable_cons (key : String) (value : Value) (rest : Fields) :
    usable ((key, value) :: rest)
      = ((alone? value).map fun schema => (key, schema)).toList ++ usable rest := by
  cases h : alone? value <;> simp [usable, h]

theorem usable_append (first second : Fields) :
    usable (first ++ second) = usable first ++ usable second := List.filterMap_append

theorem readEach_value (place : String) (properties : Fields) :
    (readEach place properties).value = usable properties := by
  induction properties with
  | nil => rfl
  | cons field rest ih =>
      obtain ⟨key, value⟩ := field
      rw [readEach, usable_cons, ← ih, ← read_value (place ++ ".properties." ++ key) value]
      rfl

theorem readItems_value (place : String) (fields : Fields) :
    (readItems place fields).value = (fields.get? "items").bind alone? := by
  induction fields with
  | nil => rfl
  | cons field rest ih =>
      obtain ⟨key, value⟩ := field
      rw [readItems_cons, Fields.get?_cons]
      by_cases hkey : key = "items"
      · rw [if_pos hkey, if_pos hkey.symm, Option.bind_some]
        split
        · rfl
        · exact read_value _ value
      · rw [if_neg hkey, if_neg (Ne.symm hkey)]
        exact ih

theorem readProperties_value (place : String) (fields : Fields) :
    (readProperties place fields).value = (givenProperties? fields).map usable := by
  induction fields with
  | nil => rfl
  | cons field rest ih =>
      obtain ⟨key, value⟩ := field
      rw [readProperties_cons, givenProperties?, Fields.get?_cons]
      by_cases hkey : key = "properties"
      · rw [if_pos hkey, if_pos hkey.symm]
        cases value with
        | object properties => exact congrArg some (readEach_value place properties)
        | _ => rfl
      · rw [if_neg hkey, if_neg (Ne.symm hkey)]
        exact ih

/-- A schema is read if its own fields are valid, with those of its parts that can be read. -/
theorem alone?_object (fields : Fields) : alone? (.object fields) =
    match checkHeader fields with
    | .valid header => some (ofHeader header ((fields.get? "items").bind alone?)
        ((givenProperties? fields).map usable))
    | _ => none := by
  rw [alone?, read]
  show (assembled rootName fields (readItems rootName fields).value
    (readProperties rootName fields).value).value = _
  rw [readItems_value, readProperties_value, assembled]
  cases checkHeader fields <;> rfl

/-! ### Its own fields -/

theorem checkType_ends : Accept.Ends checkType := by
  intro value
  unfold checkType
  split <;> exact Accept.text_ends.optional _

theorem checkRequired_ends : Accept.Ends checkRequired := by
  intro value
  unfold checkRequired
  split
  · exact Accept.text_ends.list _
  · simp

theorem checkChoices_ends : Accept.Ends checkChoices := by
  have hany : Accept.Ends (valid : Value → Checked Value) := fun value => by simp
  exact hany.list.optional

/-- The check of the own fields of a schema always comes to an end. -/
theorem checkHeader_ends (fields : Fields) : ¬(checkHeader fields).IsAbandoned := by
  simp [checkHeader, checkType_ends.field, Accept.text_ends.optional.field,
    checkChoices_ends.field, checkRequired_ends.field]

/-- The names of the fields of a schema that are not schemas themselves. -/
def headerNames : List String := ["type", "title", "format", "enum", "required"]

theorem checkHeader_congr {fields others : Fields}
    (h : ∀ name ∈ headerNames, fields.get? name = others.get? name) :
    checkHeader fields = checkHeader others := by
  have hfield : ∀ {α : Type} (name : String) (accept : Value → Checked α) (missing : α),
      name ∈ headerNames →
        Accept.field fields [name] accept missing = Accept.field others [name] accept missing := by
    intro α name accept missing hname
    unfold Accept.field
    simp only [List.findSome?_cons, List.findSome?_nil, h name hname]
  unfold checkHeader
  rw [hfield "type" checkType none (by decide), hfield "title" _ none (by decide),
    hfield "format" _ none (by decide), hfield "enum" checkChoices none (by decide),
    hfield "required" checkRequired [] (by decide)]

/-! ### What cannot be read -/

/-- The second value is the first one without something in it that cannot be read: a property
or an item schema, or properties that are no object, anywhere in the tree. -/
inductive Dropped : Value → Value → Prop
  | property {before after properties more : Fields} {key : String} {value : Value}
      (unusable : alone? value = none) :
      Dropped
        (.object (before ++ ("properties", .object (properties ++ (key, value) :: more)) :: after))
        (.object (before ++ ("properties", .object (properties ++ more)) :: after))
  | items {before after : Fields} {value : Value} (unusable : alone? value = none)
      (single : after.get? "items" = none) :
      Dropped (.object (before ++ ("items", value) :: after)) (.object (before ++ after))
  | properties {before after : Fields} {value : Value} (unusable : value.kind ≠ .object)
      (single : after.get? "properties" = none) :
      Dropped (.object (before ++ ("properties", value) :: after)) (.object (before ++ after))
  | inProperty {before after properties more : Fields} {key : String} {value other : Value}
      (inside : Dropped value other) :
      Dropped
        (.object (before ++ ("properties", .object (properties ++ (key, value) :: more)) :: after))
        (.object (before ++ ("properties", .object (properties ++ (key, other) :: more)) :: after))
  | inItems {before after : Fields} {value other : Value} (inside : Dropped value other) :
      Dropped (.object (before ++ ("items", value) :: after))
        (.object (before ++ ("items", other) :: after))

/-- Two objects are read alike if they have the same own fields and parts that are read alike. -/
theorem alone?_congr {fields others : Fields}
    (hheader : ∀ name ∈ headerNames, fields.get? name = others.get? name)
    (hitems : (fields.get? "items").bind alone? = (others.get? "items").bind alone?)
    (hproperties : (givenProperties? fields).map usable = (givenProperties? others).map usable) :
    alone? (.object fields) = alone? (.object others) := by
  rw [alone?_object, alone?_object, checkHeader_congr hheader, hitems, hproperties]

/-- A field behind others is found unless one of them has its name. -/
theorem get?_behind (before after : Fields) (name key : String) (value : Value) :
    Fields.get? (before ++ (key, value) :: after) name
      = (before.get? name).or (if name = key then some value else after.get? name) := by
  rw [Fields.get?_append, Fields.get?_cons]

/-- What is found under a name of the header does not depend on the other fields. -/
theorem get?_headerName {name key : String} (hname : name ∈ headerNames) (hkey : key ∉ headerNames)
    (before after : Fields) (value : Value) :
    Fields.get? (before ++ (key, value) :: after) name = Fields.get? (before ++ after) name := by
  rw [get?_behind, if_neg (ne_of_mem_of_not_mem hname hkey), Fields.get?_append]

/-- What is read of an object depends on the properties in it by what is read of them. -/
theorem alone?_properties {before after first second : Fields} (h : usable first = usable second) :
    alone? (.object (before ++ ("properties", .object first) :: after))
      = alone? (.object (before ++ ("properties", .object second) :: after)) := by
  refine alone?_congr (fun name hname => ?_) ?_ ?_
  · rw [get?_headerName hname (by decide), get?_headerName hname (by decide)]
  · rw [get?_behind, get?_behind, if_neg (by decide), if_neg (by decide)]
  · rw [givenProperties?, givenProperties?, get?_behind, get?_behind, if_pos rfl, if_pos rfl]
    cases before.get? "properties" with
    | some value => rfl
    | none => exact congrArg some h

/-- **What cannot be read could as well not be there.** -/
theorem Dropped.alone?_eq {value other : Value} (h : Dropped value other) :
    alone? value = alone? other := by
  induction h with
  | @property before after properties more key value hunusable =>
      refine alone?_properties ?_
      rw [usable_append, usable_append, usable_cons, hunusable]
      rfl
  | @items before after value hunusable hsingle =>
      refine alone?_congr (fun name hname => ?_) ?_ ?_
      · rw [get?_headerName hname (by decide)]
      · rw [get?_behind, if_pos rfl, Fields.get?_append, hsingle, Option.or_none]
        cases before.get? "items" with
        | some found => rfl
        | none => exact hunusable
      · rw [givenProperties?, givenProperties?, get?_behind, if_neg (by decide), Fields.get?_append]
  | @properties before after value hunusable hsingle =>
      refine alone?_congr (fun name hname => ?_) ?_ ?_
      · rw [get?_headerName hname (by decide)]
      · rw [get?_behind, if_neg (by decide), Fields.get?_append]
      · rw [givenProperties?, givenProperties?, get?_behind, if_pos rfl, Fields.get?_append, hsingle,
          Option.or_none]
        cases before.get? "properties" with
        | some found => rfl
        | none =>
            cases value with
            | object properties => exact absurd rfl hunusable
            | _ => rfl
  | @inProperty before after properties more key value other _ ih =>
      refine alone?_properties ?_
      rw [usable_append, usable_append, usable_cons, usable_cons, ih]
  | @inItems before after value other _ ih =>
      refine alone?_congr (fun name hname => ?_) ?_ ?_
      · rw [get?_headerName hname (by decide), get?_headerName hname (by decide)]
      · rw [get?_behind, get?_behind, if_pos rfl, if_pos rfl]
        cases before.get? "items" with
        | some found => rfl
        | none => exact ih
      · rw [givenProperties?, givenProperties?, get?_behind, get?_behind, if_neg (by decide),
          if_neg (by decide)]

theorem Dropped.alone?_eq_of_eqvGen {value other : Value}
    (h : Relation.EqvGen Dropped value other) : alone? value = alone? other := by
  induction h with
  | rel _ _ hdropped => exact hdropped.alone?_eq
  | refl _ => rfl
  | symm _ _ _ ih => exact ih.symm
  | trans _ _ _ _ _ ih ih' => exact ih.trans ih'

/-- **A schema is read leniently as it is read strictly, and otherwise part by part.**  What is
read strictly is read as the same schema, without a notice.  A schema that is read has the
properties that can be read on their own, in their order and each as what it is read as, and
the items that can be read on their own.  What cannot be read, wherever it stands in the tree,
could as well not be there, or be something else that cannot be read.  None of the checks that
are made on the way is left without a result. -/
theorem read_outcome (place : String) (fields : Fields) :
    (∀ schema, check (.object fields) = valid schema →
      read place (.object fields) = Noted.silent (some schema))
    ∧ (∀ schema, (read place (.object fields)).value = some schema →
      schema.properties = (givenProperties? fields).map usable
        ∧ schema.items = (fields.get? "items").bind alone?)
    ∧ (∀ other, Relation.EqvGen Dropped (.object fields) other →
      (read place (.object fields)).value = (read place other).value)
    ∧ ∀ own, ¬(checkHeader own).IsAbandoned := by
  refine ⟨fun schema h => read_of_check place h, fun schema h => ?_, fun other h => ?_,
    checkHeader_ends⟩
  · rw [read_value, alone?_object] at h
    cases hheader : checkHeader fields with
    | valid header =>
        rw [hheader] at h
        obtain rfl := Option.some.inj h
        exact ⟨rfl, rfl⟩
    | faulty faults => rw [hheader] at h; exact nomatch h
    | abandoned cause => rw [hheader] at h; exact nomatch h
  · rw [read_value, read_value]
    exact Dropped.alone?_eq_of_eqvGen h

/-- A form with one text field. -/
def plainForm : Fields :=
  [("type", .text "object"),
    ("properties", .object [("name", .object [("type", .text "string")])])]

/-- The same form with a second field that is no schema. -/
def mixedForm : Fields :=
  [("type", .text "object"),
    ("properties", .object [("name", .object [("type", .text "string")]), ("broken", .int 7)])]

theorem plainForm_read :
    (∃ schema, check (.object plainForm) = valid schema
      ∧ read rootName (.object plainForm) = Noted.silent (some schema)
      ∧ schema.properties = (givenProperties? plainForm).map usable)
    ∧ Relation.EqvGen Dropped (.object mixedForm) (.object plainForm)
    ∧ (read rootName (.object mixedForm)).value = (read rootName (.object plainForm)).value := by
  have hdropped : Relation.EqvGen Dropped (.object mixedForm) (.object plainForm) :=
    .rel _ _ (@Dropped.property [("type", .text "object")] []
      [("name", .object [("type", .text "string")])] [] "broken" (.int 7) rfl)
  refine ⟨⟨_, rfl, (read_outcome rootName plainForm).1 _ rfl,
    ((read_outcome rootName plainForm).2.1 _ rfl).1⟩, hdropped,
    (read_outcome rootName mixedForm).2.2.1 _ hdropped⟩

end Schema

end Paperwork
