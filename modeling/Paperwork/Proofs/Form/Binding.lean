/-
Compiled paths lead to the fields they were made for.

A path is a row of keys written with dots between them, and it is followed by taking it apart
at its dots.  The two undo each other unless a key has a dot in it or the first one is
empty; then there are data in which the field is not found at its path.
-/
import Paperwork.Data.Path
import Paperwork.Proofs.Form.Outline
import Paperwork.Proofs.Text.Split

namespace Paperwork.Form

open Paperwork.Text

/-! ### Fields -/

/-- The chain of keys of the field that an entry is about. -/
def Entry.chain? : Entry → Option (List String)
  | row _ chain => some chain
  | list chain => some chain
  | table chain _ => some chain
  | heading _ _ => none
  | sectionEnd => none

/-- The chains of keys of the fields of a schema, in the order of their declaration. -/
def fieldChains (schema : Schema) : List (List String) :=
  (outline [] schema.declared).filterMap Entry.chain?

/-- The keys of the properties that the columns of a table stand for. -/
def Entry.columnKeys : Entry → List String
  | table _ items => items.declared.map Prod.fst
  | _ => []

/-- The path along which a block, or one of its rows, refers to the data. -/
def Mark.target? : Mark → Option (Option String)
  | row _ reference => some reference.target?
  | list path => some path
  | table path _ => some path
  | heading _ _ => none
  | other => none

/-- The columns of a table. -/
def Mark.columns : Mark → List Column
  | table _ columns => columns
  | _ => []

/-- A row of keys leads from an object to what stands in it, in nested objects. -/
inductive Leads : Value → List String → Value → Prop
  | here (value : Value) : Leads value [] value
  | field {fields : Fields} {key : String} {chain : List String} {value : Value}
      (rest : Leads (fields.getD key) chain value) :
      Leads (.object fields) (key :: chain) value

/-- The first key of a chain is not empty, and none of its keys has a dot in it. -/
def Distinct (chain : List String) : Prop :=
  (∃ key, chain.head? = some key ∧ key ≠ "") ∧ ∀ key ∈ chain, '.' ∉ key.toList

/-! ### Taking paths apart -/

theorem segments_no_dot {path segment : String} (h : segment ∈ Path.segments path) :
    '.' ∉ segment.toList := by
  obtain ⟨piece, hpiece, rfl⟩ := List.mem_map.mp h
  rw [String.toList_ofList]
  intro hdot
  exact absurd (of_mem_splitWhere hpiece '.' hdot) (by decide)

section Segments

variable {key : String}

theorem not_separator (hkey : '.' ∉ key.toList) : ∀ c ∈ key.toList, (c == '.') = false := by
  intro c hc
  rw [beq_eq_false_iff_ne]
  rintro rfl
  exact hkey hc

theorem segments_plain (hkey : '.' ∉ key.toList) : Path.segments key = [key] := by
  have hsplit := splitWhere_eq_singleton (not_separator hkey)
  rw [Path.segments, hsplit, List.map_singleton, String.ofList_toList]

theorem segments_dotted (hkey : '.' ∉ key.toList) (rest : String) :
    Path.segments (key ++ "." ++ rest) = key :: Path.segments rest := by
  have hdot := splitWhere_cons_of_true (p := (· == '.')) (a := '.') rfl rest.toList
  have hsplit := splitWhere_append_of_false (not_separator hkey) hdot
  have htext : (key ++ "." ++ rest).toList = key.toList ++ '.' :: rest.toList := by
    simp [String.toList_append]
  rw [Path.segments, htext, hsplit, List.append_nil, List.map_cons, String.ofList_toList]
  rfl

end Segments

/-- Keys without dots are found again in the path that they make. -/
theorem segments_intercalate {chain : List String} (hne : chain ≠ [])
    (hchain : ∀ key ∈ chain, '.' ∉ key.toList) :
    Path.segments (".".intercalate chain) = chain := by
  induction chain with
  | nil => exact absurd rfl hne
  | cons key chain ih =>
      have hkey := hchain key List.mem_cons_self
      cases chain with
      | nil => rw [String.intercalate_singleton, segments_plain hkey]
      | cons next chain =>
          rw [String.intercalate_cons_cons, segments_dotted hkey,
            ih (by simp) fun key hmem => hchain key (List.mem_cons_of_mem _ hmem)]

/-- **A path is taken apart into its chain** if the first key is not empty and no key has a
dot, and only then. -/
theorem distinct_iff {chain : List String} :
    Distinct chain ↔ (dottedPath chain).isEmpty = false ∧
      Path.segments (dottedPath chain) = chain := by
  constructor
  · rintro ⟨⟨key, hhead, hkey⟩, hdots⟩
    obtain ⟨rest, rfl⟩ : ∃ rest, chain = key :: rest := List.head?_eq_some_iff.mp hhead
    have hempty : key.isEmpty = false := by simpa using hkey
    rw [dottedPath, List.dropWhile_cons_of_neg (by simp [hempty])]
    exact ⟨isEmpty_intercalate hempty rest, segments_intercalate (by simp) hdots⟩
  · rintro ⟨hpath, hsegments⟩
    have hdots : ∀ key ∈ chain, '.' ∉ key.toList := by
      intro key hkey
      rw [← hsegments] at hkey
      exact segments_no_dot hkey
    have hhead := List.head?_dropWhile_not String.isEmpty chain
    rw [dottedPath] at hpath hsegments
    cases hdrop : chain.dropWhile String.isEmpty with
    | nil =>
        rw [hdrop] at hpath
        exact absurd hpath (by decide)
    | cons key rest =>
        have hkept : ∀ k ∈ chain.dropWhile String.isEmpty, '.' ∉ k.toList :=
          fun k hk => hdots k ((List.dropWhile_sublist _).subset hk)
        rw [segments_intercalate (by simp [hdrop]) hkept] at hsegments
        rw [hdrop] at hhead hsegments
        refine ⟨⟨key, by rw [← hsegments]; rfl, ?_⟩, hdots⟩
        simpa using hhead

/-! ### Following paths -/

theorem leads_nil {data value : Value} : Leads data [] value ↔ data = value := by
  constructor
  · intro h
    cases h
    rfl
  · rintro rfl
    exact .here data

theorem follow_of_leads {data value : Value} {chain : List String} (h : Leads data chain value) :
    Path.follow data chain = .ok value := by
  induction h with
  | here value => rfl
  | field _ ih => exact ih

theorem follow_null (segments : List String) : Path.follow .null segments = .ok .null := by
  induction segments with
  | nil => rfl
  | cons segment segments ih => exact ih

/-- Objects nested along a chain, around a value. -/
def nest : List String → Value → Value
  | [], value => value
  | key :: chain, value => .object [(key, nest chain value)]

theorem getD_singleton_self (key : String) (value : Value) :
    Fields.getD [(key, value)] key = value := by
  simp [Fields.getD]

theorem getD_singleton_of_ne {key other : String} (h : other ≠ key) (value : Value) :
    Fields.getD [(key, value)] other = .null := by
  simp [Fields.getD, List.lookup, beq_eq_false_iff_ne.mpr h]

theorem leads_nest (chain : List String) (value : Value) :
    Leads (nest chain value) chain value := by
  induction chain with
  | nil => exact .here value
  | cons key chain ih =>
      refine .field ?_
      rwa [getD_singleton_self]

/-- Only one row of segments leads to what nested objects are around. -/
theorem eq_of_follow_nest {chain segments : List String}
    (h : Path.follow (nest chain (.bool true)) segments = .ok (.bool true)) : segments = chain := by
  induction chain generalizing segments with
  | nil =>
      cases segments with
      | nil => rfl
      | cons segment segments =>
          have hnull : Path.follow .null segments = .ok (.bool true) := h
          rw [follow_null] at hnull
          simp at hnull
  | cons key chain ih =>
      cases segments with
      | nil => simp [nest, Path.follow] at h
      | cons segment segments =>
          have hinner : Path.follow (Fields.getD [(key, nest chain (.bool true))] segment) segments
              = .ok (.bool true) := h
          by_cases hkey : segment = key
          · subst hkey
            rw [getD_singleton_self] at hinner
            rw [ih hinner]
          · rw [getD_singleton_of_ne hkey, follow_null] at hinner
            simp at hinner

/-- **A field is found at its compiled path in all data** if the first key is not empty and
no key has a dot, and only then. -/
theorem at?_dottedPath_iff (chain : List String) :
    (∀ data value, Leads data chain value →
      data.at? (nonempty? (dottedPath chain)) = .ok value) ↔ Distinct chain := by
  have htarget : nonempty? (some (dottedPath chain))
      = if (dottedPath chain).isEmpty then none else some (dottedPath chain) := rfl
  rw [distinct_iff]
  constructor
  · intro hbound
    have hfound := hbound _ _ (leads_nest chain (.bool true))
    rw [htarget] at hfound
    cases hpath : (dottedPath chain).isEmpty with
    | true => simp [hpath, Value.at?] at hfound
    | false =>
        simp only [hpath, Bool.false_eq_true, if_false, Value.at?] at hfound
        exact ⟨rfl, eq_of_follow_nest hfound⟩
  · rintro ⟨hpath, hsegments⟩ data value hleads
    simp only [htarget, hpath, Bool.false_eq_true, if_false, Value.at?, hsegments]
    exact follow_of_leads hleads

/-- A column shows the value of its key in all rows if the key is not empty and has no dot, and
only then. -/
theorem at?_key_iff (key : String) :
    (∀ row : Fields, (Value.object row).at? (some key) = .ok (row.getD key)) ↔
      key ≠ "" ∧ '.' ∉ key.toList := by
  have hpath : ∀ data : Value, data.at? (nonempty? (dottedPath [key])) = data.at? (some key) := by
    intro data
    cases hkey : key.isEmpty with
    | true =>
        obtain rfl := String.isEmpty_iff.mp hkey
        rfl
    | false =>
        have hne : key ≠ "" := by simpa using hkey
        simp [dottedPath, nonempty?, hkey, hne]
  have hdistinct : Distinct [key] ↔ key ≠ "" ∧ '.' ∉ key.toList := by simp [Distinct]
  rw [← hdistinct, ← at?_dottedPath_iff]
  constructor
  · intro hrow data value hleads
    cases hleads with
    | field hrest =>
        rw [hpath, hrow, leads_nil.mp hrest]
  · intro hbound row
    rw [← hpath]
    exact hbound _ _ (.field (.here _))

/-! ### Templates -/

theorem targets_marks (entries : List Entry) :
    (marks entries).filterMap Mark.target?
      = (entries.filterMap Entry.chain?).map fun chain => nonempty? (dottedPath chain) := by
  induction entries with
  | nil => rfl
  | cons entry entries ih =>
      rw [marks] at ih ⊢
      cases entry with
      | row label chain => exact congrArg (nonempty? (dottedPath chain) :: ·) ih
      | list chain => exact congrArg (nonempty? (dottedPath chain) :: ·) ih
      | table chain items => exact congrArg (nonempty? (dottedPath chain) :: ·) ih
      | heading text level => exact ih
      | sectionEnd => exact ih

theorem columns_marks (entries : List Entry) :
    ((marks entries).flatMap Mark.columns).map Column.path = entries.flatMap Entry.columnKeys := by
  induction entries with
  | nil => rfl
  | cons entry entries ih =>
      rw [marks] at ih ⊢
      cases entry with
      | table chain items =>
          have hmark : (Entry.table chain items).mark? dottedPath
              = some (.table (nonempty? (dottedPath chain)) (columns items)) := rfl
          have hcolumns : (columns items).map Column.path = items.declared.map Prod.fst := by
            rw [columns, List.map_map]
            rfl
          rw [List.filterMap_cons_some hmark, List.flatMap_cons, List.flatMap_cons,
            List.map_append, ih, Mark.columns, hcolumns]
          rfl
      | row label chain => exact ih
      | list chain => exact ih
      | heading text level => exact ih
      | sectionEnd => exact ih

/--
**Compiled paths lead to the declared fields.**  The paths along which a compiled template refers
to the data are those of the fields that its schema declares, in their order; each leads to its
field in all data if the first key of the field is not empty and no key on the way has a dot,
and only then.  The same holds of the columns of its tables and the rows of the data.
-/
theorem template_binds (schema : Schema) :
    List.Forall₂ (fun target chain =>
        (∀ data value, Leads data chain value → data.at? target = .ok value) ↔ Distinct chain)
      (((template schema).blocks.flatMap blockMarks).filterMap Mark.target?)
      (fieldChains schema) ∧
    List.Forall₂ (fun column key =>
        (∀ row : Fields, (Value.object row).at? (some column.path) = .ok (row.getD key)) ↔
          key ≠ "" ∧ '.' ∉ key.toList)
      (((template schema).blocks.flatMap blockMarks).flatMap Mark.columns)
      ((outline [] schema.declared).flatMap Entry.columnKeys) := by
  have hgathers : Gathers [] (outline [] schema.declared) (template schema).blocks :=
    gathers_outline rfl rfl [] schema.declared
  rw [hgathers.marks_eq, List.map_nil, List.nil_append]
  constructor
  · rw [targets_marks, List.forall₂_map_left_iff]
    exact List.forall₂_same.mpr fun chain _ => at?_dottedPath_iff chain
  · rw [← columns_marks, List.forall₂_map_right_iff]
    exact List.forall₂_same.mpr fun column _ => at?_key_iff column.path

end Paperwork.Form
