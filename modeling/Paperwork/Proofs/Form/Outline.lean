/-
Compiled templates cover their schemas.

What a schema declares is listed in the order of its declaration, with a mark where the fields
of a group end.  The blocks of the compiled template are read as the same list: rows that
gather are not lost, repeated or moved, whatever stands around them and at whichever
depth, and two blocks of rows meet only where a group ends.
-/
import Mathlib
import Paperwork.Form.Compile

namespace Paperwork.Form

/-! ### What a schema declares -/

/-- An entry of what a schema declares.  The chain of a field is the row of keys that lead
to it. -/
inductive Entry
  | row (label : String) (chain : List String)
  | list (chain : List String)
  | table (chain : List String) (items : Schema)
  | heading (text : String) (level : Int)
  | sectionEnd

/-- The entry of a list: a table where its items are objects. -/
def arrayEntry (chain : List String) (items : Option Schema) : Entry :=
  match items with
  | some schema => if schema.type = some "object" then .table chain schema else .list chain
  | none => .list chain

/-- What properties declare that stand at a place: the groups that they lie in. -/
def outline (place : List String) : List (String × Schema) → List Entry
  | [] => []
  | (key, ⟨type, title, format, choices, items, properties, required⟩) :: rest =>
    let schema : Schema := ⟨type, title, format, choices, items, properties, required⟩
    let chain := place ++ [key]
    (if type = some "array" then [arrayEntry chain items]
      else
        match properties with
        | some (property :: more) =>
          if type = some "object" then
            .heading (label key schema) (min (place.length + 2) 6)
              :: (outline chain (property :: more) ++ [.sectionEnd])
          else [.row (label key schema) chain]
        | _ => [.row (label key schema) chain])
      ++ outline place rest

/-- The keys of a chain joined by dots, without empty keys in front. -/
def dottedPath (chain : List String) : String :=
  ".".intercalate (chain.dropWhile String.isEmpty)

/-! ### What blocks are read as -/

/-- What a block, or one of its rows, is read as. -/
inductive Mark
  | row (label : String) (reference : Reference)
  | list (path : Option String)
  | table (path : Option String) (columns : List Column)
  | heading (text : String) (level : Int)
  | other
  deriving DecidableEq

/-- The mark of a row. -/
def rowMark (r : Row) : Mark := .row r.label r.reference

/-- What a block is read as. -/
def blockMarks : Block → List Mark
  | .keyValueList b => b.rows.map rowMark
  | .list b => [.list b.itemsPath?]
  | .table b => [.table b.itemsPath? b.columns]
  | .heading b => [.heading b.text b.level]
  | _ => [.other]

/-- What stands for an entry in a template whose paths are made from chains of keys. -/
def Entry.mark? (path : List String → String) : Entry → Option Mark
  | row label chain => some (.row label (pathTo (path chain)))
  | list chain => some (.list (nonempty? (path chain)))
  | table chain items =>
    some (.table (nonempty? (path chain))
      (items.declared.map fun (key, property) => ⟨label key property, key⟩))
  | heading text level => some (.heading text level)
  | sectionEnd => none

section Outline

variable {place : List String} {key : String} {schema : Schema} {rest : List (String × Schema)}

theorem outline_array (htype : schema.type = some "array") :
    outline place ((key, schema) :: rest)
      = arrayEntry (place ++ [key]) schema.items :: outline place rest := by
  obtain ⟨type, title, format, choices, items, properties, required⟩ := schema
  obtain rfl : type = some "array" := htype
  rcases properties with _ | _ | ⟨property, more⟩ <;> simp [outline]

theorem outline_group (htype : schema.type = some "object") {property : String × Schema}
    {more : List (String × Schema)} (hproperties : schema.properties = some (property :: more)) :
    outline place ((key, schema) :: rest)
      = .heading (label key schema) (min (place.length + 2) 6)
        :: (outline (place ++ [key]) (property :: more) ++ .sectionEnd :: outline place rest) := by
  obtain ⟨type, title, format, choices, items, properties, required⟩ := schema
  obtain rfl : type = some "object" := htype
  obtain rfl : properties = some (property :: more) := hproperties
  simp [outline]

theorem outline_row (harray : schema.type ≠ some "array")
    (hgroup : schema.type = some "object" → schema.declared = []) :
    outline place ((key, schema) :: rest)
      = .row (label key schema) (place ++ [key]) :: outline place rest := by
  obtain ⟨type, title, format, choices, items, properties, required⟩ := schema
  have htype : ¬type = some "array" := harray
  rcases properties with _ | _ | ⟨property, more⟩
  · simp [outline, htype]
  · simp [outline, htype]
  · have hobject : ¬type = some "object" := fun h => absurd (hgroup h) (by simp [Schema.declared])
    simp [outline, htype, hobject]

end Outline

/-! ### Paths -/

theorem isEmpty_intercalate {first : String} (h : first.isEmpty = false) (more : List String) :
    (".".intercalate (first :: more)).isEmpty = false := by
  cases more with
  | nil => rwa [String.intercalate_singleton]
  | cons next more => simp [String.intercalate_cons_cons]

/-- A path grows by a key like its chain. -/
theorem joinPath_dottedPath (place : List String) (key : String) :
    joinPath (dottedPath place) key = dottedPath (place ++ [key]) := by
  have hhead := List.head?_dropWhile_not String.isEmpty place
  rw [dottedPath, dottedPath, List.dropWhile_append]
  cases hplace : place.dropWhile String.isEmpty with
  | nil =>
      cases hkey : key.isEmpty with
      | true =>
          obtain rfl := String.isEmpty_iff.mp hkey
          rfl
      | false => simp [joinPath, hkey]
  | cons first more =>
      have hfirst : first.isEmpty = false := by simpa [hplace] using hhead
      rw [joinPath, isEmpty_intercalate hfirst, List.isEmpty_cons, if_neg (by simp),
        if_neg (by simp), String.intercalate_append_of_ne_nil (by simp) (by simp), String.intercalate_singleton]

/-! ### Gathering rows -/

/-- Entries are written as blocks behind the rows that have gathered. -/
inductive Gathers : List Row → List Entry → List Block → Prop
  | done (rows : List Row) : Gathers rows [] (rowsBlock rows)
  | row {rows : List Row} {label : String} {chain : List String} {entries : List Entry}
      {blocks : List Block}
      (rest : Gathers (rows ++ [⟨pathTo (dottedPath chain), label⟩]) entries blocks) :
      Gathers rows (.row label chain :: entries) blocks
  | sectionEnd (rows : List Row) {entries : List Entry} {blocks : List Block}
      (rest : Gathers [] entries blocks) :
      Gathers rows (.sectionEnd :: entries) (rowsBlock rows ++ blocks)
  | block (rows : List Row) {entry : Entry} {b : Block} {entries : List Entry}
      {blocks : List Block} (hrows : ∀ r, b ≠ .keyValueList r)
      (hmark : (entry.mark? dottedPath).map ([·]) = some (blockMarks b))
      (rest : Gathers [] entries blocks) :
      Gathers rows (entry :: entries) (rowsBlock rows ++ b :: blocks)

theorem Gathers.append {rows : List Row} {entries more : List Entry} {blocks rest : List Block}
    (h : Gathers rows entries blocks) (hmore : Gathers [] more rest) :
    Gathers rows (entries ++ .sectionEnd :: more) (blocks ++ rest) := by
  induction h with
  | done rows => exact .sectionEnd rows hmore
  | row _ ih => exact .row ih
  | sectionEnd rows _ ih =>
      rw [List.append_assoc]
      exact .sectionEnd rows ih
  | block rows hrows hmark _ ih =>
      rw [List.append_assoc]
      exact .block rows hrows hmark ih

/-- A list or table that was compiled has the items at its path. -/
theorem itemsPath?_compiled (path : String) :
    itemsPath? (some path) none unbound = nonempty? (some path) := by
  unfold itemsPath?
  cases nonempty? (some path) <;> rfl

theorem gathers_array (rows : List Row) (chain : List String) (items : Option Schema)
    {entries : List Entry} {rest : List Block} (h : Gathers [] entries rest) :
    Gathers rows (arrayEntry chain items :: entries)
      (rowsBlock rows ++ listBlock (dottedPath chain) items :: rest) := by
  have hlist : Gathers rows (.list chain :: entries) (rowsBlock rows
      ++ .list ⟨unbound, [], false, some (dottedPath chain), none, none⟩ :: rest) := by
    refine .block rows (by simp) ?_ h
    rw [blockMarks, ListBlock.itemsPath?, itemsPath?_compiled]
    rfl
  have htable : ∀ schema : Schema, Gathers rows (.table chain schema :: entries)
      (rowsBlock rows ++ .table ⟨unbound, columns schema, some (dottedPath chain), none, none,
        none, none⟩ :: rest) := by
    intro schema
    refine .block rows (by simp) ?_ h
    rw [blockMarks, TableBlock.itemsPath?, itemsPath?_compiled]
    rfl
  cases items with
  | none => exact hlist
  | some schema =>
      rw [arrayEntry, listBlock]
      by_cases hobject : schema.type = some "object"
      · simpa only [if_pos hobject] using htable schema
      · simpa only [if_neg hobject] using hlist

/-- **The blocks for properties are what the properties declare.** -/
theorem gathers_outline {path : String} {depth : Nat} {place : List String}
    (hpath : path = dottedPath place) (hdepth : depth = place.length) (rows : List Row)
    (properties : List (String × Schema)) :
    Gathers rows (outline place properties) (blocks path depth rows properties) := by
  fun_induction blocks path depth rows properties generalizing place
  case case1 rows =>
    rw [outline]
    exact .done rows
  case case2 key _ _ _ items _ _ _ here ih =>
    have hhere : here = dottedPath (place ++ [key]) := by
      rw [← joinPath_dottedPath, ← hpath]
    rw [outline_array rfl, hhere]
    exact gathers_array _ _ items (ih hpath hdepth)
  case case3 rows key _ _ _ _ _ _ here property more _ schema ih ihrest =>
    have hhere : here = dottedPath (place ++ [key]) := by
      rw [← joinPath_dottedPath, ← hpath]
    rw [outline_group rfl rfl]
    refine .block rows (by simp) ?_ ((ih hhere (by simp [hdepth])).append (ihrest hpath hdepth))
    rw [headingLevel, hdepth]
    rfl
  case case4 key _ _ _ _ _ _ _ here harray property more hobject schema ih =>
    have hhere : here = dottedPath (place ++ [key]) := by
      rw [← joinPath_dottedPath, ← hpath]
    rw [outline_row harray fun h => absurd h hobject]
    rw [hhere] at ih ⊢
    exact .row (ih hpath hdepth)
  case case5 key _ _ _ _ _ properties _ _ schema here harray hnone ih =>
    have hhere : here = dottedPath (place ++ [key]) := by
      rw [← joinPath_dottedPath, ← hpath]
    have hdeclared : schema.declared = [] := by
      rcases properties with _ | _ | ⟨property, more⟩
      · rfl
      · rfl
      · exact (hnone property more rfl).elim
    rw [outline_row harray fun _ => hdeclared]
    rw [hhere] at ih ⊢
    exact .row (ih hpath hdepth)

/-! ### Reading the blocks -/

section Reading

variable {rows : List Row} {entries : List Entry} {blocks : List Block}

/-- What stands for entries in a template whose paths are dotted. -/
def marks (entries : List Entry) : List Mark := entries.filterMap (Entry.mark? dottedPath)

theorem marks_sectionEnd : marks (.sectionEnd :: entries) = marks entries := rfl

theorem marks_row (label : String) (chain : List String) :
    marks (.row label chain :: entries)
      = rowMark ⟨pathTo (dottedPath chain), label⟩ :: marks entries := rfl

theorem marks_rowsBlock (rows : List Row) :
    (rowsBlock rows).flatMap blockMarks = rows.map rowMark := by
  cases rows with
  | nil => rfl
  | cons row rows => simp [rowsBlock, blockMarks]

theorem marks_block {entry : Entry} {b : Block}
    (h : (entry.mark? dottedPath).map ([·]) = some (blockMarks b)) :
    marks (entry :: entries) = blockMarks b ++ marks entries := by
  obtain ⟨mark, hmark, hb⟩ := Option.map_eq_some_iff.mp h
  rw [marks, List.filterMap_cons_some hmark, ← hb]
  rfl

/-- **The blocks are read as the rows that had gathered and then as the entries.** -/
theorem Gathers.marks_eq (h : Gathers rows entries blocks) :
    blocks.flatMap blockMarks = rows.map rowMark ++ marks entries := by
  induction h with
  | done rows => simp [marks_rowsBlock, marks]
  | row _ ih => simp [ih, marks_row]
  | sectionEnd rows _ ih => simp [ih, marks_rowsBlock, marks_sectionEnd]
  | block rows _ hmark _ ih => simp [ih, marks_rowsBlock, marks_block hmark]

theorem Gathers.rows_ne_nil (h : Gathers rows entries blocks) {b : RowsBlock}
    (hb : .keyValueList b ∈ blocks) : b.rows ≠ [] := by
  have hrows : ∀ rows : List Row, .keyValueList b ∈ rowsBlock rows → b.rows ≠ [] := by
    intro rows hmem
    cases rows with
    | nil => simp [rowsBlock] at hmem
    | cons row rows =>
        obtain rfl := Block.keyValueList.inj (List.mem_singleton.mp hmem)
        simp
  induction h with
  | done rows => exact hrows rows hb
  | row _ ih => exact ih hb
  | sectionEnd rows _ ih => exact (List.mem_append.mp hb).elim (hrows rows) ih
  | block rows hnone _ _ ih =>
      rcases List.mem_append.mp hb with hb | hb
      · exact hrows rows hb
      · rcases List.mem_cons.mp hb with heq | hb
        · exact absurd heq.symm (hnone b)
        · exact ih hb

/-- A block behind the rows that have gathered, or the block of these rows. -/
theorem rowsBlock_append {rest front tail : List Block} {b : Block}
    (h : rowsBlock rows ++ rest = front ++ b :: tail) :
    (∃ more, front = rowsBlock rows ++ more ∧ rest = more ++ b :: tail) ∨
      front = [] ∧ rowsBlock rows = [b] ∧ rest = tail := by
  cases rows with
  | nil => exact .inl ⟨front, rfl, h⟩
  | cons row rows =>
      cases front with
      | nil =>
          obtain ⟨hfirst, hrest⟩ := List.cons.inj h
          exact .inr ⟨rfl, congrArg ([·]) hfirst, hrest⟩
      | cons first front =>
          obtain ⟨rfl, hrest⟩ := List.cons.inj h
          exact .inl ⟨front, rfl, hrest⟩

/-- **Where two blocks of rows meet, a group ends.** -/
theorem Gathers.adjacent (h : Gathers rows entries blocks) {front back : List Block}
    {a b : RowsBlock} (hblocks : blocks = front ++ .keyValueList a :: .keyValueList b :: back) :
    ∃ before after, entries = before ++ .sectionEnd :: after ∧
      (front ++ [Block.keyValueList a]).flatMap blockMarks = rows.map rowMark ++ marks before ∧
      (Block.keyValueList b :: back).flatMap blockMarks = marks after := by
  induction h generalizing front with
  | done rows =>
      have hlength := congrArg List.length hblocks
      cases rows with
      | nil => simp [rowsBlock] at hlength
      | cons row rows =>
          simp [rowsBlock] at hlength
          omega
  | row _ ih =>
      obtain ⟨before, after, rfl, hfront, hback⟩ := ih hblocks
      exact ⟨_ :: before, after, rfl, by simp [hfront, marks_row], hback⟩
  | sectionEnd rows hrest ih =>
      rcases rowsBlock_append hblocks with ⟨more, rfl, hmore⟩ | ⟨rfl, ha, hmore⟩
      · obtain ⟨before, after, rfl, hfront, hback⟩ := ih hmore
        refine ⟨.sectionEnd :: before, after, rfl, ?_, hback⟩
        rw [List.append_assoc, List.flatMap_append, hfront, marks_rowsBlock]
        rfl
      · refine ⟨[], _, rfl, ?_, ?_⟩
        · rw [List.nil_append, ← ha, marks_rowsBlock]
          exact (List.append_nil _).symm
        · rw [← hmore, hrest.marks_eq]
          rfl
  | block rows hnone hmark _ ih =>
      rcases rowsBlock_append hblocks with ⟨more, rfl, hmore⟩ | ⟨-, -, hmore⟩
      · cases more with
        | nil => exact absurd (List.cons.inj hmore).1 (hnone a)
        | cons first more =>
            obtain ⟨rfl, hrest⟩ := List.cons.inj hmore
            obtain ⟨before, after, rfl, hfront, hback⟩ := ih hrest
            refine ⟨_ :: before, after, rfl, ?_, hback⟩
            rw [List.append_assoc, List.flatMap_append, List.cons_append, List.flatMap_cons, hfront,
              marks_rowsBlock, marks_block hmark]
            rfl
      · exact absurd (List.cons.inj hmore).1 (hnone b)

end Reading

/--
**A compiled template covers its schema.**  Its blocks, from left to right, are read as what the
schema declares, in the order of its declaration and every field once; no block of rows is
empty; and where two of them meet, a group ends.
-/
theorem template_covers (schema : Schema) :
    (template schema).blocks.flatMap blockMarks = marks (outline [] schema.declared) ∧
      (∀ b, .keyValueList b ∈ (template schema).blocks → b.rows ≠ []) ∧
      ∀ front a b back,
        (template schema).blocks = front ++ .keyValueList a :: .keyValueList b :: back →
          ∃ before after, outline [] schema.declared = before ++ .sectionEnd :: after ∧
            (front ++ [Block.keyValueList a]).flatMap blockMarks = marks before ∧
            (Block.keyValueList b :: back).flatMap blockMarks = marks after := by
  have hgathers : Gathers [] (outline [] schema.declared) (template schema).blocks :=
    gathers_outline rfl rfl [] schema.declared
  exact ⟨hgathers.marks_eq, fun _ => hgathers.rows_ne_nil, fun _ _ _ _ => hgathers.adjacent⟩

/-- A group with an empty key, which has a field. -/
def blankKeySchema : Schema where
  type := some "object"
  title := none
  format := none
  choices := none
  items := none
  properties := some [("", ⟨some "object", none, none, none, none,
    some [("name", ⟨some "string", none, none, none, none, none, []⟩)], []⟩)]
  required := []

/-- An empty key at the front of a chain is not joined to the keys behind it. -/
theorem blankKey_not_joined :
    (outline [] blankKeySchema.declared).filterMap (Entry.mark? (".".intercalate ·))
        = [.heading "" 2, .row "Name" (pathTo ".name")] ∧
      (template blankKeySchema).blocks.flatMap blockMarks
        = [.heading "" 2, .row "Name" (pathTo "name")] ∧
      (template blankKeySchema).blocks.flatMap blockMarks
        ≠ (outline [] blankKeySchema.declared).filterMap (Entry.mark? (".".intercalate ·)) := by
  have houtline : outline [] blankKeySchema.declared
      = [.heading "" 2, .row "Name" ["", "name"], .sectionEnd] := by
    show outline [] [("", _)] = _
    rw [outline_group rfl rfl, outline_row (by decide) (by decide), outline, outline]
    rfl
  have hgathers :
      Gathers [] (outline [] blankKeySchema.declared) (template blankKeySchema).blocks :=
    gathers_outline rfl rfl [] blankKeySchema.declared
  rw [hgathers.marks_eq, houtline]
  decide +kernel

end Paperwork.Form
