/-
Values are read back from their compact text.

The values are those whose numbers are integers and whose objects have no key twice.  The
text of a value is read in front of whatever may stand behind a value, and so the
texts of the items of a list and of the fields of an object are read one after another.
Blanks may stand around them, as they do in the indented text.
-/
import Paperwork.Proofs.Data.Json.Atoms

namespace Paperwork

/-- A value without numbers that have a fraction or too many digits, in which no object has a
key twice, with at most `levels` containers nested in each other. -/
inductive Value.Plain : Nat → Value → Prop
  | null {levels : Nat} : Plain levels .null
  | bool {levels : Nat} (b : Bool) : Plain levels (.bool b)
  | int {levels : Nat} {n : Int} (digits : (toString n.natAbs).length ≤ Decimal.digitLimit) :
      Plain levels (.int n)
  | text {levels : Nat} (s : String) : Plain levels (.text s)
  | list {levels : Nat} {items : List Value} (parts : ∀ item ∈ items, Plain levels item) :
      Plain (levels + 1) (.list items)
  | object {levels : Nat} {fields : Fields} (keys : (fields.map Prod.fst).Nodup)
      (parts : ∀ field ∈ fields, Plain levels field.2) : Plain (levels + 1) (.object fields)

namespace Value.Plain

variable {levels : Nat}

theorem mono {more : Nat} {value : Value} (h : Plain levels value) (hle : levels ≤ more) :
    Plain more value := by
  induction h generalizing more with
  | null => exact null
  | bool b => exact bool b
  | int digits => exact int digits
  | text s => exact text s
  | list _ ih =>
      obtain ⟨more, rfl⟩ := Nat.exists_eq_add_one_of_ne_zero (Nat.ne_zero_of_lt hle)
      exact list fun item hitem => ih item hitem (Nat.le_of_succ_le_succ hle)
  | object keys _ ih =>
      obtain ⟨more, rfl⟩ := Nat.exists_eq_add_one_of_ne_zero (Nat.ne_zero_of_lt hle)
      exact object keys fun field hfield => ih field hfield (Nat.le_of_succ_le_succ hle)

end Value.Plain

namespace Json

/-! ### Texts that are read back -/

/-- A text is read as a value, in front of whatever may stand behind a value. -/
structure ReadsBack (levels : Nat) (cs : List Char) (value : Value) : Prop where
  starts : ∃ c tail, cs = c :: tail ∧ isBlank c = false ∧ c ≠ ']'
  reads : ∀ rest, Stops rest → readValue levels (cs ++ rest) = .ok (value, rest)

variable {levels : Nat}

theorem skipBlanks_cons {c : Char} (h : isBlank c = false) (cs : List Char) :
    skipBlanks (c :: cs) = c :: cs := List.dropWhile_cons_of_neg (by simp [h])

theorem ReadsBack.skipBlanks_append {cs : List Char} {value : Value}
    (h : ReadsBack levels cs value) (rest : List Char) : skipBlanks (cs ++ rest) = cs ++ rest := by
  obtain ⟨c, tail, rfl, hblank, -⟩ := h.starts
  exact skipBlanks_cons hblank _

theorem readValue_atom {c : Char} (hc : c ∉ ['"', '[', '\x7b']) (cs : List Char) :
    readValue levels (c :: cs) = readAtom (c :: cs) := by
  simp only [List.mem_cons, List.not_mem_nil, or_false, not_or] at hc
  cases levels <;> simp [readValue, hc]

/-- A text that begins with none of the signs of JSON is read if it is read as an atom. -/
theorem ReadsBack.of_atom {c : Char} {tail : List Char} {value : Value}
    (hc : isBlank c = false ∧ c ∉ ['"', '[', '\x7b', ']'])
    (h : ∀ rest, Stops rest → readAtom (c :: tail ++ rest) = .ok (value, rest)) :
    ReadsBack levels (c :: tail) value where
  starts := ⟨c, tail, rfl, hc.1, fun heq => hc.2 (by simp [heq])⟩
  reads rest hrest := by
    rw [List.cons_append, readValue_atom (fun hmem => hc.2 (by simp_all)), ← List.cons_append]
    exact h rest hrest

theorem readsBack_null : ReadsBack levels (atomText .null) .null :=
  .of_atom (by decide) fun _ _ => rfl

theorem readsBack_bool (b : Bool) : ReadsBack levels (atomText (.bool b)) (.bool b) := by
  cases b <;> exact .of_atom (by decide) fun _ _ => rfl

theorem readsBack_int {n : Int} (hn : (toString n.natAbs).length ≤ Decimal.digitLimit) :
    ReadsBack levels (atomText (.int n)) (.int n) := by
  have hstart : ∃ c tail, (toString n).toList = c :: tail ∧
      isBlank c = false ∧ c ∉ ['"', '[', '\x7b', ']'] := by
    obtain ⟨d, ds, heq, hd, -⟩ := toDigits_eq_cons n.natAbs
    have hblanks : d ∉ [' ', '\t', '\n', '\r'] := not_mem_of_isDigit hd rfl
    have hsigns : d ∉ ['"', '[', '\x7b', ']'] := not_mem_of_isDigit hd rfl
    rw [toList_toString_int, heq]
    split
    · exact ⟨'-', d :: ds, rfl, by decide⟩
    · exact ⟨d, ds, rfl, by simpa [isBlank, and_assoc] using hblanks, hsigns⟩
  obtain ⟨c, tail, heq, hc⟩ := hstart
  rw [atomText, heq]
  refine .of_atom hc fun rest hrest => ?_
  rw [← heq]
  exact readAtom_int hn hrest

theorem quoted_append (text : String) (rest : List Char) :
    quoted text ++ rest = '"' :: (text.toList.flatMap stringChar ++ '"' :: rest) := by
  simp [quoted]

theorem readsBack_text (s : String) : ReadsBack levels (atomText (.text s)) (.text s) where
  starts := ⟨'"', _, rfl, by decide⟩
  reads rest _ := by
    rw [atomText, quoted_append, readValue, readString_quoted, ok_bind]
    simp only [String.ofList_toList]
    rfl

/-! ### Containers -/

theorem commaSeparated_cons (text : List Char) {texts : List (List Char)} (h : texts ≠ []) :
    commaSeparated (text :: texts) = text ++ ',' :: commaSeparated texts := by
  cases texts with
  | nil => exact absurd rfl h
  | cons next more => rfl

/-- Nothing but blanks. -/
def Gap (cs : List Char) : Prop := ∀ c ∈ cs, isBlank c = true

theorem gap_nil : Gap [] := by simp [Gap]

theorem skipBlanks_gap {gap : List Char} (h : Gap gap) (rest : List Char) :
    skipBlanks (gap ++ rest) = skipBlanks rest := List.dropWhile_append_of_pos h

/-- Blanks in front of a closing sign end a number like the sign. -/
theorem stops_gap {gap : List Char} (h : Gap gap) {c : Char} (hc : c ∈ endings)
    (rest : List Char) : Stops (gap ++ c :: rest) := by
  cases gap with
  | nil => exact stops_cons hc rest
  | cons blank gap =>
      have hblank := h blank List.mem_cons_self
      simp only [isBlank, Bool.or_eq_true, beq_iff_eq] at hblank
      refine stops_cons ?_ _
      rcases hblank with ((rfl | rfl) | rfl) | rfl <;> decide

/-- The text of an item, with blanks in front of it. -/
def ItemBack (levels : Nat) (cs : List Char) (value : Value) : Prop :=
  ∃ gap text, cs = gap ++ text ∧ Gap gap ∧ ReadsBack levels text value

theorem ReadsBack.item {cs : List Char} {value : Value} (h : ReadsBack levels cs value) :
    ItemBack levels cs value := ⟨[], cs, rfl, gap_nil, h⟩

theorem ItemBack.ne_nil {cs : List Char} {value : Value} (h : ItemBack levels cs value) :
    cs ≠ [] := by
  obtain ⟨gap, text, rfl, -, hread⟩ := h
  obtain ⟨c, tail, rfl, -⟩ := hread.starts
  simp

theorem ItemBack.reads {cs : List Char} {value : Value} (h : ItemBack levels cs value)
    {rest : List Char} (hrest : Stops rest) :
    readValue levels (skipBlanks (cs ++ rest)) = .ok (value, rest) := by
  obtain ⟨gap, text, rfl, hgap, hread⟩ := h
  rw [List.append_assoc, skipBlanks_gap hgap, hread.skipBlanks_append]
  exact hread.reads rest hrest

/-- The texts of items are read one after another, up to the bracket behind them. -/
theorem readItems_written {texts : List (List Char)} {items : List Value}
    (h : List.Forall₂ (ItemBack levels) texts items) (hne : texts ≠ []) {bound : Nat}
    (hbound : texts.length ≤ bound) {gap : List Char} (hgap : Gap gap) (rest : List Char) :
    readItems (readValue levels) bound (commaSeparated texts ++ (gap ++ ']' :: rest))
      = .ok (items, rest) := by
  induction h generalizing bound with
  | nil => exact absurd rfl hne
  | @cons text item texts items hitem hitems ih =>
      cases bound with
      | zero => simp at hbound
      | succ bound =>
          rw [List.length_cons, Nat.add_le_add_iff_right] at hbound
          cases hitems with
          | nil =>
              have hread := hitem.reads (stops_gap hgap (show ']' ∈ endings by decide) rest)
              rw [commaSeparated, readItems, hread, ok_bind]
              simp only [skipBlanks_gap hgap, skipBlanks_cons (show isBlank ']' = false from rfl)]
              rfl
          | @cons next _ texts _ _ _ =>
              have hread := hitem.reads
                (stops_cons (show ',' ∈ endings by decide)
                  (commaSeparated (next :: texts) ++ (gap ++ ']' :: rest)))
              have hmore := ih (by simp) hbound
              rw [commaSeparated_cons _ (by simp), List.append_assoc, List.cons_append, readItems,
                hread, ok_bind]
              simp only [skipBlanks_cons (show isBlank ',' = false from rfl), hmore, ok_bind]
              rfl

/-- The text of a field is its quoted key, a colon and the text of its value. -/
def FieldBack (levels : Nat) (cs : List Char) (field : String × Value) : Prop :=
  ∃ gap text, cs = gap ++ (quoted field.1 ++ ':' :: text) ∧ Gap gap ∧ ItemBack levels text field.2

theorem FieldBack.ne_nil {cs : List Char} {field : String × Value} (h : FieldBack levels cs field) :
    cs ≠ [] := by
  obtain ⟨gap, text, rfl, -⟩ := h
  simp

theorem readKey_quoted (key : String) (rest : List Char) :
    readKey (quoted key ++ ':' :: rest) = .ok (key, rest) := by
  rw [quoted_append, readKey, readString_quoted, ok_bind]
  simp only [skipBlanks_cons (show isBlank ':' = false from rfl), String.ofList_toList]
  rfl

theorem skipBlanks_quoted (key : String) (rest : List Char) :
    skipBlanks (quoted key ++ rest) = quoted key ++ rest := skipBlanks_cons rfl _

/-- The texts of fields are read one after another, up to the brace behind them. -/
theorem readFields_written {texts : List (List Char)} {fields : Fields}
    (h : List.Forall₂ (FieldBack levels) texts fields) (hne : texts ≠ []) {bound : Nat}
    (hbound : texts.length ≤ bound) {gap : List Char} (hgap : Gap gap) (rest : List Char) :
    readFields (readValue levels) bound (commaSeparated texts ++ (gap ++ '\x7d' :: rest))
      = .ok (fields, rest) := by
  induction h generalizing bound with
  | nil => exact absurd rfl hne
  | @cons text field texts fields hfield hfields ih =>
      obtain ⟨front, text, rfl, hfront, hvalue⟩ := hfield
      cases bound with
      | zero => simp at hbound
      | succ bound =>
          rw [List.length_cons, Nat.add_le_add_iff_right] at hbound
          cases hfields with
          | nil =>
              have hread := hvalue.reads (stops_gap hgap (show '\x7d' ∈ endings by decide) rest)
              rw [commaSeparated, List.append_assoc, List.append_assoc, List.cons_append, readFields,
                skipBlanks_gap hfront, skipBlanks_quoted, readKey_quoted, ok_bind]
              simp only [hread, ok_bind, skipBlanks_gap hgap,
                skipBlanks_cons (show isBlank '\x7d' = false from rfl)]
              rfl
          | @cons next _ texts _ _ _ =>
              have hread := hvalue.reads
                (stops_cons (show ',' ∈ endings by decide)
                  (commaSeparated (next :: texts) ++ (gap ++ '\x7d' :: rest)))
              have hmore := ih (by simp) hbound
              rw [commaSeparated_cons _ (by simp), List.append_assoc, List.append_assoc,
                List.append_assoc, List.cons_append, List.cons_append, readFields,
                skipBlanks_gap hfront, skipBlanks_quoted, readKey_quoted, ok_bind]
              simp only [hread, ok_bind, skipBlanks_cons (show isBlank ',' = false from rfl), hmore]
              rfl

/-- Texts one after another are no more than their characters. -/
theorem length_le_commaSeparated {α : Type} {r : List Char → α → Prop}
    (hne : ∀ text a, r text a → text ≠ []) {texts : List (List Char)} {parts : List α}
    (h : List.Forall₂ r texts parts) : texts.length ≤ (commaSeparated texts).length := by
  induction h with
  | nil => exact Nat.le_refl 0
  | @cons text _ texts _ hpart hparts ih =>
      have hpos := List.length_pos_iff.mpr (hne _ _ hpart)
      cases texts with
      | nil => exact hpos
      | cons next texts =>
          rw [commaSeparated_cons _ (by simp)]
          simp only [List.length_append, List.length_cons] at ih ⊢
          omega

/-- A list whose items are read begins with none but the first of them. -/
theorem skipBlanks_items {text : List Char} {item : Value} (h : ItemBack levels text item)
    (texts : List (List Char)) (rest : List Char) :
    ∃ c more, skipBlanks (commaSeparated (text :: texts) ++ rest) = c :: more ∧ c ≠ ']' := by
  obtain ⟨gap, text, rfl, hgap, hread⟩ := h
  obtain ⟨c, tail, rfl, hblank, hbracket⟩ := hread.starts
  cases texts with
  | nil =>
      refine ⟨c, tail ++ rest, ?_, hbracket⟩
      rw [commaSeparated, List.append_assoc, skipBlanks_gap hgap, List.cons_append,
        skipBlanks_cons hblank]
  | cons next texts =>
      refine ⟨c, tail ++ ',' :: commaSeparated (next :: texts) ++ rest, ?_, hbracket⟩
      rw [commaSeparated_cons _ (by simp), List.append_assoc, List.append_assoc,
        skipBlanks_gap hgap, List.cons_append, skipBlanks_cons hblank, List.append_assoc]

/-- **A list is read back if its items are.** -/
theorem readsBack_list {texts : List (List Char)} {items : List Value}
    (h : List.Forall₂ (ItemBack levels) texts items) {gap : List Char} (hgap : Gap gap) :
    ReadsBack (levels + 1) ('[' :: commaSeparated texts ++ (gap ++ [']'])) (.list items) where
  starts := ⟨'[', _, rfl, by decide⟩
  reads rest _ := by
    have hlength := length_le_commaSeparated (fun _ _ => ItemBack.ne_nil) h
    rw [List.append_assoc, List.append_assoc, List.cons_append, List.singleton_append, readValue]
    cases h with
    | nil =>
        rw [commaSeparated, List.nil_append, skipBlanks_gap hgap, skipBlanks_cons rfl]
        rfl
    | @cons text _ texts _ hitem hitems =>
        have hread := readItems_written (.cons hitem hitems) (by simp)
          (hlength.trans (Nat.le_add_right _ (gap ++ ']' :: rest).length)) hgap rest
        obtain ⟨c, more, hskip, hbracket⟩ := skipBlanks_items hitem texts (gap ++ ']' :: rest)
        rw [← List.length_append] at hread
        rw [hskip]
        split
        · rename_i heq
          exact absurd (List.cons.inj heq).1 hbracket
        · rw [hread]
          rfl

theorem set_of_not_mem {fields : Fields} {key : String} (h : key ∉ fields.map Prod.fst)
    (value : Value) : fields.set key value = fields ++ [(key, value)] := by
  induction fields with
  | nil => rfl
  | cons field fields ih =>
      simp only [List.map_cons, List.mem_cons, not_or] at h
      rw [Fields.set, if_neg (Ne.symm h.1), ih h.2, List.cons_append]

/-- Fields of which none is mentioned twice stay as they are. -/
theorem ofMentions_eq_self {fields : Fields} (h : (fields.map Prod.fst).Nodup) :
    Fields.ofMentions fields = fields := by
  have hall : ∀ front : Fields, ((front ++ fields).map Prod.fst).Nodup →
      fields.foldl (fun fields field => Fields.set fields field.1 field.2) front
        = front ++ fields := by
    clear h
    induction fields with
    | nil => simp
    | cons field fields ih =>
        intro front hnodup
        obtain ⟨key, value⟩ := field
        have hkey : key ∉ front.map Prod.fst := by
          rw [List.map_append, List.map_cons] at hnodup
          exact fun hmem => List.disjoint_of_nodup_append hnodup hmem List.mem_cons_self
        rw [List.foldl_cons]
        simp only [set_of_not_mem hkey]
        rw [ih, List.append_assoc, List.singleton_append]
        rwa [List.append_assoc, List.singleton_append]
  exact hall [] h

/-- An object whose fields are read begins with the quote of the first key. -/
theorem skipBlanks_fields {text : List Char} {field : String × Value}
    (h : FieldBack levels text field) (texts : List (List Char)) (rest : List Char) :
    ∃ more, skipBlanks (commaSeparated (text :: texts) ++ rest) = '"' :: more := by
  obtain ⟨gap, text, rfl, hgap, -⟩ := h
  cases texts with
  | nil =>
      rw [commaSeparated, List.append_assoc, skipBlanks_gap hgap, List.append_assoc,
        skipBlanks_quoted]
      exact ⟨_, rfl⟩
  | cons next texts =>
      rw [commaSeparated_cons _ (by simp), List.append_assoc, List.append_assoc,
        skipBlanks_gap hgap, List.append_assoc, skipBlanks_quoted]
      exact ⟨_, rfl⟩

/-- **An object is read back if the values of its fields are.** -/
theorem readsBack_object {texts : List (List Char)} {fields : Fields}
    (h : List.Forall₂ (FieldBack levels) texts fields) (hkeys : (fields.map Prod.fst).Nodup)
    {gap : List Char} (hgap : Gap gap) :
    ReadsBack (levels + 1) ('\x7b' :: commaSeparated texts ++ (gap ++ ['\x7d'])) (.object fields)
    where
  starts := ⟨'\x7b', _, rfl, by decide⟩
  reads rest _ := by
    have hlength := length_le_commaSeparated (fun _ _ => FieldBack.ne_nil) h
    rw [List.append_assoc, List.append_assoc, List.cons_append, List.singleton_append, readValue]
    cases h with
    | nil =>
        rw [commaSeparated, List.nil_append, skipBlanks_gap hgap, skipBlanks_cons rfl]
        rfl
    | @cons text field texts _ hfield hfields =>
        have hread := readFields_written (.cons hfield hfields) (by simp)
          (hlength.trans (Nat.le_add_right _ (gap ++ '\x7d' :: rest).length)) hgap rest
        obtain ⟨more, hskip⟩ := skipBlanks_fields hfield texts (gap ++ '\x7d' :: rest)
        rw [← List.length_append] at hread
        rw [hskip]
        simp only [hread, ok_bind, ofMentions_eq_self hkeys]
        rfl

/-! ### Whole values -/

/-- A whole text is read like a value that nothing stands behind. -/
theorem ReadsBack.ofText {cs : List Char} {value : Value} (h : ReadsBack nestingLimit cs value) :
    ofText (String.ofList cs) = .ok value := by
  have hblanks := h.skipBlanks_append []
  have hvalue := h.reads [] stops_nil
  rw [List.append_nil] at hblanks hvalue
  rw [Json.ofText, String.toList_ofList, Json.read, hblanks, hvalue]
  rfl

end Json

end Paperwork
