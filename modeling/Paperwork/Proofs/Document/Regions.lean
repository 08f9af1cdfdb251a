/-
Written tables and lists, and the nodes that they become.

A table is written as sections of rows of cells, and a list as items; each of these is an
element whose tags are not among those that stand in it.  So reading finds each of them
once and in order, and in each of them what was written.
-/
import Paperwork.Proofs.Document.Front
import Paperwork.Proofs.Html.Markup

namespace Paperwork

open Paperwork.Text
open Paperwork.Html

/-! ### Elements made of elements -/

/-- An element that, with what stands in it, is made of elements of some names. -/
inductive Html.Markup.MadeOf (names : List (List Char)) : Markup → Prop
  | leaf {tag text : String} {attributes : Attributes} (htag : tag.toList ∈ names) :
      MadeOf names (.element tag attributes [.text text])
  | parent {tag : String} {attributes : Attributes} {content : List Markup}
      (htag : tag.toList ∈ names) (hcontent : ∀ piece ∈ content, piece.MadeOf names) :
      MadeOf names (.element tag attributes content)

theorem Html.Markup.MadeOf.mono {names more : List (List Char)}
    (hmore : ∀ tag ∈ names, tag ∈ more) {m : Markup} (h : m.MadeOf names) : m.MadeOf more := by
  induction h with
  | leaf htag => exact .leaf (hmore _ htag)
  | parent htag _ ih => exact .parent (hmore _ htag) ih

/-- Nothing is asked for at the tags of elements of some names. -/
def Avoids {β : Type} (inside : List Char → Option β) (names : List (List Char)) : Prop :=
  ∀ tag ∈ names, (∀ attributes, inside (tag ++ attributesText attributes) = none) ∧
    inside ('/' :: tag) = none

theorem noTag_tokensOf {β : Type} {inside : List Char → Option β} {pieces : List Markup}
    (h : ∀ piece ∈ pieces, NoTag inside piece.tokens) : NoTag inside (tokensOf pieces) := by
  intro inner hinner
  rw [tokensOf_eq] at hinner
  obtain ⟨piece, hpiece, hmem⟩ := List.mem_flatMap.mp hinner
  exact h piece hpiece inner hmem

theorem Html.Markup.MadeOf.noTag {β : Type} {inside : List Char → Option β}
    {names : List (List Char)} (havoids : Avoids inside names) {m : Markup}
    (h : m.MadeOf names) : NoTag inside m.tokens := by
  induction h with
  | leaf htag =>
      obtain ⟨hopening, hclosing⟩ := havoids _ htag
      simp [Markup.tokens, tokensOf, hopening, hclosing]
  | parent htag _ ih =>
      obtain ⟨hopening, hclosing⟩ := havoids _ htag
      simp [Markup.tokens, noTag_tokensOf ih, hopening, hclosing]

theorem avoids_opens {names others : List (List Char)}
    (hothers : ∀ n ∈ others, n ≠ [] ∧ '/' ∉ n ∧ ' ' ∉ n)
    (h : ∀ tag ∈ names, opens others tag = none) : Avoids (opens others) names := by
  intro tag htag
  exact ⟨not_opens_element (fun n hn => (hothers n hn).2.2) (h tag htag),
    opens_slash (fun n hn => ⟨(hothers n hn).1, (hothers n hn).2.1⟩) tag⟩

theorem avoids_closes {names : List (List Char)} (hnames : ∀ tag ∈ names, tag ∈ elementNames)
    {key : Char → Char} {name : List Char}
    (h : ∀ tag ∈ names, closes key name ('/' :: tag) = false) :
    Avoids (wholeTag (closes key name)) names := by
  intro tag htag
  simp [wholeTag, not_closes_element (hnames tag htag), h tag htag]

/-! ### Finding written elements -/

/-- A written element whose closing tag does not stand in it is found as a whole. -/
theorem matchesIn_elements_written {key : Char → Char} {names : List (List Char)}
    {closed : Opening → List Char} (hnames : ∀ n ∈ names, '>' ∉ n ∧ ' ' ∉ n)
    {tag name : List Char} (htag : tag ∈ elementNames) (hopens : opens names tag = some (tag, []))
    (hclosed : ∀ attributes rest, closed ⟨tag, attributes, rest⟩ = name)
    (hname : IsName key name) (hcloses : closes key name ('/' :: tag) = true)
    {attributes : Attributes} (hattributes : attributes.Known) {body rest : List Token}
    (hbody : Sound body) (hunclosed : NoTag (wholeTag (closes key name)) body)
    (hrest : Sound rest) :
    ∃ e : Element, e.opening.name = tag ∧ e.content = writeTokens body ∧
      matchesIn (elements key names closed)
          (writeTokens (.tag (tag ++ attributesText attributes)
            :: (body ++ .tag ('/' :: tag) :: rest)))
        = e :: matchesIn (elements key names closed) (writeTokens rest) := by
  have hsound : Sound (body ++ .tag ('/' :: tag) :: rest) := by
    simp [hbody, sound_closing htag, hrest]
  have hfirst : firstTag (wholeTag (closes key name)) (body ++ .tag ('/' :: tag) :: rest)
      = some (body, (Token.tag ('/' :: tag)).write.length, rest) := by
    rw [firstTag_append hunclosed, firstTag_tag (by rw [wholeTag, if_pos hcloses])]
    simp
  rw [← hclosed (attributesText attributes)
    (writeTokens (body ++ .tag ('/' :: tag) :: rest))] at hname hfirst
  obtain ⟨e, hopening, hcontent, hmatches⟩ := matchesIn_elements_of_opens
    (fun n hn => (hnames n hn).1) (sound_opening htag hattributes)
    (opens_element (fun n hn => (hnames n hn).2) hopens attributes) hsound hname hfirst
  exact ⟨e, by rw [hopening], hcontent, hmatches⟩

/-! ### Cells -/

/-- A text with its words set apart by single spaces. -/
def oneLine (text : String) : String := String.ofList (collapsed text.toList)

theorem inlineText_escapeChars (text : String) :
    inlineText (writeTokens (text.toList.map .char)) = .ok (oneLine text) := by
  rw [inlineText_writeTokens (sound_chars _), textOf_chars, oneLine]

/-- A written cell of a table. -/
inductive IsCell : Markup → Cell → Prop
  | header {attributes : Attributes} (text : String) (hattributes : attributes.Known) :
      IsCell (.element "th" attributes [.text text]) ⟨oneLine text, true⟩
  | value {attributes : Attributes} (text : String) (hattributes : attributes.Known) :
      IsCell (.element "td" attributes [.text text]) ⟨oneLine text, false⟩

theorem IsCell.known {m : Markup} {cell : Cell} (h : IsCell m cell) : m.Known := by
  cases h with
  | header text hattributes => exact .leaf (by decide) hattributes
  | value text hattributes => exact .leaf (by decide) hattributes

theorem IsCell.madeOf {m : Markup} {cell : Cell} (h : IsCell m cell) : m.MadeOf cellNames := by
  cases h with
  | header text hattributes => exact .leaf (by decide)
  | value text hattributes => exact .leaf (by decide)

/-- The first cell of a row, and what is behind it. -/
theorem IsCell.found {m : Markup} {cell : Cell} (h : IsCell m cell) {rest : List Token}
    (hrest : Sound rest) :
    ∃ e : Element, inlineText e.content = .ok cell.text ∧ isHeader e = cell.header ∧
      matchesIn (elementAmong cellNames) (writeTokens (m.tokens ++ rest))
        = e :: matchesIn (elementAmong cellNames) (writeTokens rest) := by
  have hnames : ∀ n ∈ cellNames, '>' ∉ n ∧ ' ' ∉ n := by decide
  have hcells : ∀ tag ∈ cellNames, tag ∈ elementNames ∧ opens cellNames tag = some (tag, []) ∧
      closes fold tag ('/' :: tag) = true ∧ '>' ∉ tag := by
    decide
  have hfound : ∀ tag ∈ cellNames, ∀ attributes : Attributes, attributes.Known →
      ∀ text : String, ∃ e : Element, e.opening.name = tag ∧
        e.content = writeTokens (text.toList.map .char) ∧
        matchesIn (elementAmong cellNames) (writeTokens (.tag (tag ++ attributesText attributes)
            :: (text.toList.map .char ++ .tag ('/' :: tag) :: rest)))
          = e :: matchesIn (elementAmong cellNames) (writeTokens rest) := by
    intro tag htag attributes hattributes text
    obtain ⟨hname, hopens, hcloses, hbracket⟩ := hcells tag htag
    exact matchesIn_elements_written hnames hname hopens (fun _ _ => rfl) (isName_fold hbracket)
      hcloses hattributes (sound_chars _) (noTag_chars _) hrest
  cases h with
  | @header attributes text hattributes =>
      obtain ⟨e, hname, hcontent, hmatches⟩ :=
        hfound ['t', 'h'] (by decide) attributes hattributes text
      have hheader : isHeader e = true := by
        rw [isHeader, hname]
        decide
      exact ⟨e, by rw [hcontent, inlineText_escapeChars], hheader,
        by simpa [Markup.tokens, tokensOf] using hmatches⟩
  | @value attributes text hattributes =>
      obtain ⟨e, hname, hcontent, hmatches⟩ :=
        hfound ['t', 'd'] (by decide) attributes hattributes text
      have hheader : isHeader e = false := by
        rw [isHeader, hname]
        decide
      exact ⟨e, by rw [hcontent, inlineText_escapeChars], hheader,
        by simpa [Markup.tokens, tokensOf] using hmatches⟩

theorem sound_cells {ms : List Markup} {cells : List Cell} (h : List.Forall₂ IsCell ms cells) :
    Sound (tokensOf ms) := by
  induction h with
  | nil => exact sound_nil
  | cons hcell _ ih => exact sound_append.mpr ⟨hcell.known.sound, ih⟩

/-- **The cells of a row are read in their order.** -/
theorem rowCells_written {ms : List Markup} {cells : List Cell}
    (h : List.Forall₂ IsCell ms cells) :
    rowCells (writeTokens (tokensOf ms)) = .ok cells := by
  induction h with
  | nil => rfl
  | @cons m cell ms cells hcell hcells ih =>
      obtain ⟨e, htext, hheader, hmatches⟩ := hcell.found (sound_cells hcells)
      unfold rowCells at ih ⊢
      rw [tokensOf, hmatches, List.mapM_cons, ih, htext, hheader]
      rfl

/-! ### Rows and sections -/

/-- A written row of a table. -/
inductive IsRow : Markup → List Cell → Prop
  | row {ms : List Markup} {cells : List Cell} (h : List.Forall₂ IsCell ms cells) :
      IsRow (.element "tr" [] ms) cells

/-- The names of the sections of a table. -/
def sectionNames : List (List Char) := [['t', 'h', 'e', 'a', 'd'], ['t', 'b', 'o', 'd', 'y']]

/-- A written section of a table, its head or its body. -/
inductive IsSection : Markup → List (List Cell) → Prop
  | rows {tag : String} (htag : tag.toList ∈ sectionNames) {ms : List Markup}
      {rows : List (List Cell)} (h : List.Forall₂ IsRow ms rows) :
      IsSection (.element tag [] ms) rows

/-- The names of the elements of a row. -/
def rowNames : List (List Char) := ['t', 'r'] :: cellNames

/-- The names of the elements that stand in a table. -/
def tableNames : List (List Char) := sectionNames ++ rowNames

theorem exists_of_forall₂ {α β : Type} {r : α → β → Prop} {as : List α} {bs : List β}
    (h : List.Forall₂ r as bs) : ∀ a ∈ as, ∃ b, r a b := by
  induction h with
  | nil => simp
  | @cons a b as bs hab _ ih =>
      intro c hc
      rcases List.mem_cons.mp hc with rfl | hc
      · exact ⟨b, hab⟩
      · exact ih c hc

theorem known_nil : Attributes.Known [] := by simp [Attributes.Known]

theorem IsRow.known {m : Markup} {cells : List Cell} (h : IsRow m cells) : m.Known := by
  obtain ⟨hcells⟩ := h
  refine .parent (by decide) known_nil fun piece hpiece => ?_
  obtain ⟨cell, hcell⟩ := exists_of_forall₂ hcells piece hpiece
  exact hcell.known

theorem IsRow.madeOf {m : Markup} {cells : List Cell} (h : IsRow m cells) :
    m.MadeOf rowNames := by
  obtain ⟨hcells⟩ := h
  refine .parent (by decide) fun piece hpiece => ?_
  obtain ⟨cell, hcell⟩ := exists_of_forall₂ hcells piece hpiece
  exact hcell.madeOf.mono (by decide)

theorem IsSection.known {m : Markup} {rows : List (List Cell)} (h : IsSection m rows) :
    m.Known := by
  obtain ⟨htag, hrows⟩ := h
  have helement : ∀ tag ∈ sectionNames, tag ∈ elementNames := by decide
  refine .parent (helement _ htag) known_nil fun piece hpiece => ?_
  obtain ⟨cells, hrow⟩ := exists_of_forall₂ hrows piece hpiece
  exact hrow.known

theorem IsSection.madeOf {m : Markup} {rows : List (List Cell)} (h : IsSection m rows) :
    m.MadeOf tableNames := by
  obtain ⟨htag, hrows⟩ := h
  refine .parent (List.mem_append_left _ htag) fun piece hpiece => ?_
  obtain ⟨cells, hrow⟩ := exists_of_forall₂ hrows piece hpiece
  exact hrow.madeOf.mono fun tag htag => List.mem_append_right _ htag

/-- Reading the rows of a table in a row of parts. -/
def RowsRead (ts : List Token) (rows : List (List Cell)) : Prop :=
  Sound ts ∧ (matchesIn (elementNamed ['t', 'r']) (writeTokens ts)).mapM
    (fun row => rowCells row.content) = .ok rows

namespace RowsRead

theorem nil : RowsRead [] [] := ⟨sound_nil, rfl⟩

theorem skip {front ts : List Token} {rows : List (List Cell)} (hfront : Sound front)
    (hnone : NoTag (opens [['t', 'r']]) front) (h : RowsRead ts rows) :
    RowsRead (front ++ ts) rows := by
  refine ⟨sound_append.mpr ⟨hfront, h.1⟩, ?_⟩
  rw [elementNamed_eq, matchesIn_elements_append (by decide) hfront hnone]
  exact h.2

theorem row {m : Markup} {cells : List Cell} {ts : List Token} {rows : List (List Cell)}
    (hm : IsRow m cells) (h : RowsRead ts rows) : RowsRead (m.tokens ++ ts) (cells :: rows) := by
  refine ⟨sound_append.mpr ⟨hm.known.sound, h.1⟩, ?_⟩
  obtain @⟨ms, cells, hcells⟩ := hm
  have havoids : Avoids (wholeTag (closes caseFree ['t', 'r'])) cellNames :=
    avoids_closes (by decide) (by decide)
  have hunclosed : NoTag (wholeTag (closes caseFree ['t', 'r'])) (tokensOf ms) := by
    refine noTag_tokensOf fun piece hpiece => ?_
    obtain ⟨cell, hcell⟩ := exists_of_forall₂ hcells piece hpiece
    exact hcell.madeOf.noTag havoids
  have hfound : ∃ e : Element, e.opening.name = ['t', 'r'] ∧
      e.content = writeTokens (tokensOf ms) ∧
      matchesIn (elementNamed ['t', 'r']) (writeTokens (.tag (['t', 'r'] ++ attributesText [])
          :: (tokensOf ms ++ .tag ('/' :: ['t', 'r']) :: ts)))
        = e :: matchesIn (elementNamed ['t', 'r']) (writeTokens ts) :=
    matchesIn_elements_written (by decide) (by decide) (by decide) (fun _ _ => rfl)
      (isName_caseFree (by decide)) (by decide) known_nil (sound_cells hcells)
      hunclosed h.1
  obtain ⟨e, -, hcontent, hmatches⟩ := hfound
  have htokens : (Markup.element "tr" [] ms).tokens ++ ts
      = .tag (['t', 'r'] ++ attributesText [])
        :: (tokensOf ms ++ .tag ('/' :: ['t', 'r']) :: ts) :=
    Markup.tokens_element_append "tr" [] ms ts
  rw [htokens, hmatches, List.mapM_cons, hcontent, rowCells_written hcells, h.2]
  rfl

theorem rows {ms : List Markup} {cellss rows : List (List Cell)} {ts : List Token}
    (hms : List.Forall₂ IsRow ms cellss) (h : RowsRead ts rows) :
    RowsRead (tokensOf ms ++ ts) (cellss ++ rows) := by
  induction hms with
  | nil => exact h
  | cons hm _ ih =>
      rw [tokensOf, List.append_assoc]
      exact ih.row hm

theorem group {m : Markup} {cellss rows : List (List Cell)} {ts : List Token}
    (hm : IsSection m cellss) (h : RowsRead ts rows) :
    RowsRead (m.tokens ++ ts) (cellss ++ rows) := by
  obtain @⟨tag, htag, ms, cellss, hrows⟩ := hm
  have hnames : ∀ tag ∈ sectionNames, tag ∈ elementNames ∧ opens [['t', 'r']] tag = none ∧
      opens [['t', 'r']] ('/' :: tag) = none := by
    decide
  obtain ⟨hname, hopening, hclosing⟩ := hnames _ htag
  have hafter : RowsRead ([.tag ('/' :: tag.toList)] ++ ts) rows :=
    h.skip (by simpa using sound_closing hname) (by simpa using hclosing)
  rw [Markup.tokens_element_append, ← List.singleton_append]
  refine (hafter.rows hrows).skip ?_ ?_
  · simpa using sound_opening hname known_nil
  · simpa using not_opens_element (by decide) hopening []

end RowsRead

/-- **The rows of a written table are read in their order**, but for those without cells. -/
theorem tableNode_written {ms : List Markup} {groups : List (List (List Cell))}
    (h : List.Forall₂ IsSection ms groups) :
    tableNode (writeTokens (tokensOf ms))
      = .ok (.table (groups.flatten.filter fun row => !row.isEmpty)) := by
  have hread : RowsRead (tokensOf ms) groups.flatten := by
    induction h with
    | nil => exact .nil
    | cons hm _ ih =>
        rw [tokensOf, List.flatten_cons]
        exact ih.group hm
  rw [tableNode, hread.2]
  rfl

/-! ### Items -/

/-- A written item of a list. -/
inductive IsItem : Markup → String → Prop
  | item {attributes : Attributes} (text : String) (hattributes : attributes.Known) :
      IsItem (.element "li" attributes [.text text]) (oneLine text)

theorem IsItem.known {m : Markup} {text : String} (h : IsItem m text) : m.Known := by
  obtain ⟨text, hattributes⟩ := h
  exact .leaf (by decide) hattributes

theorem IsItem.madeOf {m : Markup} {text : String} (h : IsItem m text) :
    m.MadeOf [itemName] := by
  obtain ⟨text, hattributes⟩ := h
  exact .leaf (by decide)

theorem sound_items {ms : List Markup} {texts : List String} (h : List.Forall₂ IsItem ms texts) :
    Sound (tokensOf ms) := by
  induction h with
  | nil => exact sound_nil
  | cons hm _ ih => exact sound_append.mpr ⟨hm.known.sound, ih⟩

theorem items_found {ms : List Markup} {texts : List String}
    (h : List.Forall₂ IsItem ms texts) :
    List.Forall₂ (fun e text => inlineText e.content = .ok text)
      (matchesIn (elementNamed itemName) (writeTokens (tokensOf ms))) texts := by
  induction h with
  | nil => exact .nil
  | @cons m text ms texts hm hms ih =>
      obtain @⟨attributes, text, hattributes⟩ := hm
      have hfound : ∃ e : Element, e.opening.name = itemName ∧
          e.content = writeTokens (text.toList.map .char) ∧
          matchesIn (elementNamed itemName) (writeTokens
              (.tag (itemName ++ attributesText attributes)
                :: (text.toList.map .char ++ .tag ('/' :: itemName) :: tokensOf ms)))
            = e :: matchesIn (elementNamed itemName) (writeTokens (tokensOf ms)) :=
        matchesIn_elements_written (by decide) (by decide) (by decide) (fun _ _ => rfl)
          (isName_caseFree (by decide)) (by decide) hattributes (sound_chars _)
          (noTag_chars _) (sound_items hms)
      obtain ⟨e, -, hcontent, hmatches⟩ := hfound
      have htokens : tokensOf (.element "li" attributes [.text text] :: ms)
          = .tag (itemName ++ attributesText attributes)
            :: (text.toList.map .char ++ .tag ('/' :: itemName) :: tokensOf ms) := by
        simp [Markup.tokens, tokensOf, itemName]
      rw [htokens, hmatches]
      exact .cons (by rw [hcontent, inlineText_escapeChars]) ih

/-- **The items of a written list are read in their order.** -/
theorem listNodes_written (ordered : Bool) {ms : List Markup} {texts : List String}
    (h : List.Forall₂ IsItem ms texts) :
    listNodes ordered (writeTokens (tokensOf ms))
      = .ok (texts.zipIdx.map fun (text, i) => .listItem text ordered (i + 1)) := by
  have hread : (itemBodies (writeTokens (tokensOf ms))).mapM inlineText = .ok texts := by
    have hitems := items_found h
    unfold itemBodies
    revert hitems
    cases matchesIn (elementNamed itemName) (writeTokens (tokensOf ms)) with
    | nil =>
        intro hitems
        obtain rfl := List.forall₂_nil_left_iff.mp hitems
        obtain rfl := List.forall₂_nil_right_iff.mp h
        rfl
    | cons e es =>
        intro hitems
        exact mapM_eq_ok.mpr (List.forall₂_map_left_iff.mpr hitems)
  rw [listNodes, hread]
  rfl

end Paperwork
