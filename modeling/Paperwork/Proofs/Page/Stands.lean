/-
Filled blocks are read as what they stand for.

A piece of a page stands for nodes if it is read as them in front of every row that is
ready, and no text reaches into it.  Every block but a divider becomes such a piece, and a
divider is quiet.
-/
import Paperwork.Proofs.Document.Rows
import Paperwork.Proofs.Page.Escaping
import Paperwork.Proofs.Page.Outline

namespace Paperwork

open Paperwork.Text
open Paperwork.Html

/-- A piece of a page is read as nodes, whatever ready row stands behind it. -/
structure Stands (m : Markup) (nodes : List Node) : Prop where
  ready : ∀ {rest more}, Ready rest more → Ready (m.tokens ++ rest) (nodes ++ more)
  starts : ∀ {rest more}, Ready rest more → Starts (m.tokens ++ rest)

/-! ### Wrappers -/

/-- Where no tag makes text bold, a row is not wrapped by one that does. -/
theorem isWrappedBold_of_noTag {ts : List Token} (hts : Sound ts)
    (h : NoTag (opens boldNames) ts) : isWrappedBold (writeTokens ts) = false := by
  have hnames : ∀ n ∈ boldNames, '>' ∉ n := by decide
  have hreads := readsTags_opening hnames
  have hopening : opening? boldNames ((writeTokens ts).dropWhile isBlank) = none := by
    rw [dropWhile_isBlank_writeTokens]
    have hsub := List.dropWhile_sublist Token.isBlank (l := ts)
    have hsound := hts.sublist hsub
    have hnone := h.sublist hsub
    revert hsound hnone
    cases ts.dropWhile Token.isBlank with
    | nil => intro _ _; rfl
    | cons t rest =>
        intro hsound hnone
        cases t with
        | char c => exact hreads.onlyAtTags.char_none c _
        | tag inner =>
            have hinner := (sound_cons.mp hsound).1.2.2
            rw [writeTokens_cons, hreads.at_write hinner, (noTag_tag.mp hnone).1, Option.map_none]
  rw [isWrappedBold, hopening]

theorem stands_leaf {tag : String} (htag : tag.toList ∈ wrapperNames) {attributes : Attributes}
    (hattributes : attributes.Known) (text : String) :
    Stands (.element tag attributes [.text text]) [.lines text attributes] := by
  constructor
  · intro rest more h
    have hready := Ready.wrapped htag hattributes (within_chars tag.toList text.toList) h
    rw [isWrappedBold_of_noTag (sound_chars _) (noTag_chars _), Bool.or_false,
      hasBoldStyle_attributesText hattributes, paragraphText, textOf_chars] at hready
    rw [Markup.tokens_element_append, tokensOf_text]
    exact hready
  · intro rest more _
    rw [Markup.tokens_element_append]
    exact starts_wrapper htag attributes _

/-- An empty wrapper is an empty paragraph. -/
theorem stands_empty {tag : String} (htag : tag.toList ∈ wrapperNames) {attributes : Attributes}
    (hattributes : attributes.Known) :
    Stands (.element tag attributes []) [.lines "" attributes] := by
  have h := stands_leaf htag hattributes ""
  have htokens : (Markup.element tag attributes [.text ""]).tokens
      = (Markup.element tag attributes []).tokens := by
    simp [Markup.tokens, tokensOf]
  constructor
  · intro rest more hrest
    rw [← htokens]
    exact h.ready hrest
  · intro rest more hrest
    rw [← htokens]
    exact h.starts hrest

/-- Pieces one after another are read one after another. -/
theorem ready_tokensOf {ms : List Markup} {nodes : List (List Node)}
    (h : List.Forall₂ Stands ms nodes) {rest : List Token} {more : List Node}
    (hrest : Ready rest more) : Ready (tokensOf ms ++ rest) (nodes.flatten ++ more) := by
  induction h with
  | nil => exact hrest
  | cons hm _ ih =>
      rw [tokensOf, List.append_assoc, List.flatten_cons, List.append_assoc]
      exact hm.ready ih

/-- A wrapper around other pieces is read as these. -/
theorem stands_parent {tag : String} (htag : tag.toList ∈ wrapperNames) {attributes : Attributes}
    (hattributes : attributes.Known) {m : Markup} {ms : List Markup} {nodes : List (List Node)}
    (h : List.Forall₂ Stands (m :: ms) nodes) :
    Stands (.element tag attributes (m :: ms)) nodes.flatten := by
  have hclosing : Quiet [.tag ('/' :: tag.toList)] := by
    simpa using quiet_closing (wrapper_tags _ htag).1
  have hgap : Within tag.toList [] := within_chars _ []
  constructor
  · intro rest more hrest
    have hafter := hrest.quiet hclosing
    have hstarts : Starts (tokensOf (m :: ms) ++ ([Token.tag ('/' :: tag.toList)] ++ rest)) := by
      cases h with
      | cons hm hms =>
          rw [tokensOf, List.append_assoc]
          exact hm.starts (ready_tokensOf hms hafter)
    have hready := Ready.dropped htag hattributes hgap hstarts (ready_tokensOf h hafter)
    rw [Markup.tokens_element_append]
    exact hready
  · intro rest more _
    rw [Markup.tokens_element_append]
    exact starts_wrapper htag attributes _

/-! ### Regions -/

theorem stands_region (kind : RegionKind) (hkind : kind ∈ RegionKind.paired) {tag : String}
    (htag : tag.toList ∈ kind.tagNames) {attributes : Attributes}
    (hattributes : attributes.Known) {content : List Markup}
    (hcontent : Enclosed tag.toList (tokensOf content)) {nodes : List Node}
    (hnodes : (kind.element tag.toList attributes (tokensOf content)).nodes.answer = .ok nodes) :
    Stands (.element tag attributes content) nodes := by
  constructor
  · intro rest more hrest
    rw [Markup.tokens_element_append]
    exact Ready.region hkind htag hattributes hcontent hnodes hrest
  · intro rest more hrest
    rw [Markup.tokens_element_append]
    exact starts_region hkind htag hattributes hcontent hrest

theorem enclosed_text (tag : List Char) (text : String) : Enclosed tag (tokensOf [.text text]) := by
  rw [tokensOf_text]
  exact ⟨sound_chars _, noTag_chars _, noTag_chars _⟩

theorem stands_heading {tag : String} (htag : tag.toList ∈ RegionKind.heading.tagNames)
    {attributes : Attributes} (hattributes : attributes.Known) (text : String) :
    Stands (.element tag attributes [.text text])
      [.heading (oneLine text) (headingLevelOf tag.toList)] := by
  refine stands_region .heading (by decide) htag hattributes (enclosed_text _ text) ?_
  have hinline := inlineText_escapeChars text
  simp [Region.nodes, RegionKind.element, RegionKind.written, tokensOf, Markup.tokens, hinline]

/-- A list is read as its items, numbered in their order. -/
theorem stands_list (ordered : Bool) {attributes : Attributes} (hattributes : attributes.Known)
    {ms : List Markup} {texts : List String} (h : List.Forall₂ IsItem ms texts) :
    Stands (.element (if ordered then "ol" else "ul") attributes ms)
      (texts.zipIdx.map fun (text, i) => .listItem text ordered (i + 1)) := by
  have hnames : ∀ tag ∈ RegionKind.list.tagNames,
      closes caseFree (lowerText tag) ('/' :: itemName) = false := by
    decide
  have hitems : ∀ m ∈ ms, m.MadeOf [itemName] := by
    intro m hm
    obtain ⟨text, hitem⟩ := exists_of_forall₂ h m hm
    exact hitem.madeOf
  have htag : (if ordered then "ol" else "ul").toList ∈ RegionKind.list.tagNames := by
    cases ordered <;> decide
  refine stands_region .list (by decide) htag hattributes ⟨sound_items h, ?_, ?_⟩ ?_
  · refine noTag_tokensOf fun m hm => (hitems m hm).noTag (avoids_opens (by decide) ?_)
    decide
  · refine noTag_tokensOf fun m hm => (hitems m hm).noTag (avoids_closes (by decide) ?_)
    simpa using hnames _ htag
  · have hlist := listNodes_written ordered h
    have hordered : (lowerText (if ordered then "ol" else "ul").toList == ['o', 'l']) = ordered := by
      cases ordered <;> decide
    simp only [Region.nodes, RegionKind.element, RegionKind.written, hordered, hlist,
      Reading.answer_ofText_ok]

/-- A table is read as its rows, but for those without cells. -/
theorem stands_table {attributes : Attributes} (hattributes : attributes.Known)
    {ms : List Markup} {groups : List (List (List Cell))} (h : List.Forall₂ IsSection ms groups) :
    Stands (.element "table" attributes ms)
      [.table (groups.flatten.filter fun row => !row.isEmpty)] := by
  have hsections : ∀ m ∈ ms, m.Known ∧ m.MadeOf tableNames := by
    intro m hm
    obtain ⟨rows, hrows⟩ := exists_of_forall₂ h m hm
    exact ⟨hrows.known, hrows.madeOf⟩
  refine stands_region .table (by decide) (by decide) hattributes ⟨?_, ?_, ?_⟩ ?_
  · exact sound_tokensOf fun m hm => (hsections m hm).1.sound
  · refine noTag_tokensOf fun m hm => (hsections m hm).2.noTag (avoids_opens (by decide) ?_)
    decide
  · refine noTag_tokensOf fun m hm => (hsections m hm).2.noTag (avoids_closes (by decide) ?_)
    decide
  · have htable := tableNode_written h
    simp [Region.nodes, RegionKind.element, RegionKind.written, htable]

namespace Fill

variable {context : Context} {m : Markup}

/-! ### Blocks of one element -/

theorem heading_stands {b : HeadingBlock} (hlevel : 1 ≤ b.level ∧ b.level ≤ 6)
    (h : heading context b = .ok m) :
    ∃ ns, nodes context (.heading b) = .ok ns ∧ Stands m ns := by
  obtain ⟨text, htext, hm⟩ := bind_eq_ok.mp h
  obtain rfl := Except.ok.inj hm
  have htag : ∀ level : Int, 1 ≤ level ∧ level ≤ 6 →
      ("h" ++ toString level).toList ∈ RegionKind.heading.tagNames ∧
        (headingLevelOf ("h" ++ toString level).toList : Int) = level := by
    rintro level ⟨hlower, hupper⟩
    interval_cases level <;> decide
  refine ⟨[.heading (oneLine text) b.level], ?_, ?_⟩
  · rw [nodes, htext]
    rfl
  · have hstands := stands_heading (htag b.level hlevel).1
      (known_styleAttribute (context.sheet.heading? b.level b.style)) text
    rw [(htag b.level hlevel).2] at hstands
    exact hstands

theorem paragraph_stands {b : ParagraphBlock} (h : paragraph context b = .ok m) :
    ∃ ns, nodes context (.paragraph b) = .ok ns ∧ Stands m ns := by
  obtain ⟨text, rfl, htext⟩ := paragraph_eq_ok h
  refine ⟨_, ?_, stands_leaf (by decide) (known_attributesFor _ _ _) text⟩
  rw [nodes]
  cases hown : b.text with
  | some own =>
      simp only [hown] at htext ⊢
      rw [htext]
      rfl
  | none =>
      simp only [hown] at htext ⊢
      rw [htext]
      rfl

theorem line_stands {b : LineBlock} (h : line context b = .ok m) :
    ∃ ns, nodes context (.line b) = .ok ns ∧ Stands m ns := by
  obtain ⟨parts, hparts, hm⟩ := bind_eq_ok.mp h
  obtain rfl := Except.ok.inj hm
  refine ⟨_, ?_, stands_leaf (by decide) (known_attributesFor _ _ _) _⟩
  rw [nodes, hparts]
  rfl

theorem spacer_stands {size : Number} (h : spacer size = .ok m) :
    ∃ ns, nodes context (.spacer size) = .ok ns ∧ Stands m ns := by
  obtain rfl := spacer_eq_ok h
  refine ⟨_, rfl, ?_⟩
  have hknown : Attributes.Known [("style", "height:" ++ size.shown ++ "px")] := by
    simp [Attributes.Known, attributeNames]
  have hdivision : "div".toList ∈ wrapperNames := by decide
  have hstands := stands_empty hdivision hknown
  rw [Node.lines, isBold_height] at hstands
  exact hstands

/-! ### Lists and tables -/

theorem list_stands {b : ListBlock} (h : list context b = .ok m) :
    ∃ ns, nodes context (.list b) = .ok ns ∧ Stands m ns := by
  obtain ⟨texts, htexts, hm⟩ := bind_eq_ok.mp h
  obtain rfl := Except.ok.inj hm
  have hitems : List.Forall₂ IsItem (texts.map (leaf "li" (attributesOf context "listItem")))
      (texts.map oneLine) := by
    rw [List.forall₂_map_left_iff, List.forall₂_map_right_iff, List.forall₂_same]
    intro text _
    exact .item text (known_attributesOf _ _)
  refine ⟨_, ?_, stands_list b.ordered (known_attributesFor _ _ _) hitems⟩
  rw [nodes, htexts, List.zipIdx_map, List.map_map]
  rfl

theorem tableRow_isRow {attributes : Attributes} (hattributes : attributes.Known)
    {columns : List Column} {row : Value} (h : tableRow attributes columns row = .ok m) :
    ∃ cells, valueCells columns row = .ok cells ∧ IsRow m cells := by
  obtain ⟨texts, htexts, hm⟩ := bind_eq_ok.mp h
  obtain rfl := Except.ok.inj hm
  refine ⟨texts.map fun text => ⟨oneLine text, false⟩, ?_, .row ?_⟩
  · rw [valueCells, htexts]
    rfl
  · rw [List.forall₂_map_left_iff, List.forall₂_map_right_iff, List.forall₂_same]
    intro text _
    exact .value text hattributes

theorem length_valueCells {columns : List Column} {row : Value} {cells : List Cell}
    (h : valueCells columns row = .ok cells) : cells.length = columns.length := by
  obtain ⟨texts, htexts, hcells⟩ := bind_eq_ok.mp h
  obtain rfl := Except.ok.inj hcells
  rw [List.length_map, (mapM_eq_ok.mp htexts).length_eq]

/-- Of rows with `n` cells each none is left out, unless they have none. -/
theorem rows_kept {n : Nat} {rows : List (List Cell)} (h : ∀ row ∈ rows, row.length = n) :
    (rows.filter fun row => !row.isEmpty) = if n = 0 then [] else rows := by
  by_cases hn : n = 0
  · rw [if_pos hn, List.filter_eq_nil_iff]
    intro row hrow
    simp [List.length_eq_zero_iff.mp ((h row hrow).trans hn)]
  · rw [if_neg hn, List.filter_eq_self]
    intro row hrow
    cases row with
    | nil => exact absurd (h [] hrow).symm hn
    | cons cell row => rfl

theorem table_stands {b : TableBlock} (h : table context b = .ok m) :
    ∃ ns, nodes context (.table b) = .ok ns ∧ Stands m ns := by
  obtain ⟨rows, hrows, h⟩ := bind_eq_ok.mp h
  obtain ⟨body, hbody, hm⟩ := bind_eq_ok.mp h
  obtain rfl := Except.ok.inj hm
  obtain ⟨cellss, hcellss, hall⟩ := exists_related_of_mapM
    (fun _ _ => tableRow_isRow (known_attributesFor context b.cellStyle "td")) hbody
  let header : List Cell := b.columns.map fun column => ⟨oneLine column.header, true⟩
  have hheader : IsSection (.element "thead" [] [.element "tr" [] (b.columns.map fun column =>
      leaf "th" (cellAttributes context b.headerStyle "th") column.header)]) [header] := by
    refine .rows (by decide) (.cons (.row ?_) .nil)
    rw [List.forall₂_map_left_iff, List.forall₂_map_right_iff, List.forall₂_same]
    intro column _
    exact .header column.header (known_attributesFor _ _ _)
  have hcells : IsSection (.element "tbody" [] body) cellss := .rows (by decide) hall
  have hlengths : ∀ row ∈ header :: cellss, row.length = b.columns.length := by
    intro row hrow
    rcases List.mem_cons.mp hrow with rfl | hrow
    · exact List.length_map _
    · obtain ⟨value, -, hvalue⟩ := exists_of_mem_mapM hcellss hrow
      exact length_valueCells hvalue
  have hstands := stands_table (known_attributesFor context b.style "table")
    (.cons hheader (.cons hcells .nil))
  have hcolumns : (if b.columns.length = 0 then [] else header :: cellss)
      = if b.columns.isEmpty then [] else header :: cellss := by
    cases b.columns <;> rfl
  rw [show [[header], cellss].flatten = header :: cellss by simp, rows_kept hlengths,
    hcolumns] at hstands
  refine ⟨_, ?_, hstands⟩
  rw [nodes, hrows, ok_bind, hcellss]
  rfl

theorem labelledRow_isRow {r : Row} (h : labelledRow context r = .ok m) :
    ∃ cells, labelledCells context r = .ok cells ∧ IsRow m cells := by
  obtain ⟨text, htext, hm⟩ := bind_eq_ok.mp h
  obtain rfl := Except.ok.inj hm
  refine ⟨[⟨oneLine r.label, true⟩, ⟨oneLine text, false⟩], ?_, .row ?_⟩
  · rw [labelledCells, htext]
    rfl
  · exact .cons (.header r.label (known_attributesOf _ _))
      (.cons (.value text (known_attributesOf _ _)) .nil)

theorem length_labelledCells {r : Row} {cells : List Cell}
    (h : labelledCells context r = .ok cells) : cells.length = 2 := by
  obtain ⟨text, -, hcells⟩ := bind_eq_ok.mp h
  obtain rfl := Except.ok.inj hcells
  rfl

theorem keyValueTable_stands {b : RowsBlock} (h : keyValueTable context b = .ok m) :
    ∃ ns, nodes context (.keyValueTable b) = .ok ns ∧ Stands m ns := by
  obtain ⟨rows, hrows, hm⟩ := bind_eq_ok.mp h
  obtain rfl := Except.ok.inj hm
  obtain ⟨cellss, hcellss, hall⟩ := exists_related_of_mapM (fun _ _ => labelledRow_isRow) hrows
  have hbody : IsSection (.element "tbody" [] rows) cellss := .rows (by decide) hall
  have hlengths : ∀ row ∈ cellss, row.length = 2 := by
    intro row hrow
    obtain ⟨r, -, hr⟩ := exists_of_mem_mapM hcellss hrow
    exact length_labelledCells hr
  have hstands := stands_table (known_attributesFor context b.style "table") (.cons hbody .nil)
  rw [List.flatten_singleton, rows_kept hlengths] at hstands
  refine ⟨_, ?_, hstands⟩
  rw [nodes, hcellss]
  rfl

/-! ### Labelled lists and signatures -/

theorem isBold_classed {name : String} (h : hasBoldStyle name.toList = false)
    (attributes : Attributes) : isBold (classed name attributes) = isBold attributes := by
  rw [isBold, classed, List.any_cons, h, Bool.false_or, isBold]

theorem labelledEntry_stands {r : Row} (h : labelledEntry context r = .ok m) :
    ∃ ns, entryNodes context r = .ok ns ∧ Stands m ns := by
  obtain ⟨text, htext, hm⟩ := bind_eq_ok.mp h
  obtain rfl := Except.ok.inj hm
  have hdivision : "div".toList ∈ wrapperNames := by decide
  have hlabel := stands_leaf hdivision
    (known_classed "kv-label" (known_attributesOf context "kvLabel")) r.label
  have hvalue := stands_leaf hdivision
    (known_classed "kv-value" (known_attributesOf context "kvValue")) text
  rw [Node.lines, isBold_classed (by decide)] at hlabel hvalue
  refine ⟨_, ?_, stands_parent hdivision (known_classed _ (known_attributesOf _ _))
    (.cons hlabel (.cons hvalue .nil))⟩
  rw [entryNodes, htext]
  rfl

theorem keyValueList_stands {b : RowsBlock} (h : keyValueList context b = .ok m) :
    ∃ ns, nodes context (.keyValueList b) = .ok ns ∧ Stands m ns := by
  obtain ⟨rows, hrows, hm⟩ := bind_eq_ok.mp h
  obtain rfl := Except.ok.inj hm
  obtain ⟨entries, hentries, hall⟩ :=
    exists_related_of_mapM (fun _ _ => labelledEntry_stands) hrows
  have hdivision : "div".toList ∈ wrapperNames := by decide
  have hknown := known_classed "kv-list" (known_attributesFor context b.style "kvList")
  have hlength := (mapM_eq_ok.mp hrows).length_eq
  cases hall with
  | nil =>
      have hempty := stands_empty hdivision hknown
      rw [Node.lines, isBold_classed (by decide)] at hempty
      refine ⟨_, ?_, hempty⟩
      rw [nodes, hentries, ok_bind, if_pos (by simpa using hlength)]
      rfl
  | cons hentry hmore =>
      refine ⟨_, ?_, stands_parent hdivision hknown (.cons hentry hmore)⟩
      rw [nodes, hentries, ok_bind, if_neg]
      · rfl
      · intro hempty
        rw [List.isEmpty_iff.mp hempty] at hlength
        simp at hlength

/-- Pieces of a signature: there is always one, for the name. -/
theorem stands_pieces {before after : List Markup} {piece : Markup}
    {first last : List (List Node)} {nodes : List Node} {attributes : Attributes}
    (hattributes : attributes.Known) (hbefore : List.Forall₂ Stands before first)
    (hpiece : Stands piece nodes) (hafter : List.Forall₂ Stands after last) :
    Stands (.element "div" attributes (before ++ piece :: after))
      (first.flatten ++ nodes ++ last.flatten) := by
  have hall := List.rel_append hbefore (.cons hpiece hafter)
  have hnodes : first.flatten ++ nodes ++ last.flatten = (first ++ nodes :: last).flatten := by
    simp
  rw [hnodes]
  cases before with
  | nil => exact stands_parent (by decide) hattributes hall
  | cons m before => exact stands_parent (by decide) hattributes hall

theorem signature_stands {b : SignatureBlock} (h : signature context b = .ok m) :
    ∃ ns, nodes context (.signature b) = .ok ns ∧ Stands m ns := by
  obtain ⟨name, hname, h⟩ := bind_eq_ok.mp h
  obtain ⟨title, htitle, hm⟩ := bind_eq_ok.mp h
  obtain rfl := Except.ok.inj hm
  have hdivision : "div".toList ∈ wrapperNames := by decide
  have hheavy : Attributes.Known [("style", "margin-top:12px;font-weight:600;")] := by
    simp [Attributes.Known, attributeNames]
  have hgreeting : List.Forall₂ Stands
      (if b.showRegards then [leaf "div" [] "Regards,"] else [])
      (if b.showRegards then [[.paragraph "Regards," false]] else []) := by
    cases b.showRegards
    · exact .nil
    · exact .cons (stands_leaf hdivision known_nil "Regards,") .nil
  have htitled : List.Forall₂ Stands
      (if title.isEmpty then [] else [leaf "div" [] title])
      (if title.isEmpty then [] else [[.lines title []]]) := by
    cases title.isEmpty
    · exact .cons (stands_leaf hdivision known_nil title) .nil
    · exact .nil
  have hstands := stands_pieces (known_attributesFor context b.style "signature") hgreeting
    (stands_leaf hdivision hheavy name) htitled
  have hbold : isBold [("style", "margin-top:12px;font-weight:600;")] = true := by
    decide
  rw [Node.lines, hbold] at hstands
  refine ⟨_, ?_, hstands⟩
  rw [nodes, hname, ok_bind, htitle, ok_bind]
  cases b.showRegards <;> cases title.isEmpty <;> rfl

end Fill

end Paperwork
