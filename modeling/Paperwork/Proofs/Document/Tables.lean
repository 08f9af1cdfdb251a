/-
Tables in the middle of a page.

A table is read where its tag opens, whatever stands in front of it and behind it: no step
that begins in front of a region reaches into it, and every step there makes paragraphs.
In the table its rows are found one after the other, and in each row its cells, as no tag
of a table passes for one of another name.  The tags may have any attributes and be
written in letters of either case.
-/
import Paperwork.Proofs.Document.Ahead
import Paperwork.Proofs.Document.Conservation
import Paperwork.Proofs.Document.Regions

namespace Paperwork

open Paperwork.Text
open Paperwork.Html

/-! ### Written tables -/

/-- Parts of a page that stand for some things in order, with parts between them that
stand for nothing. -/
inductive Interspersed {α : Type} (stands : List Token → α → Prop) (between : Token → Prop) :
    List Token → List α → Prop
  | nil : Interspersed stands between [] []
  | skip {t : Token} {ts : List Token} {as : List α} (ht : between t)
      (h : Interspersed stands between ts as) : Interspersed stands between (t :: ts) as
  | item {part ts : List Token} {a : α} {as : List α} (hpart : stands part a)
      (h : Interspersed stands between ts as) : Interspersed stands between (part ++ ts) (a :: as)

/-- A blank between the parts of a table. -/
def IsBlankPart (t : Token) : Prop := ∃ c, t = .char c ∧ isBlank c = true

/-- The name of the tags of a cell. -/
def cellName (header : Bool) : List Char := if header then ['t', 'h'] else ['t', 'd']

/-- A cell with its text, as it is written. -/
inductive CellWritten : List Token → Cell → Prop
  | cell {inner name attributes close : List Char} (header : Bool) (text : String)
      (hinner : (Token.tag inner).Sound) (hclose : (Token.tag close).Sound)
      (hopens : opens [cellName header] inner = some (name, attributes))
      (hcloses : closes fold name close = true) :
      CellWritten (.tag inner :: (text.toList.map .char ++ [.tag close])) ⟨oneLine text, header⟩

/-- A row of cells, as it is written. -/
inductive RowWritten : List Token → List Cell → Prop
  | row {inner close : List Char} {content : List Token} {cells : List Cell}
      (hinner : (Token.tag inner).Sound) (hclose : (Token.tag close).Sound)
      (hopens : (opens [['t', 'r']] inner).isSome)
      (hcloses : closes caseFree ['t', 'r'] close = true)
      (hcells : Interspersed CellWritten IsBlankPart content cells) :
      RowWritten (.tag inner :: (content ++ [.tag close])) cells

/-- What may stand between rows: blanks, and the tags that open and close sections. -/
inductive BetweenRows : Token → Prop
  | blank {t : Token} (h : IsBlankPart t) : BetweenRows t
  | sectionTag {inner : List Char} (hinner : (Token.tag inner).Sound)
      (htag : TagOf sectionNames inner) : BetweenRows (.tag inner)

/-- A table of rows, as it is written. -/
inductive TableWritten : List Token → List (List Cell) → Prop
  | table {inner close : List Char} {content : List Token} {rows : List (List Cell)}
      (hinner : (Token.tag inner).Sound) (hclose : (Token.tag close).Sound)
      (hopens : (opens RegionKind.table.tagNames inner).isSome)
      (hcloses : closes caseFree ['t', 'a', 'b', 'l', 'e'] close = true)
      (hrows : Interspersed RowWritten BetweenRows content rows) :
      TableWritten (.tag inner :: (content ++ [.tag close])) rows

/-! ### The tags of a table -/

/-- The tags in some parts are sound and of some names. -/
structure TagsOf (names : List (List Char)) (ts : List Token) : Prop where
  sound : Sound ts
  tags : ∀ inner, .tag inner ∈ ts → TagOf names inner

namespace TagsOf

variable {names more : List (List Char)} {ts a b : List Token}

theorem nil : TagsOf names [] := ⟨sound_nil, by simp⟩

theorem append (ha : TagsOf names a) (hb : TagsOf names b) : TagsOf names (a ++ b) where
  sound := sound_append.mpr ⟨ha.sound, hb.sound⟩
  tags inner hinner := (List.mem_append.mp hinner).elim (ha.tags inner) (hb.tags inner)

theorem chars (cs : List Char) : TagsOf names (cs.map .char) := ⟨sound_chars cs, by simp⟩

theorem tag {inner : List Char} (hinner : (Token.tag inner).Sound) (htag : TagOf names inner) :
    TagsOf names [.tag inner] := by
  refine ⟨by simpa using hinner, fun other hother => ?_⟩
  obtain rfl := Token.tag.inj (List.mem_singleton.mp hother)
  exact htag

theorem mono (h : TagsOf names ts) (hmore : ∀ n ∈ names, n ∈ more) : TagsOf more ts :=
  ⟨h.sound, fun inner hinner => (h.tags inner hinner).mono hmore⟩

/-- An element is made of the tags it is made of. -/
theorem element {inner close : List Char} {content : List Token}
    (hinner : TagsOf names [.tag inner]) (hcontent : TagsOf names content)
    (hclose : TagsOf names [.tag close]) :
    TagsOf names (.tag inner :: (content ++ [.tag close])) :=
  hinner.append (hcontent.append hclose)

/-- Parts are made of the tags of what stands among them and between. -/
theorem interspersed {α : Type} {stands : List Token → α → Prop} {between : Token → Prop}
    (hstands : ∀ part a, stands part a → TagsOf names part)
    (hbetween : ∀ t, between t → TagsOf names [t]) {as : List α}
    (h : Interspersed stands between ts as) : TagsOf names ts := by
  induction h with
  | nil => exact .nil
  | skip ht _ ih => exact (hbetween _ ht).append ih
  | item hpart _ ih => exact (hstands _ _ hpart).append ih

theorem not_opens (h : TagsOf names ts) {others : List (List Char)}
    (happart : NamesApart names others) (hothers : ∀ n ∈ others, n ≠ [] ∧ '/' ∉ n) :
    NoTag (opens others) ts := fun inner hinner => (h.tags inner hinner).not_opens happart hothers

theorem not_closes (h : TagsOf names ts) {name : List Char} (happart : NamesApart names [name])
    (hnames : ∀ n ∈ names, n ≠ [] ∧ '/' ∉ n) {key : Char → Char}
    (hkey : ∀ c d, key c = key d → caseFree c = caseFree d) :
    NoTag (wholeTag (closes key name)) ts := fun inner hinner =>
  if_neg (by simp [(h.tags inner hinner).not_closes happart hnames hkey])

end TagsOf

theorem IsBlankPart.tagsOf {names : List (List Char)} {t : Token} (h : IsBlankPart t) :
    TagsOf names [t] := by
  obtain ⟨c, rfl, -⟩ := h
  exact .chars [c]

theorem CellWritten.tagsOf {ts : List Token} {cell : Cell} (h : CellWritten ts cell) :
    TagsOf cellNames ts := by
  obtain @⟨inner, name, attributes, close, header, text, hinner, hclose, hopens, hcloses⟩ := h
  have hname : cellName header ∈ cellNames := by cases header <;> decide
  obtain ⟨n, hn, hkeys⟩ := opens_name hopens
  rw [List.mem_singleton.mp hn] at hkeys
  refine .element (.tag hinner (.opening ?_)) (.chars _) (.tag hclose ?_)
  · exact opens_mono (by simpa using hname) (Option.isSome_iff_exists.mpr ⟨_, hopens⟩)
  · exact .of_closes (fun _ _ => caseFree_of_fold) hname hkeys hcloses

theorem RowWritten.tagsOf {ts : List Token} {cells : List Cell} (h : RowWritten ts cells) :
    TagsOf rowNames ts := by
  obtain ⟨hinner, hclose, hopens, hcloses, hcells⟩ := h
  have hcontent := TagsOf.interspersed (fun _ _ => CellWritten.tagsOf)
    (fun _ => IsBlankPart.tagsOf) hcells
  refine .element (.tag hinner (.opening (opens_mono (by decide) hopens)))
    (hcontent.mono (by decide)) (.tag hclose ?_)
  exact .of_closes (fun _ _ h => h) (by decide) rfl hcloses

theorem BetweenRows.tagsOf {t : Token} (h : BetweenRows t) : TagsOf sectionNames [t] := by
  cases h with
  | blank hblank => exact hblank.tagsOf
  | sectionTag hinner htag => exact .tag hinner htag

theorem Interspersed.tagsOf_rows {ts : List Token} {rows : List (List Cell)}
    (h : Interspersed RowWritten BetweenRows ts rows) : TagsOf tableNames ts :=
  .interspersed (fun _ _ hrow => hrow.tagsOf.mono (by decide))
    (fun _ ht => ht.tagsOf.mono (by decide)) h

/-! ### What is read in a table -/

theorem isHeader_of_opens {header : Bool} {inner name attributes : List Char}
    (hopens : opens [cellName header] inner = some (name, attributes)) {e : Element}
    (he : e.opening.name = name) : isHeader e = header := by
  obtain ⟨n, hn, hkeys⟩ := opens_name hopens
  rw [List.mem_singleton.mp hn] at hkeys
  have hsmall : ∀ c ∈ cellName header, IsSmall c := by
    rw [← List.all_iff_forall_prop]
    cases header <;> decide
  rw [isHeader, he, lowerText_of_caseFree hsmall hkeys]
  cases header <;> decide

/-- A tag of cells of one kind is found among those of both. -/
theorem opens_cellNames {header : Bool} {inner name attributes : List Char}
    (hopens : opens [cellName header] inner = some (name, attributes)) :
    opens cellNames inner = some (name, attributes) := by
  have hsplit : opens cellNames inner
      = (opens [cellName false] inner).or (opens [cellName true] inner) :=
    opens_append [cellName false] [cellName true] inner
  cases header with
  | false => rw [hsplit, hopens, Option.some_or]
  | true =>
      have happart : NamesApart [cellName true] [cellName false] := by decide
      rw [hsplit, happart.opens_eq_none (by rw [hopens]; rfl), Option.none_or, hopens]

/-- The first cell of some parts, and those behind it. -/
theorem CellWritten.read {part ts : List Token} {cell : Cell} (h : CellWritten part cell)
    (hts : Sound ts) {cells : List Cell} (hcells : rowCells (writeTokens ts) = .ok cells) :
    rowCells (writeTokens (part ++ ts)) = .ok (cell :: cells) := by
  obtain @⟨inner, name, attributes, close, header, text, hinner, hclose, hopens, hcloses⟩ := h
  have hbracket : '>' ∉ name := by
    have hmem := hinner.2.2
    rw [opens_eq_some hopens] at hmem
    exact fun h => hmem (List.mem_append_left _ h)
  have hfirst : firstTag (wholeTag (closes fold name)) (text.toList.map .char ++ .tag close :: ts)
      = some (text.toList.map .char, (Token.tag close).write.length, ts) := by
    rw [firstTag_append (noTag_chars _), firstTag_tag (by rw [wholeTag, if_pos hcloses])]
    simp
  have hfound : ∃ e : Element,
      e.opening = ⟨name, attributes, writeTokens (text.toList.map .char ++ .tag close :: ts)⟩ ∧
        e.content = writeTokens (text.toList.map .char) ∧
        matchesIn (elementAmong cellNames)
            (writeTokens (.tag inner :: (text.toList.map .char ++ .tag close :: ts)))
          = e :: matchesIn (elementAmong cellNames) (writeTokens ts) :=
    matchesIn_elements_of_opens (by decide) hinner (opens_cellNames hopens)
      (by simp [hclose, hts]) (isName_fold hbracket) hfirst
  obtain ⟨e, hopening, hcontent, hmatches⟩ := hfound
  have hheader : isHeader e = header := isHeader_of_opens hopens (by rw [hopening])
  unfold rowCells at hcells ⊢
  rw [List.cons_append, List.append_assoc, List.singleton_append, hmatches, List.mapM_cons,
    hcontent, inlineText_escapeChars, hheader, hcells]
  rfl

/-- **The cells of a row are read in their order.** -/
theorem rowCells_interspersed {ts : List Token} {cells : List Cell}
    (h : Interspersed CellWritten IsBlankPart ts cells) :
    rowCells (writeTokens ts) = .ok cells := by
  induction h with
  | nil => rfl
  | skip ht _ ih =>
      obtain ⟨c, rfl, -⟩ := ht
      have hskip : ∀ cs, matchesIn (elementAmong cellNames) (escapeChar c ++ cs)
          = matchesIn (elementAmong cellNames) cs := matchesIn_elements_char (by decide) c
      unfold rowCells at ih ⊢
      rw [writeTokens_cons, Token.write, hskip]
      exact ih
  | item hpart hrest ih =>
      have hsound := (TagsOf.interspersed (fun _ _ => CellWritten.tagsOf)
        (fun _ => IsBlankPart.tagsOf) hrest).sound
      exact hpart.read hsound ih

/-- The first row of some parts, and those behind it. -/
theorem RowWritten.read {part ts : List Token} {cells : List Cell} (h : RowWritten part cells)
    {rows : List (List Cell)} (hrows : RowsRead ts rows) :
    RowsRead (part ++ ts) (cells :: rows) := by
  refine ⟨sound_append.mpr ⟨h.tagsOf.sound, hrows.1⟩, ?_⟩
  obtain @⟨inner, close, content, cells, hinner, hclose, hopens, hcloses, hcells⟩ := h
  obtain ⟨⟨name, attributes⟩, hname⟩ := Option.isSome_iff_exists.mp hopens
  have htags : TagsOf cellNames content := .interspersed (fun _ _ => CellWritten.tagsOf)
    (fun _ => IsBlankPart.tagsOf) hcells
  have hunclosed : NoTag (wholeTag (closes caseFree ['t', 'r'])) content :=
    htags.not_closes (by decide) (by decide) (fun _ _ h => h)
  have hfirst : firstTag (wholeTag (closes caseFree ['t', 'r'])) (content ++ .tag close :: ts)
      = some (content, (Token.tag close).write.length, ts) := by
    rw [firstTag_append hunclosed, firstTag_tag (by rw [wholeTag, if_pos hcloses])]
    simp
  have hfound : ∃ e : Element, e.opening = ⟨name, attributes, _⟩ ∧
      e.content = writeTokens content ∧
      matchesIn (elementNamed ['t', 'r'])
          (writeTokens (.tag inner :: (content ++ .tag close :: ts)))
        = e :: matchesIn (elementNamed ['t', 'r']) (writeTokens ts) :=
    matchesIn_elements_of_opens (by decide) hinner hname
      (by simp [hclose, htags.sound, hrows.1]) (isName_caseFree (by decide)) hfirst
  obtain ⟨e, -, hcontent, hmatches⟩ := hfound
  rw [List.cons_append, List.append_assoc, List.singleton_append, hmatches, List.mapM_cons,
    hcontent, rowCells_interspersed hcells, hrows.2]
  rfl

/-- **The rows of a table are read in their order**, and its sections are passed over. -/
theorem rowsRead_interspersed {ts : List Token} {rows : List (List Cell)}
    (h : Interspersed RowWritten BetweenRows ts rows) : RowsRead ts rows := by
  induction h with
  | nil => exact .nil
  | @skip t ts rows ht _ ih =>
      have htags := ht.tagsOf
      show RowsRead ([t] ++ ts) rows
      exact ih.skip htags.sound (htags.not_opens (by decide) (by decide))
  | item hpart _ ih => exact hpart.read ih

theorem tableNode_interspersed {ts : List Token} {rows : List (List Cell)}
    (h : Interspersed RowWritten BetweenRows ts rows) (hrows : ∀ row ∈ rows, row ≠ []) :
    tableNode (writeTokens ts) = .ok (.table rows) := by
  have hkept : (rows.filter fun row => !row.isEmpty) = rows :=
    List.filter_eq_self.mpr fun row hrow => by simpa using hrows row hrow
  rw [tableNode, (rowsRead_interspersed h).2, ok_bind, hkept]
  rfl

/-! ### Gaps made of parts -/

/-- Whether all of some parts is shown is told by their tags. -/
theorem allShown_writeTokens {ts : List Token} (hts : Sound ts) :
    AllShown (writeTokens ts) ↔ Shown ts := by
  have hcomment : search (behind? ['<', '!', '-', '-']) (writeTokens ts) = none
      ↔ NoTag (behind? ['!', '-', '-']) ts := by
    rw [readsTags_comment.search_writeTokens hts, Option.map_eq_none_iff, firstTag_eq_none]
  have hhidden := @noTag_of_search hiddenNames (by decide) ts hts
  exact ⟨fun h => ⟨hcomment.mp h.noComment, hhidden.mp h.noHidden⟩,
    fun h => ⟨.writeTokens ts, hcomment.mpr h.noComment, hhidden.mpr h.noHidden⟩⟩

theorem Html.AllShown.sublist {a b : List Token} (hshown : AllShown (writeTokens b))
    (hb : Sound b) (h : a.Sublist b) : AllShown (writeTokens a) := by
  have htags := (allShown_writeTokens hb).mp hshown
  exact (allShown_writeTokens (hb.sublist h)).mpr
    ⟨htags.noComment.sublist h, htags.noHidden.sublist h⟩

/-- Whether parts make a gap is told by their tags. -/
theorem gap_writeTokens {ts : List Token} (hts : Sound ts) :
    Gap (writeTokens ts) ↔ NoTag (behind? ['!', '-', '-']) ts ∧ NoTag (opens hiddenNames) ts ∧
      ∀ kind : RegionKind, NoTag (opens kind.tagNames) ts := by
  constructor
  · intro h
    have hshown := (allShown_writeTokens hts).mp h.toAllShown
    exact ⟨hshown.noComment, hshown.noHidden,
      fun kind => (noTag_of_search kind.tagNames_no_bracket hts).mp (h.noRegion kind)⟩
  · rintro ⟨hnone, hhidden, hregions⟩
    exact ⟨(allShown_writeTokens hts).mpr ⟨hnone, hhidden⟩,
      fun kind => (noTag_of_search kind.tagNames_no_bracket hts).mpr (hregions kind)⟩

/-- Parts of a gap make a gap. -/
theorem Gap.sublist {a b : List Token} (h : a.Sublist b) (hb : Sound b)
    (hgap : Gap (writeTokens b)) : Gap (writeTokens a) := by
  obtain ⟨hcomment, hhidden, hregions⟩ := (gap_writeTokens hb).mp hgap
  exact (gap_writeTokens (hb.sublist h)).mpr
    ⟨hcomment.sublist h, hhidden.sublist h, fun kind => (hregions kind).sublist h⟩

/-! ### Tables -/

/-- The names of all elements of a table. -/
def allTableNames : List (List Char) := RegionKind.table.tagNames ++ tableNames

namespace TableWritten

variable {ts : List Token} {rows : List (List Cell)}

theorem tagsOf (h : TableWritten ts rows) : TagsOf allTableNames ts := by
  obtain ⟨hinner, hclose, hopens, hcloses, hrows⟩ := h
  refine .element (.tag hinner (.opening (opens_mono (by decide) hopens)))
    (hrows.tagsOf_rows.mono (by decide)) (.tag hclose ?_)
  exact .of_closes (fun _ _ h => h) (by decide) rfl hcloses

theorem allShown (h : TableWritten ts rows) : AllShown (writeTokens ts) := by
  have htags := h.tagsOf
  exact (allShown_writeTokens htags.sound).mpr
    ⟨fun inner hinner => (htags.tags inner hinner).not_comment (by decide),
      htags.not_opens (by decide) (by decide)⟩

/-- A written table is a region, whose content is read as its rows. -/
theorem region (h : TableWritten ts rows) (hrows : ∀ row ∈ rows, row ≠ []) :
    ∃ name inner content close, writeTokens ts = enclosed inner content close ∧
      RegionKind.table.Encloses name inner content close ∧
      (RegionKind.table.front name inner content close).nodes.answer = .ok [.table rows] := by
  obtain @⟨inner, close, content, rows, hinner, hclose, hopens, hcloses, hcontent⟩ := h
  obtain ⟨⟨name, attributes⟩, hname⟩ := Option.isSome_iff_exists.mp hopens
  have hlower : lowerText name = ['t', 'a', 'b', 'l', 'e'] := by
    obtain ⟨n, hn, hkeys⟩ := opens_name hname
    rw [List.mem_singleton.mp hn] at hkeys
    refine lowerText_of_caseFree ?_ hkeys
    rw [← List.all_iff_forall_prop]
    decide
  have htags := hcontent.tagsOf_rows
  have hunclosed : search (closingLength? caseFree (lowerText name)) (writeTokens content)
      = none := by
    rw [hlower, (readsTags_closing (isName_caseFree (by decide))).search_writeTokens htags.sound,
      Option.map_eq_none_iff, firstTag_eq_none]
    exact htags.not_closes (by decide) (by decide) (fun _ _ h => h)
  refine ⟨name, inner, writeTokens content, close, by simp [enclosed], ?_, ?_⟩
  · exact ⟨by decide, hinner.2.2, ⟨attributes, hname⟩, .writeTokens content, hunclosed,
      hclose.2.2, by rwa [hlower]⟩
  · simp [Region.nodes, RegionKind.front, tableNode_interspersed hcontent hrows]

theorem begins (h : TableWritten ts rows) (after : List Token) :
    (ts ++ after).dropWhile Token.isBlank = ts ++ after := by
  obtain ⟨_, _, _, _, _⟩ := h
  exact List.dropWhile_cons_of_neg (by simp [Token.isBlank])

theorem ends (h : TableWritten ts rows) (before : List Token) :
    (before ++ ts).rdropWhile Token.isBlank = before ++ ts := by
  obtain @⟨inner, close, content, _, _, _, _, _, _⟩ := h
  rw [show before ++ .tag inner :: (content ++ [.tag close])
    = (before ++ .tag inner :: content) ++ [.tag close] by simp]
  exact List.rdropWhile_concat_neg _ _ _ (by simp [Token.isBlank])

end TableWritten

/-- A page of parts that are shown is read without the blanks around them. -/
theorem readText_writeTokens {ts : List Token} (hshown : AllShown (writeTokens ts)) :
    readText (writeTokens ts) = writeTokens (trimmedTokens ts) := by
  rw [readText, visible_eq_self hshown.noComment hshown.noHidden, trimmed_writeTokens]

/-- A page of parts that is read to its end is converted, if no image opens in it. -/
theorem exists_nodes_of_suffices {ts : List Token} (hts : Sound ts)
    (hshown : AllShown (writeTokens ts)) (himages : NoTag (opens RegionKind.image.tagNames) ts)
    {cap : Cap} (hcap : cap.Suffices (writeTokens ts)) :
    ∃ nodes, (convert cap (writeTokens ts)).run.value = .ok ⟨nodes, false⟩ ∧
      ReadsTo (writeTokens (trimmedTokens ts)) nodes := by
  have htext := readText_writeTokens hshown
  have hsub := trimmedTokens_sublist ts
  obtain ⟨limit, steps, hscan⟩ := scanPage_eq hcap.1 (writeTokens ts)
  obtain ⟨nodes, hnodes, -⟩ :=
    scanAnew_keeps limit steps (hts.sublist hsub) (himages.sublist hsub)
  have hconvert : (convert cap (writeTokens ts)).run.value = .ok ⟨nodes, false⟩ := by
    refine convert_of_scanned ?_
    rw [hscan]
    show (scanAnew limit steps (readText (writeTokens ts))).answer = .ok nodes
    rw [htext]
    exact hnodes
  exact ⟨nodes, hconvert, htext ▸ readsTo_of_convert hcap hconvert⟩

/--
**A table is converted wherever it stands.**  In front of a table and behind it may stand
any complete tags and any escaped text, in which nothing is hidden and no region opens;
wrappers and line breaks may be open or closed there as they please.  If the page is read
to its end, it becomes the table, with its rows and their cells in order, each with the
words of its text and marked as a header exactly if its tag says so, and nothing but
paragraphs in front of it and behind it.
-/
theorem convert_table {before table after : List Token} (hbefore : Sound before)
    (hafter : Sound after) (hgapBefore : Gap (writeTokens before))
    (hgapAfter : Gap (writeTokens after)) {rows : List (List Cell)}
    (htable : TableWritten table rows) (hrows : ∀ row ∈ rows, row ≠ []) {cap : Cap}
    (hcap : cap.Suffices (writeTokens (before ++ table ++ after))) :
    ∃ front back, (convert cap (writeTokens (before ++ table ++ after))).run.value
        = .ok ⟨front ++ .table rows :: back, false⟩ ∧
      (∀ node ∈ front, node.IsParagraph) ∧ ∀ node ∈ back, node.IsParagraph := by
  have htags := htable.tagsOf
  have hsound : Sound (before ++ table ++ after) := by
    simp [hbefore, htags.sound, hafter]
  have hshown : AllShown (writeTokens (before ++ table ++ after)) := by
    rw [writeTokens_append, writeTokens_append]
    exact (hgapBefore.toAllShown.append htable.allShown).append hgapAfter.toAllShown
  have himages : NoTag (opens RegionKind.image.tagNames) (before ++ table ++ after) := by
    rw [noTag_append, noTag_append]
    exact ⟨⟨((gap_writeTokens hbefore).mp hgapBefore).2.2 .image,
      htags.not_opens (by decide +kernel) (by decide)⟩,
      ((gap_writeTokens hafter).mp hgapAfter).2.2 .image⟩
  obtain ⟨nodes, hconvert, hread⟩ := exists_nodes_of_suffices hsound hshown himages hcap
  -- Blanks are trimmed from what stands around the table only.
  have htrimmed : trimmedTokens (before ++ table ++ after)
      = before.dropWhile Token.isBlank ++ (table ++ after.rdropWhile Token.isBlank) := by
    rw [trimmedTokens, List.append_assoc, dropWhile_append_front _ (htable.begins after),
      ← List.append_assoc, rdropWhile_append_back (htable.ends _), List.append_assoc]
  obtain ⟨name, inner, content, close, hwritten, hencloses, hnodes⟩ := htable.region hrows
  rw [htrimmed, writeTokens_append, writeTokens_append, hwritten] at hread
  have hfront : Gap (writeTokens (before.dropWhile Token.isBlank)) :=
    hgapBefore.sublist (List.dropWhile_sublist _) hbefore
  obtain ⟨front, rest, rfl, hparagraphs, hrest⟩ := hread.through_gap hfront
    (hencloses.distance _) (enclosed_begins inner content close _)
  obtain ⟨made, back, rfl, hmade, hback⟩ := hencloses.readsTo hrest
  obtain rfl := Except.ok.inj (hnodes.symm.trans hmade)
  refine ⟨front, back, by simpa using hconvert, hparagraphs, ?_⟩
  rw [dropWhile_isBlank_writeTokens] at hback
  exact hback.of_gap (hgapAfter.sublist
    ((List.dropWhile_sublist _).trans (List.rdropWhile_prefix _ _).sublist) hafter)

/-- A cell that heads a column, and a row of it. -/
def priceHead : List Token := [.tag ['t', 'r'], .tag ['T', 'H'], .char 'A', .char '&',
  .tag ['/', 't', 'H'], .tag ['/', 't', 'r']]

/-- A table with such a row in its head, and without any other. -/
def priceTable : List Token := [.tag ['t', 'a', 'b', 'l', 'e', ' ', 'x'],
  .tag ['t', 'h', 'e', 'a', 'd']] ++ priceHead ++ [.tag ['/', 't', 'a', 'b', 'l', 'e', ' ']]

theorem priceTable_written : TableWritten priceTable [[⟨"A&", true⟩]] := by
  have hopens : opens [cellName true] ['T', 'H'] = some (['T', 'H'], []) := by decide
  have hcell : CellWritten [.tag ['T', 'H'], .char 'A', .char '&', .tag ['/', 't', 'H']]
      ⟨"A&", true⟩ := .cell true "A&" (by decide) (by decide) hopens (by decide)
  have hcells : Interspersed CellWritten IsBlankPart
      [.tag ['T', 'H'], .char 'A', .char '&', .tag ['/', 't', 'H']] [⟨"A&", true⟩] :=
    .item hcell .nil
  have hrow : RowWritten priceHead [⟨"A&", true⟩] :=
    .row (by decide) (by decide) (by decide) (by decide) hcells
  have hhead : BetweenRows (.tag ['t', 'h', 'e', 'a', 'd']) :=
    .sectionTag (by decide) (.opening (by decide))
  have hrows : Interspersed RowWritten BetweenRows
      (.tag ['t', 'h', 'e', 'a', 'd'] :: (priceHead ++ [])) [[⟨"A&", true⟩]] :=
    .skip hhead (.item hrow .nil)
  exact .table (by decide) (by decide) (by decide) (by decide) hrows

/-- The tag of a paragraph that is not closed, and a letter. -/
def openParagraph : List Token := [.tag ['p'], .char 'x']

/-- The closing tag of a division that is not opened. -/
def closedDivision : List Token := [.tag ['/', 'd', 'i', 'v']]

theorem priceTable_converted :
    TableWritten priceTable [[⟨"A&", true⟩]] ∧
      Cap.standard.Suffices (writeTokens (openParagraph ++ priceTable ++ closedDivision)) ∧
      ∃ front back,
        (convert Cap.standard (writeTokens (openParagraph ++ priceTable ++ closedDivision))).run.value
          = .ok ⟨front ++ .table [[⟨"A&", true⟩]] :: back, false⟩ ∧
        (∀ node ∈ front, node.IsParagraph) ∧ ∀ node ∈ back, node.IsParagraph := by
  have hfront : Gap (writeTokens openParagraph) :=
    ⟨⟨.writeTokens _, rfl, rfl⟩, fun kind => by cases kind <;> rfl⟩
  have hback : Gap (writeTokens closedDivision) :=
    ⟨⟨.writeTokens _, rfl, rfl⟩, fun kind => by cases kind <;> rfl⟩
  have hcap : Cap.standard.Suffices
      (writeTokens (openParagraph ++ priceTable ++ closedDivision)) :=
    Cap.suffices_of_allows (Cap.allows_standard (by decide +kernel))
  have hsoundFront : Sound openParagraph := by simp [openParagraph, Token.Sound]
  have hsoundBack : Sound closedDivision := by simp [closedDivision, Token.Sound]
  exact ⟨priceTable_written, hcap, convert_table hsoundFront hsoundBack hfront hback
    priceTable_written (by decide) hcap⟩

end Paperwork
