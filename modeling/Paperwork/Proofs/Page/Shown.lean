/-
The lines that a page shows.

Taking the tags out of a page leaves the texts of its blocks, and a line feed behind every
element whose end breaks the line.  Cells have no such end: the texts of a row of a table come
to stand next to each other, on one line.  So the words that a page shows are those of its
lines, wherever the page is cut, because the end of a line ends a word as well.
-/
import Paperwork.Proofs.Page.Frame
import Paperwork.Proofs.Text.Words

namespace Paperwork

open Paperwork.Text
open Paperwork.Html

/-! ### The lines of blocks -/

namespace Fill

/-- The texts of a row of a table. -/
def valueTexts (columns : List Column) (row : Value) : Except FillError (List String) :=
  columns.mapM fun column => shownAt row (some column.path)

/-- The texts of a labelled value: the label and the value. -/
def labelledTexts (context : Context) (r : Row) : Except FillError (List String) := do
  return [r.label, ← shownAt context.data r.reference.target?]

/-- The lines that a block shows, each as the texts that stand on it next to each other. -/
def shownLines (context : Context) : Block → Except FillError (List (List String))
  | .heading b => do return [[← filled context b.text]]
  | .paragraph b => do
    let text ←
      match b.text with
      | some text => filled context text
      | none => shownAt context.data b.reference.target?
    return [[text]]
  | .line b => do
    let parts ← b.parts.mapM (part context)
    return [[String.intercalate " " (parts.map Value.display)]]
  | .list b => do return (← items context b).map fun text => [text]
  | .table b => do
    let rows ← rows context b
    return b.columns.map Column.header :: (← rows.mapM (valueTexts b.columns))
  | .keyValueTable b => b.rows.mapM (labelledTexts context)
  | .keyValueList b => do
    return (← b.rows.mapM (labelledTexts context)).flatMap fun texts => texts.map fun text => [text]
  | .divider _ => return []
  | .spacer _ => return []
  | .signature b => do
    let name ← named context b.name
    let title ← named context b.title
    return (if b.showRegards then [["Regards,"]] else [])
      ++ [name] :: (if title.isEmpty then [] else [[title]])

end Fill

/-- The lines that the blocks of a template show. -/
def Template.shownLines (t : Template) (data : Fields) :
    Except FillError (List (List String)) := do
  return (← t.blocks.mapM (Fill.shownLines ⟨t.styles.resolved, .object data.rehydrate⟩)).flatten

/-- The words of texts, read one by one. -/
def wordsOf (texts : List String) : List (List Char) := texts.flatMap fun text => words text.toList

/-- The words of texts that are written next to each other. -/
def wordsTogether (texts : List String) : List (List Char) :=
  words (texts.map String.toList).flatten

/-! ### The text that elements leave -/

/-- The end of an element breaks the line if its name is among those of blocks; its beginning
never does. -/
theorem textOf_element {tag : String} (htag : tag.toList ∈ elementNames) (attributes : Attributes)
    (content : List Markup) : textOf (Markup.element tag attributes content).tokens
      = textOf (tokensOf content) ++ (if tag.toList ∈ blockNames then ['\n'] else []) := by
  have hopening : breaksLine (tag.toList ++ attributesText attributes) = false := by
    have hnames : ∀ tag ∈ elementNames, opens [breakName] tag = none := by decide
    have hopens := not_opens_element (by decide) (hnames _ htag) attributes
    simp [breaksLine, hopens, not_closes_element htag]
  have hclosing : breaksLine ('/' :: tag.toList) = decide (tag.toList ∈ blockNames) := by
    have hnames : ∀ tag ∈ elementNames,
        breaksLine ('/' :: tag) = decide (tag ∈ blockNames) := by
      decide
    exact hnames _ htag
  simp [Markup.tokens, Token.text, hopening, hclosing]

theorem textOf_leaf {tag : String} (htag : tag.toList ∈ elementNames) (attributes : Attributes)
    (text : String) : textOf (Fill.leaf tag attributes text).tokens
      = text.toList ++ (if tag.toList ∈ blockNames then ['\n'] else []) := by
  rw [Fill.leaf, textOf_element htag]
  simp [tokensOf, Markup.tokens]

/-- Cells leave their texts, with nothing between them. -/
theorem textOf_cells {tag : String} (htag : tag.toList ∈ elementNames)
    (hcell : tag.toList ∉ blockNames) (attributes : Attributes) (texts : List String) :
    textOf (tokensOf (texts.map (Fill.leaf tag attributes)))
      = (texts.map String.toList).flatten := by
  induction texts with
  | nil => rfl
  | cons text texts ih =>
      rw [List.map_cons, tokensOf, textOf_append, textOf_leaf htag, if_neg hcell, ih]
      simp

/-! ### Parts that show lines -/

/-- Parts show lines: they add the words of these to those of any text behind them. -/
def Shows (ts : List Token) (lines : List (List String)) : Prop :=
  ∀ rest, words (textOf ts ++ rest) = lines.flatMap wordsTogether ++ words rest

namespace Shows

variable {a b ts : List Token} {first second lines : List (List String)}

theorem append (ha : Shows a first) (hb : Shows b second) : Shows (a ++ b) (first ++ second) := by
  intro rest
  rw [textOf_append, List.append_assoc, ha, hb, List.flatMap_append, List.append_assoc]

/-- Blanks and tags show nothing. -/
theorem blank (h : ∀ t ∈ ts, ∀ c, t = .char c → isBlank c = true) : Shows ts [] := by
  have hfeed : isBlank '\n' = true := by decide
  have hall : ∀ c ∈ textOf ts, isBlank c = true := by
    intro c hc
    obtain ⟨t, ht, hmem⟩ := List.mem_flatMap.mp hc
    cases t with
    | char d =>
        obtain rfl := List.mem_singleton.mp hmem
        exact h _ ht c rfl
    | tag inner =>
        simp only [Token.text] at hmem
        split at hmem
        · rwa [List.mem_singleton.mp hmem]
        · simp at hmem
  exact fun rest => words_of_blank_append hall rest

theorem tag (inner : List Char) : Shows [.tag inner] [] := blank (by simp)

theorem gap {cs : List Char} (h : cs.all isBlank = true) : Shows (cs.map .char) [] :=
  blank (by simpa using h)

/-- An element that breaks the line shows its texts on one line. -/
theorem line {tag : String} (htag : tag.toList ∈ blockNames) {attributes : Attributes}
    {content : List Markup} {texts : List String}
    (h : textOf (tokensOf content) = (texts.map String.toList).flatten) :
    Shows (Markup.element tag attributes content).tokens [texts] := by
  have hnames : ∀ tag ∈ blockNames, tag ∈ elementNames := by decide
  intro rest
  rw [textOf_element (hnames _ htag), if_pos htag, h, List.append_assoc, List.singleton_append,
    words_append_blank (by decide), List.flatMap_singleton, wordsTogether]

theorem leaf {tag : String} (htag : tag.toList ∈ blockNames) (attributes : Attributes)
    (text : String) : Shows (Fill.leaf tag attributes text).tokens [[text]] :=
  line htag (by simp [tokensOf, Markup.tokens])

/-- An element shows what stands in it. -/
theorem element {content : List Markup} (h : Shows (tokensOf content) lines) (tag : String)
    (attributes : Attributes) : Shows (Markup.element tag attributes content).tokens lines := by
  have hclosed := h.append (Shows.tag ('/' :: tag.toList))
  rw [List.append_nil] at hclosed
  rw [Markup.tokens, ← List.singleton_append]
  exact (Shows.tag _).append hclosed

theorem pieces {ms : List Markup} {groups : List (List (List String))}
    (h : List.Forall₂ (fun m lines => Shows m.tokens lines) ms groups) :
    Shows (tokensOf ms) groups.flatten := by
  induction h with
  | nil => exact blank (by simp [tokensOf])
  | cons hm _ ih =>
      rw [tokensOf, List.flatten_cons]
      exact hm.append ih

/-- Pieces that show one line each. -/
theorem eachLine {ms : List Markup} {rows : List (List String)}
    (h : List.Forall₂ (fun m texts => Shows m.tokens [texts]) ms rows) :
    Shows (tokensOf ms) rows := by
  have hall := pieces (List.forall₂_map_right_iff.mpr h)
  rwa [← List.flatMap_def, List.flatMap_singleton'] at hall

end Shows

/-! ### The lines that blocks show -/

namespace Fill

variable {context : Context} {m : Markup}

theorem heading_shows {b : HeadingBlock} (hlevel : 1 ≤ b.level ∧ b.level ≤ 6)
    (h : heading context b = .ok m) :
    ∃ lines, shownLines context (.heading b) = .ok lines ∧ Shows m.tokens lines := by
  obtain ⟨text, htext, hm⟩ := bind_eq_ok.mp h
  obtain rfl := Except.ok.inj hm
  have htag : ∀ level : Int, 1 ≤ level ∧ level ≤ 6 →
      ("h" ++ toString level).toList ∈ blockNames := by
    rintro level ⟨hlower, hupper⟩
    interval_cases level <;> decide
  refine ⟨[[text]], ?_, .leaf (htag b.level hlevel) _ text⟩
  rw [shownLines, htext]
  rfl

theorem paragraph_shows {b : ParagraphBlock} (h : paragraph context b = .ok m) :
    ∃ lines, shownLines context (.paragraph b) = .ok lines ∧ Shows m.tokens lines := by
  obtain ⟨text, rfl, htext⟩ := paragraph_eq_ok h
  refine ⟨[[text]], ?_, .leaf (by decide) _ text⟩
  rw [shownLines]
  cases hown : b.text with
  | some own =>
      simp only [hown] at htext ⊢
      rw [htext]
      rfl
  | none =>
      simp only [hown] at htext ⊢
      rw [htext]
      rfl

theorem line_shows {b : LineBlock} (h : line context b = .ok m) :
    ∃ lines, shownLines context (.line b) = .ok lines ∧ Shows m.tokens lines := by
  obtain ⟨parts, hparts, hm⟩ := bind_eq_ok.mp h
  obtain rfl := Except.ok.inj hm
  refine ⟨_, ?_, .leaf (by decide) _ _⟩
  rw [shownLines, hparts]
  rfl

theorem list_shows {b : ListBlock} (h : list context b = .ok m) :
    ∃ lines, shownLines context (.list b) = .ok lines ∧ Shows m.tokens lines := by
  obtain ⟨texts, htexts, hm⟩ := bind_eq_ok.mp h
  obtain rfl := Except.ok.inj hm
  have htag : (if b.ordered then "ol" else "ul").toList ∈ elementNames := by split <;> decide
  refine ⟨texts.map fun text => [text], ?_, .element (.eachLine ?_) _ _⟩
  · rw [shownLines, htexts]
    rfl
  · rw [List.forall₂_map_left_iff, List.forall₂_map_right_iff, List.forall₂_same]
    exact fun text _ => .leaf (by decide) _ text

theorem tableRow_shows {attributes : Attributes} {columns : List Column} {row : Value}
    (h : tableRow attributes columns row = .ok m) :
    ∃ texts, valueTexts columns row = .ok texts ∧ Shows m.tokens [texts] := by
  obtain ⟨texts, htexts, hm⟩ := bind_eq_ok.mp h
  obtain rfl := Except.ok.inj hm
  exact ⟨texts, htexts, .line (by decide) (textOf_cells (by decide) (by decide) _ texts)⟩

theorem table_shows {b : TableBlock} (h : table context b = .ok m) :
    ∃ lines, shownLines context (.table b) = .ok lines ∧ Shows m.tokens lines := by
  obtain ⟨rows, hrows, h⟩ := bind_eq_ok.mp h
  obtain ⟨body, hbody, hm⟩ := bind_eq_ok.mp h
  obtain rfl := Except.ok.inj hm
  obtain ⟨textss, htextss, hall⟩ := exists_related_of_mapM (fun _ _ => tableRow_shows) hbody
  have hheader : Shows (tokensOf [Markup.element "tr" [] (b.columns.map fun column =>
      leaf "th" (cellAttributes context b.headerStyle "th") column.header)])
      [b.columns.map Column.header] := by
    refine .eachLine (.cons (.line (by decide) ?_) .nil)
    have hth : "th".toList ∈ elementNames := by decide
    have hcells := textOf_cells hth (by decide) (cellAttributes context b.headerStyle "th")
      (b.columns.map Column.header)
    rwa [List.map_map] at hcells
  have hsections := Shows.pieces (.cons (hheader.element "thead" [])
    (.cons ((Shows.eachLine hall).element "tbody" []) .nil))
  refine ⟨b.columns.map Column.header :: textss, ?_, ?_⟩
  · rw [shownLines, hrows, ok_bind, htextss]
    rfl
  · simpa using hsections.element "table" (attributesFor context b.style "table")

theorem labelledRow_shows {r : Row} (h : labelledRow context r = .ok m) :
    ∃ texts, labelledTexts context r = .ok texts ∧ Shows m.tokens [texts] := by
  obtain ⟨text, htext, hm⟩ := bind_eq_ok.mp h
  obtain rfl := Except.ok.inj hm
  refine ⟨[r.label, text], ?_, .line (by decide) ?_⟩
  · rw [labelledTexts, htext]
    rfl
  · rw [tokensOf, tokensOf, textOf_append, textOf_append, textOf_leaf (by decide),
      textOf_leaf (by decide)]
    simp [tokensOf, blockNames]

theorem keyValueTable_shows {b : RowsBlock} (h : keyValueTable context b = .ok m) :
    ∃ lines, shownLines context (.keyValueTable b) = .ok lines ∧ Shows m.tokens lines := by
  obtain ⟨rows, hrows, hm⟩ := bind_eq_ok.mp h
  obtain rfl := Except.ok.inj hm
  obtain ⟨textss, htextss, hall⟩ := exists_related_of_mapM (fun _ _ => labelledRow_shows) hrows
  have hbody := Shows.pieces (.cons ((Shows.eachLine hall).element "tbody" []) .nil)
  rw [List.flatten_singleton] at hbody
  exact ⟨textss, htextss, hbody.element _ _⟩

theorem labelledEntry_shows {r : Row} (h : labelledEntry context r = .ok m) :
    ∃ texts, labelledTexts context r = .ok texts ∧
      Shows m.tokens (texts.map fun text => [text]) := by
  obtain ⟨text, htext, hm⟩ := bind_eq_ok.mp h
  obtain rfl := Except.ok.inj hm
  refine ⟨[r.label, text], ?_, .element (.eachLine ?_) _ _⟩
  · rw [labelledTexts, htext]
    rfl
  · exact .cons (.leaf (by decide) _ r.label) (.cons (.leaf (by decide) _ text) .nil)

theorem keyValueList_shows {b : RowsBlock} (h : keyValueList context b = .ok m) :
    ∃ lines, shownLines context (.keyValueList b) = .ok lines ∧ Shows m.tokens lines := by
  obtain ⟨rows, hrows, hm⟩ := bind_eq_ok.mp h
  obtain rfl := Except.ok.inj hm
  obtain ⟨textss, htextss, hall⟩ := exists_related_of_mapM (fun _ _ => labelledEntry_shows) hrows
  have hpieces := Shows.pieces (List.forall₂_map_right_iff.mpr hall)
  refine ⟨_, ?_, hpieces.element _ _⟩
  rw [shownLines, htextss, ← List.flatMap_def]
  rfl

theorem spacer_shows {size : Number} (h : spacer size = .ok m) : Shows m.tokens [] := by
  obtain rfl := spacer_eq_ok h
  exact .element (.pieces .nil) _ _

theorem signature_shows {b : SignatureBlock} (h : signature context b = .ok m) :
    ∃ lines, shownLines context (.signature b) = .ok lines ∧ Shows m.tokens lines := by
  obtain ⟨name, hname, h⟩ := bind_eq_ok.mp h
  obtain ⟨title, htitle, hm⟩ := bind_eq_ok.mp h
  obtain rfl := Except.ok.inj hm
  have hgreeting : List.Forall₂ (fun m texts => Shows m.tokens [texts])
      (if b.showRegards then [leaf "div" [] "Regards,"] else [])
      (if b.showRegards then [["Regards,"]] else []) := by
    cases b.showRegards
    · exact .nil
    · exact .cons (.leaf (by decide) [] "Regards,") .nil
  have htitled : List.Forall₂ (fun m texts => Shows m.tokens [texts])
      (if title.isEmpty then [] else [leaf "div" [] title])
      (if title.isEmpty then [] else [[title]]) := by
    cases title.isEmpty
    · exact .cons (.leaf (by decide) [] title) .nil
    · exact .nil
  have hnamed : Shows (leaf "div" [("style", "margin-top:12px;font-weight:600;")] name).tokens
      [[name]] := .leaf (by decide) _ name
  have hpieces := Shows.eachLine (List.rel_append hgreeting (.cons hnamed htitled))
  refine ⟨_, ?_, hpieces.element "div" (attributesFor context b.style "signature")⟩
  rw [shownLines, hname, ok_bind, htitle]
  rfl

/-- **Every block shows its lines.** -/
theorem block_shows {b : Block} (hlevel : b.Leveled) (h : block context b = .ok m) :
    ∃ lines, shownLines context b = .ok lines ∧ Shows m.tokens lines := by
  cases b with
  | heading b => exact heading_shows hlevel h
  | paragraph b => exact paragraph_shows h
  | line b => exact line_shows h
  | list b => exact list_shows h
  | table b => exact table_shows h
  | keyValueTable b => exact keyValueTable_shows h
  | keyValueList b => exact keyValueList_shows h
  | divider style =>
      obtain rfl := Except.ok.inj h
      exact ⟨[], rfl, .tag _⟩
  | spacer size => exact ⟨[], rfl, spacer_shows h⟩
  | signature b => exact signature_shows h

/-- Blocks show their lines, one block after another. -/
theorem blocks_show {bs : List Block} {ms : List Markup} (hlevels : ∀ b ∈ bs, b.Leveled)
    (h : List.Forall₂ (fun b m => block context b = .ok m) bs ms) :
    ∃ groups, bs.mapM (shownLines context) = .ok groups ∧
      Shows (tokenLines ms) groups.flatten := by
  induction h with
  | nil => exact ⟨[], rfl, .blank (by simp [tokenLines])⟩
  | @cons b m bs ms hm _ ih =>
      obtain ⟨first, hfirst, hshows⟩ := block_shows (hlevels b List.mem_cons_self) hm
      obtain ⟨groups, hgroups, hrest⟩ := ih fun b hb => hlevels b (List.mem_cons_of_mem _ hb)
      obtain ⟨gap, hgap, hlines⟩ := tokenLines_cons m ms
      refine ⟨first :: groups, ?_, ?_⟩
      · rw [List.mapM_cons, hfirst, ok_bind, hgroups]
        rfl
      · rw [hlines, List.flatten_cons]
        exact hshows.append ((Shows.gap hgap).append hrest)

end Fill

/-! ### The lines that pages show -/

namespace Page

theorem IsFrame.shows {ts : List Token} (h : IsFrame ts) : Shows ts [] := by
  refine .blank fun t ht c hc => ?_
  rcases h t ht with ⟨d, rfl, hd⟩ | ⟨inner, -, rfl⟩
  · exact Token.char.inj hc ▸ hd
  · exact absurd hc (by simp)

/-- Around the content of a page stand only blanks and tags. -/
theorem shows_shownTokens (sheet : StyleSheet) {content : List Token}
    {lines : List (List String)} (h : Shows content lines) :
    Shows (shownTokens sheet content) lines := by
  have hbefore : Shows (plainTokens "\n      ") [] := .gap (by decide)
  have hbehind : Shows (plainTokens "\n    ") [] := .gap (by decide)
  have hending := (Shows.tag ('/' :: divisionName)).append isFrame_ending.shows
  have hinside := ((hbefore.append h).append hbehind).append hending
  have hcontainer := (Shows.tag (divisionName ++ attributesText (container sheet))).append hinside
  have hall := isFrame_beforeHead.shows.append (isFrame_behindHead.shows.append hcontainer)
  simpa [shownTokens, containerTokens] using hall

end Page

/-- **The words that a page shows are those of its lines.** -/
theorem Template.plainText_page {t : Template} {data : Fields} {title : Option String}
    {fallback : String} {page : List Char} (hlevels : ∀ b ∈ t.blocks, b.Leveled)
    (hpage : t.page data title fallback = .ok page) :
    ∃ text lines, plainText page = .ok text ∧ t.shownLines data = .ok lines ∧
      words text = lines.flatMap wordsTogether := by
  obtain ⟨ms, hms, hsound, hvisible, -⟩ := t.shown_page hlevels hpage
  obtain ⟨groups, hgroups, hshows⟩ := Fill.blocks_show hlevels (mapM_eq_ok.mp hms)
  have hpageShows := Page.shows_shownTokens t.styles.resolved hshows
  have hcontent := content_writeTokens (Page.sound_shownTokens t.styles.resolved hsound)
  have htext : plainText page = .ok (joined ['\n', '\n'] (paragraphs
      (textOf (Page.shownTokens t.styles.resolved (tokenLines ms))))) := by
    rw [plainText, plainParagraphs, contentParagraphs, hvisible, hcontent]
    rfl
  refine ⟨_, groups.flatten, htext, ?_, ?_⟩
  · rw [Template.shownLines, hgroups]
    rfl
  · have hall := hpageShows []
    rw [List.append_nil, words_nil, List.append_nil] at hall
    rw [words_joined (by simp) (by decide), words_paragraphs, hall]

end Paperwork
