/-
The words of a page, read in two ways.

A page is converted to nodes, and its text is taken out for plain printing.  Both go through
the lines of its blocks: the nodes hold the words of each text of a line, and the plain text
the words of the texts of a line written next to each other.  Only the rows of tables have
several texts, so the two agree exactly if a blank stands between the texts of every row.
-/
import Paperwork.Proofs.Document.Conservation
import Paperwork.Proofs.Page.Printed
import Paperwork.Proofs.Page.Shown
import Paperwork.Proofs.Print.Fallback
import Paperwork.Proofs.Print.Plain

namespace Paperwork

open Paperwork.Text
open Paperwork.Html

/-! ### The words of nodes -/

@[simp] theorem wordsOf_nil : wordsOf [] = [] := rfl

@[simp] theorem wordsOf_cons (text : String) (texts : List String) :
    wordsOf (text :: texts) = words text.toList ++ wordsOf texts := rfl

@[simp] theorem wordsOf_append (a b : List String) : wordsOf (a ++ b) = wordsOf a ++ wordsOf b :=
  List.flatMap_append

theorem wordsOf_flatten (groups : List (List String)) :
    wordsOf groups.flatten = groups.flatMap wordsOf := by
  rw [wordsOf, List.flatten_eq_flatMap, List.flatMap_assoc]
  rfl

@[simp] theorem words_oneLine (text : String) :
    words (oneLine text).toList = words text.toList := by
  rw [oneLine, String.toList_ofList, words_collapsed]

/-- The words of nodes, those of a table row by row. -/
def nodeWords (nodes : List Node) : List (List Char) := wordsOf (nodes.flatMap Node.texts)

theorem nodeWords_flatten (nss : List (List Node)) :
    nodeWords nss.flatten = nss.flatMap nodeWords := by
  rw [nodeWords, List.flatten_eq_flatMap, List.flatMap_assoc, List.flatMap_def, wordsOf_flatten,
    List.flatMap_map]
  rfl

theorem nodeWords_table (rows : List (List Cell)) :
    nodeWords [.table rows] = rows.flatMap fun row => wordsOf (row.map Cell.text) := by
  rw [nodeWords, List.flatMap_singleton, Node.texts, List.map_flatten, wordsOf_flatten,
    List.flatMap_map]

namespace Fill

variable {context : Context} {ns : List Node} {lines : List (List String)}

theorem words_valueCells {columns : List Column} (row : Value) (cells : List Cell)
    (texts : List String) (hcells : valueCells columns row = .ok cells)
    (htexts : valueTexts columns row = .ok texts) :
    wordsOf (cells.map Cell.text) = wordsOf texts := by
  obtain ⟨shown, hshown, h⟩ := bind_eq_ok.mp hcells
  obtain rfl := Except.ok.inj h
  obtain rfl := Except.ok.inj (hshown.symm.trans htexts)
  simp [wordsOf, List.flatMap_map]

theorem words_labelledCells (r : Row) (cells : List Cell) (texts : List String)
    (hcells : labelledCells context r = .ok cells) (htexts : labelledTexts context r = .ok texts) :
    wordsOf (cells.map Cell.text) = wordsOf texts := by
  obtain ⟨value, hvalue, h⟩ := bind_eq_ok.mp hcells
  obtain rfl := Except.ok.inj h
  rw [labelledTexts, hvalue] at htexts
  obtain rfl := Except.ok.inj htexts
  simp

theorem words_entryNodes (r : Row) (ns : List Node) (texts : List String)
    (hnodes : entryNodes context r = .ok ns) (htexts : labelledTexts context r = .ok texts) :
    nodeWords ns = wordsOf texts := by
  obtain ⟨value, hvalue, h⟩ := bind_eq_ok.mp hnodes
  obtain rfl := Except.ok.inj h
  rw [labelledTexts, hvalue] at htexts
  obtain rfl := Except.ok.inj htexts
  simp [nodeWords, Node.lines, Node.texts]

theorem words_table {b : TableBlock} (hnodes : nodes context (.table b) = .ok ns)
    (hlines : shownLines context (.table b) = .ok lines) :
    nodeWords ns = lines.flatMap wordsOf := by
  obtain ⟨rows, hrows, h⟩ := bind_eq_ok.mp hnodes
  obtain ⟨body, hbody, hns⟩ := bind_eq_ok.mp h
  obtain rfl := Except.ok.inj hns
  rw [shownLines, hrows, ok_bind] at hlines
  obtain ⟨textss, htextss, h⟩ := bind_eq_ok.mp hlines
  obtain rfl := Except.ok.inj h
  have hall := flatMap_eq_of_mapM words_valueCells hbody htextss
  rw [nodeWords_table, List.flatMap_cons]
  by_cases hcolumns : b.columns = []
  · have hempty : ∀ texts ∈ textss, wordsOf texts = [] := by
      intro texts hmem
      obtain ⟨row, -, hrow⟩ := exists_of_mem_mapM htextss hmem
      rw [hcolumns] at hrow
      obtain rfl := Except.ok.inj hrow
      rfl
    rw [hcolumns, List.flatMap_eq_nil_iff.mpr hempty]
    rfl
  · have hheader : wordsOf ((b.columns.map fun column => (⟨oneLine column.header, true⟩ : Cell)).map
        Cell.text) = wordsOf (b.columns.map Column.header) := by
      simp [wordsOf, List.flatMap_map]
    rw [if_neg (by simpa using hcolumns), List.flatMap_cons, hheader, hall]

theorem words_paragraph {b : ParagraphBlock} (hnodes : nodes context (.paragraph b) = .ok ns)
    (hlines : shownLines context (.paragraph b) = .ok lines) :
    nodeWords ns = lines.flatMap wordsOf := by
  have hone : ∀ x : Except FillError String,
      (do return [Node.lines (← x) (attributesFor context b.style "paragraph")]) = .ok ns →
      (do return [[← x]]) = .ok lines → nodeWords ns = lines.flatMap wordsOf := by
    intro x hns hls
    obtain ⟨text, rfl, h⟩ := bind_eq_ok.mp hns
    obtain rfl := Except.ok.inj h
    obtain rfl := Except.ok.inj hls
    simp [nodeWords, Node.lines, Node.texts]
  rw [nodes] at hnodes
  rw [shownLines] at hlines
  cases htext : b.text with
  | some own =>
      simp only [htext] at hnodes hlines
      exact hone _ hnodes hlines
  | none =>
      simp only [htext] at hnodes hlines
      exact hone _ hnodes hlines

theorem words_list {b : ListBlock} (hnodes : nodes context (.list b) = .ok ns)
    (hlines : shownLines context (.list b) = .ok lines) : nodeWords ns = lines.flatMap wordsOf := by
  obtain ⟨texts, htexts, h⟩ := bind_eq_ok.mp hnodes
  obtain rfl := Except.ok.inj h
  rw [shownLines, htexts] at hlines
  obtain rfl := Except.ok.inj hlines
  have hitems : ∀ items : List (String × Nat), nodeWords (items.map fun item =>
      .listItem (oneLine item.1) b.ordered (item.2 + 1)) = wordsOf (items.map Prod.fst) := by
    intro items
    induction items with
    | nil => rfl
    | cons item items ih =>
        simp only [nodeWords] at ih
        simp [nodeWords, Node.texts, ih]
  refine (hitems texts.zipIdx).trans ?_
  rw [List.zipIdx_map_fst, List.flatMap_map]
  simp [wordsOf]

theorem words_keyValueList {b : RowsBlock} (hnodes : nodes context (.keyValueList b) = .ok ns)
    (hlines : shownLines context (.keyValueList b) = .ok lines) :
    nodeWords ns = lines.flatMap wordsOf := by
  obtain ⟨entries, hentries, h⟩ := bind_eq_ok.mp hnodes
  obtain rfl := Except.ok.inj h
  obtain ⟨textss, htextss, h⟩ := bind_eq_ok.mp hlines
  obtain rfl := Except.ok.inj h
  have hall := flatMap_eq_of_mapM words_entryNodes hentries htextss
  have hgrouped : (textss.flatMap fun texts => texts.map fun text => [text]).flatMap wordsOf
      = textss.flatMap wordsOf := by
    simp only [List.flatMap_assoc, List.flatMap_map, wordsOf, List.flatMap_singleton]
    rfl
  rw [hgrouped, ← hall]
  by_cases hrows : b.rows = []
  · have hlength := (mapM_eq_ok.mp hentries).length_eq
    obtain rfl : entries = [] := by simpa [hrows] using hlength.symm
    simp [hrows, nodeWords, Node.lines, Node.texts]
  · rw [if_neg (by simpa using hrows), nodeWords_flatten]

/-- **The nodes of a block have the words of its lines, one text after another.** -/
theorem words_nodes {b : Block} (hnodes : nodes context b = .ok ns)
    (hlines : shownLines context b = .ok lines) : nodeWords ns = lines.flatMap wordsOf := by
  cases b with
  | heading b =>
      obtain ⟨text, htext, h⟩ := bind_eq_ok.mp hnodes
      obtain rfl := Except.ok.inj h
      rw [shownLines, htext] at hlines
      obtain rfl := Except.ok.inj hlines
      simp [nodeWords, Node.texts]
  | paragraph b => exact words_paragraph hnodes hlines
  | line b =>
      obtain ⟨parts, hparts, h⟩ := bind_eq_ok.mp hnodes
      obtain rfl := Except.ok.inj h
      rw [shownLines, hparts] at hlines
      obtain rfl := Except.ok.inj hlines
      simp [nodeWords, Node.lines, Node.texts]
  | list b => exact words_list hnodes hlines
  | table b => exact words_table hnodes hlines
  | keyValueTable b =>
      obtain ⟨rows, hrows, h⟩ := bind_eq_ok.mp hnodes
      obtain rfl := Except.ok.inj h
      rw [nodeWords_table]
      exact flatMap_eq_of_mapM words_labelledCells hrows hlines
  | keyValueList b => exact words_keyValueList hnodes hlines
  | divider style =>
      obtain rfl := Except.ok.inj hnodes
      obtain rfl := Except.ok.inj hlines
      rfl
  | spacer size =>
      obtain rfl := Except.ok.inj hnodes
      obtain rfl := Except.ok.inj hlines
      rfl
  | signature b =>
      obtain ⟨name, hname, h⟩ := bind_eq_ok.mp hnodes
      obtain ⟨title, htitle, h⟩ := bind_eq_ok.mp h
      obtain rfl := Except.ok.inj h
      rw [shownLines, hname, ok_bind, htitle] at hlines
      obtain rfl := Except.ok.inj hlines
      cases b.showRegards <;> cases title.isEmpty <;> simp [nodeWords, Node.lines, Node.texts]

theorem nodes_divider {b : Block} (hb : b.isDivider = true) : nodes context b = .ok [] := by
  cases b with
  | divider style => rfl
  | _ => exact absurd hb (by simp [Block.isDivider])

end Fill

/-- **The document that a template stands for has the words of its lines, one text after
another.** -/
theorem Template.words_outline {t : Template} {data : Fields} {nodes : List Node}
    {lines : List (List String)} (houtline : t.outline data = .ok nodes)
    (hlines : t.shownLines data = .ok lines) : nodeWords nodes = lines.flatMap wordsOf := by
  obtain ⟨nss, hnss, h⟩ := bind_eq_ok.mp houtline
  obtain rfl := Except.ok.inj h
  obtain ⟨groups, hgroups, h⟩ := bind_eq_ok.mp hlines
  obtain rfl := Except.ok.inj h
  have hall := flatMap_eq_of_mapM (fun _ _ _ => Fill.words_nodes) hnss hgroups
  have hgrouped : groups.flatten.flatMap wordsOf = groups.flatMap (List.flatMap wordsOf) := by
    rw [List.flatten_eq_flatMap, List.flatMap_assoc]
    rfl
  rw [hgrouped, ← hall]
  cases hdividers : t.blocks.all Block.isDivider with
  | true =>
      have hnothing : ∀ ns ∈ nss, nodeWords ns = [] := by
        intro ns hns
        obtain ⟨b, hb, hnodes⟩ := exists_of_mem_mapM hnss hns
        rw [Fill.nodes_divider (List.all_eq_true.mp hdividers b hb)] at hnodes
        obtain rfl := Except.ok.inj hnodes
        rfl
      rw [List.flatMap_eq_nil_iff.mpr hnothing]
      rfl
  | false => exact nodeWords_flatten nss

/-! ### The two readings of a page -/

/-- A page is converted to the words of each text of its lines, and its plain text has the
words of the texts of a line next to each other. -/
theorem Template.page_words {t : Template} {data : Fields} {title : Option String}
    {fallback : String} {page : List Char} (hlevels : ∀ b ∈ t.blocks, b.Leveled)
    (hpage : t.page data title fallback = .ok page) {cap : Cap} (hcap : cap.Allows page.length) :
    ∃ nodes text lines, (convert cap page).run.value = .ok ⟨nodes, false⟩ ∧
      plainText page = .ok text ∧ t.shownLines data = .ok lines ∧
      nodeWords nodes = lines.flatMap wordsOf ∧ words text = lines.flatMap wordsTogether := by
  obtain ⟨nodes, houtline, hconvert⟩ := t.convert_page hlevels hpage hcap
  obtain ⟨text, lines, htext, hlines, hwords⟩ := t.plainText_page hlevels hpage
  exact ⟨nodes, text, lines, hconvert, htext, hlines, words_outline houtline hlines, hwords⟩

/-- **The two readings of a page have the same words exactly if the texts of every line are
set apart.**  A page of an accepted template is converted and has a plain text.  The nodes have
the words of each text that it shows, and the plain text, like the pages that are printed where
printing fails, has the words of the texts of a line next to each other.  These are the same
words exactly if a blank stands between the texts of every line, and only the rows of tables
are lines of several texts. -/
theorem page_words_iff {value : Value} {t : Template} {data : Fields} {title : Option String}
    {fallback : String} {page : List Char} {cap : Cap}
    (hcheck : (Template.check value).value = .valid t)
    (hpage : t.page data title fallback = .ok page) (hcap : cap.Allows page.length) :
    ∃ nodes text lines, (convert cap page).run.value = .ok ⟨nodes, false⟩ ∧
      plainText page = .ok text ∧ t.shownLines data = .ok lines ∧
      nodeWords nodes = lines.flatMap wordsOf ∧ words text = lines.flatMap wordsTogether ∧
      (∀ printer settings pages,
        (Print.pdf printer settings page).run.value = .ok (.plain pages) →
          Print.pageWords pages = words text) ∧
      (words text = nodeWords nodes ↔ ∀ line ∈ lines, SetApart (line.map String.toList)) := by
  obtain ⟨nodes, text, lines, hconvert, htext, hlines, hnodes, hwords⟩ :=
    t.page_words (Template.check_leveled hcheck) hpage hcap
  refine ⟨nodes, text, lines, hconvert, htext, hlines, hnodes, hwords, ?_, ?_⟩
  · intro printer settings pages hplain
    obtain ⟨-, shown, hshown, rfl⟩ := (pdf_plainly_iff printer settings page pages).mp hplain
    obtain rfl := Except.ok.inj (hshown.symm.trans htext)
    exact Print.words_plainPages shown
  · have hrows := words_rows_iff (lines.map fun line => line.map String.toList)
    simp only [List.flatMap_map, List.forall_mem_map] at hrows
    rw [hwords, hnodes]
    exact hrows

/-- A template of one row: a label, and the value of a field next to it. -/
def totalTemplate (label : String) : Value :=
  .object [("blocks", .list [.object [("type", .text "keyValueTable"), ("rows", .list
    [.object [("label", .text label), ("path", .text "total")]])]])]

/-- Data for `totalTemplate`. -/
def totalData : Fields := [("total", .text "5 EUR")]

theorem spacedTotal_words :
    ∃ t page nodes text, (Template.check (totalTemplate "Total: ")).value = .valid t ∧
      t.page totalData none "Document" = .ok page ∧
      (Cap.atMost page.length).Allows page.length ∧
      (convert (.atMost page.length) page).run.value = .ok ⟨nodes, false⟩ ∧
      plainText page = .ok text ∧ words text = nodeWords nodes := by
  have hfilled : ∃ t body, (Template.check (totalTemplate "Total: ")).value = .valid t ∧
      t.body totalData = .ok body ∧ t.shownLines totalData = .ok [["Total: ", "5 EUR"]] :=
    ⟨_, _, rfl, rfl, rfl⟩
  obtain ⟨t, body, hcheck, hbody, hshown⟩ := hfilled
  obtain ⟨page, hpage⟩ := Template.exists_page hbody none "Document"
  have hcap : (Cap.atMost page.length).Allows page.length := Int.le_refl _
  obtain ⟨nodes, text, lines, hconvert, htext, hlines, -, -, -, hwords⟩ :=
    page_words_iff hcheck hpage hcap
  obtain rfl := Except.ok.inj (hlines.symm.trans hshown)
  exact ⟨t, page, nodes, text, hcheck, hpage, hcap, hconvert, htext, hwords.mpr (by decide)⟩

/-- A label and the value next to it are one word in the plain text of a page. -/
theorem total_runTogether :
    ∃ t page nodes text, (Template.check (totalTemplate "Total")).value = .valid t ∧
      t.page totalData none "Document" = .ok page ∧
      (Cap.atMost page.length).Allows page.length ∧
      (convert (.atMost page.length) page).run.value = .ok ⟨nodes, false⟩ ∧
      plainText page = .ok text ∧ words text = ["Total5".toList, "EUR".toList] ∧
      nodeWords nodes = ["Total".toList, "5".toList, "EUR".toList] := by
  have hfilled : ∃ t body, (Template.check (totalTemplate "Total")).value = .valid t ∧
      t.body totalData = .ok body ∧ t.shownLines totalData = .ok [["Total", "5 EUR"]] :=
    ⟨_, _, rfl, rfl, rfl⟩
  obtain ⟨t, body, hcheck, hbody, hshown⟩ := hfilled
  obtain ⟨page, hpage⟩ := Template.exists_page hbody none "Document"
  have hcap : (Cap.atMost page.length).Allows page.length := Int.le_refl _
  obtain ⟨nodes, text, lines, hconvert, htext, hlines, hnodes, hwords⟩ :=
    t.page_words (Template.check_leveled hcheck) hpage hcap
  obtain rfl := Except.ok.inj (hlines.symm.trans hshown)
  refine ⟨t, page, nodes, text, hcheck, hpage, hcap, hconvert, htext, ?_, ?_⟩
  · rw [hwords]
    decide
  · rw [hnodes]
    decide

end Paperwork
