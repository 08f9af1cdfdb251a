/-
Printed pages are read as what their templates stand for.

The division around the content is dropped if a block stands in it that is read as
anything, and then the blocks are read one after another up to the end of the page.
-/
import Paperwork.Proofs.Document.Convert
import Paperwork.Proofs.Page.Frame

namespace Paperwork

open Paperwork.Text
open Paperwork.Html

namespace Page

/-! ### Reading a page -/

/-- A page that holds dividers only is one empty paragraph. -/
theorem ready_dividers (sheet : StyleSheet) {content : List Token} (hcontent : Silent content) :
    Ready (shownTokens sheet content)
      [.lines "" (Fill.styleAttribute (sheet.lookup "document"))] := by
  have hinside : Silent (plainTokens "\n      " ++ content ++ plainTokens "\n    ") :=
    ((silent_plainTokens (by decide)).append hcontent).append (silent_plainTokens (by decide))
  have hending : Ready (ending ++ []) [] := Ready.nil.quiet isFrame_ending.quiet
  have hdivision := Ready.division (known_container sheet) hinside hending
  rw [List.append_nil, container, Fill.isBold_classed (by decide)] at hdivision
  exact (hdivision.quiet isFrame_behindHead.quiet).quiet isFrame_beforeHead.quiet

/-- The blocks of a page are read if they are read in front of its end. -/
theorem ready_blocks (sheet : StyleSheet) {content gap after : List Token} {nodes : List Node}
    (hready :
      Ready (content ++ (plainTokens "\n    " ++ .tag ('/' :: divisionName) :: ending)) nodes)
    (hsplit :
      content ++ (plainTokens "\n    " ++ .tag ('/' :: divisionName) :: ending) = gap ++ after)
    (hgap : Silent gap) (hstarts : Starts after) : Ready (shownTokens sheet content) nodes := by
  have hbefore : Silent (plainTokens "\n      ") := silent_plainTokens (by decide)
  have hall := hready.quiet hbefore.quiet
  rw [hsplit, ← List.append_assoc] at hall
  have hdropped := Ready.dropped (by decide) (known_container sheet)
    (hbefore.append hgap).within hstarts hall
  rw [List.append_assoc, ← hsplit] at hdropped
  have hshown := (hdropped.quiet isFrame_behindHead.quiet).quiet isFrame_beforeHead.quiet
  simpa [shownTokens, containerTokens] using hshown

/-- **The parts of a page are read as what its template stands for.** -/
theorem ready_page {t : Template} {data : Fields} {ms : List Markup}
    (hlevels : ∀ b ∈ t.blocks, b.Leveled) (hfill : t.fill data = .ok ms) :
    ∃ nodes, t.outline data = .ok nodes ∧
      Ready (shownTokens t.styles.resolved (tokenLines ms)) nodes := by
  have hblocks := mapM_eq_ok.mp hfill
  obtain ⟨nss, hnss, hready⟩ := Fill.blocks_ready hlevels hblocks
  have houtline : t.outline data = .ok (if t.blocks.all Block.isDivider
      then [.lines "" (Fill.styleAttribute (t.styles.resolved.lookup "document"))]
      else nss.flatten) := by
    rw [Template.outline, hnss]
    rfl
  refine ⟨_, houtline, ?_⟩
  cases hdividers : t.blocks.all Block.isDivider with
  | true => exact ready_dividers _ (Fill.dividers_silent hdividers hblocks)
  | false =>
      have hclosing : Quiet [.tag ('/' :: divisionName)] :=
        quiet_cons.mpr ⟨quiet_closing (by decide), quiet_nil⟩
      have hend : Ready (plainTokens "\n    " ++ .tag ('/' :: divisionName) :: ending) [] := by
        have hending : Ready (ending ++ []) [] := Ready.nil.quiet isFrame_ending.quiet
        rw [List.append_nil] at hending
        exact (hending.quiet hclosing).quiet (silent_plainTokens (by decide)).quiet
      obtain ⟨gap, after, hsplit, hgap, hstarts⟩ :=
        Fill.blocks_start hlevels hdividers hblocks hend
      have hread := hready hend
      rw [List.append_nil] at hread
      exact ready_blocks _ hread hsplit hgap hstarts

end Page

theorem length_le_writeTokens (ts : List Token) : ts.length ≤ (writeTokens ts).length := by
  induction ts with
  | nil => exact Nat.le_refl 0
  | cons t ts ih =>
      have hpos := List.length_pos_iff.mpr t.write_ne_nil
      rw [writeTokens_cons, List.length_append, List.length_cons]
      omega

/-- With a step for each of its characters every row that is ready is read. -/
theorem scanPage_of_ready {cap : Cap} {page : List Char} {ts : List Token} {nodes : List Node}
    (hcap : cap.Allows page.length) (hvisible : visible page = writeTokens ts)
    (htrimmed : trimmedTokens ts = ts) (hlength : (writeTokens ts).length ≤ page.length)
    (h : Ready ts nodes) : (scanPage cap page).run.value = .ok nodes := by
  have htext : trimmed isBlank (visible page) = writeTokens ts := by
    rw [hvisible, trimmed_writeTokens, htrimmed]
  have hfirst : ts.dropWhile Token.isBlank = ts := by
    refine (List.dropWhile_sublist _).eq_of_length_le ?_
    conv_lhs => rw [← htrimmed]
    exact (List.rdropWhile_prefix _ _).length_le
  have hsteps : ∀ limit steps, (writeTokens ts).length ≤ steps →
      (scan limit steps 0 (writeTokens ts) Candidates.none).run.value = .ok nodes := by
    intro limit steps hsteps
    have hread := h.now limit steps ((length_le_writeTokens ts).trans hsteps)
    rw [hfirst] at hread
    rw [scan_none_eq_scanAnew]
    exact hread
  unfold scanPage
  rw [htext]
  cases cap with
  | atMost steps =>
      have hallowed : (page.length : Int) ≤ steps := hcap
      exact hsteps _ _ (by omega)
  | unlimited => exact hsteps _ _ (Nat.le_refl _)
  | unusable => exact hcap.elim

/-- **A printed page is converted to the document that its template stands for.** -/
theorem Template.convert_page {t : Template} {data : Fields} {title : Option String}
    {fallback : String} {page : List Char} (hlevels : ∀ b ∈ t.blocks, b.Leveled)
    (hpage : t.page data title fallback = .ok page) {cap : Cap} (hcap : cap.Allows page.length) :
    ∃ nodes, t.outline data = .ok nodes ∧ (convert cap page).run.value = .ok ⟨nodes, false⟩ := by
  obtain ⟨ms, hms, -, hvisible, hlength⟩ := t.shown_page hlevels hpage
  obtain ⟨nodes, houtline, hready⟩ := Page.ready_page hlevels hms
  rw [hvisible] at hlength
  exact ⟨nodes, houtline, convert_of_scanned (scanPage_of_ready hcap hvisible
    (Page.trimmed_shownTokens _) hlength hready)⟩

/--
**A page is converted to the document that its template stands for.**  Whatever an accepted
template and the data hold, and whatever title is asked for, a printed page is read without
falling back, and its document is the outline of the template with the data.
-/
theorem page_isOutline {value : Value} {t : Template} {data : Fields} {title : Option String}
    {fallback : String} {page : List Char} {cap : Cap}
    (hcheck : (Template.check value).value = .valid t)
    (hpage : t.page data title fallback = .ok page) (hcap : cap.Allows page.length) :
    ∃ nodes, t.outline data = .ok nodes ∧ (convert cap page).run.value = .ok ⟨nodes, false⟩ :=
  t.convert_page (Template.check_leveled hcheck) hpage hcap

/-- A template of neighbouring wrappers, regions and dividers with markup in its texts. -/
def crowdedTemplate : Value :=
  .object [("blocks", .list
    [.object [("type", .text "divider")],
     .object [("type", .text "heading"), ("text", .text "</h1> \x7b\x7bname\x7d\x7d"),
       ("level", .int 9)],
     .object [("type", .text "list"), ("dataPath", .text "notes"), ("ordered", .bool true)],
     .object [("type", .text "divider")],
     .object [("type", .text "keyValueList"), ("rows", .list
       [.object [("label", .text "<li>"), ("path", .text "name")]])],
     .object [("type", .text "table"), ("dataPath", .text "notes"), ("columns", .list [])],
     .object [("type", .text "signature"), ("name", .text "A  B"), ("showRegards", .bool true)]])]

/-- Data for `crowdedTemplate`. -/
def crowdedData : Fields :=
  [("name", .text "</div>"), ("notes", .list [.text "a\nb", .int 2])]

/-- The document that `crowdedTemplate` stands for with its data. -/
def crowdedOutline : List Node :=
  [.heading "</h1> </div>" 6, .listItem "a b" true 1, .listItem "2" true 2,
   .paragraph "<li>" false, .paragraph "</div>" false, .table [],
   .paragraph "Regards," false, .paragraph "A B" true]

theorem crowdedPage_isOutline :
    ∃ t page, (Template.check crowdedTemplate).value = .valid t ∧
      t.page crowdedData none "Document" = .ok page ∧
      (Cap.atMost page.length).Allows page.length ∧
      t.outline crowdedData = .ok crowdedOutline ∧
      (convert (.atMost page.length) page).run.value = .ok ⟨crowdedOutline, false⟩ := by
  have hfilled : ∃ t body, (Template.check crowdedTemplate).value = .valid t ∧
      t.body crowdedData = .ok body ∧ t.outline crowdedData = .ok crowdedOutline :=
    ⟨_, _, rfl, rfl, rfl⟩
  obtain ⟨t, body, hcheck, hbody, houtline⟩ := hfilled
  obtain ⟨page, hpage⟩ := Template.exists_page hbody none "Document"
  have hcap : (Cap.atMost page.length).Allows page.length := Int.le_refl _
  obtain ⟨nodes, hnodes, hread⟩ := page_isOutline hcheck hpage hcap
  rw [houtline] at hnodes
  obtain rfl := Except.ok.inj hnodes
  exact ⟨t, page, hcheck, hpage, hcap, houtline, hread⟩

/-- A template without blocks is printed as a page that is read as a paragraph, though no
block stands for it. -/
theorem emptyPage_has_paragraph :
    ∃ page, (Template.check (.object [])).value = .valid .empty ∧
      Template.empty.page [] none "Document" = .ok page ∧
      (Cap.atMost page.length).Allows page.length ∧
      Template.empty.blocks.mapM (Fill.nodes ⟨Template.empty.styles.resolved, .object []⟩)
        = .ok [] ∧
      (convert (.atMost page.length) page).run.value ≠ .ok ⟨[], false⟩ := by
  have hprinted : ∃ page, Template.empty.page [] none "Document" = .ok page := ⟨_, rfl⟩
  obtain ⟨page, hpage⟩ := hprinted
  have hcap : (Cap.atMost page.length).Allows page.length := Int.le_refl _
  obtain ⟨nodes, hnodes, hread⟩ := Template.empty.convert_page (by simp [Template.empty]) hpage hcap
  refine ⟨page, rfl, hpage, hcap, rfl, fun hempty => ?_⟩
  obtain rfl : nodes = [] := by
    rw [hread] at hempty
    exact congrArg Conversion.nodes (Except.ok.inj hempty)
  exact absurd hnodes (by decide +kernel)

end Paperwork
