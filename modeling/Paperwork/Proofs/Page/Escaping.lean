/-
No value that is filled in is taken for markup.

Every kind of block becomes an element whose names are fixed by its kind.  Labels, headers,
texts, styles and whatever the data lead to stand in it as escaped text or as escaped
values of attributes only, so they can neither add nor close nor change a tag.
-/
import Paperwork.Page.Document
import Paperwork.Proofs.Answers
import Paperwork.Proofs.Html.Grammar
import Paperwork.Proofs.Template.Level

namespace Paperwork

open Paperwork.Text
open Paperwork.Html

namespace Fill

/-! ### Attributes -/

theorem known_styleAttribute (style : Option Style) : (styleAttribute style).Known := by
  unfold styleAttribute
  split
  · dsimp only
    split
    · simp [Attributes.Known]
    · simp [Attributes.Known, attributeNames]
  · simp [Attributes.Known]

theorem known_attributesOf (context : Context) (element : String) :
    (attributesOf context element).Known := known_styleAttribute _

theorem known_attributesFor (context : Context) (own : Option Style) (element : String) :
    (attributesFor context own element).Known := by
  unfold attributesFor
  split
  · exact known_styleAttribute _
  · exact known_attributesOf _ _

theorem known_classed (name : String) {attributes : Attributes} (h : attributes.Known) :
    (classed name attributes).Known := by
  intro a ha
  rcases List.mem_cons.mp ha with rfl | ha
  · simp [attributeNames]
  · exact h a ha

/-! ### Blocks -/

variable {context : Context} {m : Markup}

theorem headingTag_known {level : Int} (h : 1 ≤ level ∧ level ≤ 6) :
    ("h" ++ toString level).toList ∈ elementNames := by
  obtain ⟨hlower, hupper⟩ := h
  interval_cases level <;> decide

theorem heading_known {b : HeadingBlock} (hlevel : 1 ≤ b.level ∧ b.level ≤ 6)
    (h : heading context b = .ok m) : m.Known := by
  obtain ⟨text, -, hm⟩ := bind_eq_ok.mp h
  obtain rfl := Except.ok.inj hm
  exact Markup.Known.leaf (headingTag_known hlevel) (known_styleAttribute _)

theorem paragraph_eq_ok {b : ParagraphBlock} (h : paragraph context b = .ok m) :
    ∃ text, m = leaf "p" (attributesFor context b.style "paragraph") text ∧
      match b.text with
      | some own => filled context own = .ok text
      | none => shownAt context.data b.reference.target? = .ok text := by
  unfold paragraph at h
  cases htext : b.text with
  | some own =>
      simp only [htext] at h
      obtain ⟨text, hfilled, hm⟩ := bind_eq_ok.mp h
      exact ⟨text, (Except.ok.inj hm).symm, hfilled⟩
  | none =>
      simp only [htext] at h
      obtain ⟨text, hshown, hm⟩ := bind_eq_ok.mp h
      exact ⟨text, (Except.ok.inj hm).symm, hshown⟩

theorem paragraph_known {b : ParagraphBlock} (h : paragraph context b = .ok m) :
    m.Known := by
  obtain ⟨text, rfl, -⟩ := paragraph_eq_ok h
  exact Markup.Known.leaf (by decide) (known_attributesFor _ _ _)

theorem line_known {b : LineBlock} (h : line context b = .ok m) : m.Known := by
  obtain ⟨parts, -, hm⟩ := bind_eq_ok.mp h
  obtain rfl := Except.ok.inj hm
  exact Markup.Known.leaf (by decide) (known_attributesFor _ _ _)

theorem list_known {b : ListBlock} (h : list context b = .ok m) : m.Known := by
  obtain ⟨texts, -, hm⟩ := bind_eq_ok.mp h
  obtain rfl := Except.ok.inj hm
  refine Markup.Known.parent ?_ (known_attributesFor _ _ _) fun piece hpiece => ?_
  · split <;> decide
  · obtain ⟨text, -, rfl⟩ := List.mem_map.mp hpiece
    exact Markup.Known.leaf (by decide) (known_attributesOf _ _)

/-- A row of cells. -/
theorem known_row {cells : List Markup} (h : ∀ cell ∈ cells, cell.Known) :
    (Markup.element "tr" [] cells).Known :=
  Markup.Known.parent (by decide) (by simp [Attributes.Known]) h

theorem tableRow_known {attributes : Attributes} (hattributes : attributes.Known)
    {columns : List Column} {row : Value} (h : tableRow attributes columns row = .ok m) :
    m.Known := by
  obtain ⟨cells, -, hm⟩ := bind_eq_ok.mp h
  obtain rfl := Except.ok.inj hm
  refine known_row fun cell hcell => ?_
  obtain ⟨text, -, rfl⟩ := List.mem_map.mp hcell
  exact Markup.Known.leaf (by decide) hattributes

theorem table_known {b : TableBlock} (h : table context b = .ok m) : m.Known := by
  obtain ⟨rows, -, h⟩ := bind_eq_ok.mp h
  obtain ⟨body, hbody, hm⟩ := bind_eq_ok.mp h
  obtain rfl := Except.ok.inj hm
  have hrows : ∀ row ∈ body, row.Known := by
    intro row hrow
    obtain ⟨_, -, hmade⟩ := exists_of_mem_mapM hbody hrow
    exact tableRow_known (known_attributesFor _ _ _) hmade
  have hheaders : ∀ header ∈ b.columns.map (fun column =>
      leaf "th" (cellAttributes context b.headerStyle "th") column.header),
      header.Known := by
    intro header hheader
    obtain ⟨column, -, rfl⟩ := List.mem_map.mp hheader
    exact Markup.Known.leaf (by decide) (known_attributesFor _ _ _)
  refine Markup.Known.parent (by decide) (known_attributesFor _ _ _) fun piece hpiece => ?_
  simp only [List.mem_cons, List.not_mem_nil, or_false] at hpiece
  rcases hpiece with rfl | rfl
  · refine Markup.Known.parent (by decide) (by simp [Attributes.Known]) fun row hrow => ?_
    obtain rfl := List.mem_singleton.mp hrow
    exact known_row hheaders
  · exact Markup.Known.parent (by decide) (by simp [Attributes.Known]) hrows

theorem labelledRow_known {r : Row} (h : labelledRow context r = .ok m) :
    m.Known := by
  obtain ⟨text, -, hm⟩ := bind_eq_ok.mp h
  obtain rfl := Except.ok.inj hm
  refine known_row fun cell hcell => ?_
  simp only [List.mem_cons, List.not_mem_nil, or_false] at hcell
  rcases hcell with rfl | rfl
  · exact Markup.Known.leaf (by decide) (known_attributesOf _ _)
  · exact Markup.Known.leaf (by decide) (known_attributesOf _ _)

theorem keyValueTable_known {b : RowsBlock} (h : keyValueTable context b = .ok m) :
    m.Known := by
  obtain ⟨rows, hrows, hm⟩ := bind_eq_ok.mp h
  obtain rfl := Except.ok.inj hm
  refine Markup.Known.parent (by decide) (known_attributesFor _ _ _) fun piece hpiece => ?_
  obtain rfl := List.mem_singleton.mp hpiece
  refine Markup.Known.parent (by decide) (by simp [Attributes.Known]) fun row hrow => ?_
  obtain ⟨_, -, hmade⟩ := exists_of_mem_mapM hrows hrow
  exact labelledRow_known hmade

theorem labelledEntry_known {r : Row} (h : labelledEntry context r = .ok m) :
    m.Known := by
  obtain ⟨text, -, hm⟩ := bind_eq_ok.mp h
  obtain rfl := Except.ok.inj hm
  refine Markup.Known.parent (by decide) (known_classed _ (known_attributesOf _ _))
    fun piece hpiece => ?_
  simp only [List.mem_cons, List.not_mem_nil, or_false] at hpiece
  rcases hpiece with rfl | rfl
  · exact Markup.Known.leaf (by decide) (known_classed _ (known_attributesOf _ _))
  · exact Markup.Known.leaf (by decide) (known_classed _ (known_attributesOf _ _))

theorem keyValueList_known {b : RowsBlock} (h : keyValueList context b = .ok m) :
    m.Known := by
  obtain ⟨rows, hrows, hm⟩ := bind_eq_ok.mp h
  obtain rfl := Except.ok.inj hm
  refine Markup.Known.parent (by decide) (known_classed _ (known_attributesFor _ _ _))
    fun row hrow => ?_
  obtain ⟨_, -, hmade⟩ := exists_of_mem_mapM hrows hrow
  exact labelledEntry_known hmade

theorem spacer_eq_ok {size : Number} (h : spacer size = .ok m) :
    m = .element "div" [("style", "height:" ++ size.shown ++ "px")] [] := by
  unfold spacer at h
  split at h
  · simp at h
  · exact (Except.ok.inj h).symm

theorem spacer_known {size : Number} (h : spacer size = .ok m) : m.Known := by
  rw [spacer_eq_ok h]
  exact Markup.Known.parent (by decide) (by simp [Attributes.Known, attributeNames]) (by simp)

theorem signature_known {b : SignatureBlock} (h : signature context b = .ok m) :
    m.Known := by
  obtain ⟨name, -, h⟩ := bind_eq_ok.mp h
  obtain ⟨title, -, hm⟩ := bind_eq_ok.mp h
  obtain rfl := Except.ok.inj hm
  have hplain : ∀ text, (leaf "div" [] text).Known :=
    fun _ => Markup.Known.leaf (by decide) (by simp [Attributes.Known])
  refine Markup.Known.parent (by decide) (known_attributesFor _ _ _) fun piece hpiece => ?_
  simp only [List.mem_append, List.mem_cons] at hpiece
  rcases hpiece with hpiece | rfl | hpiece
  · split at hpiece
    · exact List.mem_singleton.mp hpiece ▸ hplain _
    · simp at hpiece
  · exact Markup.Known.leaf (by decide) (by simp [Attributes.Known, attributeNames])
  · split at hpiece
    · simp at hpiece
    · exact List.mem_singleton.mp hpiece ▸ hplain _

/-- **Every block becomes an element.** -/
theorem block_known {b : Block} (hlevel : b.Leveled) (h : block context b = .ok m) :
    m.Known := by
  cases b with
  | heading b => exact heading_known hlevel h
  | paragraph b => exact paragraph_known h
  | line b => exact line_known h
  | list b => exact list_known h
  | table b => exact table_known h
  | keyValueTable b => exact keyValueTable_known h
  | keyValueList b => exact keyValueList_known h
  | divider style => exact Except.ok.inj h ▸ Markup.Known.rule (known_attributesFor _ _ _)
  | spacer size => exact spacer_known h
  | signature b => exact signature_known h

end Fill

/-! ### Templates -/

/--
**A filled template is a row of elements.**  Whatever an accepted template and the data
hold, there is one element for each block, on lines of their own: properly nested, of
known names only, with nothing but inert text between the tags and in the values of
attributes.
-/
theorem body_isElements {value : Value} {t : Template} {data : Fields} {body : List Char}
    (hcheck : (Template.check value).value = .valid t) (hbody : t.body data = .ok body) :
    ∃ elements, body = joined ['\n'] elements ∧ elements.length = t.blocks.length ∧
      ∀ element ∈ elements, IsElement element := by
  obtain ⟨pieces, hpieces, hjoined⟩ := bind_eq_ok.mp hbody
  refine ⟨pieces.map Markup.write, (Except.ok.inj hjoined).symm, ?_, ?_⟩
  · rw [List.length_map, (mapM_eq_ok.mp hpieces).length_eq]
  · intro element helement
    obtain ⟨piece, hpiece, rfl⟩ := List.mem_map.mp helement
    obtain ⟨b, hb, hblock⟩ := exists_of_mem_mapM hpieces hpiece
    exact (Fill.block_known (Template.check_leveled hcheck b hb) hblock).isElement

/-- A paragraph with markup in its text and in its style. -/
def hostileTemplate : Value :=
  .object [("blocks", .list [.object [("type", .text "paragraph"),
    ("text", .text "<b>\x7b\x7bname\x7d\x7d"),
    ("style", .object [("color\"><hr", .text "'&amp;")])]])]

/-- What `hostileTemplate` becomes where the name is a closing tag. -/
def hostileBody : List Char :=
  "<p style=\"color&quot;&gt;&lt;hr:&#x27;&amp;amp;\">&lt;b&gt;&lt;/p&gt;</p>".toList

/-- Markup is escaped wherever it comes from. -/
theorem hostileBody_isElements :
    ∃ t, (Template.check hostileTemplate).value = .valid t ∧
      t.body [("name", .text "</p>")] = .ok hostileBody ∧
      ∃ elements, hostileBody = joined ['\n'] elements ∧ elements.length = t.blocks.length ∧
        ∀ element ∈ elements, IsElement element := by
  have hcheck : (Template.check hostileTemplate).value
      = .valid ⟨none, [], [.paragraph ⟨⟨none, none⟩, some "<b>\x7b\x7bname\x7d\x7d",
        some [("color\"><hr", .text "'&amp;")]⟩]⟩ := rfl
  have hbody : Template.body ⟨none, [], [.paragraph ⟨⟨none, none⟩,
      some "<b>\x7b\x7bname\x7d\x7d", some [("color\"><hr", .text "'&amp;")]⟩]⟩
      [("name", .text "</p>")] = .ok hostileBody := by decide +kernel
  exact ⟨_, hcheck, hbody, body_isElements hcheck hbody⟩

end Paperwork
