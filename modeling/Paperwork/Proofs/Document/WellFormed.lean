/-
What converted pages are made of.

Writers of documents rely on more than the types of nodes say: levels that styles exist
for, items that are numbered one after another, rows that have cells, texts on one line.
A page may be malformed in any way, and it may be read to its end, up to a cap, or for
its plain text only.  Each of these is a row of steps, and each step makes nodes that
keep what is relied on; so only single steps look at what they have read.
-/
import Paperwork.Proofs.Document.Convert
import Paperwork.Proofs.Document.Step
import Paperwork.Proofs.Text.OneLine

namespace Paperwork

open Paperwork.Text
open Paperwork.Html

/-! ### What is relied on -/

/-- What is relied on in a node by itself. -/
def Node.Proper : Node → Prop
  | .paragraph text _ => Lined text.toList
  | .heading text level => OnOneLine text.toList ∧ 1 ≤ level ∧ level ≤ 6
  | .listItem text _ index => OnOneLine text.toList ∧ 1 ≤ index
  | .table rows => ∀ row ∈ rows, row ≠ [] ∧ ∀ cell ∈ row, OnOneLine cell.text.toList
  | .image _ mimeType => "image/".toList <+: mimeType.toList

/-- What is relied on in a node by the one right before it, if there is one: but for the
first, an item of a list comes after the item numbered one less, of a list of its kind. -/
def Node.Follows (before : Option Node) : Node → Prop
  | .listItem _ ordered index =>
    2 ≤ index → ∃ text, before = some (.listItem text ordered (index - 1))
  | _ => True

/-- A row of nodes as the writers of documents rely on it. -/
structure WellFormed (nodes : List Node) : Prop where
  proper : ∀ node ∈ nodes, node.Proper
  follows : ∀ before node after, nodes = before ++ node :: after → node.Follows before.getLast?

namespace WellFormed

theorem nil : WellFormed [] where
  proper := nofun
  follows before node after h := absurd h.symm (by simp)

/-- A node that relies on none before it may come after any. -/
theorem follows_of_none {node : Node} (h : node.Follows none) (before : Option Node) :
    node.Follows before := by
  cases node with
  | listItem text ordered index =>
      intro hindex
      obtain ⟨_, hbefore⟩ := h hindex
      exact absurd hbefore (by simp)
  | _ => trivial

/-- Nodes that rely on none before them may stand in any order. -/
theorem of_alone {nodes : List Node} (h : ∀ node ∈ nodes, node.Proper ∧ node.Follows none) :
    WellFormed nodes where
  proper node hnode := (h node hnode).1
  follows before node after heq :=
    follows_of_none (h node (by rw [heq]; simp)).2 _

theorem alone {node : Node} (h : node.Proper ∧ node.Follows none) : WellFormed [node] :=
  of_alone fun _ hother => List.mem_singleton.mp hother ▸ h

/-- Two rows may be put one behind the other. -/
theorem append {a b : List Node} (ha : WellFormed a) (hb : WellFormed b) :
    WellFormed (a ++ b) where
  proper node hnode := by
    rcases List.mem_append.mp hnode with hnode | hnode
    · exact ha.proper node hnode
    · exact hb.proper node hnode
  follows before node after heq := by
    rcases List.append_eq_append_iff.mp heq with ⟨front, rfl, hsplit⟩ | ⟨back, rfl, hsplit⟩
    · have hfollows := hb.follows front node after hsplit
      cases front with
      | nil => exact follows_of_none hfollows _
      | cons first front =>
          rw [List.getLast?_append_of_ne_nil _ (List.cons_ne_nil _ _)]
          exact hfollows
    · cases back with
      | nil => exact follows_of_none (hb.follows [] node after hsplit.symm) _
      | cons other back =>
          obtain ⟨rfl, -⟩ := List.cons.inj hsplit
          exact ha.follows before node back rfl

end WellFormed

/-! ### Texts -/

theorem onOneLine_of_inlineText {cs : List Char} {text : String} (h : inlineText cs = .ok text) :
    OnOneLine text.toList := by
  obtain ⟨made, hmade, htext⟩ := bind_eq_ok.mp h
  obtain ⟨whole, -, hcollapsed⟩ := bind_eq_ok.mp hmade
  obtain rfl := Except.ok.inj hcollapsed
  obtain rfl := Except.ok.inj htext
  rw [String.toList_ofList]
  exact onOneLine_collapsed whole

theorem lined_of_contentParagraphs {cs : List Char} {texts : List (List Char)}
    (h : contentParagraphs cs = .ok texts) :
    (∀ text ∈ texts, Lined text) ∧ Lined (joined ['\n'] texts) := by
  obtain ⟨whole, -, hparagraphs⟩ := bind_eq_ok.mp h
  obtain rfl := Except.ok.inj hparagraphs
  refine ⟨fun text htext => lined_of_mem_paragraphs htext, ?_⟩
  rw [joined_paragraphs]
  exact lined_visibleLines whole

theorem wellFormed_paragraphs {texts : List (List Char)} (h : ∀ text ∈ texts, Lined text) :
    WellFormed (texts.map fun text => .paragraph (String.ofList text) false) := by
  refine .of_alone fun node hnode => ?_
  obtain ⟨text, htext, rfl⟩ := List.mem_map.mp hnode
  refine ⟨?_, trivial⟩
  show Lined (String.ofList text).toList
  rw [String.toList_ofList]
  exact h text htext

theorem wellFormed_paragraphNodes {cs : List Char} {nodes : List Node}
    (h : paragraphNodes cs = .ok nodes) : WellFormed nodes := by
  obtain ⟨texts, htexts, hnodes⟩ := bind_eq_ok.mp h
  obtain rfl := Except.ok.inj hnodes
  exact wellFormed_paragraphs (lined_of_contentParagraphs htexts).1

theorem proper_wrapperNode {tag : Opening} {inner : List Char} {node : Node}
    (h : wrapperNode tag inner = .ok node) : node.Proper ∧ node.Follows none := by
  obtain ⟨texts, htexts, hnode⟩ := bind_eq_ok.mp h
  obtain rfl := Except.ok.inj hnode
  refine ⟨?_, trivial⟩
  show Lined (String.ofList (joined ['\n'] texts)).toList
  rw [String.toList_ofList]
  exact (lined_of_contentParagraphs htexts).2

/-! ### Regions -/

theorem proper_tableNode {cs : List Char} {node : Node} (h : tableNode cs = .ok node) :
    node.Proper ∧ node.Follows none := by
  obtain ⟨rows, hrows, hnode⟩ := bind_eq_ok.mp h
  obtain rfl := Except.ok.inj hnode
  refine ⟨?_, trivial⟩
  intro row hrow
  obtain ⟨hmem, hkept⟩ := List.mem_filter.mp hrow
  refine ⟨by simpa using hkept, fun cell hcell => ?_⟩
  obtain ⟨element, -, hcells⟩ := exists_of_mem_mapM hrows hmem
  obtain ⟨body, -, hmade⟩ := exists_of_mem_mapM hcells hcell
  obtain ⟨text, htext, hcell⟩ := bind_eq_ok.mp hmade
  obtain rfl := Except.ok.inj hcell
  exact onOneLine_of_inlineText htext

/-- **The items of a list are numbered one after another from one.** -/
theorem wellFormed_items {texts : List String} (ordered : Bool)
    (h : ∀ text ∈ texts, OnOneLine text.toList) :
    WellFormed (texts.zipIdx.map fun (text, i) => .listItem text ordered (i + 1)) := by
  have hitem : ∀ i : Nat, (texts.zipIdx.map fun (text, i) => Node.listItem text ordered (i + 1))[i]?
      = texts[i]?.map fun text => Node.listItem text ordered (i + 1) := by
    intro i
    rw [List.getElem?_map, List.getElem?_zipIdx, Option.map_map]
    simp [Function.comp_def]
  refine ⟨?_, ?_⟩
  · intro node hnode
    obtain ⟨⟨text, i⟩, hmem, rfl⟩ := List.mem_map.mp hnode
    have hindex : (1 : Int) ≤ i + 1 := by omega
    exact ⟨h text (List.fst_mem_of_mem_zipIdx hmem), hindex⟩
  · intro before node after heq
    rw [heq] at hitem
    have hnode := hitem before.length
    rw [List.getElem?_append_right (Nat.le_refl _), Nat.sub_self, List.getElem?_cons_zero] at hnode
    obtain ⟨text, htext, rfl⟩ := Option.map_eq_some_iff.mp hnode.symm
    intro hindex
    obtain ⟨k, hk⟩ : ∃ k, before.length = k + 1 := ⟨before.length - 1, by omega⟩
    obtain ⟨hlength, -⟩ := List.getElem?_eq_some_iff.mp htext
    have hlast := hitem k
    rw [List.getElem?_append_left (by omega), List.getElem?_eq_getElem (by omega : k < texts.length)]
      at hlast
    refine ⟨texts[k], ?_⟩
    rw [List.getLast?_eq_getElem?, hk, Nat.add_sub_cancel, hlast]
    simp

theorem wellFormed_listNodes {ordered : Bool} {cs : List Char} {nodes : List Node}
    (h : listNodes ordered cs = .ok nodes) : WellFormed nodes := by
  obtain ⟨texts, htexts, hnodes⟩ := bind_eq_ok.mp h
  obtain rfl := Except.ok.inj hnodes
  refine wellFormed_items ordered fun text htext => ?_
  obtain ⟨body, -, hbody⟩ := exists_of_mem_mapM htexts htext
  exact onOneLine_of_inlineText hbody

/-- A heading ends its name with the digit of its level, however the name is written. -/
theorem headingLevelOf_bounds {name : List Char}
    (h : ∃ n ∈ RegionKind.heading.tagNames, name.map caseFree = n.map caseFree) :
    1 ≤ headingLevelOf name ∧ headingLevelOf name ≤ 6 := by
  obtain ⟨n, hn, hkeys⟩ := h
  obtain ⟨digit, hdigit, rfl⟩ : ∃ digit ∈ ['1', '2', '3', '4', '5', '6'], n = ['h', digit] := by
    simpa [RegionKind.tagNames, or_and_right, exists_or] using hn
  have hdigits : ∀ d ∈ ['1', '2', '3', '4', '5', '6'], 49 ≤ d.toNat ∧ d.toNat ≤ 54 := by simp
  have hcode := hdigits digit hdigit
  obtain ⟨first, rest, rfl, -, hrest⟩ := List.map_eq_cons_iff.mp hkeys
  obtain ⟨last, more, rfl, hlast, hmore⟩ := List.map_eq_cons_iff.mp hrest
  obtain rfl := List.map_eq_nil_iff.mp hmore
  obtain rfl : last = digit := eq_of_caseFree (by omega) hlast
  show 1 ≤ last.toNat - 48 ∧ last.toNat - 48 ≤ 6
  omega

/-- Small letters, and what is no letter, are left as they are in front of any text. -/
theorem lowerBehind_append {front : List Char} (h : ∀ c ∈ front, lower c = [c] ∧ c ≠ 'Σ')
    (before cs : List Char) :
    lowerBehind before (front ++ cs) = front ++ lowerBehind (front.reverse ++ before) cs := by
  induction front generalizing before with
  | nil => rfl
  | cons c front ih =>
      obtain ⟨hlower, hsigma⟩ := h c List.mem_cons_self
      rw [List.cons_append, lowerBehind, lowerWithin, if_neg fun hc => hsigma hc.1, hlower,
        ih (fun d hd => h d (List.mem_cons_of_mem _ hd)), List.reverse_cons, List.append_assoc]
      rfl

/-- What the types of images begin with is written in small letters. -/
theorem lowerText_imageType (cs : List Char) :
    lowerText ("image/".toList ++ cs)
      = "image/".toList ++ lowerBehind "image/".toList.reverse cs := by
  have hall : ("image/".toList.all fun c => decide (lower c = [c] ∧ c ≠ 'Σ')) = true := by
    decide
  rw [lowerText, lowerBehind_append (by simpa only [List.all_eq_true, decide_eq_true_eq] using hall),
    List.append_nil]

theorem embedded?_eq_some {address format letters : List Char}
    (h : embedded? address = some (format, letters)) : ∃ name, format = "image/".toList ++ name := by
  obtain ⟨rest, -, h⟩ := Option.bind_eq_some_iff.mp h
  obtain ⟨named, -, h⟩ := Option.bind_eq_some_iff.mp h
  obtain ⟨more, -, h⟩ := Option.bind_eq_some_iff.mp h
  split at h
  · exact absurd h nofun
  · obtain ⟨rfl, -⟩ := Prod.mk.inj (Option.some.inj h)
    exact ⟨_, rfl⟩

theorem proper_image {address format letters : List Char} (data : List UInt8)
    (h : embedded? address = some (format, letters)) :
    (Node.image data (String.ofList (lowerText format))).Proper := by
  obtain ⟨name, rfl⟩ := embedded?_eq_some h
  have hmime : (String.ofList (lowerText ("image/".toList ++ name))).toList
      = lowerText ("image/".toList ++ name) := String.toList_ofList
  show "image/".toList <+: (String.ofList (lowerText ("image/".toList ++ name))).toList
  rw [hmime, lowerText_imageType]
  exact List.prefix_append _ _

theorem proper_placeholder : (Node.paragraph imagePlaceholder false).Proper := by
  have hletters : imagePlaceholder.toList = ['[', 'I', 'm', 'a', 'g', 'e', ']'] := rfl
  refine ⟨[imagePlaceholder.toList], rfl, fun row hrow => ?_⟩
  rw [List.mem_singleton.mp hrow, hletters]
  exact ⟨by simp, .of_letters (by simp [isBlank, isSpace])⟩

theorem proper_imageAt {address : List Char} {node : Node}
    (h : (imageAt address).answer = .ok node) : node.Proper ∧ node.Follows none := by
  unfold imageAt at h
  split at h
  · rename_i format letters hembedded
    split at h
    · rename_i data hdata
      obtain rfl := Except.ok.inj h
      exact ⟨proper_image data hembedded, trivial⟩
    · obtain rfl := Except.ok.inj h
      exact ⟨proper_placeholder, trivial⟩
  · obtain rfl := Except.ok.inj h
    exact ⟨proper_placeholder, trivial⟩

theorem wellFormed_region {cs : List Char} {region : Region} {nodes : List Node}
    (hnext : nextRegion cs = some region) (h : region.nodes.answer = .ok nodes) :
    WellFormed nodes := by
  cases Region.nodes_eq_ok h with
  | table hkind hnode => exact .alone (proper_tableNode hnode)
  | heading hkind htext =>
      obtain ⟨tag, before, rest, inner, length, -, hopening, -, hregion⟩ :=
        nextRegion_eq_some hnext
      have hname : ∃ n ∈ RegionKind.heading.tagNames,
          region.name.map caseFree = n.map caseFree := by
        rw [hkind] at hopening
        rw [hregion]
        exact opening?_keys hopening
      obtain ⟨hlow, hhigh⟩ := headingLevelOf_bounds hname
      refine .alone ⟨⟨onOneLine_of_inlineText htext, ?_, ?_⟩, trivial⟩
      · exact_mod_cast hlow
      · exact_mod_cast hhigh
  | list hkind hnodes => exact wellFormed_listNodes hnodes
  | image hkind hnode => exact .alone (proper_imageAt hnode)

/-! ### Pages -/

/-- **Whatever a step reads, it makes well-formed nodes.** -/
theorem ReadsAs.wellFormed {cs : List Char} {nodes : List Node} {length : Nat}
    (h : ReadsAs cs (nextRegion cs) nodes length) : WellFormed nodes := by
  cases h with
  | lineBreak hopening => exact .alone ⟨lined_nil, trivial⟩
  | dropped hopening => exact .nil
  | wrapped hopening hclosing hnode => exact .alone (proper_wrapperNode hnode)
  | region hnext hfront hnodes => exact wellFormed_region hnext hnodes
  | plain hahead hnodes => exact wellFormed_paragraphNodes hnodes

theorem scanAnew_wellFormed (cap : Int) (steps : Nat) {cs : List Char} {nodes : List Node}
    (h : (scanAnew cap steps cs).answer = .ok nodes) : WellFormed nodes := by
  induction steps generalizing cs nodes with
  | zero =>
      cases cs with
      | nil =>
          obtain rfl := Except.ok.inj h
          exact .nil
      | cons c cs =>
          simp only [scanAnew, Reading.answer_bind, Reading.answer_note, ok_bind] at h
          exact wellFormed_paragraphNodes (Reading.answer_ofText.mp h)
  | succ steps ih =>
      cases cs with
      | nil =>
          obtain rfl := Except.ok.inj h
          exact .nil
      | cons c cs =>
          simp only [scanAnew, Reading.answer_bind] at h
          obtain ⟨⟨made, read⟩, hfront, h⟩ := bind_eq_ok.mp h
          obtain ⟨length, -, h⟩ := bind_eq_ok.mp h
          obtain ⟨more, hmore, h⟩ := bind_eq_ok.mp h
          obtain rfl := Except.ok.inj h
          exact (readFront_eq_ok hfront).wellFormed.append (ih hmore)

theorem scanPage_wellFormed {cap : Cap} {page : List Char} {nodes : List Node}
    (h : (scanPage cap page).answer = .ok nodes) : WellFormed nodes := by
  by_cases hcap : cap = .unusable
  · subst hcap
    unfold scanPage at h
    simp only at h
    split at h
    · obtain rfl := Except.ok.inj h
      exact .nil
    · exact absurd h nofun
  · obtain ⟨limit, steps, hscan⟩ := scanPage_eq hcap page
    rw [hscan] at h
    exact scanAnew_wellFormed limit steps h

/--
**Every document that a page is converted to is well formed**, whatever the page and the
cap, and also where only its plain text was kept.
-/
theorem convert_wellFormed {cap : Cap} {page : List Char} {c : Conversion}
    (h : (convert cap page).run.value = .ok c) : WellFormed c.nodes := by
  rw [convert_value] at h
  cases hscan : (scanPage cap page).run.value with
  | ok nodes =>
      rw [hscan] at h
      obtain rfl := Except.ok.inj h
      exact scanPage_wellFormed hscan
  | error cause =>
      rw [hscan] at h
      simp only [plainNodes] at h
      cases hplain : plainParagraphs page with
      | error cause =>
          rw [hplain] at h
          exact absurd h nofun
      | ok texts =>
          rw [hplain] at h
          obtain rfl := Except.ok.inj h
          exact wellFormed_paragraphs (lined_of_contentParagraphs hplain).1

/-- A heading with a blank that is no space, and items that are not closed. -/
def openItemsPage : List Char := "<H2>a&#160; b</h2><ol><li>c<li>d</ol>".toList

theorem openItemsPage_wellFormed :
    (convert (.atMost 2) openItemsPage).run.value
      = .ok ⟨[.heading "a b" 2, .listItem "c" true 1, .listItem "d" true 2], false⟩ ∧
    WellFormed [.heading "a b" 2, .listItem "c" true 1, .listItem "d" true 2] := by
  have hconverted : (convert (.atMost 2) openItemsPage).run.value
      = .ok ⟨[.heading "a b" 2, .listItem "c" true 1, .listItem "d" true 2], false⟩ := by
    decide +kernel
  exact ⟨hconverted, convert_wellFormed hconverted⟩

end Paperwork
