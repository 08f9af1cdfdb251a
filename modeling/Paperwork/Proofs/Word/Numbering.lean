/-
What numbered items are counted by.

Numbering is carried through a document from one numbered item to the next, past everything
that stands between them.  A list that is begun gets an instance that no item before it has,
and an item that begins none is counted by the instance of the item before it.  So two items
are counted together if no list is begun behind the first, up to the second.

In a page a list reaches from its opening tag to the first closing tag, and a list inside of it
is part of it.  Two items of a page are counted together if they come from one such list.
-/
import Paperwork.Proofs.Document.Sources
import Paperwork.Word.OfPage

namespace Paperwork.Word

open Paperwork.Html

/-! ### Unused ids -/

/-- The least number that is not taken is found. -/
theorem firstFree_not_mem (taken : List Nat) : firstFree taken ∉ taken := by
  set candidates := (List.range (taken.length + 1)).map (· + 1) with hcandidates
  have hnodup : candidates.Nodup := List.nodup_range.map fun _ _ h => Nat.succ.inj h
  have hfound : ∃ id ∈ candidates, id ∉ taken := by
    by_contra hall
    push Not at hall
    have hle := (hnodup.subperm hall).length_le
    rw [hcandidates, List.length_map, List.length_range] at hle
    omega
  obtain ⟨free, hfree, hunused⟩ := hfound
  have hsome : (candidates.find? fun id => !taken.contains id).isSome := by
    rw [List.find?_isSome]
    exact ⟨free, hfree, by simpa using hunused⟩
  obtain ⟨id, hid⟩ := Option.isSome_iff_exists.mp hsome
  have hfirst : firstFree taken = id := by
    rw [firstFree]
    simp only [← hcandidates, hid, Option.getD_some]
  rw [hfirst]
  simpa using List.find?_some hid

/-! ### Numbering -/

section

variable {template : ListTemplate} (hscheme : template.scheme.isSome)
  (hunused : ∀ ids, template.nextId ids ∉ ids)

namespace Numbering

/-- The instances that were added have ids of their own, count like numbered items do and begin
at one; and the last numbered item belongs to one of them. -/
structure Sane (template : ListTemplate) (numbering : Numbering) : Prop where
  distinct : (numbering.added.map ListInstance.id).Nodup
  unused : ∀ id ∈ numbering.added.map ListInstance.id, id ∉ template.taken
  restarts : ∀ added ∈ numbering.added,
    some added.scheme = template.scheme ∧ added.restart = some 1
  current : ∀ id, numbering.current = some id → id ∈ numbering.added.map ListInstance.id

theorem sane_none (template : ListTemplate) : none.Sane template :=
  ⟨List.nodup_nil, fun _ h => absurd h List.not_mem_nil, fun _ h => absurd h List.not_mem_nil,
    nofun⟩

variable {numbering : Numbering}

include hscheme hunused in
/-- A list that is begun has an instance of its own. -/
theorem exists_beginList (numbering : Numbering) :
    ∃ added : ListInstance, numbering.beginList template
        = ⟨numbering.added ++ [added], some added.id⟩ ∧
      added.id ∉ numbering.taken template ∧ some added.scheme = template.scheme ∧
      added.restart = some 1 := by
  obtain ⟨scheme, hsome⟩ := Option.isSome_iff_exists.mp hscheme
  refine ⟨⟨template.nextId (numbering.taken template), scheme, some 1⟩, ?_, hunused _, hsome.symm,
    rfl⟩
  simp only [beginList, hsome]

include hscheme hunused in
theorem Sane.beginList (h : numbering.Sane template) :
    (numbering.beginList template).Sane template := by
  obtain ⟨added, heq, hfresh, hcounts, hrestart⟩ := exists_beginList hscheme hunused numbering
  obtain ⟨htemplate, hothers⟩ := not_or.mp (mt List.mem_append.mpr hfresh)
  rw [heq]
  refine ⟨?_, ?_, ?_, ?_⟩
  · rw [List.map_append, List.nodup_append]
    refine ⟨h.distinct, List.nodup_singleton _, ?_⟩
    rintro id hid other hother rfl
    rw [List.map_singleton, List.mem_singleton] at hother
    exact hothers (hother ▸ hid)
  · intro id hid
    rw [List.map_append, List.mem_append, List.map_singleton, List.mem_singleton] at hid
    rcases hid with hid | rfl
    · exact h.unused id hid
    · exact htemplate
  · intro other hother
    rcases List.mem_append.mp hother with hother | hother
    · exact h.restarts other hother
    · obtain rfl := List.mem_singleton.mp hother
      exact ⟨hcounts, hrestart⟩
  · rintro id hid
    obtain rfl := Option.some.inj hid
    rw [List.map_append]
    exact List.mem_append_right _ List.mem_cons_self

include hscheme hunused in
theorem Sane.upTo (h : numbering.Sane template) (node : Node) :
    (numbering.upTo template node).Sane template := by
  unfold Numbering.upTo
  split
  · split
    · exact h.beginList hscheme hunused
    · exact h
  · exact h

include hscheme hunused in
theorem Sane.foldl (h : numbering.Sane template) (nodes : List Node) :
    (nodes.foldl (Numbering.upTo template) numbering).Sane template := by
  induction nodes generalizing numbering with
  | nil => exact h
  | cons node nodes ih => exact ih (h.upTo hscheme hunused node)

/-- Once a list is begun, numbering goes on with it up to the next one. -/
theorem upTo_of_not_beginsList {node : Node} (h : ¬ node.BeginsList) {id : Nat}
    (hcurrent : numbering.current = some id) : numbering.upTo template node = numbering := by
  unfold upTo
  split
  · rename_i text index
    have hindex : ¬ (index = 1 ∨ numbering.current = .none) := by
      rintro (hindex | hnone)
      · exact h hindex
      · rw [hcurrent] at hnone
        exact absurd hnone nofun
    rw [if_neg hindex]
  · rfl

theorem upTo_of_beginsList {node : Node} (h : node.BeginsList) :
    numbering.upTo template node = numbering.beginList template := by
  unfold Node.BeginsList at h
  split at h
  · rw [upTo, if_pos (.inl h)]
  · exact absurd h id

include hscheme in
/-- A numbered item is counted. -/
theorem exists_current {node : Node} (h : node.IsNumbered) :
    ∃ id, (numbering.upTo template node).current = some id := by
  obtain ⟨scheme, hsome⟩ := Option.isSome_iff_exists.mp hscheme
  unfold Node.IsNumbered at h
  split at h
  · rename_i text index
    rw [upTo]
    split
    · exact ⟨_, by simp only [beginList, hsome]; rfl⟩
    · rename_i hindex
      exact Option.ne_none_iff_exists'.mp fun hnone => hindex (.inr hnone)
  · exact absurd h id

/-- Instances are added behind those that are there. -/
theorem added_prefix_upTo (numbering : Numbering) (node : Node) :
    numbering.added <+: (numbering.upTo template node).added := by
  have hbegin : numbering.added <+: (numbering.beginList template).added := by
    unfold beginList
    split
    · exact List.prefix_append _ _
    · exact List.prefix_refl _
  unfold upTo
  split
  · split
    · exact hbegin
    · exact List.prefix_refl _
  · exact List.prefix_refl _

theorem added_prefix_foldl (numbering : Numbering) (nodes : List Node) :
    numbering.added <+: (nodes.foldl (upTo template) numbering).added := by
  induction nodes generalizing numbering with
  | nil => exact List.prefix_refl _
  | cons node nodes ih => exact (added_prefix_upTo numbering node).trans (ih _)

/-- Ids that are taken stay so. -/
theorem taken_subset_upTo (numbering : Numbering) (node : Node) :
    numbering.taken template ⊆ (numbering.upTo template node).taken template :=
  ((List.prefix_append_right_inj _).mpr ((added_prefix_upTo numbering node).map _)).subset

theorem foldl_of_not_beginsList {nodes : List Node} (h : ∀ node ∈ nodes, ¬ node.BeginsList)
    {id : Nat} (hcurrent : numbering.current = some id) :
    nodes.foldl (upTo template) numbering = numbering := by
  induction nodes with
  | nil => rfl
  | cons node nodes ih =>
      obtain ⟨hnode, hnodes⟩ := List.forall_mem_cons.mp h
      rw [List.foldl_cons, upTo_of_not_beginsList hnode hcurrent, ih hnodes]

include hscheme hunused in
/-- Where a list is begun, the last item does not belong to an instance that was there before. -/
theorem current_not_mem_taken {nodes : List Node} (h : ∃ node ∈ nodes, node.BeginsList)
    {id : Nat} (hcurrent : (nodes.foldl (upTo template) numbering).current = some id) :
    id ∉ numbering.taken template := by
  induction nodes generalizing numbering with
  | nil =>
      obtain ⟨node, hnode, -⟩ := h
      exact absurd hnode List.not_mem_nil
  | cons node nodes ih =>
      by_cases hlater : ∃ later ∈ nodes, later.BeginsList
      · exact fun htaken => ih hlater hcurrent (taken_subset_upTo numbering node htaken)
      · -- then it is this node that begins a list, and numbering stays with that
        obtain ⟨first, hfirst, hbegins⟩ := h
        rcases List.mem_cons.mp hfirst with rfl | hfirst
        · obtain ⟨added, heq, hfresh, -⟩ := exists_beginList hscheme hunused numbering
          push Not at hlater
          rw [List.foldl_cons, upTo_of_beginsList hbegins, heq,
            foldl_of_not_beginsList hlater rfl] at hcurrent
          obtain rfl := Option.some.inj hcurrent
          exact hfresh
        · exact absurd ⟨first, hfirst, hbegins⟩ hlater

include hscheme hunused in
/-- **Numbering goes on with the instance of an item if no list is begun.** -/
theorem current_foldl_iff (hsane : numbering.Sane template) {nodes : List Node} {id other : Nat}
    (hcurrent : numbering.current = some id)
    (hother : (nodes.foldl (upTo template) numbering).current = some other) :
    id = other ↔ ∀ node ∈ nodes, ¬ node.BeginsList := by
  constructor
  · rintro rfl node hnode hbegins
    exact current_not_mem_taken hscheme hunused ⟨node, hnode, hbegins⟩ hother
      (List.mem_append_right _ (hsane.current id hcurrent))
  · intro hnone
    rw [foldl_of_not_beginsList hnone hcurrent, hcurrent] at hother
    exact Option.some.inj hother

/-- How far numbering has come at node `i` of the nodes that follow. -/
def reached (template : ListTemplate) (numbering : Numbering) (nodes : List Node) (i : Nat) :
    Numbering :=
  (nodes.take (i + 1)).foldl (upTo template) numbering

variable {nodes : List Node} {i j : Nat}

include hscheme hunused in
theorem Sane.reached (h : numbering.Sane template) (nodes : List Node) (i : Nat) :
    (numbering.reached template nodes i).Sane template :=
  h.foldl hscheme hunused _

include hscheme in
theorem exists_current_reached {node : Node} (hnode : nodes[i]? = some node)
    (h : node.IsNumbered) : ∃ id, (numbering.reached template nodes i).current = some id := by
  rw [reached, List.take_add_one, hnode, Option.toList_some, List.foldl_append]
  exact exists_current hscheme h

theorem added_reached_prefix (numbering : Numbering) (nodes : List Node) (i : Nat) :
    (numbering.reached template nodes i).added
      <+: (nodes.foldl (upTo template) numbering).added := by
  have hprefix : (numbering.reached template nodes i).added
      <+: ((nodes.drop (i + 1)).foldl (upTo template)
        (numbering.reached template nodes i)).added := added_prefix_foldl _ _
  rwa [reached, ← List.foldl_append, List.take_append_drop] at hprefix

include hscheme hunused in
theorem current_reached_iff (hsane : numbering.Sane template) (hij : i < j) {id other : Nat}
    (hi : (numbering.reached template nodes i).current = some id)
    (hj : (numbering.reached template nodes j).current = some other) :
    id = other ↔ ∀ (k : Nat) (node : Node), i < k → k ≤ j → nodes[k]? = some node →
      ¬ node.BeginsList := by
  have hsplit : nodes.take (j + 1) = nodes.take (i + 1) ++ (nodes.drop (i + 1)).take (j - i) := by
    rw [← List.take_add]
    congr 1
    omega
  rw [reached, hsplit, List.foldl_append] at hj
  rw [current_foldl_iff hscheme hunused (hsane.reached hscheme hunused nodes i) hi hj]
  constructor
  · intro hnone k node hk hkj hnode
    refine hnone node (List.mem_of_getElem? (i := k - (i + 1)) ?_)
    rw [List.getElem?_take_of_lt (by omega), List.getElem?_drop, Nat.add_sub_cancel' hk, hnode]
  · intro hnone node hnode
    obtain ⟨k, hk⟩ := List.mem_iff_getElem?.mp hnode
    have hlt : k < j - i := by
      by_contra hge
      rw [List.getElem?_take_eq_none (by omega)] at hk
      exact absurd hk nofun
    rw [List.getElem?_take_of_lt hlt, List.getElem?_drop] at hk
    exact hnone _ node (by omega) (by omega) hk

end Numbering

/-! ### Bodies -/

/-- The cells of a row are counted by no instance. -/
theorem tableRow_lists {columns : Nat} {row : List Cell} {cells : List Paragraph}
    (h : tableRow columns row = .ok cells) : cells.filterMap Paragraph.list = [] := by
  obtain ⟨made, hmade, hcells⟩ := bind_eq_ok.mp h
  obtain rfl := Except.ok.inj hcells
  rw [List.filterMap_eq_nil_iff]
  intro cell hcell
  rcases List.mem_append.mp hcell with hcell | hcell
  · obtain ⟨source, -, hsource⟩ := exists_of_mem_mapM hmade hcell
    obtain ⟨run, -, hrun⟩ := bind_eq_ok.mp hsource
    obtain rfl := Except.ok.inj hrun
    rfl
  · obtain rfl := List.eq_of_mem_replicate hcell
    rfl

theorem tableParts_lists {rows : List (List Cell)} {own : List Part}
    (h : tableParts rows = .ok own) : own.flatMap Part.lists = [] := by
  unfold tableParts at h
  split at h
  · obtain rfl := Except.ok.inj h
    rfl
  · obtain ⟨made, hmade, hown⟩ := bind_eq_ok.mp h
    obtain rfl := Except.ok.inj hown
    rw [List.flatMap_singleton, Part.lists, List.filterMap_flatten, List.flatten_eq_nil_iff]
    intro lists hlists
    obtain ⟨row, hrow, rfl⟩ := List.mem_map.mp hlists
    obtain ⟨source, -, hsource⟩ := exists_of_mem_mapM hmade hrow
    exact tableRow_lists hsource

theorem pictureParts_lists {data : List UInt8} {mimeType : String} {own : List Part}
    (h : (pictureParts data mimeType).run.value = .ok own) : own.flatMap Part.lists = [] := by
  unfold pictureParts at h
  split at h
  · rw [Noted.value_bind] at h
    obtain ⟨made, -, hown⟩ := bind_eq_ok.mp h
    obtain rfl := Except.ok.inj hown
    rfl
  · rw [Noted.value_bind] at h
    obtain ⟨-, -, hown⟩ := bind_eq_ok.mp h
    obtain rfl := Except.ok.inj hown
    rfl
  · exact absurd h nofun

/-- A numbered item is written as one paragraph. -/
theorem parts_isNumbered {list : Option Nat} {node : Node} (hnode : node.IsNumbered)
    {own : List Part} (h : (parts list node).run.value = .ok own) :
    ∃ runs, own = [.paragraph ⟨.numberedItem, runs, list, none⟩] := by
  unfold Node.IsNumbered at hnode
  split at hnode
  · rw [parts, Noted.value_bind] at h
    obtain ⟨runs, -, hown⟩ := bind_eq_ok.mp h
    obtain rfl := Except.ok.inj hown
    exact ⟨runs, rfl⟩
  · exact absurd hnode id

/-- What is not a numbered item is counted by no instance. -/
theorem parts_not_isNumbered {list : Option Nat} {node : Node} (hnode : ¬ node.IsNumbered)
    {own : List Part} (h : (parts list node).run.value = .ok own) :
    own.flatMap Part.lists = [] := by
  cases node with
  | heading text level =>
      rw [parts, Noted.value_bind] at h
      obtain ⟨style, -, h⟩ := bind_eq_ok.mp h
      rw [Noted.value_bind] at h
      obtain ⟨runs, -, hown⟩ := bind_eq_ok.mp h
      obtain rfl := Except.ok.inj hown
      rfl
  | paragraph text bold =>
      rw [parts, Noted.value_bind] at h
      obtain ⟨run, -, hown⟩ := bind_eq_ok.mp h
      obtain rfl := Except.ok.inj hown
      rfl
  | listItem text ordered index =>
      cases ordered with
      | true => exact absurd trivial hnode
      | false =>
          rw [parts, Noted.value_bind] at h
          obtain ⟨runs, -, hown⟩ := bind_eq_ok.mp h
          obtain rfl := Except.ok.inj hown
          rfl
  | table rows => exact tableParts_lists h
  | image data mimeType => exact pictureParts_lists h

/-- Each node is written when numbering has come as far as that node. -/
theorem exists_made {numbering : Numbering} {nodes : List Node} {body : List Part}
    (h : (bodyFrom template numbering nodes).run.value = .ok body) :
    ∃ made : List (List Part), body = made.flatten ∧ made.length = nodes.length ∧
      ∀ (i : Nat) (node : Node) (own : List Part), nodes[i]? = some node → made[i]? = some own →
        (parts (numbering.reached template nodes i).current node).run.value = .ok own := by
  induction nodes generalizing numbering body with
  | nil =>
      obtain rfl := Except.ok.inj h
      exact ⟨[], rfl, rfl, fun i node own hnode => absurd hnode (by simp)⟩
  | cons node nodes ih =>
      rw [bodyFrom, Noted.value_bind] at h
      obtain ⟨own, hown, h⟩ := bind_eq_ok.mp h
      rw [Noted.value_bind] at h
      obtain ⟨more, hmore, hbody⟩ := bind_eq_ok.mp h
      obtain rfl := Except.ok.inj hbody
      obtain ⟨made, rfl, hlength, hmade⟩ := ih hmore
      refine ⟨own :: made, by simp, by simp [hlength], ?_⟩
      intro i other written hother hwritten
      cases i with
      | zero =>
          obtain rfl := Option.some.inj hother
          obtain rfl := Option.some.inj hwritten
          exact hown
      | succ i => exact hmade i other written hother hwritten

/-! ### Numbered items -/

/-- Node `i` is an item of a numbered list, and is written as a paragraph that is counted by
the instance `id`. -/
def CountedBy (nodes : List Node) (made : List (List Part)) (i id : Nat) : Prop :=
  ∃ node runs, nodes[i]? = some node ∧ node.IsNumbered ∧
    made[i]? = some [.paragraph ⟨.numberedItem, runs, some id, none⟩]

/-- How the items of numbered lists are counted, `made` being the parts that each node is
written as. -/
structure Numbered (template : ListTemplate) (nodes : List Node) (made : List (List Part))
    (instances : List ListInstance) : Prop where
  length : made.length = nodes.length
  counted : ∀ (i : Nat) (node : Node), nodes[i]? = some node → node.IsNumbered →
    ∃ id, CountedBy nodes made i id
  uncounted : ∀ (i : Nat) (node : Node) (own : List Part), nodes[i]? = some node →
    ¬ node.IsNumbered → made[i]? = some own → own.flatMap Part.lists = []
  together : ∀ i j a b, i < j → CountedBy nodes made i a → CountedBy nodes made j b →
    (a = b ↔ ∀ (k : Nat) (node : Node), i < k → k ≤ j → nodes[k]? = some node →
      ¬ node.BeginsList)
  restarts : ∀ i id, CountedBy nodes made i id → ∃ added ∈ instances,
    added.id = id ∧ some added.scheme = template.scheme ∧ added.restart = some 1
  distinct : (instances.map ListInstance.id).Nodup
  unused : ∀ added ∈ instances, added.id ∉ template.taken

theorem composeFrom_eq_ok {nodes : List Node} {settings : Settings} {title : String}
    {outline : Outline}
    (h : (composeFrom template nodes settings title).run.value = .ok outline) :
    (bodyFrom template .none nodes).run.value = .ok outline.body ∧
      outline.instances = (nodes.foldl (Numbering.upTo template) .none).added := by
  rw [composeFrom, Noted.value_bind] at h
  obtain ⟨font, -, h⟩ := bind_eq_ok.mp h
  rw [Noted.value_bind] at h
  obtain ⟨size, -, h⟩ := bind_eq_ok.mp h
  rw [Noted.value_bind] at h
  obtain ⟨title, -, h⟩ := bind_eq_ok.mp h
  rw [Noted.value_bind] at h
  obtain ⟨body, hbody, h⟩ := bind_eq_ok.mp h
  obtain rfl := Except.ok.inj h
  exact ⟨hbody, rfl⟩

include hscheme hunused in
/-- What is composed of nodes is numbered. -/
theorem exists_numbered {nodes : List Node} {settings : Settings} {title : String}
    {outline : Outline}
    (h : (composeFrom template nodes settings title).run.value = .ok outline) :
    ∃ made : List (List Part), outline.body = made.flatten ∧
      Numbered template nodes made outline.instances := by
  obtain ⟨hbody, hinstances⟩ := composeFrom_eq_ok h
  obtain ⟨made, hflat, hlength, hmade⟩ := exists_made hbody
  rw [hflat, hinstances]
  have hsane := Numbering.sane_none template
  have hall : (nodes.foldl (Numbering.upTo template) .none).Sane template :=
    hsane.foldl hscheme hunused nodes
  have hwritten : ∀ (i : Nat) (node : Node), nodes[i]? = some node → ∃ own, made[i]? = some own ∧
      (parts (Numbering.none.reached template nodes i).current node).run.value = .ok own := by
    intro i node hnode
    have hi : i < made.length := hlength ▸ (List.getElem?_eq_some_iff.mp hnode).1
    exact ⟨_, List.getElem?_eq_getElem hi, hmade i node _ hnode (List.getElem?_eq_getElem hi)⟩
  have hcurrent : ∀ i id, CountedBy nodes made i id →
      (Numbering.none.reached template nodes i).current = some id := by
    rintro i id ⟨node, runs, hnode, hnumbered, hown⟩
    obtain ⟨own, hmadeOwn, hparts⟩ := hwritten i node hnode
    obtain ⟨written, rfl⟩ := parts_isNumbered hnumbered hparts
    have heq := Option.some.inj (hmadeOwn.symm.trans hown)
    simp only [List.cons.injEq, Part.paragraph.injEq, Paragraph.mk.injEq] at heq
    exact heq.1.2.2.1
  refine ⟨made, rfl, hlength, ?_, ?_, ?_, ?_, hall.distinct, ?_⟩
  · intro i node hnode hnumbered
    obtain ⟨own, hown, hparts⟩ := hwritten i node hnode
    obtain ⟨id, hid⟩ := Numbering.exists_current_reached hscheme hnode hnumbered
    obtain ⟨runs, rfl⟩ := parts_isNumbered hnumbered hparts
    rw [hid] at hown
    exact ⟨id, node, runs, hnode, hnumbered, hown⟩
  · intro i node own hnode hnumbered hown
    obtain ⟨written, hmadeOwn, hparts⟩ := hwritten i node hnode
    obtain rfl := Option.some.inj (hmadeOwn.symm.trans hown)
    exact parts_not_isNumbered hnumbered hparts
  · intro i j a b hij ha hb
    exact Numbering.current_reached_iff hscheme hunused hsane hij (hcurrent i a ha)
      (hcurrent j b hb)
  · intro i id hi
    have hreached := hsane.reached hscheme hunused nodes i
    obtain ⟨added, hadded, rfl⟩ := List.mem_map.mp (hreached.current id (hcurrent i id hi))
    exact ⟨added, (Numbering.added_reached_prefix .none nodes i).subset hadded, rfl,
      hreached.restarts added hadded⟩
  · intro added hadded
    exact hall.unused _ (List.mem_map_of_mem hadded)

/-! ### Pages -/

theorem ofPageFrom_eq_ok {page : List Char} {settings : Settings} {title : String}
    {outline : Outline} {nodes : List Node}
    (hconvert : (convert (.atMost settings.cap) page).run.value = .ok ⟨nodes, false⟩)
    (h : (ofPageFrom template page settings title).run.value = .ok outline) :
    (composeFrom template nodes settings title).run.value = .ok outline := by
  rw [ofPageFrom, Noted.value_bind, Noted.value_adapt, hconvert] at h
  change ((composeFrom template nodes settings title).adapt PageError.compose).run.value
    = .ok outline at h
  rw [Noted.value_adapt] at h
  cases hvalue : (composeFrom template nodes settings title).run.value with
  | error cause =>
      rw [hvalue] at h
      exact absurd h nofun
  | ok made =>
      rw [hvalue] at h
      exact congrArg _ (Except.ok.inj h)

end

/-- Node `i` of what is read of a text comes from a numbered list that opens at `s`. -/
def OpenedAt (text : List Char) (read : List (Node × Option Nat)) (i s : Nat) : Prop :=
  ∃ node, read[i]? = some (node, some s) ∧ OpensNumbered (text.drop s)

theorem CountedBy.unique {nodes : List Node} {made : List (List Part)} {i a b : Nat}
    (ha : CountedBy nodes made i a) (hb : CountedBy nodes made i b) : a = b := by
  obtain ⟨-, runs, -, -, hmade⟩ := ha
  obtain ⟨-, others, -, -, hother⟩ := hb
  have heq := Option.some.inj (hmade.symm.trans hother)
  simp only [List.cons.injEq, Part.paragraph.injEq, Paragraph.mk.injEq, Option.some.injEq] at heq
  exact heq.1.2.2.1

theorem OpenedAt.unique {text : List Char} {read : List (Node × Option Nat)} {i s t : Nat}
    (hs : OpenedAt text read i s) (ht : OpenedAt text read i t) : s = t := by
  obtain ⟨node, hread, -⟩ := hs
  obtain ⟨other, hother, -⟩ := ht
  have heq := Option.some.inj (hread.symm.trans hother)
  rw [Prod.mk.injEq, Option.some.injEq] at heq
  exact heq.2

/-- The items of a page are counted together if they come from the same list. -/
theorem Numbered.eq_iff_opened {template : ListTemplate} {made : List (List Part)}
    {instances : List ListInstance} {text : List Char} {start : Nat}
    {read : List (Node × Option Nat)}
    (h : Numbered template (read.map Prod.fst) made instances) (hread : Sourced text start read)
    {i j a b s t : Nat} (ha : CountedBy (read.map Prod.fst) made i a)
    (hb : CountedBy (read.map Prod.fst) made j b) (hs : OpenedAt text read i s)
    (ht : OpenedAt text read j t) : a = b ↔ s = t := by
  have hlt : ∀ {i j a b s t : Nat}, i < j → CountedBy (read.map Prod.fst) made i a →
      CountedBy (read.map Prod.fst) made j b → OpenedAt text read i s → OpenedAt text read j t →
      (a = b ↔ s = t) := by
    intro i j a b s t hij ha hb hs ht
    rw [h.together i j a b hij ha hb]
    obtain ⟨node, -, hnode, hnumbered, -⟩ := ha
    obtain ⟨other, -, hother, hothernumbered, -⟩ := hb
    obtain ⟨node, hi, -⟩ := hs
    obtain ⟨other, hj, -⟩ := ht
    rw [List.getElem?_map, hi] at hnode
    rw [List.getElem?_map, hj] at hother
    obtain rfl := Option.some.inj hnode
    obtain rfl := Option.some.inj hother
    exact (hread.source_eq_iff hij hi hj hnumbered hothernumbered).symm
  rcases Nat.lt_trichotomy i j with hij | rfl | hij
  · exact hlt hij ha hb hs ht
  · exact iff_of_true (ha.unique hb) (hs.unique ht)
  · rw [eq_comm, hlt hij hb ha ht hs]
    exact eq_comm

/-- **Two numbered items are counted together if no list is begun behind the first, up to the
second**; what each instance counts begins at one, and nothing but numbered items is counted.
So in a document made of a page, two of them are counted together if they come from the same
list. -/
theorem composeFrom_numbering (template : ListTemplate) (hscheme : template.scheme.isSome)
    (hunused : ∀ ids, template.nextId ids ∉ ids) (settings : Settings) (title : String) :
    (∀ (nodes : List Node) (outline : Outline),
      (composeFrom template nodes settings title).run.value = .ok outline →
      ∃ made : List (List Part), outline.body = made.flatten ∧
        Numbered template nodes made outline.instances) ∧
    ∀ (page : List Char) (nodes : List Node) (outline : Outline),
      (convert (.atMost settings.cap) page).run.value = .ok ⟨nodes, false⟩ →
      (ofPageFrom template page settings title).run.value = .ok outline →
      ∃ (made : List (List Part)) (read : List (Node × Option Nat)),
        outline.body = made.flatten ∧ Numbered template nodes made outline.instances ∧
        ReadFrom (readText page) .first read ∧ read.map Prod.fst = nodes ∧
        (∀ i id, CountedBy nodes made i id → ∃ s, OpenedAt (readText page) read i s) ∧
        ∀ i j a b s t, CountedBy nodes made i a → CountedBy nodes made j b →
          OpenedAt (readText page) read i s → OpenedAt (readText page) read j t →
          (a = b ↔ s = t) := by
  refine ⟨fun nodes outline h => exists_numbered hscheme hunused h, ?_⟩
  intro page nodes outline hconvert h
  obtain ⟨made, hbody, hnumbered⟩ :=
    exists_numbered hscheme hunused (ofPageFrom_eq_ok hconvert h)
  obtain ⟨read, hread, rfl⟩ := exists_readFrom_page (scanned_of_convert hconvert)
  have hsourced := hread.sourced (Place.sane_first _)
  refine ⟨made, read, hbody, hnumbered, hread, rfl, ?_, ?_⟩
  · rintro i id ⟨node, runs, hnode, hitem, -⟩
    rw [List.getElem?_map] at hnode
    obtain ⟨⟨node, source⟩, hi, rfl⟩ := Option.map_eq_some_iff.mp hnode
    obtain ⟨s, hs, hopens⟩ := hsourced.opens _ (List.mem_of_getElem? hi) hitem
    obtain rfl := hs
    exact ⟨s, node, hi, hopens⟩
  · intro i j a b s t ha hb hs ht
    exact hnumbered.eq_iff_opened hsourced ha hb hs ht

/-- Two numbered lists with a bulleted one and a heading between them. -/
def twoLists : List Char :=
  "<ol><li>a</li><li>b</li></ol><ul><li>c</li></ul><h1>d</h1><ol><li>e</li></ol>".toList

/-- The nodes of that page. -/
def twoListsNodes : List Node :=
  [.listItem "a" true 1, .listItem "b" true 2, .listItem "c" false 1, .heading "d" 1,
    .listItem "e" true 1]

/-- What is made of it: the first two items are counted together, and the last one anew. -/
def twoListsOutline : Outline where
  body := [.paragraph ⟨.numberedItem, [⟨"a", false⟩], some 1, none⟩,
    .paragraph ⟨.numberedItem, [⟨"b", false⟩], some 1, none⟩,
    .paragraph ⟨.bulletedItem, [⟨"c", false⟩], none, none⟩,
    .paragraph ⟨.heading 1, [⟨"d", false⟩], none, none⟩,
    .paragraph ⟨.numberedItem, [⟨"e", false⟩], some 2, none⟩]
  title := "Lists"
  font := "Calibri"
  halfPoints := 22
  instances := [⟨1, 0, some 1⟩, ⟨2, 0, some 1⟩]

theorem twoLists_numbering :
    ListTemplate.plain.scheme.isSome ∧
      (∀ ids, ListTemplate.plain.nextId ids ∉ ids) ∧
      (convert (.atMost Settings.standard.cap) twoLists).run.value = .ok ⟨twoListsNodes, false⟩ ∧
      (ofPageFrom .plain twoLists .standard "Lists").run.value = .ok twoListsOutline ∧
      ∃ (made : List (List Part)) (read : List (Node × Option Nat)),
        twoListsOutline.body = made.flatten ∧
        Numbered .plain twoListsNodes made twoListsOutline.instances ∧
        ReadFrom (readText twoLists) .first read ∧ read.map Prod.fst = twoListsNodes ∧
        (∀ i id, CountedBy twoListsNodes made i id → ∃ s, OpenedAt (readText twoLists) read i s) ∧
        ∀ i j a b s t, CountedBy twoListsNodes made i a → CountedBy twoListsNodes made j b →
          OpenedAt (readText twoLists) read i s → OpenedAt (readText twoLists) read j t →
          (a = b ↔ s = t) := by
  have hconvert : (convert (.atMost Settings.standard.cap) twoLists).run.value
      = .ok ⟨twoListsNodes, false⟩ := by decide +kernel
  have hmade : (ofPageFrom .plain twoLists .standard "Lists").run.value = .ok twoListsOutline := by
    have hoption : (ofPageFrom .plain twoLists .standard "Lists").run.value.toOption
        = some twoListsOutline := by decide +kernel
    cases hvalue : (ofPageFrom .plain twoLists .standard "Lists").run.value with
    | error cause =>
        rw [hvalue] at hoption
        exact absurd hoption nofun
    | ok outline =>
        rw [hvalue] at hoption
        exact congrArg _ (Option.some.inj hoption)
  exact ⟨rfl, firstFree_not_mem, hconvert, hmade,
    (composeFrom_numbering .plain rfl firstFree_not_mem .standard "Lists").2 _ _ _ hconvert hmade⟩

end Paperwork.Word
