/-
Where the items of numbered lists come from.

A step of reading makes the nodes of one region or none of any, so every node of a page has the
place of the tag that its region opens with.  All items of one list are made in one step and
numbered from one, and a step goes forward.  So two items that follow one another in a document
come from the same tag unless a list is begun behind the first, up to the second.
-/
import Paperwork.Proofs.Document.Advance
import Paperwork.Proofs.Document.Ahead

namespace Paperwork

open Paperwork.Text
open Paperwork.Html

/-! ### Items -/

/-- A node is an item of a numbered list. -/
def Node.IsNumbered : Node → Prop
  | .listItem _ true _ => True
  | _ => False

/-- A node is the first item of a numbered list. -/
def Node.BeginsList : Node → Prop
  | .listItem _ true index => index = 1
  | _ => False

theorem Node.IsParagraph.not_isNumbered {node : Node} (h : node.IsParagraph) :
    ¬ node.IsNumbered := by
  cases node with
  | paragraph text bold => exact id
  | _ => exact absurd h id

/-- The items of a numbered list with these texts. -/
def numberedItems (texts : List String) : List Node :=
  texts.zipIdx.map fun (text, i) => .listItem text true (i + 1)

theorem getElem?_numberedItems (texts : List String) (i : Nat) :
    (numberedItems texts)[i]? = texts[i]?.map fun text => .listItem text true (i + 1) := by
  rw [numberedItems, List.getElem?_map, List.getElem?_zipIdx, Option.map_map]
  simp [Function.comp_def]

/-- The first item begins the list, and no other does. -/
theorem beginsList_numberedItems {texts : List String} {i : Nat} {node : Node}
    (h : (numberedItems texts)[i]? = some node) : node.BeginsList ↔ i = 0 := by
  rw [getElem?_numberedItems] at h
  obtain ⟨text, -, rfl⟩ := Option.map_eq_some_iff.mp h
  show (i : Int) + 1 = 1 ↔ i = 0
  omega

/-! ### What a step makes -/

/-- A numbered list opens at the front of a text. -/
def OpensNumbered (cs : List Char) : Prop :=
  ∃ tag, opening? RegionKind.list.tagNames cs = some tag ∧ lowerText tag.name = ['o', 'l']

theorem not_isNumbered_of_imageAt {address : List Char} {node : Node}
    (h : (imageAt address).answer = .ok node) : ¬ node.IsNumbered := by
  unfold imageAt at h
  split at h
  · split at h
    · obtain rfl := Except.ok.inj h
      exact id
    · obtain rfl := Except.ok.inj h
      exact id
  · obtain rfl := Except.ok.inj h
    exact id

/-- A region that makes a numbered item is a numbered list, and makes its items. -/
theorem Region.nodes_numbered {region : Region} {nodes : List Node}
    (h : region.nodes.answer = .ok nodes) {node : Node} (hnode : node ∈ nodes)
    (hnumbered : node.IsNumbered) :
    region.kind = .list ∧ lowerText region.name = ['o', 'l'] ∧
      ∃ texts, nodes = numberedItems texts := by
  cases region.nodes_eq_ok h with
  | table hkind hmade =>
      obtain ⟨rows, -, hrows⟩ := bind_eq_ok.mp hmade
      obtain rfl := Except.ok.inj hrows
      obtain rfl := List.mem_singleton.mp hnode
      exact absurd hnumbered id
  | heading hkind htext =>
      obtain rfl := List.mem_singleton.mp hnode
      exact absurd hnumbered id
  | image hkind hmade =>
      obtain rfl := List.mem_singleton.mp hnode
      exact absurd hnumbered (not_isNumbered_of_imageAt hmade)
  | list hkind hlist =>
      obtain ⟨texts, -, hnodes⟩ := bind_eq_ok.mp hlist
      obtain rfl := Except.ok.inj hnodes
      by_cases hordered : lowerText region.name = ['o', 'l']
      · refine ⟨hkind, hordered, texts, ?_⟩
        rw [hordered]
        rfl
      · obtain ⟨⟨text, i⟩, -, rfl⟩ := List.mem_map.mp hnode
        have hflag : (lowerText region.name == ['o', 'l']) = false := by simpa using hordered
        simp only [hflag] at hnumbered
        exact absurd hnumbered id

/-- A step that makes a numbered item reads a numbered list at the front, and makes its items. -/
theorem ReadsAs.numbered {cs : List Char} {nodes : List Node} {length : Nat}
    (h : ReadsAs cs (nextRegion cs) nodes length) {node : Node} (hnode : node ∈ nodes)
    (hnumbered : node.IsNumbered) :
    (∃ region, nextRegion cs = some region ∧ region.start = 0) ∧ OpensNumbered cs ∧
      ∃ texts, nodes = numberedItems texts := by
  cases h with
  | lineBreak hopening =>
      obtain rfl := List.mem_singleton.mp hnode
      exact absurd hnumbered id
  | dropped hopening => exact absurd hnode List.not_mem_nil
  | wrapped hopening hclosing hmade =>
      obtain rfl := List.mem_singleton.mp hnode
      exact absurd hnumbered (isParagraph_of_wrapperNode hmade).not_isNumbered
  | @region region _ hnext hfront hmade =>
      obtain ⟨hkind, hname, hitems⟩ := region.nodes_numbered hmade hnode hnumbered
      obtain ⟨tag, before, rest, inner, n, rfl, hopening, -, hregion⟩ := nextRegion_eq_some hnext
      have hbefore : before = [] := by
        rw [hregion] at hfront
        exact List.length_eq_zero_iff.mp hfront
      subst hbefore
      rw [hkind] at hopening
      rw [hregion] at hname
      exact ⟨⟨region, hnext, hfront⟩, ⟨tag, hopening, hname⟩, hitems⟩
  | plain hahead hmade =>
      exact absurd hnumbered (isParagraph_of_paragraphNodes hmade node hnode).not_isNumbered

/-! ### The places that nodes come from -/

/-- Where the region opens that a step from a place reads: at the place itself, if one is
there. -/
def Place.source (text : List Char) (place : Place) : Option Nat :=
  match nextRegion (text.drop place.position) with
  | some region => if region.start = 0 then some place.position else none
  | none => none

/-- The nodes that are read of a text from a place on, each with the place that it comes from.
Where the steps run out, what is left comes from no region. -/
inductive ReadFrom (text : List Char) : Place → List (Node × Option Nat) → Prop
  | ended {place : Place} (h : text.length ≤ place.position) : ReadFrom text place []
  | cut {place : Place} {nodes : List Node}
      (h : paragraphNodes (text.drop place.position) = .ok nodes) :
      ReadFrom text place (nodes.map fun node => (node, none))
  | step {place after : Place} {nodes : List Node} {more : List (Node × Option Nat)}
      (left : place.position < text.length)
      (next : (place.next text).answer = .ok (nodes, after)) (rest : ReadFrom text after more) :
      ReadFrom text place (nodes.map (fun node => (node, place.source text)) ++ more)

theorem exists_readFrom {text : List Char} (cap : Int) (steps : Nat) {place : Place}
    (hplace : place.Sane text) {nodes : List Node}
    (h : (scan cap steps place.position (text.drop place.position) place.candidates).answer
      = .ok nodes) :
    ∃ read, ReadFrom text place read ∧ read.map Prod.fst = nodes := by
  induction steps generalizing place nodes with
  | zero =>
      by_cases hleft : place.position < text.length
      · simp only [scan_zero cap hleft, Reading.answer_bind, Reading.answer_note, ok_bind] at h
        exact ⟨_, .cut (Reading.answer_ofText.mp h), by simp [Function.comp_def]⟩
      · rw [scan_ended cap 0 (Nat.not_lt.mp hleft)] at h
        obtain rfl := Except.ok.inj h
        exact ⟨[], .ended (Nat.not_lt.mp hleft), rfl⟩
  | succ steps ih =>
      by_cases hleft : place.position < text.length
      · rw [scan_succ cap steps hleft, Reading.answer_bind] at h
        obtain ⟨⟨made, after⟩, hnext, h⟩ := bind_eq_ok.mp h
        rw [Reading.answer_bind] at h
        obtain ⟨more, hmore, hnodes⟩ := bind_eq_ok.mp h
        obtain ⟨read, hread, rfl⟩ := ih (hplace.advances hleft hnext).2 hmore
        obtain rfl := Except.ok.inj hnodes
        exact ⟨_, .step hleft hnext hread, by simp [Function.comp_def]⟩
      · rw [scan_ended cap (steps + 1) (Nat.not_lt.mp hleft)] at h
        obtain rfl := Except.ok.inj h
        exact ⟨[], .ended (Nat.not_lt.mp hleft), rfl⟩

theorem exists_readFrom_page {cap : Cap} {page : List Char} {nodes : List Node}
    (h : (scanPage cap page).answer = .ok nodes) :
    ∃ read, ReadFrom (readText page) .first read ∧ read.map Prod.fst = nodes := by
  cases cap with
  | atMost steps => exact exists_readFrom _ _ (Place.sane_first _) h
  | unlimited => exact exists_readFrom _ _ (Place.sane_first _) h
  | unusable =>
      unfold scanPage at h
      simp only at h
      split at h
      · rename_i hempty
        obtain rfl := Except.ok.inj h
        refine ⟨[], .ended ?_, rfl⟩
        rw [show readText page = [] from List.isEmpty_iff.mp hempty]
        exact Nat.le_refl 0
      · exact absurd h nofun

/-! ### The items of one list -/

theorem Place.source_eq_some {text : List Char} {place : Place} {s : Nat}
    (h : place.source text = some s) : s = place.position := by
  unfold Place.source at h
  split at h
  · split at h
    · exact (Option.some.inj h).symm
    · exact absurd h nofun
  · exact absurd h nofun

/-- A step that makes a numbered item comes from the tag at its place, and makes the items of
the list that opens there. -/
theorem Advances.numbered {text : List Char} {place after : Place} {nodes : List Node}
    (h : Advances text place nodes after) {node : Node} (hnode : node ∈ nodes)
    (hnumbered : node.IsNumbered) :
    place.source text = some place.position ∧ OpensNumbered (text.drop place.position) ∧
      ∃ texts, nodes = numberedItems texts := by
  obtain ⟨length, hreads, -, -⟩ := h.passes
  obtain ⟨⟨region, hnext, hfront⟩, hopens, hitems⟩ := hreads.numbered hnode hnumbered
  refine ⟨?_, hopens, hitems⟩
  simp only [Place.source, hnext, if_pos hfront]

/-- What is read from a place on tells which numbered items come from the same tag. -/
structure Sourced (text : List Char) (start : Nat) (read : List (Node × Option Nat)) : Prop where
  later : ∀ item ∈ read, ∀ s, item.2 = some s → start ≤ s
  opens : ∀ item ∈ read, item.1.IsNumbered → ∃ s, item.2 = some s ∧ OpensNumbered (text.drop s)
  begun : ∀ (j : Nat) (item : Node × Option Nat), read[j]? = some item → item.1.IsNumbered →
    ∃ k ≤ j, ∃ first : Node × Option Nat, read[k]? = some first ∧ first.1.BeginsList
  same : ∀ (i j : Nat) (a b : Node × Option Nat), i < j → read[i]? = some a → read[j]? = some b →
    a.1.IsNumbered → b.1.IsNumbered →
    (a.2 = b.2 ↔ ∀ (k : Nat) (item : Node × Option Nat), i < k → k ≤ j → read[k]? = some item →
      ¬ item.1.BeginsList)

namespace Sourced

variable {text : List Char} {start : Nat}

/-- Nodes without numbered items, of which no region is known. -/
theorem of_none {nodes : List Node} (h : ∀ node ∈ nodes, ¬ node.IsNumbered) :
    Sourced text start (nodes.map fun node => (node, none)) := by
  have hall : ∀ item ∈ nodes.map fun node => (node, (none : Option Nat)),
      ¬ item.1.IsNumbered ∧ item.2 = none := by
    intro item hitem
    obtain ⟨node, hnode, rfl⟩ := List.mem_map.mp hitem
    exact ⟨h node hnode, rfl⟩
  refine ⟨?_, ?_, ?_, ?_⟩
  · intro item hitem s hs
    rw [(hall item hitem).2] at hs
    exact absurd hs nofun
  · intro item hitem hnumbered
    exact absurd hnumbered (hall item hitem).1
  · intro j item hj hnumbered
    exact absurd hnumbered (hall item (List.mem_of_getElem? hj)).1
  · intro i j a b _ ha _ hnumbered
    exact absurd hnumbered (hall a (List.mem_of_getElem? ha)).1

/-- The items of one step come from one place, and only the first of them begins a list. -/
theorem of_advances {place after : Place} {nodes : List Node}
    (hstep : Advances text place nodes after) :
    Sourced text place.position (nodes.map fun node => (node, place.source text)) := by
  set own := nodes.map fun node => (node, place.source text) with hown
  have hfrom : ∀ item ∈ own, item.1 ∈ nodes ∧ item.2 = place.source text := by
    intro item hitem
    obtain ⟨node, hnode, rfl⟩ := List.mem_map.mp hitem
    exact ⟨hnode, rfl⟩
  have hbegins : ∀ item ∈ own, item.1.IsNumbered →
      ∀ k other, own[k]? = some other → (other.1.BeginsList ↔ k = 0) := by
    intro item hitem hnumbered k other hother
    obtain ⟨-, -, texts, hnodes⟩ := hstep.numbered (hfrom item hitem).1 hnumbered
    rw [hown, List.getElem?_map] at hother
    obtain ⟨node, hnode, rfl⟩ := Option.map_eq_some_iff.mp hother
    rw [hnodes] at hnode
    exact beginsList_numberedItems hnode
  refine ⟨?_, ?_, ?_, ?_⟩
  · intro item hitem s hs
    rw [(hfrom item hitem).2] at hs
    exact (Place.source_eq_some hs).ge
  · intro item hitem hnumbered
    obtain ⟨hnode, hsource⟩ := hfrom item hitem
    obtain ⟨hplace, hopens, -⟩ := hstep.numbered hnode hnumbered
    exact ⟨_, hsource.trans hplace, hopens⟩
  · intro j item hj hnumbered
    have hlt := (List.getElem?_eq_some_iff.mp hj).1
    have hfirst : own[0]? = some own[0] := List.getElem?_eq_getElem (by omega)
    exact ⟨0, Nat.zero_le j, _, hfirst,
      (hbegins item (List.mem_of_getElem? hj) hnumbered 0 _ hfirst).mpr rfl⟩
  · intro i j a b hij ha hb hnumbered _
    have hmem := List.mem_of_getElem? ha
    have hsame := (hfrom a hmem).2.trans (hfrom b (List.mem_of_getElem? hb)).2.symm
    refine iff_of_true hsame fun k item hk hkj hitem hfirst => ?_
    have hzero := (hbegins a hmem hnumbered k item hitem).mp hfirst
    omega

section Append

variable {own more : List (Node × Option Nat)} {later : Nat}

theorem getElem?_behind (own more : List (Node × Option Nat)) (k : Nat) :
    (own ++ more)[own.length + k]? = more[k]? := by
  rw [List.getElem?_append_right (Nat.le_add_right _ _), Nat.add_sub_cancel_left]

theorem begun_append (hown : Sourced text start own) (hmore : Sourced text later more) {j : Nat}
    {item : Node × Option Nat} (hj : (own ++ more)[j]? = some item) (hnumbered : item.1.IsNumbered) :
    ∃ k ≤ j, ∃ first : Node × Option Nat, (own ++ more)[k]? = some first ∧ first.1.BeginsList := by
  rcases Nat.lt_or_ge j own.length with hlt | hge
  · rw [List.getElem?_append_left hlt] at hj
    obtain ⟨k, hk, first, hfirst, hbegins⟩ := hown.begun j item hj hnumbered
    exact ⟨k, hk, first, by rwa [List.getElem?_append_left (by omega)], hbegins⟩
  · rw [List.getElem?_append_right hge] at hj
    obtain ⟨k, hk, first, hfirst, hbegins⟩ := hmore.begun _ item hj hnumbered
    exact ⟨own.length + k, by omega, first, by rwa [getElem?_behind], hbegins⟩

/-- An item comes from another tag than one that is read later, and a list is begun up to that. -/
theorem apart_append (hown : Sourced text start own) (hmore : Sourced text later more)
    (hearlier : ∀ item ∈ own, ∀ s, item.2 = some s → s < later) {i j : Nat}
    {a b : Node × Option Nat} (hi : i < own.length) (ha : own[i]? = some a)
    (hb : more[j]? = some b) (hanumbered : a.1.IsNumbered) (hbnumbered : b.1.IsNumbered) :
    a.2 ≠ b.2 ∧ ∃ (k : Nat) (item : Node × Option Nat), i < k ∧ k ≤ own.length + j ∧
      (own ++ more)[k]? = some item ∧ item.1.BeginsList := by
  obtain ⟨s, hs, -⟩ := hown.opens a (List.mem_of_getElem? ha) hanumbered
  obtain ⟨t, ht, -⟩ := hmore.opens b (List.mem_of_getElem? hb) hbnumbered
  have hbefore := hearlier a (List.mem_of_getElem? ha) s hs
  have hlater := hmore.later b (List.mem_of_getElem? hb) t ht
  obtain ⟨k, hk, first, hfirst, hbegun⟩ := hmore.begun j b hb hbnumbered
  refine ⟨?_, own.length + k, first, by omega, by omega, by rwa [getElem?_behind], hbegun⟩
  rw [hs, ht, ne_eq, Option.some.injEq]
  omega

/-- What is read in front comes from earlier places than what is read behind it. -/
theorem append (hown : Sourced text start own) (hmore : Sourced text later more)
    (hle : start ≤ later) (hearlier : ∀ item ∈ own, ∀ s, item.2 = some s → s < later) :
    Sourced text start (own ++ more) := by
  refine ⟨?_, ?_, fun j item => begun_append hown hmore, ?_⟩
  · intro item hitem s hs
    rcases List.mem_append.mp hitem with hitem | hitem
    · exact hown.later item hitem s hs
    · exact hle.trans (hmore.later item hitem s hs)
  · intro item hitem
    rcases List.mem_append.mp hitem with hitem | hitem
    · exact hown.opens item hitem
    · exact hmore.opens item hitem
  · intro i j a b hij ha hb hanumbered hbnumbered
    rcases Nat.lt_or_ge i own.length with hi | hi
    · rw [List.getElem?_append_left hi] at ha
      rcases Nat.lt_or_ge j own.length with hj | hj
      · rw [List.getElem?_append_left hj] at hb
        rw [hown.same i j a b hij ha hb hanumbered hbnumbered]
        refine forall₃_congr fun k item _ => forall_congr' fun hkj => ?_
        rw [List.getElem?_append_left (by omega)]
      · -- the second one is made later, and a list was begun up to it
        rw [List.getElem?_append_right hj] at hb
        obtain ⟨hne, k, first, hk, hkj, hfirst, hbegun⟩ :=
          apart_append hown hmore hearlier hi ha hb hanumbered hbnumbered
        exact iff_of_false hne fun hnone => hnone k first hk (by omega) hfirst hbegun
    · rw [List.getElem?_append_right hi] at ha
      rw [List.getElem?_append_right (by omega)] at hb
      rw [hmore.same _ _ a b (by omega) ha hb hanumbered hbnumbered]
      constructor
      · intro hnone k item hk hkj hitem
        rw [List.getElem?_append_right (by omega)] at hitem
        exact hnone _ item (by omega) (by omega) hitem
      · intro hnone k item hk hkj hitem
        exact hnone (own.length + k) item (by omega) (by omega) (by rwa [getElem?_behind])

end Append

/-- What comes from the same tag is told by the nodes alone. -/
theorem source_eq_iff {read : List (Node × Option Nat)} (h : Sourced text start read)
    {i j s t : Nat} {a b : Node} (hij : i < j) (ha : read[i]? = some (a, some s))
    (hb : read[j]? = some (b, some t))
    (hanumbered : a.IsNumbered) (hbnumbered : b.IsNumbered) :
    s = t ↔ ∀ (k : Nat) (node : Node), i < k → k ≤ j → (read.map Prod.fst)[k]? = some node →
      ¬ node.BeginsList := by
  have hsame := h.same i j _ _ hij ha hb hanumbered hbnumbered
  rw [Option.some.injEq] at hsame
  rw [hsame]
  constructor
  · intro hnone k node hk hkj hnode
    rw [List.getElem?_map] at hnode
    obtain ⟨item, hitem, rfl⟩ := Option.map_eq_some_iff.mp hnode
    exact hnone k item hk hkj hitem
  · intro hnone k item hk hkj hitem
    exact hnone k item.1 hk hkj (by rw [List.getElem?_map, hitem]; rfl)

end Sourced

/-- **Numbered items come from the same tag if no list is begun between them**, whatever else a
text holds. -/
theorem ReadFrom.sourced {text : List Char} {place : Place} {read : List (Node × Option Nat)}
    (hread : ReadFrom text place read) (hplace : place.Sane text) :
    Sourced text place.position read := by
  induction hread with
  | ended _ =>
      exact Sourced.of_none fun node (hnode : node ∈ []) => absurd hnode List.not_mem_nil
  | cut hmade =>
      exact Sourced.of_none fun node hnode =>
        (isParagraph_of_paragraphNodes hmade node hnode).not_isNumbered
  | step left next _ ih =>
      obtain ⟨hadvances, hafter⟩ := hplace.advances left next
      have hforward := hadvances.forward
      refine (Sourced.of_advances hadvances).append (ih hafter) hforward.le ?_
      intro item hitem s hs
      obtain ⟨node, -, rfl⟩ := List.mem_map.mp hitem
      rw [Place.source_eq_some hs]
      exact hforward

end Paperwork
