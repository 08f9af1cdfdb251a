/-
Lists whose items need not be closed.

The closing tag of an item may be left out.  If no item of a list is closed, the list is
cut at the tags that open its items, and each of them is read as it was written.  As soon
as one is closed, an item reaches from the first tag that opens one to the first that
closes one: an item that is not closed takes in the items behind it, up to the first that
is closed, and those behind the last closed one are not read at all.

Texts stand in these lists as they are.  Nothing in them is taken for a tag or for a
reference, but they need not be escaped, so the lists are no rows of parts.
-/
import Paperwork.Proofs.Document.Ahead
import Paperwork.Proofs.Document.Conservation
import Paperwork.Proofs.Document.Regions

namespace Paperwork

open Paperwork.Text
open Paperwork.Html

/-! ### Bare texts -/

/-- A text in which nothing is taken for a tag or for a reference. -/
structure IsBare (cs : List Char) : Prop where
  noOpening : '<' ∉ cs
  noClosing : '>' ∉ cs
  noReference : '&' ∉ cs

instance (cs : List Char) : Decidable (IsBare cs) :=
  decidable_of_iff ('<' ∉ cs ∧ '>' ∉ cs ∧ '&' ∉ cs)
    ⟨fun h => ⟨h.1, h.2.1, h.2.2⟩, fun h => ⟨h.noOpening, h.noClosing, h.noReference⟩⟩

theorem IsBare.append {a b : List Char} (ha : IsBare a) (hb : IsBare b) : IsBare (a ++ b) where
  noOpening h := (List.mem_append.mp h).elim ha.noOpening hb.noOpening
  noClosing h := (List.mem_append.mp h).elim ha.noClosing hb.noClosing
  noReference h := (List.mem_append.mp h).elim ha.noReference hb.noReference

/-- What answers at tags only passes over such a text. -/
theorem IsBare.pieces_append {α : Type} {p : Pattern α} (hp : OnlyAtTags p) {cs : List Char}
    (h : IsBare cs) (rest : List Char) :
    pieces p (cs ++ rest) = cs.map .plain ++ pieces p rest :=
  Text.pieces_append fun _ hne htail => hp.plain_none h.noOpening hne htail _

theorem unescape_bare {cs : List Char} (h : '&' ∉ cs) : unescape cs = .ok cs := by
  have hpieces : splitWhere (· == '&') cs = [cs] :=
    splitWhere_eq_singleton fun c hc => by simpa using ne_of_mem_of_not_mem hc h
  rw [unescape, hpieces]
  simp [pure, Except.pure, bind, Except.bind]

/-! ### Items that are not closed -/

/-- The tag that opens an item. -/
def itemTag : List Char := (Token.tag itemName).write

/-- Texts, the tag that opens an item in front of each. -/
def openItems (texts : List String) : List Char :=
  texts.flatMap fun text => itemTag ++ text.toList

theorem openItems_cons (text : String) (texts : List String) :
    openItems (text :: texts) = itemTag ++ (text.toList ++ openItems texts) := by
  simp [openItems]

theorem complete_openItem {text : String} (h : IsBare text.toList) :
    Complete (itemTag ++ text.toList) := (Complete.tag itemName).append (.plain h.noOpening)

theorem complete_openItems {texts : List String} (h : ∀ text ∈ texts, IsBare text.toList) :
    Complete (openItems texts) := .flatMap fun text htext => complete_openItem (h text htext)

section Search

variable {α β : Type} {p : List Char → Option α} {inside : List Char → Option β}
  {answer : β → List Char → α}

theorem search_openItem (hp : ReadsTags p inside answer) (hnone : inside itemName = none)
    {text : String} (h : IsBare text.toList) : search p (itemTag ++ text.toList) = none :=
  hp.search_append_eq_none (.tag itemName)
    ((hp.search_tag_eq_none (by decide)).mpr hnone)
    (hp.onlyAtTags.search_plain h.noOpening)

/-- What is not asked for at the tags of items is not found among them. -/
theorem search_openItems (hp : ReadsTags p inside answer) (hnone : inside itemName = none)
    {texts : List String} (h : ∀ text ∈ texts, IsBare text.toList) :
    search p (openItems texts) = none :=
  hp.search_flatMap_eq_none fun text htext =>
    ⟨complete_openItem (h text htext), search_openItem hp hnone (h text htext)⟩

end Search

/-- The texts of several items run together. -/
def runTogether (texts : List String) : String := texts.foldr (· ++ ·) ""

theorem replaced_openItems {texts : List String} (h : ∀ text ∈ texts, IsBare text.toList) :
    replaced anyTag (fun _ => []) (openItems texts) = (runTogether texts).toList := by
  induction texts with
  | nil => rfl
  | cons text texts ih =>
      obtain ⟨hbare, hrest⟩ := List.forall_mem_cons.mp h
      have htext := hbare.pieces_append readsTags_anyTag.onlyAtTags (openItems texts)
      rw [openItems_cons, itemTag, replaced_anyTag_tag (by decide), replaced_append _ htext, ih hrest]
      simp [runTogether]

theorem isBare_runTogether {texts : List String} (h : ∀ text ∈ texts, IsBare text.toList) :
    IsBare (runTogether texts).toList := by
  induction texts with
  | nil => exact ⟨by simp [runTogether], by simp [runTogether], by simp [runTogether]⟩
  | cons text texts ih =>
      rw [show runTogether (text :: texts) = text ++ runTogether texts from rfl,
        String.toList_append]
      exact (h text List.mem_cons_self).append (ih fun t ht => h t (List.mem_cons_of_mem text ht))

/-- What an item holds that takes in the items behind it: the tags that open these leave no
text. -/
theorem inlineText_openItems {text : String} {texts : List String}
    (h : ∀ t ∈ text :: texts, IsBare t.toList) :
    inlineText (text.toList ++ openItems texts) = .ok (oneLine (runTogether (text :: texts))) := by
  obtain ⟨hbare, hrest⟩ := List.forall_mem_cons.mp h
  have hnone : search lineBreak (text.toList ++ openItems texts) = none :=
    readsTags_lineBreak.search_append_eq_none (.plain hbare.noOpening)
      (readsTags_lineBreak.onlyAtTags.search_plain hbare.noOpening)
      (search_openItems readsTags_lineBreak (by decide) hrest)
  have htext := hbare.pieces_append readsTags_anyTag.onlyAtTags (openItems texts)
  have hkept : (runTogether (text :: texts)).toList
      = text.toList ++ (runTogether texts).toList := String.toList_append
  rw [inlineText, inlineContent, content, withoutTags, replaced_eq_self _ hnone,
    replaced_append _ htext, replaced_openItems hrest, ← hkept,
    unescape_bare (isBare_runTogether h).noReference]
  rfl

theorem inlineText_bare {text : String} (h : IsBare text.toList) :
    inlineText text.toList = .ok (oneLine text) := by
  have hone := inlineText_openItems (List.forall_mem_singleton.mpr h)
  simpa [openItems, runTogether] using hone

/-! ### Items that are closed -/

/-- The tag that closes an item. -/
def itemClosing : List Char := (Token.tag ('/' :: itemName)).write

theorem readsTags_itemClosing :
    ReadsTags (closingLength? caseFree itemName) (wholeTag (closes caseFree itemName))
      fun length _ => length :=
  readsTags_closing (isName_caseFree (by decide))

/-- An item reaches to the first tag that closes one. -/
theorem matchesIn_closedItem {body : List Char} (hbody : Complete body)
    (hunclosed : search (closingLength? caseFree itemName) body = none) (rest : List Char) :
    ∃ e : Element, e.content = body ∧
      matchesIn (elementNamed itemName) (itemTag ++ (body ++ (itemClosing ++ rest)))
        = e :: matchesIn (elementNamed itemName) rest := by
  have hopening : opening? [itemName] (itemTag ++ (body ++ (itemClosing ++ rest)))
      = some ⟨itemName, [], body ++ (itemClosing ++ rest)⟩ := by
    have hopens : opens [itemName] itemName = some (itemName, []) := by decide
    rw [itemTag, opening?_tag (by decide) (by decide), hopens]
    rfl
  have hcloses : closingLength? caseFree itemName (itemClosing ++ rest)
      = some itemClosing.length := by
    rw [itemClosing, readsTags_itemClosing.at_write (by decide), wholeTag, if_pos (by decide)]
    rfl
  have hupTo : upToClosing? caseFree itemName (body ++ (itemClosing ++ rest))
      = some (body, itemClosing.length) := by
    rw [upToClosing?, readsTags_itemClosing.search_behind hbody hunclosed, search_of_some hcloses]
    simp
  let e : Element := ⟨⟨itemName, [], body ++ (itemClosing ++ rest)⟩, body,
    (itemTag ++ (body ++ itemClosing)).length⟩
  have hfound : elementNamed itemName (itemTag ++ (body ++ (itemClosing ++ rest)))
      = some (e, e.length) := by
    have hlength : (⟨itemName, [], body ++ (itemClosing ++ rest)⟩ : Opening).length
        = itemTag.length := rfl
    simp only [elementNamed, element?, hopening, hupTo, Option.bind_eq_bind, Option.bind_some,
      hlength]
    simp [e, Nat.add_assoc]
  refine ⟨e, rfl, ?_⟩
  rw [matchesIn_of_some hfound (by simp [e, itemTag, Token.write]) (by simp [itemTag, Token.write]),
    show itemTag ++ (body ++ (itemClosing ++ rest)) = (itemTag ++ (body ++ itemClosing)) ++ rest by
      simp, List.drop_left]

/-- No element is found where no tag closes one. -/
theorem matchesIn_unclosed {name cs : List Char}
    (h : search (closingLength? caseFree name) cs = none) :
    matchesIn (elementNamed name) cs = [] := by
  have hnone : ∀ tail, tail <:+ cs → elementNamed name tail = none := by
    intro tail htail
    by_contra hfound
    obtain ⟨⟨e, n⟩, he⟩ := Option.ne_none_iff_exists'.mp hfound
    obtain ⟨e', helement, -⟩ := Option.map_eq_some_iff.mp he
    obtain ⟨tag, hopening, hrest⟩ := Option.bind_eq_some_iff.mp helement
    obtain ⟨⟨body, length⟩, hclosing, -⟩ := Option.bind_eq_some_iff.mp hrest
    obtain ⟨behind, hbehind, hcloses⟩ := search_eq_some hclosing
    -- The tag that closes the element would stand in the text.
    have hsuffix : behind <:+ cs := by
      refine List.IsSuffix.trans ⟨tag.text ++ body, ?_⟩ htail
      rw [opening?_eq_some hopening, hbehind, List.append_assoc]
    rw [search_eq_none.mp h behind hsuffix] at hcloses
    exact absurd hcloses (by simp)
  have hpieces : pieces (elementNamed name) (cs ++ [])
      = cs.map .plain ++ pieces (elementNamed name) [] :=
    pieces_append fun tail _ htail => by rw [List.append_nil]; exact hnone tail htail
  have hmatches := matchesIn_append hpieces
  rwa [List.append_nil] at hmatches

theorem unclosed_openItems {texts : List String} (h : ∀ text ∈ texts, IsBare text.toList) :
    search (closingLength? caseFree itemName) (openItems texts) = none :=
  search_openItems readsTags_itemClosing (by decide) h

/-! ### Items -/

/-- An item of a list, with or without a closing tag. -/
structure ListItem where
  text : String
  closed : Bool

/-- How an item is written. -/
def ListItem.write (item : ListItem) : List Char :=
  itemTag ++ item.text.toList ++ if item.closed then itemClosing else []

/-- The texts of items, each of which takes in those behind it up to the first that is
closed; `before` stands in front of the first of them. -/
def closedTexts (before : String) : List ListItem → List String
  | [] => []
  | item :: items =>
    if item.closed then (before ++ item.text) :: closedTexts "" items
    else closedTexts (before ++ item.text) items

/-- The texts that the items of a list are read as. -/
def itemTexts (items : List ListItem) : List String :=
  if items.any ListItem.closed then closedTexts "" items else items.map ListItem.text

/-- The nodes of the items of a list, numbered from one. -/
def itemNodes (ordered : Bool) (texts : List String) : List Node :=
  texts.zipIdx.map fun (text, i) => .listItem (oneLine text) ordered (i + 1)

theorem runTogether_append (texts : List String) (text : String) :
    runTogether (texts ++ [text]) = runTogether texts ++ text := by
  induction texts with
  | nil => simp [runTogether]
  | cons t texts ih =>
      show t ++ runTogether (texts ++ [text]) = t ++ runTogether texts ++ text
      rw [ih, String.append_assoc]

/-- Open items up to a tag that closes one are one item. -/
theorem closedItem_found {texts others : List String} {rest : List Char}
    (h : ∀ text ∈ texts, IsBare text.toList) (hne : texts ≠ [])
    (hrest : List.Forall₂ (fun e text => inlineText e.content = .ok (oneLine text))
      (matchesIn (elementNamed itemName) rest) others) :
    List.Forall₂ (fun e text => inlineText e.content = .ok (oneLine text))
      (matchesIn (elementNamed itemName) (openItems texts ++ (itemClosing ++ rest)))
      (runTogether texts :: others) := by
  obtain ⟨text, more, rfl⟩ := List.exists_cons_of_ne_nil hne
  obtain ⟨hbare, hmore⟩ := List.forall_mem_cons.mp h
  have hunclosed : search (closingLength? caseFree itemName) (text.toList ++ openItems more)
      = none := readsTags_itemClosing.search_append_eq_none (.plain hbare.noOpening)
      (readsTags_itemClosing.onlyAtTags.search_plain hbare.noOpening) (unclosed_openItems hmore)
  obtain ⟨e, hcontent, hmatches⟩ := matchesIn_closedItem
    ((Complete.plain hbare.noOpening).append (complete_openItems hmore)) hunclosed rest
  rw [openItems_cons, List.append_assoc, hmatches]
  exact .cons (by rw [hcontent, inlineText_openItems h]) hrest

/-- **Closed items take in the open ones in front of them.** -/
theorem contents_items {items : List ListItem} (h : ∀ item ∈ items, IsBare item.text.toList)
    {texts : List String} (htexts : ∀ text ∈ texts, IsBare text.toList) :
    List.Forall₂ (fun e text => inlineText e.content = .ok (oneLine text))
      (matchesIn (elementNamed itemName) (openItems texts ++ items.flatMap ListItem.write))
      (closedTexts (runTogether texts) items) := by
  -- The items before the first closed one are gathered one by one.
  induction items generalizing texts with
  | nil =>
      rw [List.flatMap_nil, List.append_nil, matchesIn_unclosed (unclosed_openItems htexts)]
      exact .nil
  | cons item items ih =>
      obtain ⟨hitem, hrest⟩ := List.forall_mem_cons.mp h
      have hmore : ∀ text ∈ texts ++ [item.text], IsBare text.toList := by
        intro text htext
        rcases List.mem_append.mp htext with htext | htext
        · exact htexts text htext
        · rwa [List.mem_singleton.mp htext]
      rw [closedTexts, ← runTogether_append]
      by_cases hclosed : item.closed = true
      · rw [if_pos hclosed]
        have hcs : openItems texts ++ (item :: items).flatMap ListItem.write
            = openItems (texts ++ [item.text])
              ++ (itemClosing ++ items.flatMap ListItem.write) := by
          simp [openItems, ListItem.write, hclosed]
        rw [hcs]
        have hbehind := ih hrest (List.forall_mem_nil _)
        exact closedItem_found hmore (by simp) hbehind
      · rw [if_neg hclosed]
        have hcs : openItems texts ++ (item :: items).flatMap ListItem.write
            = openItems (texts ++ [item.text]) ++ items.flatMap ListItem.write := by
          simp [openItems, ListItem.write, hclosed]
        rw [hcs]
        exact ih hrest hmore

/-- Where no item is closed, each ends where the next begins. -/
theorem between_openItems {texts : List String} (h : ∀ text ∈ texts, IsBare text.toList) :
    between itemOpening (openItems texts) = [] :: texts.map String.toList := by
  induction texts with
  | nil => rfl
  | cons text texts ih =>
      obtain ⟨hbare, hrest⟩ := List.forall_mem_cons.mp h
      have hitem : (Token.tag itemName).Sound := by decide
      have htag := readsTags_itemOpening.pieces_write hitem (text.toList ++ openItems texts)
      rw [Token.pieces, if_pos (by decide)] at htag
      have htext := hbare.pieces_append readsTags_itemOpening.onlyAtTags (openItems texts)
      rw [openItems_cons, itemTag, between_of_hit htag, between_append htext (ih hrest),
        List.append_nil, List.map_cons]

theorem openItems_of_open {items : List ListItem} (h : items.any ListItem.closed = false) :
    items.flatMap ListItem.write = openItems (items.map ListItem.text) := by
  rw [openItems, List.flatMap_map]
  refine List.flatMap_congr fun item hitem => ?_
  have hopen : item.closed = false := by
    simpa using List.any_eq_false.mp h item hitem
  simp [ListItem.write, hopen]

/-- A closed item is read as one, with those in front of it. -/
theorem closedTexts_ne_nil {items : List ListItem} (h : items.any ListItem.closed = true)
    (before : String) : closedTexts before items ≠ [] := by
  induction items generalizing before with
  | nil => exact absurd h (by simp)
  | cons item items ih =>
      rw [closedTexts]
      by_cases hclosed : item.closed = true
      · rw [if_pos hclosed]
        exact List.cons_ne_nil _ _
      · rw [if_neg hclosed]
        exact ih (by simpa [hclosed] using h) _

theorem itemBodies_closed {items : List ListItem} (h : ∀ item ∈ items, IsBare item.text.toList)
    (hclosed : items.any ListItem.closed = true) :
    (itemBodies (items.flatMap ListItem.write)).mapM inlineText
      = .ok ((closedTexts "" items).map oneLine) := by
  have hfound := contents_items h (List.forall_mem_nil _)
  have hne := closedTexts_ne_nil hclosed ""
  rw [show openItems [] = [] from rfl, List.nil_append,
    show runTogether [] = "" from rfl] at hfound
  unfold itemBodies
  revert hfound
  cases matchesIn (elementNamed itemName) (items.flatMap ListItem.write) with
  | nil => exact fun hfound => absurd (List.forall₂_nil_left_iff.mp hfound) hne
  | cons e es =>
      intro hfound
      refine mapM_eq_ok.mpr ?_
      rwa [List.forall₂_map_left_iff, List.forall₂_map_right_iff]

theorem itemBodies_open {items : List ListItem} (h : ∀ item ∈ items, IsBare item.text.toList)
    (hopen : items.any ListItem.closed = false) :
    (itemBodies (items.flatMap ListItem.write)).mapM inlineText
      = .ok ((items.map ListItem.text).map oneLine) := by
  have hbare : ∀ text ∈ items.map ListItem.text, IsBare text.toList := by
    simpa using h
  rw [openItems_of_open hopen, itemBodies, matchesIn_unclosed (unclosed_openItems hbare)]
  simp only [between_openItems hbare, List.drop_succ_cons, List.drop_zero]
  refine mapM_eq_ok.mpr ?_
  rw [List.forall₂_map_left_iff, List.forall₂_map_right_iff, List.forall₂_same]
  intro text htext
  exact inlineText_bare (hbare text htext)

/-- **What the items of a list are read as.** -/
theorem listNodes_items (ordered : Bool) {items : List ListItem}
    (h : ∀ item ∈ items, IsBare item.text.toList) :
    listNodes ordered (items.flatMap ListItem.write)
      = .ok (itemNodes ordered (itemTexts items)) := by
  have hread : (itemBodies (items.flatMap ListItem.write)).mapM inlineText
      = .ok ((itemTexts items).map oneLine) := by
    rw [itemTexts]
    by_cases hclosed : items.any ListItem.closed = true
    · rw [if_pos hclosed]
      exact itemBodies_closed h hclosed
    · rw [if_neg hclosed]
      exact itemBodies_open h (by simpa using hclosed)
  rw [listNodes, hread, ok_bind, itemNodes, List.zipIdx_map, List.map_map]
  rfl

theorem length_closedTexts (before : String) (items : List ListItem) :
    (closedTexts before items).length = items.countP ListItem.closed := by
  induction items generalizing before with
  | nil => rfl
  | cons item items ih =>
      rw [closedTexts]
      by_cases hclosed : item.closed = true
      · rw [if_pos hclosed, List.length_cons, ih, List.countP_cons_of_pos hclosed]
      · rw [if_neg hclosed, ih, List.countP_cons_of_neg hclosed]

theorem closedTexts_of_closed {items : List ListItem} (h : ∀ item ∈ items, item.closed = true) :
    closedTexts "" items = items.map ListItem.text := by
  induction items with
  | nil => rfl
  | cons item items ih =>
      obtain ⟨hclosed, hrest⟩ := List.forall_mem_cons.mp h
      rw [closedTexts, if_pos hclosed, ih hrest, String.empty_append, List.map_cons]

/-- Where every item is closed, or none is, each is read as it was written; otherwise fewer
items are read than there are. -/
theorem itemNodes_itemTexts_iff (ordered : Bool) (items : List ListItem) :
    itemNodes ordered (itemTexts items) = itemNodes ordered (items.map ListItem.text) ↔
      (∀ item ∈ items, item.closed = true) ∨ ∀ item ∈ items, item.closed = false := by
  rw [itemTexts]
  by_cases hclosed : items.any ListItem.closed = true
  · rw [if_pos hclosed]
    constructor
    · intro heq
      have hlength := congrArg List.length heq
      simp only [itemNodes, List.length_map, List.length_zipIdx, length_closedTexts] at hlength
      exact .inl (List.countP_eq_length.mp hlength)
    · rintro (hall | hnone)
      · rw [closedTexts_of_closed hall]
      · obtain ⟨item, hitem, htrue⟩ := List.any_eq_true.mp hclosed
        rw [hnone item hitem] at htrue
        exact absurd htrue (by simp)
  · rw [if_neg hclosed]
    refine iff_of_true rfl (.inr fun item hitem => ?_)
    exact Bool.eq_false_iff.mpr fun htrue => hclosed (List.any_eq_true.mpr ⟨item, hitem, htrue⟩)

/-! ### Lists -/

/-- The name of the tags of a list. -/
def listName (ordered : Bool) : List Char := if ordered then ['o', 'l'] else ['u', 'l']

/-- How a list is written. -/
def listText (ordered : Bool) (items : List ListItem) : List Char :=
  enclosed (listName ordered) (items.flatMap ListItem.write) ('/' :: listName ordered)

theorem ListItem.complete {item : ListItem} (h : IsBare item.text.toList) :
    Complete item.write := by
  refine (complete_openItem h).append ?_
  cases item.closed with
  | true => exact .tag ('/' :: itemName)
  | false => exact .nil

/-- What is not asked for at the tags of an item is not found in it. -/
theorem ListItem.search_write {α β : Type} {p : List Char → Option α}
    {inside : List Char → Option β} {answer : β → List Char → α} (hp : ReadsTags p inside answer)
    (hopening : inside itemName = none) (hclosing : inside ('/' :: itemName) = none)
    {item : ListItem} (h : IsBare item.text.toList) : search p item.write = none := by
  refine hp.search_append_eq_none (complete_openItem h) (search_openItem hp hopening h) ?_
  cases item.closed with
  | true => exact (hp.search_tag_eq_none (by decide)).mpr hclosing
  | false => simp [search, hp.onlyAtTags [] (by simp)]

/-- Complete tags and texts in which no tags are asked for but those of items. -/
structure HoldsItems (content : List Char) : Prop where
  complete : Complete content
  search_eq_none : ∀ {α β : Type} {p : List Char → Option α} {inside : List Char → Option β}
    {answer : β → List Char → α}, ReadsTags p inside answer → inside itemName = none →
    inside ('/' :: itemName) = none → search p content = none

theorem holdsItems_bare {cs : List Char} (h : IsBare cs) : HoldsItems cs where
  complete := .plain h.noOpening
  search_eq_none hp _ _ := hp.onlyAtTags.search_plain h.noOpening

theorem holdsItems_items {items : List ListItem} (h : ∀ item ∈ items, IsBare item.text.toList) :
    HoldsItems (items.flatMap ListItem.write) where
  complete := .flatMap fun item hitem => ListItem.complete (h item hitem)
  search_eq_none hp hopening hclosing := hp.search_flatMap_eq_none fun item hitem =>
    ⟨ListItem.complete (h item hitem), ListItem.search_write hp hopening hclosing (h item hitem)⟩

namespace HoldsItems

variable {kind : RegionKind} {name content : List Char}

/-- What holds nothing but items is not closed before its end. -/
theorem encloses (h : HoldsItems content) (hname : name ∈ kind.tagNames) (hkind : kind ≠ .image) :
    kind.Encloses name name content ('/' :: name) := by
  obtain ⟨⟨-, -, hbracket⟩, hopens, hlower, hcloses⟩ := kind.tagNames_written name hname
  have hitem : closes caseFree name ('/' :: itemName) = false := by
    revert name
    cases kind <;> decide
  have hunclosed : search (closingLength? caseFree (lowerText name)) content = none := by
    rw [hlower]
    refine h.search_eq_none (readsTags_closing (isName_caseFree hbracket)) ?_ ?_
    · exact if_neg (by simp [closes, itemName])
    · exact if_neg (by simp [hitem])
  exact ⟨hkind, hbracket, ⟨[], hopens⟩, h.complete, hunclosed, by simpa using hbracket,
    by rwa [hlower]⟩

theorem sound_closingTag (hname : name ∈ kind.tagNames) : (Token.tag ('/' :: name)).Sound := by
  obtain ⟨⟨-, hopening, hclosing⟩, -⟩ := kind.tagNames_written name hname
  exact ⟨List.cons_ne_nil _ _, by simpa using hopening, by simpa using hclosing⟩

theorem complete_enclosed (h : HoldsItems content) (name : List Char) :
    Complete (enclosed name content ('/' :: name)) :=
  (Complete.tag name).append (h.complete.append (.tag ('/' :: name)))

/-- What is asked for neither at the tags of a region nor at those of items is not found
in it. -/
theorem search_enclosed {α β : Type} {p : List Char → Option α} {inside : List Char → Option β}
    {answer : β → List Char → α} (h : HoldsItems content) (hname : name ∈ kind.tagNames)
    (hp : ReadsTags p inside answer) (htag : inside name = none)
    (hclose : inside ('/' :: name) = none) (hitem : inside itemName = none)
    (hitemClose : inside ('/' :: itemName) = none) :
    search p (enclosed name content ('/' :: name)) = none := by
  refine hp.search_append_eq_none (.tag name)
    ((hp.search_tag_eq_none (kind.tagNames_written name hname).1).mpr htag) ?_
  exact hp.search_append_eq_none h.complete (h.search_eq_none hp hitem hitemClose)
    ((hp.search_tag_eq_none (sound_closingTag hname)).mpr hclose)

theorem allShown (h : HoldsItems content) (hname : name ∈ kind.tagNames) :
    AllShown (enclosed name content ('/' :: name)) := by
  obtain ⟨hcomment, hhidden, hclose⟩ := kind.tagNames_shown name hname
  exact ⟨h.complete_enclosed name,
    h.search_enclosed hname readsTags_comment hcomment rfl (by decide) (by decide),
    h.search_enclosed hname (readsTags_opening (by decide)) hhidden hclose (by decide)
      (by decide)⟩

end HoldsItems

theorem listName_mem (ordered : Bool) : listName ordered ∈ RegionKind.list.tagNames := by
  cases ordered <;> decide

theorem nodes_list (ordered : Bool) {items : List ListItem}
    (h : ∀ item ∈ items, IsBare item.text.toList) :
    (RegionKind.list.front (listName ordered) (listName ordered)
        (items.flatMap ListItem.write) ('/' :: listName ordered)).nodes.answer
      = .ok (itemNodes ordered (itemTexts items)) := by
  have hordered : (lowerText (listName ordered) == ['o', 'l']) = ordered := by
    cases ordered <;> decide
  simp only [Region.nodes, RegionKind.front, hordered, listNodes_items ordered h,
    Reading.answer_ofText_ok]

theorem convert_list (ordered : Bool) {items : List ListItem}
    (h : ∀ item ∈ items, IsBare item.text.toList) {cap : Cap} (hcap : cap.Allows 1) :
    (convert cap (listText ordered items)).run.value
      = .ok ⟨itemNodes ordered (itemTexts items), false⟩ :=
  ((holdsItems_items h).encloses (listName_mem ordered) (by decide)).convert_alone
    ((holdsItems_items h).allShown (listName_mem ordered)) (nodes_list ordered h) hcap

/--
**The items of a list are read as they were written exactly if all of them are closed or
none is.**  A list of any number of items, with bare texts and with or without closing
tags, is converted whatever its items are; if some are closed and others are not, each
closed item becomes one together with the open items between it and the closed item in
front of it, and the items behind the last closed one are lost.
-/
theorem convert_list_iff (ordered : Bool) {items : List ListItem}
    (h : ∀ item ∈ items, IsBare item.text.toList) {cap : Cap} (hcap : cap.Allows 1) :
    (convert cap (listText ordered items)).run.value
        = .ok ⟨itemNodes ordered (itemTexts items), false⟩ ∧
      ((convert cap (listText ordered items)).run.value
          = .ok ⟨itemNodes ordered (items.map ListItem.text), false⟩ ↔
        (∀ item ∈ items, item.closed = true) ∨ ∀ item ∈ items, item.closed = false) := by
  have hconvert := convert_list ordered h hcap
  refine ⟨hconvert, ?_⟩
  rw [hconvert, ← itemNodes_itemTexts_iff ordered items]
  simp

/-- Three items, of which the second is closed. -/
def halfOpenItems : List ListItem := [⟨"a", false⟩, ⟨"b  c", true⟩, ⟨"d", false⟩]

theorem halfOpenItems_converted :
    (∀ item ∈ halfOpenItems, IsBare item.text.toList) ∧ Cap.standard.Allows 1 ∧
      (convert Cap.standard (listText true halfOpenItems)).run.value
        = .ok ⟨[.listItem "ab c" true 1], false⟩ := by
  have hbare : ∀ item ∈ halfOpenItems, IsBare item.text.toList := by decide +kernel
  have hcap : Cap.standard.Allows 1 := Cap.allows_standard (by decide)
  have hnodes : itemNodes true (itemTexts halfOpenItems) = [.listItem "ab c" true 1] := by
    decide +kernel
  exact ⟨hbare, hcap, hnodes ▸ (convert_list_iff true hbare hcap).1⟩

/-- An open item in front of a closed one is not read as an item. -/
theorem openItem_merged :
    (convert Cap.standard "<ul><li>a<li>b</li></ul>".toList).run.value
        = .ok ⟨[.listItem "ab" false 1], false⟩ ∧
      (convert Cap.standard "<ul><li>a<li>b</li></ul>".toList).run.value
        ≠ .ok ⟨[.listItem "a" false 1, .listItem "b" false 2], false⟩ := by
  have hpage : "<ul><li>a<li>b</li></ul>".toList = listText false [⟨"a", false⟩, ⟨"b", true⟩] := by
    decide +kernel
  have hnodes : itemNodes false (itemTexts [⟨"a", false⟩, ⟨"b", true⟩])
      = [.listItem "ab" false 1] := by
    decide +kernel
  have hbare : ∀ item ∈ [(⟨"a", false⟩ : ListItem), ⟨"b", true⟩], IsBare item.text.toList := by
    decide +kernel
  have hcap : Cap.standard.Allows 1 := Cap.allows_standard (by decide)
  rw [hpage, convert_list false hbare hcap, hnodes]
  exact ⟨rfl, by simp⟩

end Paperwork
