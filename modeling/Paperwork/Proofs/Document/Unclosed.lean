/-
What an opening tag without a closing tag does to the regions behind it.

The search for a kind of regions stops at its first opening tag, closed or not, and begins
anew only behind it.  So an open heading hides the headings behind it for as long as
reading stands in front of its tag, and text that begins there goes on over them, up to
the next wrapper or line break.  If one of these comes first, reading stops there, and a
closed heading behind it is found as if the open one had been closed.  Otherwise that
heading is taken for text.  With lists it is the same.
-/
import Paperwork.Proofs.Document.Items

namespace Paperwork

open Paperwork.Text
open Paperwork.Html

/-! ### Blanks at both ends -/

theorem rdropWhile_append {p : Char → Bool} (a b : List Char) :
    (a ++ b).rdropWhile p
      = if (b.rdropWhile p).isEmpty then a.rdropWhile p else a ++ b.rdropWhile p := by
  rw [List.rdropWhile, List.reverse_append, List.dropWhile_append]
  by_cases h : (b.reverse.dropWhile p).isEmpty = true
  · rw [if_pos h, if_pos (by simpa [List.rdropWhile] using h)]
    rfl
  · rw [if_neg h, if_neg (by simpa [List.rdropWhile] using h), List.reverse_append,
      List.reverse_reverse]
    rfl

/-- It does not matter at which end blanks are dropped first. -/
theorem dropWhile_rdropWhile {p : Char → Bool} (cs : List Char) :
    (cs.rdropWhile p).dropWhile p = (cs.dropWhile p).rdropWhile p := by
  induction cs with
  | nil => rfl
  | cons c cs ih =>
      have hcons : (c :: cs).rdropWhile p
          = if (cs.rdropWhile p).isEmpty then [c].rdropWhile p else c :: cs.rdropWhile p :=
        rdropWhile_append [c] cs
      by_cases hc : p c = true
      · rw [List.dropWhile_cons_of_pos hc, ← ih, hcons]
        by_cases hempty : (cs.rdropWhile p).isEmpty = true
        · rw [if_pos hempty, List.isEmpty_iff.mp hempty, List.rdropWhile_singleton, if_pos hc]
        · rw [if_neg hempty, List.dropWhile_cons_of_pos hc]
      · rw [List.dropWhile_cons_of_neg hc, hcons]
        by_cases hempty : (cs.rdropWhile p).isEmpty = true
        · rw [if_pos hempty, List.rdropWhile_singleton, if_neg hc, List.dropWhile_cons_of_neg hc]
        · rw [if_neg hempty, List.dropWhile_cons_of_neg hc]

/-! ### Plain text -/

theorem readsTags_stop :
    ReadsTags (tagName? stopNames) (opens stopNames) fun na rest => (na.1, na.2 ++ '>' :: rest) :=
  readsTags_tagName (by decide)

theorem drop_one_take {c : Char} {body : List Char} {limit : Nat}
    (hlimit : (c :: body).length ≤ limit) (cs : List Char) :
    ((c :: (body ++ cs)).take limit).drop 1 = body ++ cs.take (limit - (c :: body).length) := by
  rw [← List.cons_append, List.take_append, List.take_of_length_le hlimit]
  rfl

/-- Text ends at the first stop in what follows its first character. -/
theorem plainLength_found {c : Char} {body cs before : List Char} {name : List Char × List Char}
    {limit : Nat} (hbody : Complete body)
    (hfound : search (tagName? stopNames) body = some (before, name))
    (hlimit : (c :: body).length ≤ limit) :
    plainLength limit (c :: (body ++ cs)) = (c :: before).length := by
  obtain ⟨other, hother⟩ := readsTags_stop.search_within hbody hfound
    (cs.take (limit - (c :: body).length))
  rw [plainLength, drop_one_take hlimit, hother]
  simp [Nat.add_comm]

/-- Text goes at least as far as there is no stop. -/
theorem le_plainLength {c : Char} {body : List Char} (cs : List Char) {limit : Nat}
    (hbody : Complete body) (hnone : search (tagName? stopNames) body = none)
    (hlimit : (c :: body).length ≤ limit) :
    (c :: body).length ≤ plainLength limit (c :: (body ++ cs)) := by
  rw [plainLength, drop_one_take hlimit, readsTags_stop.search_behind hbody hnone]
  cases search (tagName? stopNames) (cs.take (limit - (c :: body).length)) with
  | none => exact hlimit
  | some found =>
      simp only [Option.map_some, List.length_cons, List.length_append]
      omega

/-! ### Closed regions of bare text -/

/-- A closed heading or list of bare texts, given by its kind, its name and what it holds,
and the nodes it stands for. -/
inductive ClosedRegion : RegionKind → List Char → List Char → List Node → Prop
  | heading {name : List Char} (hname : name ∈ RegionKind.heading.tagNames) {text : String}
      (hbare : IsBare text.toList) :
      ClosedRegion .heading name text.toList [.heading (oneLine text) (headingLevelOf name)]
  | list (ordered : Bool) {items : List ListItem}
      (hbare : ∀ item ∈ items, IsBare item.text.toList) :
      ClosedRegion .list (listName ordered) (items.flatMap ListItem.write)
        (itemNodes ordered (itemTexts items))

namespace ClosedRegion

variable {kind : RegionKind} {name content : List Char} {made : List Node}

theorem name_mem (h : ClosedRegion kind name content made) : name ∈ kind.tagNames := by
  cases h with
  | heading hname _ => exact hname
  | list ordered _ => exact listName_mem ordered

theorem not_image (h : ClosedRegion kind name content made) : kind ≠ .image := by
  cases h <;> decide

theorem holdsItems (h : ClosedRegion kind name content made) : HoldsItems content := by
  cases h with
  | heading _ hbare => exact holdsItems_bare hbare
  | list ordered hbare => exact holdsItems_items hbare

theorem encloses (h : ClosedRegion kind name content made) :
    kind.Encloses name name content ('/' :: name) := h.holdsItems.encloses h.name_mem h.not_image

theorem nodes (h : ClosedRegion kind name content made) :
    (kind.front name name content ('/' :: name)).nodes.answer = .ok made := by
  cases h with
  | heading _ hbare => simp [Region.nodes, RegionKind.front, inlineText_bare hbare]
  | list ordered hbare => exact nodes_list ordered hbare

end ClosedRegion

/-! ### An open region in front of a closed one -/

/-- The tag of an open region, a gap, and a closed region behind it. -/
def openedText (opened gap name content : List Char) : List Char :=
  (Token.tag opened).write ++ (gap ++ enclosed name content ('/' :: name))

section Opened

variable {kind : RegionKind} {opened gap name content : List Char} {made : List Node}

theorem sound_openedTag (hopened : opened ∈ kind.tagNames) : (Token.tag opened).Sound :=
  (kind.tagNames_written opened hopened).1

theorem allShown_opened (hopened : opened ∈ kind.tagNames) (hgap : Gap gap)
    (h : ClosedRegion kind name content made) :
    AllShown (openedText opened gap name content) := by
  obtain ⟨hcomment, hhidden, -⟩ := kind.tagNames_shown opened hopened
  exact (AllShown.tag (sound_openedTag hopened) hcomment hhidden).append
    (hgap.toAllShown.append (h.holdsItems.allShown h.name_mem))

theorem opens_of_mem {others : List (List Char)} (hothers : NamesApart kind.tagNames others)
    (hname : name ∈ kind.tagNames) : opens others name = none :=
  hothers.opens_eq_none (by rw [(kind.tagNames_written name hname).2.1]; rfl)

theorem RegionKind.not_opens_item (kind : RegionKind) :
    opens kind.tagNames itemName = none ∧ opens kind.tagNames ('/' :: itemName) = none := by
  cases kind <;> decide

/-- No region of another kind begins up to the end of the closed one. -/
theorem search_other {other : RegionKind} (hother : kind ≠ other) (hopened : opened ∈ kind.tagNames)
    (hgap : Gap gap) (h : ClosedRegion kind name content made) :
    Text.search (opening? other.tagNames) (openedText opened gap name content) = none := by
  have hp := readsTags_opening other.tagNames_no_bracket
  obtain ⟨hitem, hitemClose⟩ := other.not_opens_item
  refine hp.search_append_eq_none (.tag opened) ?_ ?_
  · exact (hp.search_tag_eq_none (sound_openedTag hopened)).mpr
      (opens_of_mem (RegionKind.namesApart hother) hopened)
  · refine hp.search_append_eq_none hgap.complete (hgap.noRegion other) ?_
    exact h.holdsItems.search_enclosed h.name_mem hp
      (opens_of_mem (RegionKind.namesApart hother) h.name_mem)
      (opens_slash other.tagNames_no_slash name) hitem hitemClose

/-- What is found for a kind that opens nowhere in a text begins behind the text. -/
theorem RegionKind.le_start_of_none {kind : RegionKind} {front cs : List Char}
    (hfront : Complete front) (hnone : Text.search (opening? kind.tagNames) front = none)
    {region : Region} (h : (kind.find 0 (front ++ cs)).region = some region) :
    front.length ≤ region.start := by
  obtain ⟨tag, before, rest, inner, length, hcs, hopening, -, rfl⟩ := RegionKind.find_eq_some h
  show front.length ≤ before.length
  by_contra hlt
  obtain ⟨tail, rfl, rfl⟩ | ⟨tail, rfl, rfl⟩ := List.append_eq_append_iff.mp hcs
  · exact hlt (by simp)
  · have hne : tail ≠ [] := by
      rintro rfl
      exact hlt (by simp)
    have hsuffix : tail <:+ before ++ tail := List.suffix_append before tail
    have htail := search_eq_none.mp hnone tail hsuffix
    rw [((readsTags_opening kind.tagNames_no_bracket).append_eq_none
      (hfront.of_suffix hsuffix) hne cs).mpr htail] at hopening
    exact absurd hopening (by simp)

/-- A region that is not closed is not found, and hides those of its kind. -/
theorem find_opened (hopened : opened ∈ kind.tagNames) (hkind : kind ≠ .image) {behind : List Char}
    (hunclosed : upToClosing? caseFree opened behind = none) :
    (kind.find 0 ((Token.tag opened).write ++ behind)).region = none := by
  obtain ⟨⟨-, -, hbracket⟩, hopens, hlower, -⟩ := kind.tagNames_written opened hopened
  have hopening : opening? kind.tagNames ((Token.tag opened).write ++ behind)
      = some ⟨opened, [], behind⟩ := by
    rw [opening?_tag kind.tagNames_no_bracket hbracket, hopens]
    rfl
  have hnone : upToOwnClosing? ⟨opened, [], behind⟩ behind = none := by
    rw [upToOwnClosing?, hlower, hunclosed]
  unfold RegionKind.find
  rw [search_of_some hopening]
  cases kind <;> simp only [ne_eq, not_true_eq_false] at hkind
  all_goals simp only [hnone]

/-- Where reading begins with an open tag, the next region that is found stands behind the
closed one of its kind. -/
theorem le_nextRegion (hopened : opened ∈ kind.tagNames) (hgap : Gap gap)
    (h : ClosedRegion kind name content made) {behind : List Char}
    (hunclosed : upToClosing? caseFree opened
      (gap ++ enclosed name content ('/' :: name) ++ behind) = none) {region : Region}
    (hnext : nextRegion (openedText opened gap name content ++ behind) = some region) :
    (openedText opened gap name content).length ≤ region.start := by
  obtain ⟨other, -, hfound⟩ := List.mem_filterMap.mp (earliest_mem hnext)
  by_cases hother : kind = other
  · subst hother
    rw [openedText, List.append_assoc, find_opened hopened h.not_image hunclosed] at hfound
    exact absurd hfound (by simp)
  · exact RegionKind.le_start_of_none (allShown_opened hopened hgap h).complete
      (search_other hother hopened hgap h) hfound

/-- Reading begins with text, which may go on behind the closed region. -/
theorem ReadsAs.begins_opened (hopened : opened ∈ kind.tagNames) (hgap : Gap gap)
    (h : ClosedRegion kind name content made) {behind : List Char}
    (hunclosed : upToClosing? caseFree opened
      (gap ++ enclosed name content ('/' :: name) ++ behind) = none) {nodes : List Node}
    {length : Nat} (hread : ReadsAs (openedText opened gap name content ++ behind)
      (nextRegion (openedText opened gap name content ++ behind)) nodes length) :
    ∃ limit, (openedText opened gap name content).length ≤ limit ∧
      length = plainLength limit (openedText opened gap name content ++ behind) ∧
      paragraphNodes ((openedText opened gap name content ++ behind).take length) = .ok nodes := by
  have hnone : ∀ {others}, NamesApart kind.tagNames others → (∀ n ∈ others, '>' ∉ n) →
      opening? others (openedText opened gap name content ++ behind) = none := by
    intro others hothers hbrackets
    rw [openedText, List.append_assoc,
      opening?_tag hbrackets (sound_openedTag hopened).2.2,
      opens_of_mem hothers hopened]
    rfl
  have hpos : 0 < (openedText opened gap name content).length := by
    simp [openedText, Token.write]
  have hbreak : opening? [breakName] (openedText opened gap name content ++ behind) = none :=
    hnone (kind.namesApart_stopNames.of_subset (by decide)) (by decide)
  have hwrapper : opening? wrapperNames (openedText opened gap name content ++ behind) = none :=
    hnone (kind.namesApart_stopNames.of_subset (by decide)) (by decide)
  obtain ⟨region, hnext, hstart, -⟩ | ⟨-, hlength, hnodes⟩ := hread.of_not_opening hbreak hwrapper
  · have hle := le_nextRegion hopened hgap h hunclosed hnext
    omega
  · refine ⟨_, ?_, hlength, hnodes⟩
    cases hnext : nextRegion (openedText opened gap name content ++ behind) with
    | none =>
        rw [distance, List.length_append]
        exact Nat.le_add_right _ _
    | some region => exact le_nextRegion hopened hgap h hunclosed hnext

/-- What is looked for in text that begins with an open tag. -/
theorem openedText_cons (opened gap name content : List Char) :
    openedText opened gap name content
      = '<' :: (opened ++ ['>'] ++ (gap ++ enclosed name content ('/' :: name))) := by
  simp [openedText, Token.write]

theorem no_bracket_behind (hopened : opened ∈ kind.tagNames) : '<' ∉ opened ++ ['>'] := by
  simpa using (sound_openedTag hopened).2.1

theorem complete_behind (hopened : opened ∈ kind.tagNames) (hgap : Gap gap)
    (h : ClosedRegion kind name content made) :
    Complete (opened ++ ['>'] ++ (gap ++ enclosed name content ('/' :: name))) :=
  (Complete.plain (no_bracket_behind hopened)).append
    (hgap.complete.append (h.holdsItems.complete_enclosed name))

/-- No stop is found in what is left of the open tag. -/
theorem search_stop_behind (hopened : opened ∈ kind.tagNames) (cs : List Char) :
    Text.search (tagName? stopNames) (opened ++ ['>'] ++ cs)
      = (Text.search (tagName? stopNames) cs).map fun (before, name) =>
        (opened ++ ['>'] ++ before, name) :=
  readsTags_stop.search_behind (.plain (no_bracket_behind hopened))
    (readsTags_stop.onlyAtTags.search_plain (no_bracket_behind hopened)) cs

/-- Text that begins with an open tag ends where a stop begins in the gap behind it. -/
theorem search_stop (hopened : opened ∈ kind.tagNames) (hgap : Gap gap)
    (name content : List Char) {before : List Char} {stop : List Char × List Char}
    (hstop : Text.search (tagName? stopNames) gap = some (before, stop)) :
    ∃ other, Text.search (tagName? stopNames)
        (opened ++ ['>'] ++ (gap ++ enclosed name content ('/' :: name)))
      = some (opened ++ ['>'] ++ before, other) := by
  obtain ⟨other, hother⟩ := readsTags_stop.search_within hgap.complete hstop
    (enclosed name content ('/' :: name))
  refine ⟨other, ?_⟩
  rw [search_stop_behind hopened, hother]
  rfl

/-- If none does, it goes on over the closed region. -/
theorem search_no_stop (hopened : opened ∈ kind.tagNames) (hgap : Gap gap)
    (h : ClosedRegion kind name content made)
    (hstop : Text.search (tagName? stopNames) gap = none) :
    Text.search (tagName? stopNames)
      (opened ++ ['>'] ++ (gap ++ enclosed name content ('/' :: name))) = none := by
  have hregion : Text.search (tagName? stopNames) (enclosed name content ('/' :: name)) = none :=
    h.holdsItems.search_enclosed h.name_mem readsTags_stop
      (opens_of_mem kind.namesApart_stopNames h.name_mem) (opens_slash (by decide) name)
      (by decide) (by decide)
  rw [search_stop_behind hopened,
    readsTags_stop.search_append_eq_none hgap.complete hstop hregion]
  rfl

/-- The first step over an open tag makes paragraphs of a text that begins with it. -/
theorem ReadsTo.begins_opened (hopened : opened ∈ kind.tagNames) (hgap : Gap gap)
    (h : ClosedRegion kind name content made) {behind : List Char}
    (hunclosed : upToClosing? caseFree opened
      (gap ++ enclosed name content ('/' :: name) ++ behind) = none) {nodes : List Node}
    (hread : ReadsTo (openedText opened gap name content ++ behind) nodes) :
    ∃ limit texts after, (openedText opened gap name content).length ≤ limit ∧
      nodes = texts ++ after ∧
      paragraphNodes ((openedText opened gap name content ++ behind).take
        (plainLength limit (openedText opened gap name content ++ behind))) = .ok texts ∧
      ReadsTo (((openedText opened gap name content ++ behind).drop
        (plainLength limit (openedText opened gap name content ++ behind))).dropWhile isBlank)
        after := by
  revert hread
  generalize hcs : openedText opened gap name content ++ behind = cs
  intro hread
  cases hread with
  | done => exact absurd hcs (by simp [openedText, Token.write])
  | @step _ texts after length _ hfront hmore =>
      subst hcs
      obtain ⟨limit, hlimit, rfl, htexts⟩ := hfront.begins_opened hopened hgap h hunclosed
      exact ⟨limit, texts, after, hlimit, rfl, htexts, hmore⟩

/-- A stop in the gap ends the text; the gap is read on from there, and the closed region
behind it is found. -/
theorem ReadsTo.opened_stop (hopened : opened ∈ kind.tagNames) (hgap : Gap gap)
    (h : ClosedRegion kind name content made) {behind : List Char}
    (hunclosed : upToClosing? caseFree opened
      (gap ++ enclosed name content ('/' :: name) ++ behind) = none) {nodes : List Node}
    (hread : ReadsTo (openedText opened gap name content ++ behind) nodes)
    (hstop : (Text.search (tagName? stopNames) gap).isSome) :
    ∃ before after, nodes = before ++ made ++ after ∧ (∀ node ∈ before, node.IsParagraph) ∧
      ReadsTo (behind.dropWhile isBlank) after := by
  obtain ⟨⟨front, stop⟩, hfound⟩ := Option.isSome_iff_exists.mp hstop
  obtain ⟨limit, texts, more, hlimit, rfl, htexts, hmore⟩ :=
    hread.begins_opened hopened hgap h hunclosed
  obtain ⟨other, hother⟩ := search_stop hopened hgap name content hfound
  obtain ⟨tail, rfl, htail⟩ := search_eq_some hfound
  -- The text ends where the stop begins, which is not blank.
  have hlength : plainLength limit (openedText opened (front ++ tail) name content ++ behind)
      = ('<' :: (opened ++ ['>'] ++ front)).length := by
    rw [openedText_cons] at hlimit ⊢
    exact plainLength_found (complete_behind hopened hgap h) hother hlimit
  have hsplit : openedText opened (front ++ tail) name content ++ behind
      = ('<' :: (opened ++ ['>'] ++ front))
        ++ (tail ++ (enclosed name content ('/' :: name) ++ behind)) := by
    simp [openedText, Token.write]
  have hhead : (tail ++ (enclosed name content ('/' :: name) ++ behind)).dropWhile isBlank
      = tail ++ (enclosed name content ('/' :: name) ++ behind) := by
    cases tail with
    | nil => exact absurd htail (by simp [tagName?])
    | cons c tail =>
        have hc : c = '<' := by
          by_contra hc
          rw [readsTags_stop.onlyAtTags (c :: tail) (by simpa using hc)] at htail
          exact absurd htail (by simp)
        subst hc
        exact List.dropWhile_cons_of_neg (by decide)
  rw [hlength, hsplit, List.drop_left, hhead] at hmore
  have hregion : (enclosed name content ('/' :: name) ++ behind).dropWhile isBlank
      = enclosed name content ('/' :: name) ++ behind := enclosed_begins name content _ behind
  obtain ⟨before, more, rfl, hbefore, hrest⟩ := hmore.through_gap
    (hgap.of_suffix (List.suffix_append front tail)) (h.encloses.distance behind) hregion
  obtain ⟨nodes, after, rfl, hnodes, hafter⟩ := h.encloses.readsTo hrest
  obtain rfl : made = nodes := Except.ok.inj (h.nodes.symm.trans hnodes)
  refine ⟨texts ++ before, after, by simp, ?_, hafter⟩
  intro node hnode
  rcases List.mem_append.mp hnode with hnode | hnode
  · exact isParagraph_of_paragraphNodes htexts node hnode
  · exact hbefore node hnode

/-- Without a stop the text goes on over the closed region. -/
theorem ReadsTo.opened_on (hopened : opened ∈ kind.tagNames) (hgap : Gap gap)
    (h : ClosedRegion kind name content made) {behind : List Char}
    (hunclosed : upToClosing? caseFree opened
      (gap ++ enclosed name content ('/' :: name) ++ behind) = none) {nodes : List Node}
    (hread : ReadsTo (openedText opened gap name content ++ behind) nodes)
    (hstop : Text.search (tagName? stopNames) gap = none) :
    ∃ more rest texts after, behind = more ++ rest ∧
      paragraphNodes (openedText opened gap name content ++ more) = .ok texts ∧
      nodes = texts ++ after ∧ ReadsTo (rest.dropWhile isBlank) after := by
  obtain ⟨limit, texts, after, hlimit, rfl, htexts, hmore⟩ :=
    hread.begins_opened hopened hgap h hunclosed
  have hle : (openedText opened gap name content).length
      ≤ plainLength limit (openedText opened gap name content ++ behind) := by
    rw [openedText_cons] at hlimit ⊢
    exact le_plainLength behind (complete_behind hopened hgap h)
      (search_no_stop hopened hgap h hstop) hlimit
  obtain ⟨n, hn⟩ := Nat.exists_eq_add_of_le hle
  rw [hn, List.take_length_add_append] at htexts
  rw [hn, List.drop_length_add_append] at hmore
  exact ⟨behind.take n, behind.drop n, texts, after, (List.take_append_drop n behind).symm,
    htexts, rfl, hmore⟩

/--
**Whether an open region hides a closed one of its kind is told by what stands between
them.**  A page begins with the opening tag of a heading or a list that is not closed in it;
behind that stand a gap, a closed heading or list, and anything.  If the page is read to its
end, a wrapper or a line break that begins in the gap lets the closed region be found: it
becomes the nodes it stands for, behind paragraphs and in front of what the rest becomes
as a page of its own.  If there is none, it makes no nodes: it is part of the text that
begins with the open tag, which becomes paragraphs, and what stands behind the text is
read next.
-/
theorem convert_opened (hopened : opened ∈ kind.tagNames) (hgap : Gap gap)
    (h : ClosedRegion kind name content made) {rest : List Char}
    (hunclosed : upToClosing? caseFree opened
      (readText (openedText opened gap name content ++ rest)) = none)
    {cap : Cap} (hcap : cap.Suffices (openedText opened gap name content ++ rest))
    {nodes : List Node}
    (hnodes : (convert cap (openedText opened gap name content ++ rest)).run.value
      = .ok ⟨nodes, false⟩) :
    ((Text.search (tagName? stopNames) gap).isSome →
      ∃ before after, nodes = before ++ made ++ after ∧ (∀ node ∈ before, node.IsParagraph) ∧
        ReadsTo (readText rest) after) ∧
    (Text.search (tagName? stopNames) gap = none →
      ∃ more behind texts after,
        readText (openedText opened gap name content ++ rest)
          = openedText opened gap name content ++ more ++ behind ∧
        paragraphNodes (openedText opened gap name content ++ more) = .ok texts ∧
        nodes = texts ++ after ∧ ReadsTo (behind.dropWhile isBlank) after) := by
  have htext : readText (openedText opened gap name content ++ rest)
      = openedText opened gap name content ++ (visible rest).rdropWhile isBlank := by
    refine readText_append (by simp [openedText, Token.write])
      (allShown_opened hopened hgap h) ?_ ?_ rest
    · exact List.dropWhile_cons_of_neg (by decide)
    · rw [openedText, ← List.append_assoc, rdropWhile_append, enclosed_ends]
      simp [enclosed, Token.write]
  have hread := readsTo_of_convert hcap hnodes
  rw [htext] at hread hunclosed ⊢
  have hbehind : upToClosing? caseFree opened
      (gap ++ enclosed name content ('/' :: name) ++ (visible rest).rdropWhile isBlank) = none := by
    refine search_eq_none.mpr fun tail htail => search_eq_none.mp hunclosed tail ?_
    refine htail.trans ⟨(Token.tag opened).write, ?_⟩
    rw [openedText, List.append_assoc (Token.tag opened).write]
  constructor
  · intro hstop
    obtain ⟨before, after, heq, hbefore, hafter⟩ := hread.opened_stop hopened hgap h hbehind hstop
    rw [dropWhile_rdropWhile] at hafter
    exact ⟨before, after, heq, hbefore, hafter⟩
  · intro hstop
    obtain ⟨more, behind, texts, after, heq, htexts, hmade, hafter⟩ :=
      hread.opened_on hopened hgap h hbehind hstop
    exact ⟨more, behind, texts, after, by rw [heq, List.append_assoc], htexts, hmade, hafter⟩

end Opened

/-- A text with a paragraph, to stand between an open heading and a closed one. -/
def wrappedGap : List Char :=
  writeTokens ("open".toList.map .char ++ [.tag ['p'], .char 'x', .tag ['/', 'p']])

theorem gap_wrappedGap : Gap wrappedGap where
  complete := .writeTokens _
  noComment := rfl
  noHidden := rfl
  noRegion kind := by cases kind <;> rfl

theorem wrappedGap_shows :
    openedText ['h', '2'] wrappedGap ['h', '1'] "Closed".toList ++ []
        = "<h2>open<p>x</p><h1>Closed</h1>".toList ∧
      ∃ before after, [.paragraph "open" false, .paragraph "x" false, .heading "Closed" 1]
          = before ++ [.heading "Closed" 1] ++ after ∧
        (∀ node ∈ before, node.IsParagraph) ∧ ReadsTo [] after := by
  have hpage : openedText ['h', '2'] wrappedGap ['h', '1'] "Closed".toList ++ []
      = "<h2>open<p>x</p><h1>Closed</h1>".toList := by rfl
  have hclosed : ClosedRegion .heading ['h', '1'] "Closed".toList [.heading "Closed" 1] :=
    .heading (by decide) (by decide)
  have hcap : Cap.standard.Suffices "<h2>open<p>x</p><h1>Closed</h1>".toList :=
    Cap.suffices_of_allows (Cap.allows_standard (by decide +kernel))
  have hconvert : (convert Cap.standard "<h2>open<p>x</p><h1>Closed</h1>".toList).run.value
      = .ok ⟨[.paragraph "open" false, .paragraph "x" false, .heading "Closed" 1], false⟩ := by rfl
  have hunclosed : upToClosing? caseFree ['h', '2']
      (readText "<h2>open<p>x</p><h1>Closed</h1>".toList) = none := by rfl
  rw [← hpage] at hcap hconvert hunclosed
  have hopened : ['h', '2'] ∈ RegionKind.heading.tagNames := by decide
  have hstop : (Text.search (tagName? stopNames) wrappedGap).isSome := by rfl
  obtain ⟨before, after, hnodes, hbefore, hafter⟩ :=
    (convert_opened hopened gap_wrappedGap hclosed hunclosed hcap hconvert).1 hstop
  exact ⟨hpage, before, after, hnodes, hbefore, hafter⟩

/-- Without a wrapper or a line break between them, an open heading hides a closed one. -/
theorem closedHeading_hidden :
    Cap.standard.Suffices "<h1>a<h2>b</h2>".toList ∧
      (convert Cap.standard "<h1>a<h2>b</h2>".toList).run.value
        = .ok ⟨[.paragraph "ab" false], false⟩ ∧
      ∀ nodes, (convert Cap.standard "<h1>a<h2>b</h2>".toList).run.value = .ok ⟨nodes, false⟩ →
        Node.heading "b" 2 ∉ nodes := by
  have hcap : Cap.standard.Suffices "<h1>a<h2>b</h2>".toList :=
    Cap.suffices_of_allows (Cap.allows_standard (by decide +kernel))
  have hconvert : (convert Cap.standard "<h1>a<h2>b</h2>".toList).run.value
      = .ok ⟨[.paragraph "ab" false], false⟩ := by rfl
  refine ⟨hcap, hconvert, fun nodes hnodes => ?_⟩
  rw [hconvert] at hnodes
  rw [← (Conversion.mk.inj (Except.ok.inj hnodes)).1]
  decide

end Paperwork
