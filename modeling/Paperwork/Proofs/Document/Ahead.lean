/-
Reading up to a region that lies ahead.

Where a text of complete tags begins no region and hides nothing, it is a gap: whatever
the steps take of it, a wrapper, a line break or text, they make paragraphs of it, and
none of them reaches past its end if a region begins there.  So a gap is read for
itself, and the region behind it is read as a whole.
-/
import Paperwork.Proofs.Document.Advance
import Paperwork.Proofs.Html.Names
import Paperwork.Proofs.Html.Complete

namespace Paperwork

open Paperwork.Text
open Paperwork.Html

/-! ### Gaps -/

/-- A text of complete tags in which nothing is hidden and no region begins. -/
structure Gap (cs : List Char) : Prop extends AllShown cs where
  noRegion : ∀ kind : RegionKind, search (opening? kind.tagNames) cs = none

theorem Gap.of_suffix {a b : List Char} (h : a <:+ b) (hb : Gap b) : Gap a where
  complete := hb.complete.of_suffix h
  noComment := search_eq_none.mpr fun tail htail =>
    search_eq_none.mp hb.noComment tail (htail.trans h)
  noHidden := search_eq_none.mpr fun tail htail =>
    search_eq_none.mp hb.noHidden tail (htail.trans h)
  noRegion kind := search_eq_none.mpr fun tail htail =>
    search_eq_none.mp (hb.noRegion kind) tail (htail.trans h)

/-- Behind a text in which no region begins the same regions are found. -/
theorem nextRegion_gap {front : List Char} (hcomplete : Complete front)
    (hnone : ∀ kind : RegionKind, search (opening? kind.tagNames) front = none) (cs : List Char) :
    nextRegion (front ++ cs) = (nextRegion cs).map (Region.shifted front.length) := by
  have hfind : ∀ kind : RegionKind, (kind.find 0 (front ++ cs)).region
      = (kind.find 0 cs).region.map (Region.shifted front.length) := by
    intro kind
    have hvalid : front.length ≤ (kind.find 0 (front ++ cs)).validTo := by
      have hsearch := (readsTags_opening kind.tagNames_no_bracket).search_behind hcomplete
        (hnone kind) cs
      unfold RegionKind.find
      rw [hsearch]
      cases search (opening? kind.tagNames) cs with
      | none => simp
      | some found =>
          cases kind <;> simp only [Option.map_some]
          case image => simp
          all_goals cases upToOwnClosing? found.2 found.2.rest <;> simp
    have hlater : kind.find front.length ((front ++ cs).drop front.length)
        = kind.find 0 ((front ++ cs).drop 0) :=
      kind.find_later (Nat.zero_le front.length) (by simpa using hvalid)
    rw [List.drop_left, List.drop_zero] at hlater
    rw [← hlater, kind.find_eq_shifted]
    rfl
  rw [nextRegion, nextRegion, ← earliest_shifted, List.map_filterMap]
  simp only [hfind]

theorem distance_gap {front : List Char} (hcomplete : Complete front)
    (hnone : ∀ kind : RegionKind, search (opening? kind.tagNames) front = none) (cs : List Char) :
    distance (front ++ cs) (nextRegion (front ++ cs))
      = front.length + distance cs (nextRegion cs) := by
  rw [nextRegion_gap hcomplete hnone]
  cases nextRegion cs with
  | none => exact List.length_append
  | some region => rfl

/-! ### Paragraphs -/

/-- A node is a paragraph. -/
def Node.IsParagraph : Node → Prop
  | .paragraph _ _ => True
  | _ => False

theorem isParagraph_of_paragraphNodes {cs : List Char} {nodes : List Node}
    (h : paragraphNodes cs = .ok nodes) : ∀ node ∈ nodes, node.IsParagraph := by
  obtain ⟨texts, -, hnodes⟩ := bind_eq_ok.mp h
  rw [← Except.ok.inj hnodes]
  intro node hnode
  obtain ⟨text, -, rfl⟩ := List.mem_map.mp hnode
  trivial

theorem isParagraph_of_wrapperNode {tag : Opening} {inner : List Char} {node : Node}
    (h : wrapperNode tag inner = .ok node) : node.IsParagraph := by
  obtain ⟨text, -, hnode⟩ := bind_eq_ok.mp h
  rw [← Except.ok.inj hnode]
  trivial

/-- A step that begins before the next region makes paragraphs and does not reach into
that region, as the tags in front of it are complete. -/
theorem ReadsAs.before_region {front rest : List Char} {next : Option Region}
    {nodes : List Node} {length : Nat} (hfront : Complete front) (hne : front ≠ [])
    (hdistance : distance (front ++ rest) next = front.length)
    (h : ReadsAs (front ++ rest) next nodes length) :
    length ≤ front.length ∧ ∀ node ∈ nodes, node.IsParagraph := by
  have hpos : 0 < front.length := List.length_pos_iff.mpr hne
  cases h with
  | lineBreak hopening =>
      exact ⟨hfront.length_of_opening (by decide) hne hopening, by simp [Node.IsParagraph]⟩
  | dropped hopening =>
      exact ⟨hfront.length_of_opening (by decide) hne hopening, by simp⟩
  | @wrapped tag inner closing node hopening hclosing hnode =>
      have hlength := hfront.length_of_opening (by decide) hne hopening
      have hle := upToClosing?_le hclosing
      rw [hdistance, List.length_take] at hle
      refine ⟨by omega, ?_⟩
      simpa using isParagraph_of_wrapperNode hnode
  | region hnext hstart hnodes =>
      rw [hnext, distance] at hdistance
      omega
  | plain hahead hnodes =>
      rw [hdistance] at hnodes ⊢
      exact ⟨(plainLength_bounds hpos _).2, isParagraph_of_paragraphNodes hnodes⟩

/-- Where neither a line break nor a wrapper opens, a step reads the next region or text. -/
theorem ReadsAs.of_not_opening {cs : List Char} {next : Option Region} {nodes : List Node}
    {length : Nat} (h : ReadsAs cs next nodes length) (hbreak : opening? [breakName] cs = none)
    (hwrapper : opening? wrapperNames cs = none) :
    (∃ region, next = some region ∧ region.start = 0 ∧ region.nodes.answer = .ok nodes ∧
        length = region.stop) ∨
      (∀ region, next = some region → 0 < region.start) ∧
        length = plainLength (distance cs next) cs ∧
        paragraphNodes (cs.take length) = .ok nodes := by
  cases h with
  | lineBreak hopening => exact absurd (hbreak.symm.trans hopening) (by simp)
  | dropped hopening => exact absurd (hwrapper.symm.trans hopening) (by simp)
  | wrapped hopening _ _ => exact absurd (hwrapper.symm.trans hopening) (by simp)
  | region hnext hstart hnodes => exact .inl ⟨_, hnext, hstart, hnodes, rfl⟩
  | plain hahead hnodes => exact .inr ⟨hahead, rfl, hnodes⟩

/-! ### Reading to the end -/

/-- The nodes that a text becomes when it is read to its end. -/
inductive ReadsTo : List Char → List Node → Prop
  | done : ReadsTo [] []
  | step {cs : List Char} {nodes more : List Node} {length : Nat} (hcs : cs ≠ [])
      (hfront : ReadsAs cs (nextRegion cs) nodes length)
      (hrest : ReadsTo ((cs.drop length).dropWhile isBlank) more) : ReadsTo cs (nodes ++ more)

theorem ReadsTo.of_nil {nodes : List Node} (h : ReadsTo [] nodes) : nodes = [] := by
  cases h with
  | done => rfl
  | step hcs _ _ => exact absurd rfl hcs

/-- Blanks in front of a text that begins with none are dropped by themselves. -/
theorem dropWhile_append_front {α : Type} {p : α → Bool} (front : List α) {rest : List α}
    (h : rest.dropWhile p = rest) : (front ++ rest).dropWhile p = front.dropWhile p ++ rest := by
  rw [List.dropWhile_append]
  by_cases hempty : (front.dropWhile p).isEmpty = true
  · rw [if_pos hempty, h, List.isEmpty_iff.mp hempty, List.nil_append]
  · rw [if_neg hempty]

/-- So are blanks behind a text that ends with none. -/
theorem rdropWhile_append_back {α : Type} {p : α → Bool} {front : List α}
    (h : front.rdropWhile p = front) (back : List α) :
    (front ++ back).rdropWhile p = front ++ back.rdropWhile p := by
  have hfront : front.reverse.dropWhile p = front.reverse := by
    conv_rhs => rw [← h]
    rw [List.rdropWhile, List.reverse_reverse]
  rw [List.rdropWhile, List.reverse_append, dropWhile_append_front _ hfront, List.reverse_append,
    List.reverse_reverse]
  rfl

theorem drop_takeWhile_length {α : Type} (p : α → Bool) (cs : List α) :
    cs.drop (cs.takeWhile p).length = cs.dropWhile p := by
  have hbehind := @List.drop_left _ (cs.takeWhile p) (cs.dropWhile p)
  rwa [List.takeWhile_append_dropWhile] at hbehind

/-- **A gap is read for itself**, if a region begins behind it or nothing is left there:
it becomes paragraphs, and then what stands behind it is read. -/
theorem ReadsTo.through_gap {front rest : List Char} {nodes : List Node} (hfront : Gap front)
    (hrest : distance rest (nextRegion rest) = 0) (hblank : rest.dropWhile isBlank = rest)
    (h : ReadsTo (front ++ rest) nodes) :
    ∃ before after, nodes = before ++ after ∧ (∀ node ∈ before, node.IsParagraph) ∧
      ReadsTo rest after := by
  induction hn : front.length using Nat.strong_induction_on generalizing front nodes with
  | _ n ih =>
      subst hn
      by_cases hne : front = []
      · subst hne
        exact ⟨[], nodes, rfl, by simp, h⟩
      · revert h
        generalize hcs : front ++ rest = cs
        intro h
        cases h with
        | done => exact absurd (List.append_eq_nil_iff.mp hcs).1 hne
        | @step _ made more length hnil hread hmore =>
            subst hcs
            obtain ⟨hpos, -⟩ := hread.reads hnil
            have hdistance := distance_gap hfront.complete hfront.noRegion rest
            rw [hrest, Nat.add_zero] at hdistance
            obtain ⟨hle, hmade⟩ := hread.before_region hfront.complete hne hdistance
            -- What is left of the gap is a shorter one, and the blanks that are passed
            -- end where the region begins.
            rw [List.drop_append_of_le_length hle, dropWhile_append_front _ hblank] at hmore
            have hsuffix : (front.drop length).dropWhile isBlank <:+ front :=
              (List.dropWhile_suffix isBlank).trans (List.drop_suffix length front)
            have hlt : ((front.drop length).dropWhile isBlank).length < front.length := by
              have hdropped := (List.dropWhile_suffix isBlank (l := front.drop length)).length_le
              rw [List.length_drop] at hdropped
              omega
            obtain ⟨before, after, rfl, hbefore, hafter⟩ :=
              ih _ hlt (hfront.of_suffix hsuffix) hmore rfl
            refine ⟨made ++ before, after, (List.append_assoc made before after).symm, ?_, hafter⟩
            intro node hnode
            rcases List.mem_append.mp hnode with hnode | hnode
            · exact hmade node hnode
            · exact hbefore node hnode

/-- A gap alone becomes paragraphs. -/
theorem ReadsTo.of_gap {cs : List Char} {nodes : List Node} (hcs : Gap cs)
    (h : ReadsTo cs nodes) : ∀ node ∈ nodes, node.IsParagraph := by
  rw [← List.append_nil cs] at h
  obtain ⟨before, after, rfl, hbefore, hafter⟩ := h.through_gap hcs rfl rfl
  rwa [hafter.of_nil, List.append_nil]

/-! ### Closed regions -/

theorem enclosed_begins (inner content close rest : List Char) :
    (enclosed inner content close ++ rest).dropWhile isBlank
      = enclosed inner content close ++ rest :=
  List.dropWhile_cons_of_neg (by decide)

theorem enclosed_ends (inner content close : List Char) :
    (enclosed inner content close).rdropWhile isBlank = enclosed inner content close := by
  rw [show enclosed inner content close
      = ((Token.tag inner).write ++ (content ++ '<' :: close)) ++ ['>'] by
    simp [enclosed, Token.write]]
  exact List.rdropWhile_concat_neg _ _ _ (by decide)

/-- Blanks behind a text that is shown are trimmed, if it does not begin or end with any. -/
theorem readText_append {front : List Char} (hne : front ≠ []) (hshown : AllShown front)
    (hbegins : front.dropWhile isBlank = front) (hends : front.rdropWhile isBlank = front)
    (cs : List Char) : readText (front ++ cs) = front ++ (visible cs).rdropWhile isBlank := by
  rw [readText, hshown.visible_append]
  show ((front ++ visible cs).dropWhile isBlank).rdropWhile isBlank = _
  rw [List.dropWhile_append, hbegins, if_neg (by simpa using hne), rdropWhile_append_back hends]

/-- Of a text that is long enough, as many steps may be taken as a cap allows. -/
theorem scanPage_of_allows {cap : Cap} {n : Nat} (hcap : cap.Allows n) {page : List Char}
    (hn : n ≤ (readText page).length) :
    ∃ limit steps, n ≤ steps ∧ scanPage cap page = scanAnew limit steps (readText page) := by
  cases cap with
  | atMost steps =>
      have hle : (n : Int) ≤ steps := hcap
      exact ⟨steps, steps.toNat, by omega, scan_none_eq_scanAnew _ _ _⟩
  | unlimited => exact ⟨_, _, hn, scan_none_eq_scanAnew _ _ _⟩
  | unusable => exact absurd hcap id

/-- What is shown of a text that neither begins nor ends with blanks is all of it. -/
theorem Html.AllShown.readText_eq {cs : List Char} (h : AllShown cs) (hne : cs ≠ [])
    (hbegins : cs.dropWhile isBlank = cs) (hends : cs.rdropWhile isBlank = cs) :
    readText cs = cs := by
  have hread := readText_append hne h hbegins hends []
  rwa [List.append_nil, show visible [] = [] from rfl, List.rdropWhile_nil,
    List.append_nil] at hread

theorem Html.AllShown.readText_enclosed {inner content close : List Char}
    (h : AllShown (enclosed inner content close)) :
    readText (enclosed inner content close) = enclosed inner content close := by
  have hbegins := enclosed_begins inner content close []
  rw [List.append_nil] at hbegins
  exact h.readText_eq (by simp [enclosed, Token.write]) hbegins (enclosed_ends inner content close)

/-- If a cap allows a step at all, a page is scanned by a first step and more. -/
theorem scanPage_of_allows_one {cap : Cap} (hcap : cap.Allows 1) {page : List Char}
    (hne : readText page ≠ []) :
    ∃ limit steps, scanPage cap page = scanAnew limit (steps + 1) (readText page) := by
  obtain ⟨limit, steps, hsteps, hscan⟩ :=
    scanPage_of_allows hcap (List.length_pos_iff.mpr hne)
  obtain ⟨steps, rfl⟩ := Nat.exists_eq_add_of_le' hsteps
  exact ⟨limit, steps, hscan⟩

/-- A page of which the first step leaves nothing is read in one step. -/
theorem convert_of_readFront {page : List Char} (hne : page ≠ []) (htext : readText page = page)
    {nodes : List Node}
    (hfront : (readFront 0 page (nextRegion page)).answer = .ok (nodes, page.length)) {cap : Cap}
    (hcap : cap.Allows 1) : (convert cap page).run.value = .ok ⟨nodes, false⟩ := by
  have hpos : 0 < page.length := List.length_pos_iff.mpr hne
  obtain ⟨limit, steps, hscan⟩ := scanPage_of_allows_one hcap (htext.symm ▸ hne)
  refine convert_of_scanned ?_
  rw [hscan, htext]
  show (scanAnew limit (steps + 1) page).answer = _
  rw [scanAnew]
  · simp only [Reading.answer_bind, hfront, ok_bind, passed_of_pos hpos, Reading.answer_pure,
      ← List.drop_drop, drop_takeWhile_length, List.drop_length, List.dropWhile_nil]
    cases steps <;> simp [scanAnew]
  · exact hne

/-- What the first step makes of a page, its nodes begin with. -/
theorem readFront_of_convert {page : List Char} (hne : page ≠ []) (htext : readText page = page)
    {nodes : List Node} {cap : Cap} (hcap : cap.Allows 1)
    (h : (convert cap page).run.value = .ok ⟨nodes, false⟩) :
    ∃ made length, (readFront 0 page (nextRegion page)).answer = .ok (made, length) ∧
      made <+: nodes := by
  obtain ⟨limit, steps, hscan⟩ := scanPage_of_allows_one hcap (htext.symm ▸ hne)
  have hscanned := scanned_of_convert h
  rw [hscan, htext] at hscanned
  change (scanAnew limit (steps + 1) page).answer = _ at hscanned
  rw [scanAnew, Reading.answer_bind] at hscanned
  · obtain ⟨⟨made, length⟩, hfront, hrest⟩ := bind_eq_ok.mp hscanned
    rw [Reading.answer_bind] at hrest
    obtain ⟨_, -, hrest⟩ := bind_eq_ok.mp hrest
    rw [Reading.answer_bind] at hrest
    obtain ⟨more, -, hnodes⟩ := bind_eq_ok.mp hrest
    exact ⟨made, length, hfront, more, Except.ok.inj hnodes⟩
  · exact hne

/-- The tags that open the regions of one kind open nothing else. -/
theorem RegionKind.namesApart {kind other : RegionKind} (h : kind ≠ other) :
    NamesApart kind.tagNames other.tagNames := by
  revert h
  cases kind <;> cases other <;> intro h <;> first | exact absurd rfl h | decide

theorem RegionKind.namesApart_stopNames (kind : RegionKind) :
    NamesApart kind.tagNames stopNames := by
  cases kind <;> decide

/-- The tags of regions, in small letters and without attributes. -/
theorem RegionKind.tagNames_written (kind : RegionKind) : ∀ name ∈ kind.tagNames,
    (Token.tag name).Sound ∧ opens kind.tagNames name = some (name, []) ∧
      lowerText name = name ∧ closes caseFree name ('/' :: name) = true := by
  cases kind <;> decide

/-- Nothing is hidden at the tags of regions. -/
theorem RegionKind.tagNames_shown (kind : RegionKind) : ∀ name ∈ kind.tagNames,
    behind? ['!', '-', '-'] name = none ∧ opens hiddenNames name = none ∧
      opens hiddenNames ('/' :: name) = none := by
  cases kind <;> decide

/-- A region whose tag is at the front of a text is the next one: that tag opens no region of
another kind, so another begins behind it. -/
theorem nextRegion_of_opens {kind : RegionKind} {inner rest : List Char} (hinner : '>' ∉ inner)
    (hopens : (opens kind.tagNames inner).isSome) {region : Region}
    (hfind : (kind.find 0 ('<' :: (inner ++ '>' :: rest))).region = some region)
    (hfront : region.start = 0) : nextRegion ('<' :: (inner ++ '>' :: rest)) = some region := by
  refine earliest_of_front ?_ hfront ?_
  · have hmem : kind ∈ RegionKind.all := by cases kind <;> decide
    exact List.mem_filterMap.mpr ⟨kind, hmem, hfind⟩
  · intro other hregion
    obtain ⟨otherKind, -, hother⟩ := List.mem_filterMap.mp hregion
    by_cases hkind : kind = otherKind
    · subst hkind
      exact .inl (Option.some.inj (hother.symm.trans hfind))
    · obtain ⟨tag, before, behind, -, -, hcs, hopening, -, rfl⟩ := RegionKind.find_eq_some hother
      refine .inr (List.length_pos_iff.mpr ?_)
      rintro rfl
      have hnone : opening? otherKind.tagNames behind = none := by
        rw [← List.nil_append behind, ← hcs,
          (readsTags_opening otherKind.tagNames_no_bracket).atTag inner _ hinner,
          (RegionKind.namesApart hkind).opens_eq_none hopens]
        rfl
      rw [hnone] at hopening
      exact absurd hopening (by simp)

/-- A region as it is written, which ends with the first tag that closes it. -/
structure RegionKind.Encloses (kind : RegionKind) (name inner content close : List Char) :
    Prop where
  paired : kind ≠ .image
  inTag : '>' ∉ inner
  opens : ∃ attributes, Html.opens kind.tagNames inner = some (name, attributes)
  complete : Complete content
  unclosed : search (closingLength? caseFree (lowerText name)) content = none
  inClose : '>' ∉ close
  closes : Html.closes caseFree (lowerText name) close = true

/-- The region that an element at the front of a text is. -/
def RegionKind.front (kind : RegionKind) (name inner content close : List Char) : Region :=
  ⟨kind, 0, (enclosed inner content close).length, name, (Token.tag inner).write, content⟩

namespace RegionKind.Encloses

variable {kind : RegionKind} {name inner content close : List Char}

theorem opening (h : kind.Encloses name inner content close) (rest : List Char) :
    ∃ tag : Opening, opening? kind.tagNames (enclosed inner content close ++ rest) = some tag ∧
      tag.name = name ∧ tag.text = (Token.tag inner).write ∧
      tag.length = (Token.tag inner).write.length ∧
      tag.rest = content ++ '<' :: (close ++ '>' :: rest) := by
  obtain ⟨attributes, hopens⟩ := h.opens
  refine ⟨⟨name, attributes, content ++ '<' :: (close ++ '>' :: rest)⟩, ?_, rfl, ?_,
    Opening.length_of_opens hopens _, rfl⟩
  · rw [enclosed_append, (readsTags_opening kind.tagNames_no_bracket).atTag inner _ h.inTag,
      hopens]
    rfl
  · rw [Opening.text, Token.write, opens_eq_some hopens]
    simp

/-- A closed region is found at the front of a text as a whole. -/
theorem find (h : kind.Encloses name inner content close) (rest : List Char) :
    (kind.find 0 (enclosed inner content close ++ rest)).region
      = some (kind.front name inner content close) := by
  obtain ⟨attributes, hopens⟩ := h.opens
  obtain ⟨tag, hopening, hname, htext, hlength, hrest⟩ := h.opening rest
  have hclosing := readsTags_closing (isName_of_opens h.inTag hopens)
  have hcloses : closingLength? caseFree (lowerText name) ('<' :: (close ++ '>' :: rest))
      = some (Token.tag close).write.length := by
    rw [hclosing.atTag close rest h.inClose, wholeTag, if_pos h.closes]
    rfl
  have hupTo : upToOwnClosing? tag tag.rest
      = some (content, (Token.tag close).write.length) := by
    rw [upToOwnClosing?, upToClosing?, hname, hrest, hclosing.search_behind h.complete h.unclosed,
      search_of_some hcloses]
    simp
  have hstop : (Token.tag inner).write.length + content.length + (Token.tag close).write.length
      = (enclosed inner content close).length := by
    simp only [enclosed, Token.write, List.length_cons, List.length_append, List.length_nil]
    omega
  unfold RegionKind.find RegionKind.front
  rw [search_of_some hopening]
  have hpaired := h.paired
  cases kind <;> simp only [ne_eq, not_true_eq_false] at hpaired
  all_goals simp [hupTo, hname, htext, hlength, ← hstop]

theorem nextRegion (h : kind.Encloses name inner content close) (rest : List Char) :
    nextRegion (enclosed inner content close ++ rest)
      = some (kind.front name inner content close) := by
  obtain ⟨attributes, hopens⟩ := h.opens
  have hfind := h.find rest
  rw [enclosed_append] at hfind ⊢
  exact nextRegion_of_opens h.inTag (by rw [hopens]; rfl) hfind rfl

/-- Nothing is unwrapped at the front of a region. -/
theorem opening?_others (h : kind.Encloses name inner content close) {others : List (List Char)}
    (hbrackets : ∀ n ∈ others, '>' ∉ n) (hothers : NamesApart kind.tagNames others)
    (rest : List Char) : opening? others (enclosed inner content close ++ rest) = none := by
  obtain ⟨attributes, hopens⟩ := h.opens
  rw [enclosed_append, (readsTags_opening hbrackets).atTag inner _ h.inTag,
    hothers.opens_eq_none (by rw [hopens]; rfl)]
  rfl

theorem opening?_break (h : kind.Encloses name inner content close) (rest : List Char) :
    opening? [breakName] (enclosed inner content close ++ rest) = none :=
  h.opening?_others (by decide) (kind.namesApart_stopNames.of_subset (by decide)) rest

theorem opening?_wrapper (h : kind.Encloses name inner content close) (rest : List Char) :
    opening? wrapperNames (enclosed inner content close ++ rest) = none :=
  h.opening?_others (by decide) (kind.namesApart_stopNames.of_subset (by decide)) rest

/-- A region ends where the text ends that it is written as. -/
theorem distance (h : kind.Encloses name inner content close) (rest : List Char) :
    distance (enclosed inner content close ++ rest)
      (Paperwork.nextRegion (enclosed inner content close ++ rest)) = 0 := by
  rw [h.nextRegion rest]
  rfl

/-- **A closed region at the front of a text is read as such**, and then what stands
behind it is read. -/
theorem readsTo (h : kind.Encloses name inner content close) {rest : List Char}
    {nodes : List Node} (hreads : ReadsTo (enclosed inner content close ++ rest) nodes) :
    ∃ made after, nodes = made ++ after ∧
      (kind.front name inner content close).nodes.answer = .ok made ∧
      ReadsTo (rest.dropWhile isBlank) after := by
  have hbreak := h.opening?_break rest
  have hwrapper := h.opening?_wrapper rest
  have hnext := h.nextRegion rest
  revert hreads hbreak hwrapper hnext
  generalize hcs : enclosed inner content close ++ rest = cs
  intro hreads hbreak hwrapper hnext
  cases hreads with
  | done => exact absurd hcs (by simp [enclosed, Token.write])
  | @step _ made more length hnil hread hmore =>
      refine ⟨made, more, rfl, ?_⟩
      rw [hnext] at hread
      obtain ⟨region, hregion, -, hnodes, rfl⟩ | ⟨hahead, -⟩ := hread.of_not_opening hbreak hwrapper
      · obtain rfl := Option.some.inj hregion
        refine ⟨hnodes, ?_⟩
        rwa [← hcs, RegionKind.front, List.drop_left] at hmore
      · exact absurd (hahead _ rfl) (Nat.lt_irrefl 0)

theorem unwrap?_eq_none (h : kind.Encloses name inner content close) (limit : Nat)
    (rest : List Char) : unwrap? limit (enclosed inner content close ++ rest) = .ok none := by
  unfold unwrap?
  simp only [h.opening?_break rest, h.opening?_wrapper rest]

/-- A page that is a closed region and nothing else is read in one step. -/
theorem convert_alone (h : kind.Encloses name inner content close)
    (hshown : AllShown (enclosed inner content close)) {nodes : List Node}
    (hnodes : (kind.front name inner content close).nodes.answer = .ok nodes) {cap : Cap}
    (hcap : cap.Allows 1) :
    (convert cap (enclosed inner content close)).run.value = .ok ⟨nodes, false⟩ := by
  have hnext := h.nextRegion []
  have hunwrap := h.unwrap?_eq_none 0 []
  rw [List.append_nil] at hnext hunwrap
  exact convert_of_readFront (by simp [enclosed, Token.write]) hshown.readText_enclosed
    (readFront_region hnext rfl hunwrap hnodes) hcap

end RegionKind.Encloses

/-! ### Pages that are read to their end -/

namespace Reading

variable {α β : Type} {p : Notice → Prop}

/-- What is noted behind an answer is noted by the whole. -/
theorem Notes.of_bind {x : Reading α} {f : α → Reading β} (h : Notes p (x >>= f)) {a : α}
    (ha : x.answer = .ok a) : Notes p (f a) := by
  intro notice hnotice
  refine h notice ?_
  rw [ExceptT.run_bind]
  show notice ∈ (Noted.andThen _ _).notices
  unfold answer at ha
  rw [Noted.andThen, List.mem_append, ha]
  exact .inr hnotice

theorem Notes.of_bind_left {x : Reading α} {f : α → Reading β} (h : Notes p (x >>= f)) :
    Notes p x := by
  intro notice hnotice
  refine h notice ?_
  rw [ExceptT.run_bind]
  show notice ∈ (Noted.andThen _ _).notices
  rw [Noted.andThen, List.mem_append]
  exact .inl hnotice

end Reading

/-- Reading stops before the end of a text only if it says so. -/
theorem readsTo_of_scanAnew {cap : Int} {steps : Nat} {cs : List Char} {nodes : List Node}
    (h : (scanAnew cap steps cs).answer = .ok nodes)
    (hnotes : (scanAnew cap steps cs).Notes fun notice => ∀ limit, notice ≠ .capReached limit) :
    ReadsTo cs nodes := by
  induction steps generalizing cs nodes with
  | zero =>
      cases cs with
      | nil =>
          obtain rfl := Except.ok.inj h
          exact .done
      | cons c cs => exact absurd rfl (hnotes (.capReached cap) List.mem_cons_self cap)
  | succ steps ih =>
      cases cs with
      | nil =>
          obtain rfl := Except.ok.inj h
          exact .done
      | cons c cs =>
          rw [scanAnew] at h hnotes
          · rw [Reading.answer_bind] at h
            obtain ⟨⟨made, length⟩, hfront, hrest⟩ := bind_eq_ok.mp h
            have hread := readFront_eq_ok hfront
            obtain ⟨hpos, -⟩ := hread.reads (List.cons_ne_nil c cs)
            have hmore := hnotes.of_bind hfront
            simp only [passed_of_pos hpos, Reading.pure_bind, Reading.answer_bind] at hrest hmore
            obtain ⟨more, hmade, hnodes⟩ := bind_eq_ok.mp hrest
            rw [← Except.ok.inj hnodes]
            refine .step (List.cons_ne_nil c cs) hread ?_
            have hbehind := ih hmade hmore.of_bind_left
            rwa [← List.drop_drop, drop_takeWhile_length] at hbehind
          · exact List.cons_ne_nil c cs
          · exact List.cons_ne_nil c cs

/-- The steps that a cap allows are enough for a page: it is read to its end. -/
def Cap.Suffices (cap : Cap) (page : List Char) : Prop :=
  cap ≠ .unusable ∧
    (scanPage cap page).Notes fun notice => ∀ limit, notice ≠ .capReached limit

theorem Cap.allows_standard {n : Nat} (h : n ≤ 10000) : Cap.standard.Allows n := by
  show (n : Int) ≤ 10000
  exact_mod_cast h

/-- As many steps as the text of a page has characters are enough. -/
theorem Cap.suffices_of_allows {cap : Cap} {page : List Char}
    (h : cap.Allows (readText page).length) : cap.Suffices page := by
  refine ⟨?_, (scanPage_notes cap page).mono ?_⟩
  · rintro rfl
    exact h
  · rintro notice hprogress limit rfl
    exact (hprogress trivial).2 h

/-- A page that is converted, not by its plain text only, has been read to its end. -/
theorem readsTo_of_convert {cap : Cap} {page : List Char} (hcap : cap.Suffices page)
    {nodes : List Node} (h : (convert cap page).run.value = .ok ⟨nodes, false⟩) :
    ReadsTo (readText page) nodes := by
  obtain ⟨husable, hnotes⟩ := hcap
  obtain ⟨limit, steps, hscan⟩ := scanPage_eq husable page
  have hscanned := scanned_of_convert h
  rw [hscan] at hnotes hscanned
  exact readsTo_of_scanAnew hscanned hnotes

end Paperwork
