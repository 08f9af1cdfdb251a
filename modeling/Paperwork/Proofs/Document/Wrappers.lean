/-
Wrappers and the structure of a document.

Paragraphs, divisions and line breaks may be nested, crossed and left open as they please: if
every region of a page is closed, the page is divided by its scaffold alone.  So taking any of
their tags away changes nothing but paragraphs and texts.  All other nodes are made as before,
in the same order, and if the page cannot be read, for an address of an image that is no text,
it could not be read before.
-/
import Paperwork.Proofs.Document.Divided

namespace Paperwork

open Paperwork.Text
open Paperwork.Html

/-! ### Tags of regions -/

theorem Html.NamesApart.symm {names others : List (List Char)} (h : NamesApart names others) :
    NamesApart others names := fun m hm n hn => (h n hn m hm).symm

namespace RegionKind

variable {kind : RegionKind} {inner name attributes : List Char}

/-- The name of the tag of a region that is closed is, in lower case, one of those it is looked
for by. -/
theorem lowerText_mem (hkind : kind ≠ .image)
    (hopens : opens kind.tagNames inner = some (name, attributes)) :
    lowerText name ∈ kind.tagNames := by
  have hsmall : kind ≠ .image →
      (kind.tagNames.all fun n => n.all fun c => decide (IsSmall c)) = true := by
    cases kind <;> decide
  simp only [List.all_eq_true, decide_eq_true_eq] at hsmall
  obtain ⟨n, hn, hkeys⟩ := opens_name hopens
  rwa [lowerText_of_caseFree (hsmall hkind n hn) hkeys]

theorem not_opens_wrapping (kind : RegionKind) {inner : List Char}
    (h : isWrapping inner = true) : opens kind.tagNames inner = none :=
  not_opens_of_isWrapping kind.namesApart_stopNames.symm kind.tagNames_no_slash h

/-- No tag that wraps text closes a region. -/
theorem not_closes_wrapping (hkind : kind ≠ .image)
    (hopens : opens kind.tagNames inner = some (name, attributes))
    {other : List Char} (h : isWrapping other = true) :
    wholeTag (closes caseFree (lowerText name)) other = none :=
  not_closes_of_isWrapping (fun _ _ h => h) (kind.namesApart_stopNames.symm.of_subset fun _ hm =>
    List.mem_singleton.mp hm ▸ lowerText_mem hkind hopens) h

/-- The tag that opens a region is kept in the scaffold of a page. -/
theorem not_isWrapping {na : List Char × List Char} (hopens : opens kind.tagNames inner = some na) :
    isWrapping inner = false := by
  by_contra hwrapping
  rw [kind.not_opens_wrapping (by simpa using hwrapping)] at hopens
  simp at hopens

/-- So is the tag that closes it. -/
theorem not_isFill (hkind : kind ≠ .image)
    (hopens : opens kind.tagNames inner = some (name, attributes)) {t : Token}
    (hcloses : t.isTagOf (closes caseFree (lowerText name)) = true) : t.isFill = false := by
  cases t with
  | char c => simp [Token.isTagOf] at hcloses
  | tag close =>
      by_contra hwrapping
      have hnone := not_closes_wrapping hkind hopens (by simpa [Token.isFill] using hwrapping)
      simp only [Token.isTagOf] at hcloses
      simp [wholeTag, hcloses] at hnone

end RegionKind

/-! ### Closed regions -/

/-- The tag at the front, if it opens a region other than an image, is closed behind it. -/
def FrontClosed : List Token → Prop
  | .tag inner :: after => ∀ kind ∈ RegionKind.paired, ∀ na ∈ opens kind.tagNames inner,
      ∃ t ∈ after, t.isTagOf (closes caseFree (lowerText na.1)) = true
  | _ => True

instance : DecidablePred FrontClosed
  | .tag _ :: _ => inferInstanceAs (Decidable (∀ kind ∈ RegionKind.paired, _))
  | .char _ :: _ => isTrue trivial
  | [] => isTrue trivial

/-- Every region that opens in a page, an image apart, is closed somewhere behind its tag. -/
def RegionsClosed (ts : List Token) : Prop := ∀ rest ∈ ts.tails, FrontClosed rest

instance (ts : List Token) : Decidable (RegionsClosed ts) :=
  inferInstanceAs (Decidable (∀ rest ∈ ts.tails, _))

theorem RegionKind.mem_paired {kind : RegionKind} : kind ∈ RegionKind.paired ↔ kind ≠ .image := by
  cases kind <;> decide

theorem RegionsClosed.of_append {a b : List Token} (h : RegionsClosed (a ++ b)) :
    RegionsClosed b := by
  intro rest hrest
  have hsuffix := ((List.mem_tails rest b).mp hrest).trans (List.suffix_append a b)
  exact h rest ((List.mem_tails rest (a ++ b)).mpr hsuffix)

theorem RegionsClosed.frontClosed {a b : List Token} (h : RegionsClosed (a ++ b)) :
    FrontClosed b :=
  h b ((List.mem_tails b (a ++ b)).mpr (List.suffix_append a b))

/-- Whether regions are closed is told by the scaffold of a page. -/
theorem RegionsClosed.of_scaffold {ts others : List Token} (h : RegionsClosed ts)
    (hsame : scaffold ts = scaffold others) : RegionsClosed others := by
  intro rest hrest
  obtain ⟨before, rfl⟩ := (List.mem_tails _ _).mp hrest
  unfold FrontClosed
  split
  · rename_i inner after
    intro kind hkind na hopens
    rw [scaffold_append, scaffold_tag (RegionKind.not_isWrapping hopens), scaffold,
      List.filter_eq_append_iff] at hsame
    obtain ⟨front, rest, rfl, -, hrest⟩ := hsame
    obtain ⟨fill, back, rfl, -, -, hback⟩ := List.filter_eq_cons_iff.mp hrest
    obtain ⟨t, ht, hcloses⟩ := h.of_append.frontClosed kind hkind na hopens
    have htight := RegionKind.not_isFill (RegionKind.mem_paired.mp hkind) hopens hcloses
    have hmem : t ∈ scaffold after := hback ▸ List.mem_filter.mpr ⟨ht, by simp [htight]⟩
    exact ⟨t, (List.mem_filter.mp hmem).1, hcloses⟩
  · trivial

/-! ### Regions of pages that have one scaffold -/

/-- An image at the front of a text. -/
def imageFront (name inner : List Char) : Region :=
  ⟨.image, 0, (Token.tag inner).write.length, name, (Token.tag inner).write, []⟩

theorem standsAs_image {inner name attributes : List Char} (hinner : (Token.tag inner).Sound)
    (hopens : opens RegionKind.image.tagNames inner = some (name, attributes)) :
    StandsAs [.tag inner] (imageFront name inner) where
  begins := ⟨inner, [], rfl, by
    have hapart := RegionKind.image.namesApart_stopNames
    have hsome : (opens RegionKind.image.tagNames inner).isSome := by rw [hopens]; rfl
    exact ⟨(hapart.of_subset (by decide)).opens_eq_none hsome,
      (hapart.of_subset (by decide)).opens_eq_none hsome⟩⟩
  next rest := by
    have hwritten : writeTokens ([.tag inner] ++ rest)
        = '<' :: (inner ++ '>' :: writeTokens rest) := by simp [Token.write]
    rw [hwritten]
    refine nextRegion_of_opens hinner.2.2 (by rw [hopens]; rfl) ?_ rfl
    have hopening := (readsTags_opening RegionKind.image.tagNames_no_bracket).atTag inner
      (writeTokens rest) hinner.2.2
    rw [hopens, Option.map_some] at hopening
    have htext : (⟨name, attributes, writeTokens rest⟩ : Opening).text
        = (Token.tag inner).write := by simp [Opening.text, Token.write, opens_eq_some hopens]
    unfold RegionKind.find
    rw [search_of_some hopening]
    simp [imageFront, htext, Opening.length_of_opens hopens]
  start := rfl
  stop := by simp [imageFront]

theorem standsAs_enclosed {kind : RegionKind} {name inner close : List Char} {content : List Token}
    (h : kind.Encloses name inner (writeTokens content) close) :
    StandsAs (.tag inner :: (content ++ [.tag close]))
      (kind.front name inner (writeTokens content) close) where
  begins := by
    obtain ⟨attributes, hopens⟩ := h.opens
    have hsome : (opens kind.tagNames inner).isSome := by rw [hopens]; rfl
    exact ⟨inner, _, rfl,
      (kind.namesApart_stopNames.of_subset (by decide)).opens_eq_none hsome,
      (kind.namesApart_stopNames.of_subset (by decide)).opens_eq_none hsome⟩
  next rest := by
    rw [writeTokens_append, show writeTokens (.tag inner :: (content ++ [.tag close]))
      = enclosed inner (writeTokens content) close by simp [enclosed]]
    exact h.nextRegion _
  start := rfl
  stop := by simp [RegionKind.front, enclosed]

/-- A tag that is closed behind it encloses a region. -/
theorem exists_encloses {kind : RegionKind} (hkind : kind ≠ .image)
    {inner name attributes : List Char} (hinner : (Token.tag inner).Sound)
    (hopens : opens kind.tagNames inner = some (name, attributes))
    {after content rest : List Token} (hafter : Sound after) {length : Nat}
    (hfirst : firstTag (wholeTag (closes caseFree (lowerText name))) after
      = some (content, length, rest)) :
    ∃ close, after = content ++ .tag close :: rest ∧
      kind.Encloses name inner (writeTokens content) close := by
  obtain ⟨close, rfl, hcloses, -⟩ := firstTag_wholeTag hfirst
  obtain ⟨hcontent, hclose, -⟩ := by simpa using hafter
  have hname := isName_of_opens hinner.2.2 hopens
  refine ⟨close, rfl, hkind, hinner.2.2, ⟨attributes, hopens⟩, .writeTokens content, ?_,
    hclose.2.2, hcloses⟩
  rw [(readsTags_closing hname).search_writeTokens hcontent, Option.map_eq_none_iff,
    firstTag_eq_none]
  exact firstTag_before hfirst

theorem not_isTagOf_of_noTag {kind : List Char → Bool} {ts : List Token}
    (h : NoTag (wholeTag kind) ts) : ∀ t ∈ ts, t.isTagOf kind = false := by
  intro t ht
  cases t with
  | char c => rfl
  | tag inner => simpa [wholeTag, Token.isTagOf] using h inner ht

/-- Two regions have one tag, and what they hold is built alike. -/
structure Region.Alike (r s : Region) : Prop where
  kind : r.kind = s.kind
  name : r.name = s.name
  tag : r.tag = s.tag
  inner : BuiltAlike r.inner s.inner

theorem Agree.ofText {α β : Type} {r : α → β → Prop} {x : Except ReferenceTooLong α}
    {y : Except ReferenceTooLong β} (h : Agree r x y) :
    Agree r (Reading.ofText x).answer (Reading.ofText y).answer := by
  cases h with
  | answers hab => exact .answers hab
  | fails => exact .fails

/-- **Regions that are alike become alike nodes**, or both cannot be read. -/
theorem Region.Alike.agree_nodes {r s : Region} (h : r.Alike s) :
    Agree (List.Forall₂ Node.Alike) r.nodes.answer s.nodes.answer := by
  unfold Region.nodes
  rw [← h.kind]
  cases r.kind with
  | table =>
      simp only [Reading.answer_bind]
      exact h.inner.agree_tableNode.ofText.bind fun _ _ hnode => .answers (.cons hnode .nil)
  | heading =>
      simp only [Reading.answer_bind, ← h.name]
      exact h.inner.agree_inlineText.ofText.bind fun _ _ _ => .answers (.cons rfl .nil)
  | list =>
      simp only [← h.name]
      exact (h.inner.agree_listNodes _).ofText
  | image =>
      simp only [Reading.answer_bind, ← h.tag]
      cases (imageNode r.tag).answer with
      | ok node => exact .answers (.cons (.refl node) .nil)
      | error cause => exact .fails

/-- A page that begins with a gap and an image behind it. -/
theorem Divided.image {gap rest : List Token} {inner name attributes : List Char}
    {regions : List Region} (hrest : Divided rest regions) (hgap : NoRegion gap)
    (hinner : (Token.tag inner).Sound)
    (hopens : opens RegionKind.image.tagNames inner = some (name, attributes)) :
    Divided (gap ++ .tag inner :: rest) (imageFront name inner :: regions) :=
  .region hgap (standsAs_image hinner hopens) hrest

/-- A page that begins with a gap and a closed region behind it. -/
theorem Divided.enclosed {kind : RegionKind} {gap content rest : List Token}
    {inner name close : List Char} {regions : List Region} (hrest : Divided rest regions)
    (hgap : NoRegion gap) (h : kind.Encloses name inner (writeTokens content) close) :
    Divided (gap ++ .tag inner :: (content ++ .tag close :: rest))
      (kind.front name inner (writeTokens content) close :: regions) := by
  have hdivided := Divided.region hgap (standsAs_enclosed h) hrest
  simpa using hdivided

theorem not_opens_regionNames {inner : List Char} (h : isWrapping inner = true) :
    opens regionNames inner = none := by
  by_contra hsome
  obtain ⟨na, hna⟩ := Option.ne_none_iff_exists'.mp hsome
  obtain ⟨kind, hkind⟩ := exists_kind_of_opens hna
  rw [kind.not_opens_wrapping h] at hkind
  simp at hkind

/-- A region that is closed in a page is closed in one of the same scaffold. -/
theorem SameScaffold.encloses {kind : RegionKind} (hkind : kind ≠ .image)
    {inner name attributes : List Char} (hinner : (Token.tag inner).Sound)
    (hopens : opens kind.tagNames inner = some (name, attributes)) {after back : List Token}
    (h : SameScaffold after back) (hclosed : FrontClosed (.tag inner :: after)) :
    ∃ content close rest content' close' rest',
      after = content ++ .tag close :: rest ∧ back = content' ++ .tag close' :: rest' ∧
      kind.Encloses name inner (writeTokens content) close ∧
      kind.Encloses name inner (writeTokens content') close' ∧
      SameScaffold content content' ∧ SameScaffold rest rest' := by
  rcases h.cases_firstTag fun _ => RegionKind.not_closes_wrapping hkind hopens with
    ⟨hleft, -⟩ | hfound
  · obtain ⟨t, ht, hcloses⟩ := hclosed kind (RegionKind.mem_paired.mpr hkind) _ hopens
    exact absurd hcloses (by simp [not_isTagOf_of_noTag (firstTag_eq_none.mp hleft) t ht])
  · obtain ⟨length, content, rest, content', rest', hbody, hbody', hinside, hrest⟩ := hfound
    obtain ⟨close, rfl, hencloses⟩ := exists_encloses hkind hinner hopens h.left hbody
    obtain ⟨close', rfl, hencloses'⟩ := exists_encloses hkind hinner hopens h.right hbody'
    exact ⟨content, close, rest, content', close', rest', rfl, rfl, hencloses, hencloses',
      hinside, hrest⟩

/-- **Pages of one scaffold are divided into alike regions**, if the regions of one are closed. -/
theorem SameScaffold.exists_divided {ts others : List Token} (h : SameScaffold ts others)
    (hclosed : RegionsClosed ts) :
    ∃ regions regions', Divided ts regions ∧ Divided others regions' ∧
      List.Forall₂ Region.Alike regions regions' := by
  induction hn : ts.length using Nat.strong_induction_on generalizing ts others with
  | _ n ih =>
      subst hn
      rcases h.cases_opens fun _ => not_opens_regionNames with ⟨hleft, hright⟩ | hfound
      · exact ⟨[], [], .gap (.of_noTag hleft), .gap (.of_noTag hright), .nil⟩
      · obtain ⟨inner, name, attributes, before, after, front, back, rfl, rfl, hopens, hnone,
          hnone', hbehind⟩ := hfound
        have hgap := NoRegion.of_noTag hnone
        have hgap' := NoRegion.of_noTag hnone'
        obtain ⟨-, hinner, -⟩ := by simpa using h.left
        obtain ⟨kind, hkind⟩ := exists_kind_of_opens hopens
        by_cases himage : kind = .image
        · subst himage
          rw [List.append_cons] at hclosed
          obtain ⟨regions, regions', hdivided, hdivided', halike⟩ :=
            ih after.length (by simp; omega) hbehind hclosed.of_append rfl
          exact ⟨_, _, hdivided.image hgap hinner hkind, hdivided'.image hgap' hinner hkind,
            .cons ⟨rfl, rfl, rfl, [], [], rfl, rfl, sound_nil, sound_nil, rfl⟩ halike⟩
        · obtain ⟨content, close, rest, content', close', rest', rfl, rfl, hencloses, hencloses',
            hinside, hrest⟩ := hbehind.encloses himage hinner hkind hclosed.frontClosed
          rw [List.append_cons, ← List.append_assoc, List.append_cons] at hclosed
          obtain ⟨regions, regions', hdivided, hdivided', halike⟩ :=
            ih rest.length (by simp; omega) hrest hclosed.of_append rfl
          exact ⟨_, _, hdivided.enclosed hgap hencloses, hdivided'.enclosed hgap' hencloses',
            .cons ⟨rfl, rfl, rfl, content, content', rfl, rfl, hinside⟩ halike⟩

/-! ### Taking wrappers away -/

/-- The parts of a page, and those that are left when some of the tags that wrap text are taken
away. -/
inductive Unwrapped : List Token → List Token → Prop
  | nil : Unwrapped [] []
  | keep (t : Token) {ts others : List Token} (h : Unwrapped ts others) :
      Unwrapped (t :: ts) (t :: others)
  | drop {inner : List Char} (hinner : isWrapping inner = true) {ts others : List Token}
      (h : Unwrapped ts others) : Unwrapped (.tag inner :: ts) others

namespace Unwrapped

variable {ts others : List Token}

theorem sublist (h : Unwrapped ts others) : others.Sublist ts := by
  induction h with
  | nil => exact .slnil
  | keep t _ ih => exact ih.cons_cons t
  | drop _ _ ih => exact ih.cons _

theorem scaffold_eq (h : Unwrapped ts others) : scaffold ts = scaffold others := by
  induction h with
  | nil => rfl
  | keep t _ ih => rw [← List.singleton_append, scaffold_append, ih, ← scaffold_append]; rfl
  | drop hinner _ ih => rw [scaffold_wrapping hinner, ih]

end Unwrapped

theorem Node.Alike.isParagraph_iff {node other : Node} (h : node.Alike other) :
    node.IsParagraph ↔ other.IsParagraph := by
  cases node <;> cases other <;> first | exact Iff.rfl | exact absurd h id

theorem alike_nonParagraphs {nodes others : List Node} (h : List.Forall₂ Node.Alike nodes others) :
    List.Forall₂ Node.Alike (nonParagraphs nodes) (nonParagraphs others) := by
  refine List.rel_filter ?_ h
  intro node other hnode
  simp [hnode.isParagraph_iff]

/-- The plain text of a written page is always found. -/
theorem exists_plainNodes {ts : List Token} (hts : Sound ts)
    (hshown : AllShown (writeTokens ts)) :
    ∃ nodes, plainNodes (writeTokens ts) = .ok nodes ∧ nonParagraphs nodes = [] := by
  refine ⟨(paragraphs (textOf ts)).map fun text => .paragraph (String.ofList text) false, ?_, ?_⟩
  · rw [plainNodes, plainParagraphs, visible_eq_self hshown.noComment hshown.noHidden,
      contentParagraphs, content_writeTokens hts]
    rfl
  · refine nonParagraphs_of_isParagraph fun node hnode => ?_
    obtain ⟨text, -, rfl⟩ := List.mem_map.mp hnode
    trivial

/-- Pages that are read to alike nodes are converted to alike nodes, also where neither can be
read and their plain text is taken. -/
theorem exists_alike_of_scanned {ts others : List Token} (hts : Sound ts) (hothers : Sound others)
    (hshown : AllShown (writeTokens ts)) (hshown' : AllShown (writeTokens others)) {cap cap' : Cap}
    (hread : Agree
      (fun nodes nodes' => List.Forall₂ Node.Alike (nonParagraphs nodes) (nonParagraphs nodes'))
      (scanPage cap (writeTokens ts)).run.value (scanPage cap' (writeTokens others)).run.value) :
    ∃ c d, (convert cap (writeTokens ts)).run.value = .ok c ∧
      (convert cap' (writeTokens others)).run.value = .ok d ∧ c.fallback = d.fallback ∧
      List.Forall₂ Node.Alike (nonParagraphs c.nodes) (nonParagraphs d.nodes) := by
  generalize hscan : (scanPage cap (writeTokens ts)).run.value = scanned at hread
  generalize hscan' : (scanPage cap' (writeTokens others)).run.value = scanned' at hread
  cases hread with
  | answers halike =>
      exact ⟨_, _, convert_of_scanned hscan, convert_of_scanned hscan', rfl, halike⟩
  | @fails cause cause' =>
      obtain ⟨nodes, hplain, hnone⟩ := exists_plainNodes hts hshown
      obtain ⟨nodes', hplain', hnone'⟩ := exists_plainNodes hothers hshown'
      refine ⟨⟨nodes, true⟩, ⟨nodes', true⟩, ?_, ?_, rfl, ?_⟩
      · rw [convert_of_scanFails ⟨cause, hscan⟩, hplain]
        rfl
      · rw [convert_of_scanFails ⟨cause', hscan'⟩, hplain']
        rfl
      · rw [hnone, hnone']
        exact .nil

/--
**Wrappers are transparent to structure.**  Of a page of complete tags and escaped text, in
which nothing is hidden and every region is closed, any tags may be taken away that open or
close a paragraph or a division, or break the line.  If both pages are read to their ends, both
are converted, both by reading or both by their plain text, and the nodes that are no paragraphs
are alike: of one kind, headings of one level, items of one kind of list with one number, tables
with the same rows of the same cells, and images of the same data.
-/
theorem convert_unwrapped {ts others : List Token} (hts : Sound ts)
    (hcomments : search (behind? ['<', '!', '-', '-']) (writeTokens ts) = none)
    (hhidden : search (opening? hiddenNames) (writeTokens ts) = none)
    (hclosed : RegionsClosed ts) (hunwrapped : Unwrapped ts others) {cap cap' : Cap}
    (hcap : cap.Suffices (writeTokens ts)) (hcap' : cap'.Suffices (writeTokens others)) :
    ∃ c d, (convert cap (writeTokens ts)).run.value = .ok c ∧
      (convert cap' (writeTokens others)).run.value = .ok d ∧ c.fallback = d.fallback ∧
      List.Forall₂ Node.Alike (nonParagraphs c.nodes) (nonParagraphs d.nodes) := by
  have hsub := hunwrapped.sublist
  have hothers : Sound others := hts.sublist hsub
  have hshown : AllShown (writeTokens ts) := ⟨.writeTokens ts, hcomments, hhidden⟩
  have hshown' := hshown.sublist hts hsub
  have hsame : SameScaffold (trimmedTokens ts) (trimmedTokens others) :=
    ⟨hts.sublist (trimmedTokens_sublist ts), hothers.sublist (trimmedTokens_sublist others),
      by rw [scaffold_trimmedTokens, scaffold_trimmedTokens, hunwrapped.scaffold_eq]⟩
  obtain ⟨regions, regions', hdivided, hdivided', halike⟩ :=
    hsame.exists_divided (hclosed.of_scaffold (scaffold_trimmedTokens ts).symm)
  have hnodes : Agree (List.Forall₂ (List.Forall₂ Node.Alike))
      (regions.mapM fun region => region.nodes.answer)
      (regions'.mapM fun region => region.nodes.answer) :=
    Agree.mapM (fun _ _ h => h.agree_nodes) halike
  have hlater : Agree
      (fun made nodes' =>
        List.Forall₂ Node.Alike (nonParagraphs made.flatten) (nonParagraphs nodes'))
      (regions.mapM fun region => region.nodes.answer)
      (scanPage cap' (writeTokens others)).run.value := by
    refine hnodes.trans (hdivided'.readsLike_page hothers hshown' hcap').symm ?_
    intro made made' nodes' hmade heq
    rw [heq]
    exact alike_nonParagraphs (List.rel_flatten hmade)
  refine exists_alike_of_scanned hts hothers hshown hshown' ?_
  exact (hdivided.readsLike_page hts hshown hcap).trans hlater fun _ _ _ heq h => heq ▸ h

/-- A page of each kind of region, in which wrappers cross them. -/
def crossedRegions : List Token :=
  [.tag "div".toList, .tag "table".toList, .tag "p class='x'".toList, .tag "tr".toList,
    .tag "td".toList, .char 'a', .tag "/p".toList, .tag "/td".toList, .tag "/tr".toList,
    .tag "/TABLE".toList, .tag "br/".toList, .tag "H2".toList, .char 'b', .tag "/h2".toList,
    .tag "img src='data:image/gif;base64,R0k='".toList, .tag "ul".toList, .tag "li".toList,
    .char 'c', .tag "/div".toList, .tag "/ul".toList]

/-- The same page with a division and a paragraph that are open at one end only. -/
def halfUnwrapped : List Token :=
  [.tag "div".toList, .tag "table".toList, .tag "tr".toList, .tag "td".toList, .char 'a',
    .tag "/p".toList, .tag "/td".toList, .tag "/tr".toList, .tag "/TABLE".toList,
    .tag "H2".toList, .char 'b', .tag "/h2".toList,
    .tag "img src='data:image/gif;base64,R0k='".toList, .tag "ul".toList, .tag "li".toList,
    .char 'c', .tag "/ul".toList]

theorem crossedRegions_unwrapped : Unwrapped crossedRegions halfUnwrapped :=
  .keep _ <| .keep _ <| .drop (by decide) <| .keep _ <| .keep _ <| .keep _ <| .keep _ <|
  .keep _ <| .keep _ <| .keep _ <| .drop (by decide) <| .keep _ <| .keep _ <| .keep _ <|
  .keep _ <| .keep _ <| .keep _ <| .keep _ <| .drop (by decide) <| .keep _ .nil

theorem crossedRegions_alike :
    RegionsClosed crossedRegions ∧ Unwrapped crossedRegions halfUnwrapped ∧
      ∃ c d, (convert .standard (writeTokens crossedRegions)).run.value = .ok c ∧
        (convert .standard (writeTokens halfUnwrapped)).run.value = .ok d ∧
        c.fallback = d.fallback ∧
        List.Forall₂ Node.Alike (nonParagraphs c.nodes) (nonParagraphs d.nodes) := by
  have hclosed : RegionsClosed crossedRegions := by decide +kernel
  have hsound : Sound crossedRegions := by
    unfold Sound
    decide +kernel
  exact ⟨hclosed, crossedRegions_unwrapped, convert_unwrapped hsound (by decide +kernel)
    (by decide +kernel) hclosed crossedRegions_unwrapped
    (Cap.suffices_of_allows (Cap.allows_standard (by decide +kernel)))
    (Cap.suffices_of_allows (Cap.allows_standard (by decide +kernel)))⟩

end Paperwork
