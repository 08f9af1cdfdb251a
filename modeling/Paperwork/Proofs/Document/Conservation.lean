/-
No text is lost or invented when a page is read.

A step of reading passes some parts of a written page and gives nodes for them.  The
letters of these nodes are letters of the parts, in their order, and all of them unless
the parts are a table or a list, of which only cells and items are read.  `Keeps` says
this of parts and nodes.  It adds up, so it holds of a whole page, whatever the number of
steps: what is left when they run out is text, and text keeps all its letters.
-/
import Paperwork.Proofs.Document.Convert
import Paperwork.Proofs.Document.Front
import Paperwork.Proofs.Html.Visible

namespace Paperwork

open Paperwork.Text
open Paperwork.Html

/-! ### The texts of nodes -/

/-- The texts of a node, those of a table row by row. -/
def Node.texts : Node → List String
  | .paragraph text _ => [text]
  | .heading text _ => [text]
  | .listItem text _ _ => [text]
  | .table rows => rows.flatten.map Cell.text
  | .image _ _ => []

/-- The texts of nodes one after another. -/
def textsOf (nodes : List Node) : List Char :=
  (nodes.flatMap Node.texts).flatMap String.toList

@[simp] theorem textsOf_nil : textsOf [] = [] := rfl

@[simp] theorem textsOf_append (a b : List Node) : textsOf (a ++ b) = textsOf a ++ textsOf b := by
  simp [textsOf]

theorem letters_textsOf (nodes : List Node) :
    letters (textsOf nodes)
      = nodes.flatMap fun node => node.texts.flatMap fun text => letters text.toList := by
  rw [textsOf, List.flatMap_def, letters_flatten, List.flatMap_map, List.flatMap_assoc]

/-- A page with no tag that opens a table or a list. -/
def NoCut (ts : List Token) : Prop :=
  NoTag (opens RegionKind.table.tagNames) ts ∧ NoTag (opens RegionKind.list.tagNames) ts

/-- The letters of nodes are letters of parts of a page: all of them, unless there is a
table or a list among the parts. -/
structure Keeps (ts : List Token) (nodes : List Node) : Prop where
  inOrder : (letters (textsOf nodes)).Sublist (lettersOf ts)
  all : NoCut ts → letters (textsOf nodes) = lettersOf ts

theorem Keeps.of_eq {ts : List Token} {nodes : List Node}
    (h : letters (textsOf nodes) = lettersOf ts) : Keeps ts nodes :=
  ⟨h ▸ List.Sublist.refl _, fun _ => h⟩

theorem Keeps.append {a b : List Token} {nodes more : List Node} (ha : Keeps a nodes)
    (hb : Keeps b more) : Keeps (a ++ b) (nodes ++ more) where
  inOrder := by
    rw [textsOf_append, letters_append, lettersOf_append]
    exact ha.inOrder.append hb.inOrder
  all h := by
    have hcut : NoCut a ∧ NoCut b := by
      simp only [NoCut, noTag_append] at h
      exact ⟨⟨h.1.1, h.2.1⟩, h.1.2, h.2.2⟩
    rw [textsOf_append, letters_append, lettersOf_append, ha.all hcut.1, hb.all hcut.2]

/-! ### Texts and cells -/

/-- A row of readers, each of which keeps letters of a part of the page in order. -/
theorem mapM_keeps {ε α β : Type} {f : α → Except ε β} {kept : β → List Char} {as : List α}
    {bodies : List (List Token)}
    (h : List.Forall₂ (fun a body => Sound body →
      ∃ b, f a = .ok b ∧ (kept b).Sublist (lettersOf body)) as bodies)
    (hsound : Sound bodies.flatten) :
    ∃ bs, as.mapM f = .ok bs ∧ (bs.flatMap kept).Sublist (lettersOf bodies.flatten) := by
  induction h with
  | nil => exact ⟨[], rfl, List.Sublist.refl _⟩
  | cons hfirst _ ih =>
      rw [List.flatten_cons, sound_append] at hsound
      obtain ⟨b, hb, hkept⟩ := hfirst hsound.1
      obtain ⟨bs, hbs, hrest⟩ := ih hsound.2
      refine ⟨b :: bs, ?_, ?_⟩
      · rw [List.mapM_cons, hb, ok_bind, hbs, ok_bind]
        rfl
      · rw [List.flatMap_cons, List.flatten_cons, lettersOf_append]
        exact hkept.append hrest

/-- Elements and the parts of the page that they hold. -/
theorem forall₂_of_contents {elements : List Element} {bodies : List (List Token)}
    (h : elements.map Element.content = bodies.map writeTokens) :
    List.Forall₂ (fun e body => e.content = writeTokens body) elements bodies := by
  rwa [← List.forall₂_eq_eq_eq, List.forall₂_map_left_iff, List.forall₂_map_right_iff] at h

/-- Reading what the elements of a page hold keeps letters in order, if reading one does. -/
theorem elements_keep {ε β : Type} {key : Char → Char} {names : List (List Char)}
    {closed : Opening → List Char} {f : Element → Except ε β} {kept : β → List Char}
    (hnames : ∀ n ∈ names, '>' ∉ n)
    (hclosed : ∀ inner name attributes rest, '>' ∉ inner →
      opens names inner = some (name, attributes) → IsName key (closed ⟨name, attributes, rest⟩))
    {ts : List Token} (hts : Sound ts)
    (hf : ∀ (e : Element) (body : List Token), e.content = writeTokens body → Sound body →
      ∃ b, f e = .ok b ∧ (kept b).Sublist (lettersOf body)) :
    ∃ bs, (matchesIn (elements key names closed) (writeTokens ts)).mapM f = .ok bs ∧
      (bs.flatMap kept).Sublist (lettersOf ts) := by
  obtain ⟨bodies, hcontents, hsub⟩ := exists_bodies hnames hclosed hts
  obtain ⟨bs, hbs, hkept⟩ := mapM_keeps ((forall₂_of_contents hcontents).imp hf)
    (hts.sublist hsub)
  exact ⟨bs, hbs, hkept.trans (lettersOf_sublist hsub)⟩

/-! ### Tables and lists -/

private theorem rowCells_keeps {ts : List Token} (hts : Sound ts) :
    ∃ cells, rowCells (writeTokens ts) = .ok cells ∧
      (cells.flatMap fun cell => letters cell.text.toList).Sublist (lettersOf ts) := by
  refine elements_keep (by decide) (fun inner name attributes _ hinner hopens => ?_) hts
    fun e body hcontent hbody => ?_
  · refine isName_fold fun hmem => hinner ?_
    rw [opens_eq_some hopens]
    exact List.mem_append_left _ hmem
  · refine ⟨⟨String.ofList (collapsed (textOf body)), isHeader e⟩, ?_, ?_⟩
    · rw [hcontent, inlineText_writeTokens hbody]
      rfl
    · simp [lettersOf]

private theorem tableNode_keeps {ts : List Token} (hts : Sound ts) :
    ∃ node, tableNode (writeTokens ts) = .ok node ∧
      (letters (textsOf [node])).Sublist (lettersOf ts) := by
  obtain ⟨rows, hrows, hkept⟩ : ∃ rows,
      (matchesIn (elementNamed ['t', 'r']) (writeTokens ts)).mapM (fun row => rowCells row.content)
        = .ok rows ∧
      (rows.flatMap fun cells => cells.flatMap fun cell => letters cell.text.toList).Sublist
        (lettersOf ts) :=
    elements_keep (by decide) (fun _ _ _ _ _ _ => isName_caseFree (by decide)) hts
      fun e body hcontent hbody => hcontent ▸ rowCells_keeps hbody
  refine ⟨.table (rows.filter fun row => !row.isEmpty), ?_, ?_⟩
  · rw [tableNode, hrows]
    rfl
  · have htexts : letters (textsOf [.table (rows.filter fun row => !row.isEmpty)])
        = rows.flatMap fun cells => cells.flatMap fun cell => letters cell.text.toList := by
      rw [letters_textsOf, List.flatMap_singleton, Node.texts, List.flatten_filter_not_isEmpty,
        List.flatMap_map, List.flatMap_def, List.map_flatten, List.flatten_flatten, List.map_map]
      rfl
    rwa [htexts]

theorem readsTags_itemOpening :
    ReadsTags itemOpening (wholeTag fun inner => (opens [itemName] inner).isSome)
      fun length _ => ((), length) where
  onlyAtTags cs hcs := by
    rw [itemOpening, (readsTags_opening (by decide)).onlyAtTags cs hcs]
    rfl
  atTag inner rest hinner := by
    rw [itemOpening, (readsTags_opening (by decide)).atTag inner rest hinner]
    cases hopens : opens [itemName] inner with
    | none => simp [wholeTag, hopens]
    | some na => simp [wholeTag, hopens, Opening.length_of_opens hopens]

/-- The items of a list, closed or not, stand in it one after another. -/
theorem exists_itemBodies {ts : List Token} (hts : Sound ts) :
    ∃ bodies : List (List Token), itemBodies (writeTokens ts) = bodies.map writeTokens ∧
      bodies.flatten.Sublist ts := by
  obtain ⟨bodies, hcontents, hsub⟩ : ∃ bodies : List (List Token),
      (matchesIn (elementNamed itemName) (writeTokens ts)).map Element.content
        = bodies.map writeTokens ∧ bodies.flatten.Sublist ts :=
    exists_bodies (by decide) (fun _ _ _ _ _ _ => isName_caseFree (by decide)) hts
  unfold itemBodies
  cases hmatches : matchesIn (elementNamed itemName) (writeTokens ts) with
  | cons e more =>
      rw [hmatches] at hcontents
      exact ⟨bodies, hcontents, hsub⟩
  | nil =>
      obtain ⟨groups, hgroups, hsub⟩ := exists_between readsTags_itemOpening hts
      refine ⟨groups.drop 1, by simp [hgroups], List.Sublist.trans ?_ hsub⟩
      cases groups with
      | nil => exact List.Sublist.refl _
      | cons group groups => exact List.sublist_append_right _ _

private theorem listNodes_keep (ordered : Bool) {ts : List Token} (hts : Sound ts) :
    ∃ nodes, listNodes ordered (writeTokens ts) = .ok nodes ∧
      (letters (textsOf nodes)).Sublist (lettersOf ts) := by
  obtain ⟨bodies, hbodies, hsub⟩ := exists_itemBodies hts
  have hitems : List.Forall₂ (fun cs body => Sound body → ∃ text : String,
      inlineText cs = .ok text ∧ (letters text.toList).Sublist (lettersOf body))
      (bodies.map writeTokens) bodies := by
    rw [List.forall₂_map_left_iff, List.forall₂_same]
    intro body _ hbody
    refine ⟨_, inlineText_writeTokens hbody, ?_⟩
    simp [lettersOf]
  obtain ⟨texts, htexts, hkept⟩ := mapM_keeps hitems (hts.sublist hsub)
  refine ⟨_, by rw [listNodes, hbodies, htexts]; rfl, ?_⟩
  have hletters : letters (textsOf (texts.zipIdx.map fun item =>
      Node.listItem item.1 ordered (item.2 + 1)))
        = texts.flatMap fun text => letters text.toList := by
    conv_rhs => rw [← List.zipIdx_map_fst 0 texts, List.flatMap_map]
    simp only [letters_textsOf, List.flatMap_map, Node.texts, List.flatMap_singleton]
  have hall := hkept.trans (lettersOf_sublist hsub)
  rw [← hletters] at hall
  exact hall

/-- A region keeps letters of its content in order, and a heading keeps all. -/
theorem region_keeps {kind : RegionKind} (hkind : kind ≠ .image) (before : List Token)
    {content : List Token} {inner name attributes : List Char} (close : List Char) (hcontent : Sound content)
    (hopens : opens kind.tagNames inner = some (name, attributes)) :
    ∃ nodes, (kind.written before inner name content close).nodes.answer = .ok nodes ∧
      Keeps (.tag inner :: (content ++ [.tag close])) nodes := by
  have hletters : lettersOf (.tag inner :: (content ++ [.tag close])) = lettersOf content := by
    simp
  have hcut : ∀ kind : RegionKind, opens kind.tagNames inner = some (name, attributes) →
      ¬ NoTag (opens kind.tagNames) (.tag inner :: (content ++ [.tag close])) := by
    intro kind hopens h
    rw [(noTag_tag.mp h).1] at hopens
    exact absurd hopens (by simp)
  cases kind with
  | image => exact absurd rfl hkind
  | table =>
      obtain ⟨node, hnode, hkept⟩ := tableNode_keeps hcontent
      refine ⟨[node], ?_, hletters ▸ hkept, fun h => absurd h.1 (hcut _ hopens)⟩
      simp [Region.nodes, RegionKind.written, hnode]
  | heading =>
      refine ⟨[.heading (String.ofList (collapsed (textOf content))) (headingLevelOf name)], ?_,
        Keeps.of_eq ?_⟩
      · simp [Region.nodes, RegionKind.written, inlineText_writeTokens hcontent]
      · rw [hletters]
        simp [letters_textsOf, Node.texts, lettersOf]
  | list =>
      obtain ⟨nodes, hnodes, hkept⟩ := listNodes_keep (lowerText name == ['o', 'l']) hcontent
      refine ⟨nodes, ?_, hletters ▸ hkept, fun h => absurd h.2 (hcut _ hopens)⟩
      simp [Region.nodes, RegionKind.written, hnodes]

/-! ### Text -/

theorem paragraphs_keep (ts : List Token) :
    Keeps ts ((paragraphs (textOf ts)).map fun text => .paragraph (String.ofList text) false) := by
  refine Keeps.of_eq ?_
  simp only [letters_textsOf, List.flatMap_map, Node.texts, List.flatMap_singleton,
    String.toList_ofList]
  exact letters_paragraphs _

theorem keeps_tag (inner : List Char) {nodes : List Node} (h : letters (textsOf nodes) = []) :
    Keeps [.tag inner] nodes := Keeps.of_eq (by simp [h])

theorem wrapper_keeps (inner close : List Char) (content : List Token) (bold : Bool) :
    Keeps (.tag inner :: (content ++ [.tag close]))
      [.paragraph (String.ofList (paragraphText content)) bold] := by
  refine Keeps.of_eq ?_
  have hkept : letters (paragraphText content) = lettersOf content := by
    rw [paragraphText, letters_joined (by decide), letters_visibleLines]
    rfl
  simp [letters_textsOf, Node.texts, hkept]

/-! ### Steps and runs -/

/-- Parts at the front of a page are read, and the nodes they become keep their letters. -/
def FrontKept (ts : List Token) : Prop :=
  ∃ front rest nodes, ts = front ++ rest ∧ front ≠ [] ∧
    (readFront 0 (writeTokens ts) (nextRegion (writeTokens ts))).answer
      = .ok (nodes, (writeTokens front).length) ∧ Keeps front nodes

private theorem frontKept_text {t : Token} {upTo after : List Token}
    (hts : Sound (t :: (upTo ++ after))) (hplain : IsPlain t)
    (hlimit : frontLimit (writeTokens (t :: (upTo ++ after)))
      = (writeTokens (t :: upTo)).length) : FrontKept (t :: (upTo ++ after)) := by
  have hupTo : Sound (t :: upTo) := by
    simp only [sound_cons, sound_append] at hts ⊢
    exact ⟨hts.1, hts.2.1⟩
  obtain ⟨plain, rest, rfl, hnone, hrest⟩ := exists_stop upTo
  exact ⟨t :: plain, rest ++ after, _, by simp, by simp,
    readFront_upToStop hplain hupTo hnone hrest hlimit, paragraphs_keep _⟩

private theorem frontKept_region {kind : RegionKind} (hkind : kind ≠ .image)
    {inner name attributes close : List Char} {content rest : List Token}
    (hts : Sound (.tag inner :: (content ++ .tag close :: rest))) (hplain : IsPlain (.tag inner))
    (hopens : opens kind.tagNames inner = some (name, attributes))
    (hnext : nextRegion (writeTokens (.tag inner :: (content ++ .tag close :: rest)))
      = some (kind.written [] inner name content close)) :
    FrontKept (.tag inner :: (content ++ .tag close :: rest)) := by
  obtain ⟨htag, hrest⟩ := sound_cons.mp hts
  obtain ⟨nodes, hnodes, hkept⟩ :=
    region_keeps hkind [] close (sound_append.mp hrest).1 hopens
  refine ⟨.tag inner :: (content ++ [.tag close]), rest, nodes, by simp, by simp, ?_, hkept⟩
  exact readFront_region hnext rfl (unwrap?_of_isPlain 0 htag hplain _) hnodes

private theorem frontKept_wrapper {inner name attributes : List Char} {upTo after : List Token}
    (hts : Sound (.tag inner :: (upTo ++ after))) (hbreak : opens [breakName] inner = none)
    (hopens : opens wrapperNames inner = some (name, attributes))
    (hlimit : frontLimit (writeTokens (.tag inner :: (upTo ++ after)))
      - (Token.tag inner).write.length = (writeTokens upTo).length) :
    FrontKept (.tag inner :: (upTo ++ after)) := by
  obtain ⟨htag, hrest⟩ := sound_cons.mp hts
  have hunwrap := unwrap?_wrapper htag.2.2 hbreak hopens after
    (sound_append.mp hrest).1 hlimit
  have hdropped : unwrap? (frontLimit (writeTokens (.tag inner :: (upTo ++ after))))
      (writeTokens (.tag inner :: (upTo ++ after)))
        = .ok (some ([], (Token.tag inner).write.length)) →
      FrontKept (.tag inner :: (upTo ++ after)) := by
    intro h
    refine ⟨[.tag inner], upTo ++ after, [], rfl, by simp, ?_, keeps_tag inner rfl⟩
    rw [readFront_unwrapped h]
    simp
  cases hfirst : firstTag (wholeTag (closes caseFree (lowerText name))) upTo with
  | none => exact hdropped (by rw [hunwrap, hfirst])
  | some found =>
      obtain ⟨content, n, rest⟩ := found
      obtain ⟨close, rfl, -, rfl⟩ := firstTag_wholeTag hfirst
      by_cases hinside : (firstTag (opens wrapperNames) content).isSome = true
      · exact hdropped (by simp only [hunwrap, hfirst, hinside, if_true])
      · simp only [hfirst, hinside, Bool.false_eq_true, if_false] at hunwrap
        refine ⟨.tag inner :: (content ++ [.tag close]), rest ++ after,
          [.paragraph (String.ofList (paragraphText content))
            (hasBoldStyle attributes || isWrappedBold (writeTokens content))],
          by simp, by simp, ?_, wrapper_keeps inner close content _⟩
        rw [readFront_unwrapped hunwrap]
        simp [Nat.add_assoc]

private theorem frontKept_unwrapped {inner : List Char} (upTo after : List Token)
    (hts : Sound (.tag inner :: (upTo ++ after))) (hplain : ¬ IsPlain (.tag inner))
    (hlimit : frontLimit (writeTokens (.tag inner :: (upTo ++ after)))
      - (Token.tag inner).write.length = (writeTokens upTo).length) :
    FrontKept (.tag inner :: (upTo ++ after)) := by
  cases hbreak : opens [breakName] inner with
  | some na =>
      have hinner := (sound_cons.mp hts).1.2.2
      refine ⟨[.tag inner], upTo ++ after, [.paragraph "" false], rfl, by simp, ?_,
        keeps_tag inner (by decide)⟩
      rw [writeTokens_cons, readFront_unwrapped (unwrap?_break _ hinner (by simp [hbreak]) _)]
      simp
  | none =>
      cases hopens : opens wrapperNames inner with
      | none => exact absurd ⟨hbreak, hopens⟩ hplain
      | some na => exact frontKept_wrapper hts hbreak hopens hlimit

/-- In front of the next region a wrapper, a line break or text is read. -/
theorem frontKept_ahead {t : Token} {upTo after : List Token}
    (hts : Sound (t :: (upTo ++ after)))
    (hlimit : frontLimit (writeTokens (t :: (upTo ++ after)))
      = (writeTokens (t :: upTo)).length) : FrontKept (t :: (upTo ++ after)) := by
  by_cases hplain : IsPlain t
  · exact frontKept_text hts hplain hlimit
  · cases t with
    | char c => exact absurd trivial hplain
    | tag inner =>
        refine frontKept_unwrapped upTo after hts hplain ?_
        rw [hlimit, writeTokens_cons, List.length_append]
        exact Nat.add_sub_cancel_left ..

/-- **A step keeps the letters of the parts it passes.** -/
theorem readFront_keeps {ts : List Token} (hts : Sound ts) (hne : ts ≠ [])
    (himages : NoTag (opens RegionKind.image.tagNames) ts) : FrontKept ts := by
  obtain ⟨upTo, after, rfl, hlimit, hfront⟩ := exists_ahead hts himages
  cases upTo with
  | cons t upTo => exact frontKept_ahead hts hlimit
  | nil =>
      -- The next region is at the front, so there is no room to unwrap anything.
      rw [List.nil_append] at hts hne himages hlimit hfront ⊢
      obtain ⟨kind, inner, name, attributes, content, close, rest, hkind, rfl, hopens, hnext⟩ :=
        (hfront.resolve_left (by simp)).resolve_left hne
      by_cases hplain : IsPlain (.tag inner)
      · exact frontKept_region hkind hts hplain hopens hnext
      · refine frontKept_unwrapped [] (content ++ .tag close :: rest) hts hplain ?_
        rw [List.nil_append, hlimit]
        exact Nat.zero_sub _

/-- **However many steps are taken, the letters of a page are kept.** -/
theorem scanAnew_keeps (cap : Int) (steps : Nat) {ts : List Token} (hts : Sound ts)
    (himages : NoTag (opens RegionKind.image.tagNames) ts) :
    ∃ nodes, (scanAnew cap steps (writeTokens ts)).answer = .ok nodes ∧ Keeps ts nodes := by
  induction steps generalizing ts with
  | zero =>
      by_cases hne : ts = []
      · subst hne
        exact ⟨[], rfl, Keeps.of_eq rfl⟩
      · have hwritten : writeTokens ts ≠ [] := by
          obtain ⟨t, more, rfl⟩ := List.exists_cons_of_ne_nil hne
          simp [t.write_ne_nil]
        refine ⟨_, ?_, paragraphs_keep ts⟩
        rw [scanAnew]
        · simp [paragraphNodes_writeTokens hts]
        · exact hwritten
  | succ steps ih =>
      by_cases hne : ts = []
      · subst hne
        exact ⟨[], rfl, Keeps.of_eq rfl⟩
      · obtain ⟨front, rest, nodes, rfl, hfront, hread, hkept⟩ := readFront_keeps hts hne himages
        have hrest : rest = rest.takeWhile Token.isBlank ++ rest.dropWhile Token.isBlank :=
          List.takeWhile_append_dropWhile.symm
        have hsound := (sound_append.mp hts).2
        have hnone := (noTag_append.mp himages).2
        rw [hrest, sound_append] at hsound
        rw [hrest, noTag_append] at hnone
        obtain ⟨more, hmore, hkeeps⟩ := ih hsound.2 hnone.2
        refine ⟨nodes ++ more, ?_, hkept.append ?_⟩
        · rw [scanAnew_step cap steps hfront hread, hmore]
          rfl
        · rw [hrest]
          have hblanks : Keeps (rest.takeWhile Token.isBlank) [] :=
            Keeps.of_eq (lettersOf_of_blank fun t ht => List.mem_takeWhile_imp ht).symm
          simpa using hblanks.append hkeeps

/-! ### Pages -/

theorem noTag_of_search {names : List (List Char)} (h : ∀ n ∈ names, '>' ∉ n) {ts : List Token}
    (hts : Sound ts) :
    search (opening? names) (writeTokens ts) = none ↔ NoTag (opens names) ts := by
  rw [(readsTags_opening h).search_writeTokens hts, Option.map_eq_none_iff, firstTag_eq_none]

/--
**The letters of a page are those of its document.**  A page of complete tags and escaped
text, without comments, images and elements that are not shown, is always converted, and
the letters in the texts of its nodes are letters of its text, in order.  If it has no
table and no list, they are all of them.
-/
theorem convert_keeps_letters {ts : List Token} (hts : Sound ts)
    (hcomments : search (behind? ['<', '!', '-', '-']) (writeTokens ts) = none)
    (hhidden : search (opening? hiddenNames) (writeTokens ts) = none)
    (himages : search (opening? RegionKind.image.tagNames) (writeTokens ts) = none)
    {cap : Cap} (hcap : cap ≠ .unusable) :
    ∃ nodes text, (convert cap (writeTokens ts)).run.value = .ok ⟨nodes, false⟩ ∧
      content (writeTokens ts) = .ok text ∧
      (letters (textsOf nodes)).Sublist (letters text) ∧
      (search (opening? RegionKind.table.tagNames) (writeTokens ts) = none →
        search (opening? RegionKind.list.tagNames) (writeTokens ts) = none →
        letters (textsOf nodes) = letters text) := by
  obtain ⟨limit, steps, hscan⟩ := scanPage_eq hcap (writeTokens ts)
  rw [visible_eq_self hcomments hhidden, trimmed_writeTokens] at hscan
  have hsub := trimmedTokens_sublist ts
  rw [noTag_of_search (RegionKind.tagNames_no_bracket _) hts] at himages
  obtain ⟨nodes, hnodes, hkept⟩ :=
    scanAnew_keeps limit steps (hts.sublist hsub) (himages.sublist hsub)
  rw [← hscan] at hnodes
  refine ⟨nodes, textOf ts, convert_of_scanned hnodes, content_writeTokens hts, ?_, ?_⟩
  · rw [← lettersOf, ← lettersOf_trimmedTokens]
    exact hkept.inOrder
  · intro htables hlists
    rw [noTag_of_search (RegionKind.tagNames_no_bracket _) hts] at htables hlists
    rw [← lettersOf, ← lettersOf_trimmedTokens]
    exact hkept.all ⟨htables.sublist hsub, hlists.sublist hsub⟩

/-- A paragraph and a division, each closed by the other's tag, around the text `a<b`. -/
def crossedPage : List Token :=
  [.tag ['p'], .char 'a', .tag ['d', 'i', 'v'], .char '<', .tag ['/', 'p'], .char 'b',
    .tag ['/', 'd', 'i', 'v']]

theorem crossedPage_keeps_letters :
    ∃ nodes text, (convert (.atMost 2) (writeTokens crossedPage)).run.value = .ok ⟨nodes, false⟩ ∧
      content (writeTokens crossedPage) = .ok text ∧
      (letters (textsOf nodes)).Sublist (letters text) ∧
      (search (opening? RegionKind.table.tagNames) (writeTokens crossedPage) = none →
        search (opening? RegionKind.list.tagNames) (writeTokens crossedPage) = none →
        letters (textsOf nodes) = letters text) :=
  convert_keeps_letters (by simp [crossedPage, Token.Sound]) (by decide +kernel)
    (by decide +kernel) (by decide +kernel) (by decide)

end Paperwork
