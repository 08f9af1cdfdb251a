/-
What stands at the front of a written page.

A page made of escaped text and complete tags is cut at its tags only, whatever reads its
front: a wrapper with its closing tag, an opening tag alone, a region, or text up to the
next of these.  Each is given here as a row of parts, and one step of reading is passing
that row and the blanks behind it.
-/
import Paperwork.Proofs.Answers
import Paperwork.Proofs.Document.Candidates
import Paperwork.Proofs.Html.Blank
import Paperwork.Proofs.Html.Element

namespace Paperwork

open Paperwork.Text
open Paperwork.Html

/-! ### What reading answers -/

namespace Reading

variable {α β : Type}

/-- What reading answers, its notices aside. -/
def answer (x : Reading α) : Except ReadingError α := x.run.value

@[simp] theorem answer_pure (a : α) : (pure a : Reading α).answer = .ok a := rfl

@[simp] theorem answer_bind (x : Reading α) (f : α → Reading β) :
    (x >>= f).answer = x.answer >>= fun a => (f a).answer := Noted.value_bind x f

@[simp] theorem answer_ofText_ok (a : α) : (ofText (.ok a)).answer = .ok a := rfl

@[simp] theorem answer_note (notice : Notice) : (note notice).answer = .ok () := rfl

end Reading

/-! ### Regions -/

/-- The first region of a kind in a row of parts. -/
def RegionKind.regionIn (kind : RegionKind) (ts : List Token) : Option Region := do
  let (before, (name, attributes), after) ← firstTag (opens kind.tagNames) ts
  let (content, length, _) ← firstTag (wholeTag (closes caseFree (lowerText name))) after
  let start := (writeTokens before).length
  let tag : Opening := ⟨name, attributes, writeTokens after⟩
  return ⟨kind, start, start + tag.length + (writeTokens content).length + length, name, tag.text,
    writeTokens content⟩

theorem RegionKind.tagNames_no_bracket (kind : RegionKind) : ∀ n ∈ kind.tagNames, '>' ∉ n := by
  cases kind <;> decide

theorem RegionKind.tagNames_no_slash (kind : RegionKind) :
    ∀ n ∈ kind.tagNames, n ≠ [] ∧ '/' ∉ n := by
  cases kind <;> decide

/-- A row in which no region opens. -/
def NoRegion (ts : List Token) : Prop :=
  ∀ kind ∈ RegionKind.all, NoTag (opens kind.tagNames) ts

/-- The closing tag of an opening tag is told by its name. -/
theorem isName_of_opens {names : List (List Char)} {inner name attributes : List Char}
    (hinner : '>' ∉ inner) (hopens : opens names inner = some (name, attributes)) :
    IsName caseFree (lowerText name) := by
  refine isName_caseFree (bracket_not_mem_lowerText fun hmem => hinner ?_)
  rw [opens_eq_some hopens]
  exact List.mem_append_left _ hmem

theorem upToOwnClosing?_writeTokens {names : List (List Char)} {inner name attributes : List Char}
    (hinner : '>' ∉ inner) (hopens : opens names inner = some (name, attributes))
    {ts : List Token} (hts : Sound ts) (rest : List Char) :
    upToOwnClosing? ⟨name, attributes, rest⟩ (writeTokens ts)
      = (firstTag (wholeTag (closes caseFree (lowerText name))) ts).map
          fun (content, length, _) => (writeTokens content, length) := by
  rw [upToOwnClosing?, upToClosing?,
    (readsTags_closing (isName_of_opens hinner hopens)).search_writeTokens hts]

theorem RegionKind.find_writeTokens (kind : RegionKind) (hkind : kind ≠ .image)
    {ts : List Token} (hts : Sound ts) :
    (kind.find 0 (writeTokens ts)).region = kind.regionIn ts := by
  unfold find regionIn
  rw [(readsTags_opening kind.tagNames_no_bracket).search_writeTokens hts]
  cases hfirst : firstTag (opens kind.tagNames) ts with
  | none => rfl
  | some found =>
      obtain ⟨before, ⟨name, attributes⟩, after⟩ := found
      obtain ⟨inner, rfl, hopens⟩ := firstTag_eq_some hfirst
      rw [sound_append, sound_cons] at hts
      have hclosing := upToOwnClosing?_writeTokens hts.2.1.2.2 hopens hts.2.2
        (writeTokens after)
      cases kind <;> simp only [ne_eq, not_true_eq_false] at hkind
      all_goals
        simp only [Option.map_some, hclosing, Nat.zero_add, Option.bind_eq_bind,
          Option.bind_some]
        cases firstTag (wholeTag (closes caseFree (lowerText name))) after <;> rfl

theorem earliest_mem {regions : List Region} {region : Region}
    (h : earliest regions = some region) : region ∈ regions := by
  induction regions with
  | nil => simp [earliest] at h
  | cons first regions ih =>
      rw [earliest] at h
      cases hrest : earliest regions with
      | none =>
          rw [hrest] at h
          simp [Option.some.inj h]
      | some other =>
          simp only [hrest] at h
          by_cases hlt : other.start < first.start
          · rw [if_pos hlt] at h
            exact List.mem_cons_of_mem _ (ih (hrest.trans (by rw [Option.some.inj h])))
          · rw [if_neg hlt] at h
            simp [Option.some.inj h]

/-- A region at the front comes first if no other is there. -/
theorem earliest_of_front {regions : List Region} {region : Region} (h : region ∈ regions)
    (hfront : region.start = 0) (hothers : ∀ other ∈ regions, other = region ∨ 0 < other.start) :
    earliest regions = some region := by
  induction regions with
  | nil => simp at h
  | cons first regions ih =>
      rw [earliest]
      by_cases hmem : region ∈ regions
      · have hrest := ih hmem fun other ho => hothers other (List.mem_cons_of_mem _ ho)
        rcases hothers first List.mem_cons_self with rfl | hlater
        · simp [hrest]
        · simp [hrest, hfront, hlater]
      · obtain rfl : region = first := by
          rcases List.mem_cons.mp h with h | h
          · exact h
          · exact absurd h hmem
        cases earliest regions with
        | none => rfl
        | some other => simp [hfront]

/-- The kinds of regions that are closed by a tag. -/
def RegionKind.paired : List RegionKind := [table, heading, list]

/-- Without images, the next region is the first of the paired ones. -/
theorem nextRegion_writeTokens {ts : List Token} (hts : Sound ts)
    (himages : NoTag (opens RegionKind.image.tagNames) ts) :
    nextRegion (writeTokens ts)
      = earliest (RegionKind.paired.filterMap fun kind => kind.regionIn ts) := by
  have himage : (RegionKind.image.find 0 (writeTokens ts)).region = none := by
    rw [RegionKind.find, (readsTags_opening
      RegionKind.image.tagNames_no_bracket).search_writeTokens hts, firstTag_eq_none.mpr himages]
    rfl
  have htable := RegionKind.find_writeTokens .table (by decide) hts
  have hheading := RegionKind.find_writeTokens .heading (by decide) hts
  have hlist := RegionKind.find_writeTokens .list (by decide) hts
  simp only [nextRegion, RegionKind.all, RegionKind.paired, List.filterMap_cons, himage, htable,
    hheading, hlist, List.filterMap_nil]

/-- A region written behind `before`: its opening tag with the name in it, its content,
and its closing tag. -/
def RegionKind.written (kind : RegionKind) (before : List Token) (inner name : List Char)
    (content : List Token) (close : List Char) : Region where
  kind := kind
  start := (writeTokens before).length
  stop := (writeTokens (before ++ .tag inner :: (content ++ [.tag close]))).length
  name := name
  tag := (Token.tag inner).write
  inner := writeTokens content

theorem RegionKind.regionIn_of_first {kind : RegionKind} {ts before after content rest : List Token}
    {inner name attributes close : List Char}
    (hfirst : firstTag (opens kind.tagNames) ts = some (before, (name, attributes), after))
    (hopens : opens kind.tagNames inner = some (name, attributes))
    (hclosing : firstTag (wholeTag (closes caseFree (lowerText name))) after
      = some (content, (Token.tag close).write.length, rest)) :
    kind.regionIn ts = some (kind.written before inner name content close) := by
  have hlength := Opening.length_of_opens hopens (writeTokens after)
  have htext : (⟨name, attributes, writeTokens after⟩ : Opening).text
      = (Token.tag inner).write := by
    simp [Opening.text, Token.write, opens_eq_some hopens]
  simp only [regionIn, hfirst, hclosing, hlength, htext, written, Option.bind_eq_bind,
    Option.bind_some, Option.some.injEq, Region.mk.injEq, true_and, and_true, writeTokens_append,
    writeTokens_cons, writeTokens_nil, List.length_append, List.length_nil, pure]
  omega

/-- A region in a row of parts is made of parts. -/
theorem RegionKind.regionIn_eq_some {kind : RegionKind} {ts : List Token} {region : Region}
    (h : kind.regionIn ts = some region) :
    ∃ before inner name attributes content close after,
      ts = before ++ .tag inner :: (content ++ .tag close :: after) ∧
        opens kind.tagNames inner = some (name, attributes) ∧
        region = kind.written before inner name content close := by
  cases hfirst : firstTag (opens kind.tagNames) ts with
  | none => simp [regionIn, hfirst] at h
  | some found =>
      obtain ⟨before, ⟨name, attributes⟩, after⟩ := found
      obtain ⟨inner, hparts, hopens⟩ := firstTag_eq_some hfirst
      cases hclosing : firstTag (wholeTag (closes caseFree (lowerText name))) after with
      | none => simp [regionIn, hfirst, hclosing] at h
      | some closing =>
          obtain ⟨content, n, rest⟩ := closing
          obtain ⟨close, rfl, -, rfl⟩ := firstTag_wholeTag hclosing
          rw [regionIn_of_first hfirst hopens hclosing] at h
          exact ⟨before, inner, name, attributes, content, close, rest, hparts, hopens,
            (Option.some.inj h).symm⟩

/-! ### Wrappers -/

theorem hasWrapper_writeTokens {ts : List Token} (hts : Sound ts) :
    hasWrapper (writeTokens ts) = (firstTag (opens wrapperNames) ts).isSome := by
  rw [hasWrapper, (readsTags_tagName (by decide)).search_writeTokens hts, Option.isSome_map]

/-- The content of a wrapper that is closed before the next region, which stands behind
`upTo`. -/
theorem wrapped?_writeTokens {names : List (List Char)} {inner name attributes : List Char}
    (hinner : '>' ∉ inner) (hopens : opens names inner = some (name, attributes))
    {upTo after : List Token} (hts : Sound upTo) :
    wrapped? ⟨name, attributes, writeTokens (upTo ++ after)⟩ (writeTokens upTo).length
      = (firstTag (wholeTag (closes caseFree (lowerText name))) upTo).bind
          fun (content, length, _) =>
            if (firstTag (opens wrapperNames) content).isSome then none
            else some (writeTokens content, length) := by
  rw [wrapped?, writeTokens_append, List.take_left,
    upToOwnClosing?_writeTokens hinner hopens hts]
  cases hfirst : firstTag (wholeTag (closes caseFree (lowerText name))) upTo with
  | none => rfl
  | some found =>
      obtain ⟨content, n, rest⟩ := found
      obtain ⟨close, rfl, -, -⟩ := firstTag_wholeTag hfirst
      simp only [Option.map_some, Option.bind_eq_bind, Option.bind_some,
        hasWrapper_writeTokens (sound_append.mp hts).1]

/-- The paragraphs of written parts, one below the other. -/
def paragraphText (ts : List Token) : List Char := joined ['\n'] (visibleLines (textOf ts))

theorem wrapperNode_writeTokens {content : List Token} (hts : Sound content) (tag : Opening) :
    wrapperNode tag (writeTokens content)
      = .ok (.paragraph (String.ofList (paragraphText content))
          (hasBoldStyle tag.attributes || isWrappedBold (writeTokens content))) := by
  simp only [wrapperNode, contentParagraphs, content_writeTokens hts, bind, Except.bind, pure,
    Except.pure, joined_paragraphs, paragraphText]

theorem opening?_tag {names : List (List Char)} (h : ∀ n ∈ names, '>' ∉ n) {inner : List Char}
    (hinner : '>' ∉ inner) (cs : List Char) :
    opening? names ((Token.tag inner).write ++ cs)
      = (opens names inner).map fun na => ⟨na.1, na.2, cs⟩ :=
  (readsTags_opening h).at_write hinner cs

theorem unwrap?_char (limit : Nat) (c : Char) (cs : List Char) :
    unwrap? limit (escapeChar c ++ cs) = .ok none := by
  rw [unwrap?, (readsTags_opening (by decide)).onlyAtTags.char_none c cs]
  simp only
  rw [(readsTags_opening (by decide)).onlyAtTags.char_none c cs]

theorem unwrap?_of_not_opens (limit : Nat) {inner : List Char} (hinner : '>' ∉ inner)
    (hbreak : opens [breakName] inner = none) (hwrapper : opens wrapperNames inner = none)
    (cs : List Char) : unwrap? limit ((Token.tag inner).write ++ cs) = .ok none := by
  rw [unwrap?, opening?_tag (by decide) hinner, hbreak]
  simp only [Option.map_none]
  rw [opening?_tag (by decide) hinner, hwrapper]
  rfl

theorem unwrap?_break (limit : Nat) {inner : List Char} (hinner : '>' ∉ inner)
    (hbreak : (opens [breakName] inner).isSome) (cs : List Char) :
    unwrap? limit ((Token.tag inner).write ++ cs)
      = .ok (some ([.paragraph "" false], (Token.tag inner).write.length)) := by
  obtain ⟨⟨name, attributes⟩, hopens⟩ := Option.isSome_iff_exists.mp hbreak
  rw [unwrap?, opening?_tag (by decide) hinner, hopens]
  simp only [Option.map_some, Opening.length_of_opens hopens cs]

/-- What a wrapper becomes, with the number of characters read. -/
theorem unwrap?_wrapper {limit : Nat} {inner name attributes : List Char} (hinner : '>' ∉ inner)
    (hbreak : opens [breakName] inner = none)
    (hopens : opens wrapperNames inner = some (name, attributes)) {upTo : List Token}
    (after : List Token) (hts : Sound upTo)
    (hlimit : limit - (Token.tag inner).write.length = (writeTokens upTo).length) :
    unwrap? limit (writeTokens (.tag inner :: (upTo ++ after)))
      = .ok (match (firstTag (wholeTag (closes caseFree (lowerText name))) upTo) with
        | some (content, length, _) =>
          if (firstTag (opens wrapperNames) content).isSome
          then some ([], (Token.tag inner).write.length)
          else some ([.paragraph (String.ofList (paragraphText content))
              (hasBoldStyle attributes || isWrappedBold (writeTokens content))],
            (Token.tag inner).write.length + (writeTokens content).length + length)
        | none => some ([], (Token.tag inner).write.length)) := by
  rw [unwrap?, writeTokens_cons, opening?_tag (by decide) hinner, hbreak]
  simp only [Option.map_none]
  rw [opening?_tag (by decide) hinner, hopens]
  simp only [Option.map_some, Opening.length_of_opens hopens, hlimit,
    wrapped?_writeTokens hinner hopens hts]
  cases hfirst : firstTag (wholeTag (closes caseFree (lowerText name))) upTo with
  | none => rfl
  | some found =>
      obtain ⟨content, n, rest⟩ := found
      obtain ⟨close, rfl, -, -⟩ := firstTag_wholeTag hfirst
      have hcontent : Sound content := (sound_append.mp hts).1
      simp only [Option.bind_some]
      by_cases hwrapper : (firstTag (opens wrapperNames) content).isSome = true
      · simp only [hwrapper, if_true]
      · simp only [hwrapper, Bool.false_eq_true, if_false]
        rw [wrapperNode_writeTokens hcontent]
        rfl

/-! ### Plain text -/

theorem plainLength_writeTokens {t : Token} (ht : t.Sound) {upTo : List Token}
    (after : List Token) (hts : Sound upTo) :
    plainLength (writeTokens (t :: upTo)).length (writeTokens (t :: (upTo ++ after)))
      = match firstTag (opens stopNames) upTo with
        | some (plain, _) => (writeTokens (t :: plain)).length
        | none => (writeTokens (t :: upTo)).length := by
  obtain ⟨c, more, hwrite⟩ := List.exists_cons_of_ne_nil t.write_ne_nil
  have hmore : '<' ∉ more := by
    cases t with
    | char d => exact fun hmem => escapeChar_no_bracket d (by rw [← Token.write, hwrite]; simp [hmem])
    | tag inner =>
        obtain ⟨-, rfl⟩ := List.cons.inj hwrite
        have hopen := ht.2.1
        simp [hopen]
  have htake : ((writeTokens (t :: (upTo ++ after))).take (writeTokens (t :: upTo)).length).drop 1
      = more ++ writeTokens upTo := by
    rw [← List.cons_append, writeTokens_append, List.take_left, writeTokens_cons, hwrite]
    rfl
  have hstops : ReadsTags (tagName? stopNames) (opens stopNames) _ := readsTags_tagName (by decide)
  rw [plainLength, htake, search_append fun _ hne htail =>
    hstops.onlyAtTags.plain_none hmore hne htail _, hstops.search_writeTokens hts]
  cases firstTag (opens stopNames) upTo with
  | none => rfl
  | some found =>
      simp only [Option.map_some, writeTokens_cons, hwrite, List.length_append, List.length_cons]
      omega

theorem inlineText_writeTokens {ts : List Token} (hts : Sound ts) :
    inlineText (writeTokens ts) = .ok (String.ofList (collapsed (textOf ts))) := by
  simp [inlineText, inlineContent, content_writeTokens hts, pure, Except.pure]

theorem paragraphNodes_writeTokens {ts : List Token} (hts : Sound ts) :
    paragraphNodes (writeTokens ts)
      = .ok ((paragraphs (textOf ts)).map fun text => .paragraph (String.ofList text) false) := by
  simp [paragraphNodes, contentParagraphs, content_writeTokens hts, bind, Except.bind, pure,
    Except.pure]

/-! ### Reading the front -/

/-- How far away the next region is, or the end of the text if there is none. -/
def frontLimit (cs : List Char) : Nat :=
  match nextRegion cs with
  | some region => region.start
  | none => cs.length

/-- The next region begins behind some of the parts, or there is none. -/
theorem exists_ahead {ts : List Token} (hts : Sound ts)
    (himages : NoTag (opens RegionKind.image.tagNames) ts) :
    ∃ upTo after, ts = upTo ++ after ∧
      frontLimit (writeTokens ts) = (writeTokens upTo).length ∧
        (upTo ≠ [] ∨ ts = [] ∨ ∃ kind inner name attributes content close rest,
          kind ≠ RegionKind.image ∧ ts = .tag inner :: (content ++ .tag close :: rest) ∧
            opens kind.tagNames inner = some (name, attributes) ∧
            nextRegion (writeTokens ts) = some (kind.written [] inner name content close)) := by
  have hnext := nextRegion_writeTokens hts himages
  cases hfound : nextRegion (writeTokens ts) with
  | none =>
      refine ⟨ts, [], by simp, by simp [frontLimit, hfound], ?_⟩
      by_cases h : ts = []
      · exact .inr (.inl h)
      · exact .inl h
  | some region =>
      obtain ⟨kind, hkind, hregion⟩ := List.mem_filterMap.mp (earliest_mem (hnext ▸ hfound))
      obtain ⟨before, inner, name, attributes, content, close, rest, hparts, hopens, rfl⟩ :=
        kind.regionIn_eq_some hregion
      refine ⟨before, _, hparts, by simp [frontLimit, hfound, RegionKind.written], ?_⟩
      by_cases h : before = []
      · subst h
        refine .inr (.inr ⟨kind, inner, name, attributes, content, close, rest, ?_, hparts,
          hopens, rfl⟩)
        rintro rfl
        simp [RegionKind.paired] at hkind
      · exact .inl h

theorem readFront_unwrapped {cs : List Char} {front : List Node × Nat}
    (h : unwrap? (frontLimit cs) cs = .ok (some front)) :
    (readFront 0 cs (nextRegion cs)).answer = .ok front := by
  unfold frontLimit at h
  revert h
  cases nextRegion cs with
  | none =>
      intro h
      simp only at h
      simp [readFront, h]
  | some region =>
      intro h
      simp only at h
      simp [readFront, h]

theorem readFront_region {cs : List Char} {region : Region} {nodes : List Node}
    (hnext : nextRegion cs = some region) (hstart : region.start = 0)
    (h : unwrap? 0 cs = .ok none) (hnodes : region.nodes.answer = .ok nodes) :
    (readFront 0 cs (nextRegion cs)).answer = .ok (nodes, region.stop) := by
  simp [readFront, hnext, hstart, h, hnodes]

theorem readFront_text {cs : List Char} {nodes : List Node}
    (hlimit : frontLimit cs ≠ 0) (h : unwrap? (frontLimit cs) cs = .ok none)
    (hnodes : paragraphNodes (cs.take (plainLength (frontLimit cs) cs)) = .ok nodes) :
    (readFront 0 cs (nextRegion cs)).answer = .ok (nodes, plainLength (frontLimit cs) cs) := by
  unfold frontLimit at hlimit h hnodes ⊢
  revert hlimit h hnodes
  cases nextRegion cs with
  | none =>
      intro _ h hnodes
      simp only at h hnodes
      simp [readFront, h, hnodes]
  | some region =>
      intro hstart h hnodes
      simp only at h hnodes hstart
      simp [readFront, h, hnodes, hstart]

/-- A part at which nothing is unwrapped. -/
def IsPlain : Token → Prop
  | .char _ => True
  | .tag inner => opens [breakName] inner = none ∧ opens wrapperNames inner = none

theorem unwrap?_of_isPlain (limit : Nat) {t : Token} (ht : t.Sound) (hplain : IsPlain t)
    (cs : List Char) : unwrap? limit (t.write ++ cs) = .ok none := by
  cases t with
  | char c => exact unwrap?_char limit c cs
  | tag inner => exact unwrap?_of_not_opens limit ht.2.2 hplain.1 hplain.2 cs

/-- A row of parts begins with a tag that text stops at, or is empty. -/
def StartsWithStop (ts : List Token) : Prop :=
  ts = [] ∨ ∃ inner more, ts = .tag inner :: more ∧ (opens stopNames inner).isSome

theorem exists_stop (ts : List Token) :
    ∃ plain rest, ts = plain ++ rest ∧ NoTag (opens stopNames) plain ∧ StartsWithStop rest := by
  cases hstop : firstTag (opens stopNames) ts with
  | none => exact ⟨ts, [], by simp, firstTag_eq_none.mp hstop, .inl rfl⟩
  | some found =>
      obtain ⟨plain, na, more⟩ := found
      obtain ⟨inner, rfl, hopens⟩ := firstTag_eq_some hstop
      exact ⟨plain, _, rfl, firstTag_before hstop, .inr ⟨inner, more, rfl, by simp [hopens]⟩⟩

/-- **Text reaches to the next wrapper, line break or region.** -/
theorem readFront_upToStop {t : Token} (hplain : IsPlain t) {plain rest after : List Token}
    (hts : Sound (t :: (plain ++ rest))) (hnone : NoTag (opens stopNames) plain)
    (hrest : StartsWithStop rest)
    (hlimit : frontLimit (writeTokens (t :: (plain ++ rest ++ after)))
      = (writeTokens (t :: (plain ++ rest))).length) :
    (readFront 0 (writeTokens (t :: (plain ++ rest ++ after)))
        (nextRegion (writeTokens (t :: (plain ++ rest ++ after))))).answer
      = .ok ((paragraphs (textOf (t :: plain))).map fun text =>
          .paragraph (String.ofList text) false, (writeTokens (t :: plain)).length) := by
  obtain ⟨ht, hupTo⟩ := sound_cons.mp hts
  have hlength : plainLength (frontLimit (writeTokens (t :: (plain ++ rest ++ after))))
      (writeTokens (t :: (plain ++ rest ++ after))) = (writeTokens (t :: plain)).length := by
    rw [hlimit, plainLength_writeTokens ht after hupTo, firstTag_append hnone]
    rcases hrest with rfl | ⟨inner, more, rfl, hopens⟩
    · simp [firstTag]
    · obtain ⟨na, hna⟩ := Option.isSome_iff_exists.mp hopens
      simp [firstTag_tag hna]
  have hpos : frontLimit (writeTokens (t :: (plain ++ rest ++ after))) ≠ 0 := by
    have := List.length_pos_iff.mpr t.write_ne_nil
    rw [hlimit, writeTokens_cons, List.length_append]
    omega
  have hsound : Sound (t :: plain) := by
    simp only [sound_cons, sound_append] at hts ⊢
    exact ⟨hts.1, hts.2.1⟩
  rw [← hlength]
  refine readFront_text hpos (unwrap?_of_isPlain _ ht hplain _) ?_
  rw [hlength, show t :: (plain ++ rest ++ after) = (t :: plain) ++ (rest ++ after) by simp,
    writeTokens_append, List.take_left, paragraphNodes_writeTokens hsound]

/-! ### One step -/

theorem passed_writeTokens {front : List Token} (hfront : front ≠ []) (rest : List Token) :
    (passed (writeTokens front).length (writeTokens (front ++ rest))).answer
      = .ok (writeTokens (front ++ rest.takeWhile Token.isBlank)).length := by
  obtain ⟨t, more, rfl⟩ := List.exists_cons_of_ne_nil hfront
  have hpos : 0 < t.write.length := List.length_pos_iff.mpr t.write_ne_nil
  have hblanks : ((writeTokens (t :: more ++ rest)).drop (writeTokens (t :: more)).length).takeWhile
      isBlank = writeTokens (rest.takeWhile Token.isBlank) := by
    rw [writeTokens_append, List.drop_left, takeWhile_isBlank_writeTokens]
  rw [passed, hblanks, if_neg]
  · simp [Nat.add_assoc]
  · simp only [writeTokens_cons, List.length_append]
    omega

/-- **A step passes the parts that were read and the blanks behind them.** -/
theorem scanAnew_step (cap : Int) (steps : Nat) {front rest : List Token} {nodes : List Node}
    (hfront : front ≠ [])
    (hread : (readFront 0 (writeTokens (front ++ rest))
        (nextRegion (writeTokens (front ++ rest)))).answer
      = .ok (nodes, (writeTokens front).length)) :
    (scanAnew cap (steps + 1) (writeTokens (front ++ rest))).answer
      = (scanAnew cap steps (writeTokens (rest.dropWhile Token.isBlank))).answer.map
          (nodes ++ ·) := by
  have hsplit : front ++ rest
      = (front ++ rest.takeWhile Token.isBlank) ++ rest.dropWhile Token.isBlank := by
    rw [List.append_assoc, List.takeWhile_append_dropWhile]
  have hdrop : (writeTokens (front ++ rest)).drop
      (writeTokens (front ++ rest.takeWhile Token.isBlank)).length
      = writeTokens (rest.dropWhile Token.isBlank) := by
    rw [hsplit, writeTokens_append _ (rest.dropWhile Token.isBlank), List.drop_left]
  have hne : writeTokens (front ++ rest) ≠ [] := by
    obtain ⟨t, more, rfl⟩ := List.exists_cons_of_ne_nil hfront
    simp [t.write_ne_nil]
  have hpassed := passed_writeTokens hfront rest
  revert hread hdrop hpassed hne
  generalize writeTokens (front ++ rest) = cs
  intro hread hdrop hne hpassed
  rw [scanAnew]
  · simp only [Reading.answer_bind, hread, ok_bind, hpassed, hdrop]
    cases (scanAnew cap steps (writeTokens (rest.dropWhile Token.isBlank))).answer <;> rfl
  · exact fun hnil => hne hnil

end Paperwork
