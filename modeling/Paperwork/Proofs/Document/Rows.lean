/-
Rows of parts, and the nodes that they are read as.

A page is read from front to end, and how a row of parts is read depends on what stands
before it only in that a text may reach into it.  No text reaches into a row that begins
with a wrapper or a region.  So `Ready` says of a row, and of the nodes it is read as,
that it is read as these whatever quiet parts stand before it: blanks, and tags at which
nothing opens.  The lemmas put wrappers and regions in front of a row that is ready, and
so a whole page is read from its end to its front.
-/
import Paperwork.Proofs.Document.Front
import Paperwork.Proofs.Html.Markup

namespace Paperwork

open Paperwork.Text
open Paperwork.Html

/-! ### Regions further on -/

theorem RegionKind.regionIn_append {kind : RegionKind} {front : List Token}
    (h : NoTag (opens kind.tagNames) front) (ts : List Token) :
    kind.regionIn (front ++ ts)
      = (kind.regionIn ts).map (Region.shifted (writeTokens front).length) := by
  unfold regionIn
  rw [firstTag_append h]
  cases firstTag (opens kind.tagNames) ts with
  | none => rfl
  | some found =>
      obtain ⟨before, ⟨name, attributes⟩, after⟩ := found
      simp only [Option.map_some, Option.bind_eq_bind, Option.bind_some]
      cases firstTag (wholeTag (closes caseFree (lowerText name))) after with
      | none => rfl
      | some closing =>
          simp only [Option.bind_some, Option.map_some, Region.shifted, writeTokens_append,
            List.length_append, Option.some.injEq, Region.mk.injEq, true_and, and_true, pure]
          omega

/-- A row in which nothing opens moves the next region on. -/
theorem frontLimit_append {front ts : List Token} (hts : Sound (front ++ ts))
    (himages : NoTag (opens RegionKind.image.tagNames) (front ++ ts)) (h : NoRegion front) :
    frontLimit (writeTokens (front ++ ts))
      = (writeTokens front).length + frontLimit (writeTokens ts) := by
  have hregions : (RegionKind.paired.filterMap fun kind => kind.regionIn (front ++ ts))
      = (RegionKind.paired.filterMap fun kind => kind.regionIn ts).map
          (Region.shifted (writeTokens front).length) := by
    rw [List.map_filterMap]
    refine List.filterMap_congr fun kind _ => ?_
    exact kind.regionIn_append (h kind (by cases kind <;> decide)) ts
  have hnext := nextRegion_writeTokens hts himages
  rw [hregions, earliest_shifted, ← nextRegion_writeTokens (sound_append.mp hts).2
    (noTag_append.mp himages).2] at hnext
  rw [frontLimit, hnext, frontLimit]
  cases nextRegion (writeTokens ts) with
  | none => simp
  | some region => rfl

/-! ### Quiet parts -/

/-- A part that is read as nothing: a blank, or a tag at which nothing opens. -/
def Html.Token.Quiet : Token → Prop
  | char c => Text.isBlank c = true
  | tag inner => (tag inner).Sound ∧ opens stopNames inner = none ∧
      ∀ kind ∈ RegionKind.all, opens kind.tagNames inner = none

/-- All parts of a row are quiet. -/
def Quiet (ts : List Token) : Prop := ∀ t ∈ ts, t.Quiet

@[simp] theorem quiet_nil : Quiet [] := by simp [Quiet]

@[simp] theorem quiet_cons {t : Token} {ts : List Token} :
    Quiet (t :: ts) ↔ t.Quiet ∧ Quiet ts := by simp [Quiet]

@[simp] theorem quiet_append {a b : List Token} : Quiet (a ++ b) ↔ Quiet a ∧ Quiet b := by
  simp only [Quiet, List.mem_append]
  exact ⟨fun h => ⟨fun t ht => h t (.inl ht), fun t ht => h t (.inr ht)⟩,
    fun h t ht => ht.elim (h.1 t) (h.2 t)⟩

namespace Quiet

variable {ts : List Token}

theorem sound (h : Quiet ts) : Sound ts := by
  intro t ht
  cases t with
  | char c => trivial
  | tag inner => exact (h _ ht).1

theorem noRegion (h : Quiet ts) : NoRegion ts :=
  fun kind hkind _ hinner => (h _ hinner).2.2 kind hkind

theorem noImage (h : Quiet ts) : NoTag (opens RegionKind.image.tagNames) ts :=
  h.noRegion .image (by decide)

theorem noStop (h : Quiet ts) : NoTag (opens stopNames) ts := fun _ hinner => (h _ hinner).2.1

theorem isBlank_textOf (h : Quiet ts) : ∀ c ∈ textOf ts, isBlank c = true := by
  intro c hc
  obtain ⟨t, ht, hmem⟩ := List.mem_flatMap.mp hc
  cases t with
  | char d =>
      obtain rfl := List.mem_singleton.mp hmem
      exact h _ ht
  | tag inner =>
      rw [Token.text] at hmem
      split at hmem
      · obtain rfl := List.mem_singleton.mp hmem
        decide
      · simp at hmem

theorem dropWhile (h : Quiet ts) : Quiet (ts.dropWhile Token.isBlank) :=
  fun t ht => h t ((List.dropWhile_sublist _).subset ht)

/-- The text of quiet parts has no line that is not blank. -/
theorem visibleLines_textOf (h : Quiet ts) : visibleLines (textOf ts) = [] :=
  visibleLines_of_blank h.isBlank_textOf

theorem paragraphs_textOf (h : Quiet ts) : paragraphs (textOf ts) = [] := by
  refine (joined_eq_nil ['\n'] fun text htext => ?_).mp ?_
  · simpa using (List.mem_filter.mp htext).2
  · rw [joined_paragraphs, h.visibleLines_textOf]
    rfl

end Quiet

/-! ### Where a text ends -/

/-- A row into which no text reaches: it begins with a wrapper or a region, or is empty. -/
def Starts (ts : List Token) : Prop :=
  (∃ inner more, ts = .tag inner :: more ∧ (opens wrapperNames inner).isSome) ∨
    frontLimit (writeTokens ts) = 0

theorem starts_nil : Starts [] := .inr (by decide)

/-- The next region begins behind parts that are none or begin with a wrapper. -/
theorem Starts.exists_ahead {ts : List Token} (h : Starts ts) (hts : Sound ts)
    (himages : NoTag (opens RegionKind.image.tagNames) ts) :
    ∃ upTo after, ts = upTo ++ after ∧
      frontLimit (writeTokens ts) = (writeTokens upTo).length ∧
        (upTo = [] ∨ ∃ inner more, upTo = .tag inner :: more ∧ (opens wrapperNames inner).isSome) := by
  obtain ⟨upTo, after, rfl, hlimit, -⟩ := Paperwork.exists_ahead hts himages
  refine ⟨upTo, after, rfl, hlimit, ?_⟩
  cases upTo with
  | nil => exact .inl rfl
  | cons t upTo =>
      rcases h with ⟨inner, more, heq, hopens⟩ | hzero
      · obtain ⟨rfl, -⟩ := List.cons.inj heq
        exact .inr ⟨inner, upTo, rfl, hopens⟩
      · have := List.length_pos_iff.mpr t.write_ne_nil
        rw [hzero, writeTokens_cons, List.length_append] at hlimit
        omega

theorem opens_stopNames (inner : List Char) :
    opens stopNames inner = (opens wrapperNames inner).or (opens [breakName] inner) :=
  opens_append wrapperNames [breakName] inner

/-- Quiet parts that begin with a tag are read as nothing. -/
theorem readFront_quiet {inner : List Char} {quiet ts : List Token}
    (hquiet : Quiet (.tag inner :: quiet)) (hts : Sound ts)
    (himages : NoTag (opens RegionKind.image.tagNames) ts) (hstarts : Starts ts) :
    (readFront 0 (writeTokens (.tag inner :: quiet ++ ts))
        (nextRegion (writeTokens (.tag inner :: quiet ++ ts)))).answer
      = .ok ([], (writeTokens (.tag inner :: quiet)).length) := by
  have hlimit := frontLimit_append (sound_append.mpr ⟨hquiet.sound, hts⟩)
    (noTag_append.mpr ⟨hquiet.noImage, himages⟩) hquiet.noRegion
  obtain ⟨upTo, after, rfl, hahead, hfront⟩ := hstarts.exists_ahead hts himages
  have hplain : IsPlain (.tag inner) := by
    have hstop := (hquiet _ List.mem_cons_self).2.1
    rw [opens_stopNames, Option.or_eq_none_iff] at hstop
    exact ⟨hstop.2, hstop.1⟩
  have hstop : StartsWithStop upTo := by
    rcases hfront with rfl | ⟨other, more, rfl, hopens⟩
    · exact .inl rfl
    · refine .inr ⟨other, more, rfl, ?_⟩
      rw [opens_stopNames, Option.isSome_or, hopens, Bool.true_or]
  have hbound : frontLimit (writeTokens (.tag inner :: (quiet ++ upTo ++ after)))
      = (writeTokens (.tag inner :: (quiet ++ upTo))).length := by
    rw [List.append_assoc, ← List.cons_append, hlimit, hahead, ← List.cons_append,
      writeTokens_append _ upTo, List.length_append]
  have hread := readFront_upToStop hplain
    (sound_append.mpr ⟨hquiet.sound, (sound_append.mp hts).1⟩)
    (quiet_cons.mp hquiet).2.noStop hstop hbound
  rw [List.append_assoc, hquiet.paragraphs_textOf] at hread
  exact hread

/-! ### Rows that are read -/

/-- A row is read as nodes if there is a step for each of its parts. -/
def Reads (ts : List Token) (nodes : List Node) : Prop :=
  ∀ cap steps, ts.length ≤ steps →
    (scanAnew cap steps (writeTokens (ts.dropWhile Token.isBlank))).answer = .ok nodes

/-- Rows that are the same but for blanks before them are read alike. -/
theorem Reads.of_dropWhile_eq {a b : List Token} {nodes : List Node} (hlength : b.length ≤ a.length)
    (heq : a.dropWhile Token.isBlank = b.dropWhile Token.isBlank) (h : Reads b nodes) :
    Reads a nodes := by
  intro cap steps hsteps
  rw [heq]
  exact h cap steps (hlength.trans hsteps)

/-- The parts that a step reads may stand before a row that is read. -/
theorem Reads.step {t : Token} {front rest : List Token} {nodes more : List Node}
    (ht : t.isBlank = false)
    (hread : (readFront 0 (writeTokens (t :: front ++ rest))
        (nextRegion (writeTokens (t :: front ++ rest)))).answer
      = .ok (nodes, (writeTokens (t :: front)).length))
    (h : Reads rest more) : Reads (t :: front ++ rest) (nodes ++ more) := by
  intro cap steps hsteps
  cases steps with
  | zero => simp at hsteps
  | succ steps =>
      have hrest : rest.length ≤ steps := by
        simp only [List.cons_append, List.length_cons, List.length_append] at hsteps
        omega
      rw [List.cons_append, List.dropWhile_cons_of_neg (by simp [ht]), ← List.cons_append,
        scanAnew_step cap steps (List.cons_ne_nil _ _) hread, h cap steps hrest]
      rfl

/-- A row is read as nodes whatever quiet parts stand before it. -/
structure Ready (ts : List Token) (nodes : List Node) : Prop where
  sound : Sound ts
  noImage : NoTag (opens RegionKind.image.tagNames) ts
  reads : ∀ quiet, Quiet quiet → Reads (quiet ++ ts) nodes

namespace Ready

variable {ts : List Token} {nodes : List Node}

theorem quiet {front : List Token} (hfront : Quiet front) (h : Ready ts nodes) :
    Ready (front ++ ts) nodes where
  sound := sound_append.mpr ⟨hfront.sound, h.sound⟩
  noImage := noTag_append.mpr ⟨hfront.noImage, h.noImage⟩
  reads quiet hquiet := by
    rw [← List.append_assoc]
    exact h.reads _ (quiet_append.mpr ⟨hquiet, hfront⟩)

/-- Into a row that begins with a wrapper or a region no text reaches. -/
theorem of_starts (hts : Sound ts) (himages : NoTag (opens RegionKind.image.tagNames) ts)
    (hstarts : Starts ts) (h : Reads ts nodes) : Ready ts nodes where
  sound := hts
  noImage := himages
  reads quiet hquiet := by
    have hdrop : (quiet ++ ts).dropWhile Token.isBlank
        = if (quiet.dropWhile Token.isBlank).isEmpty then ts.dropWhile Token.isBlank
          else quiet.dropWhile Token.isBlank ++ ts := List.dropWhile_append
    have hquiet' := hquiet.dropWhile
    have hhead := List.head?_dropWhile_not Token.isBlank quiet
    have hlength := (List.dropWhile_sublist (p := Token.isBlank) (l := quiet)).length_le
    revert hdrop hquiet' hhead hlength
    cases quiet.dropWhile Token.isBlank with
    | nil =>
        intro hdrop _ _ _
        exact h.of_dropWhile_eq (by simp) (by simpa using hdrop)
    | cons t rest =>
        intro hdrop hquiet' hhead hlength
        have ht : t.isBlank = false := by simpa using hhead
        cases t with
        | char c => exact absurd (hquiet' _ List.mem_cons_self) (by simpa [Token.Quiet, Token.isBlank] using ht)
        | tag inner =>
            have hstep := Reads.step ht (readFront_quiet hquiet' hts himages hstarts) h
            refine hstep.of_dropWhile_eq ?_ ?_
            · simpa using hlength
            · rw [hdrop]
              rfl

theorem now (h : Ready ts nodes) : Reads ts nodes := h.reads [] quiet_nil

theorem nil : Ready [] [] :=
  of_starts sound_nil noTag_nil starts_nil fun _ _ _ => by simp [scanAnew]

end Ready

/-! ### The tags of written elements -/

theorem RegionKind.tagNames_no_space (kind : RegionKind) : ∀ n ∈ kind.tagNames, ' ' ∉ n := by
  cases kind <;> decide

/-- Closing tags are quiet. -/
theorem quiet_closing {tag : List Char} (htag : tag ∈ elementNames) :
    (Token.tag ('/' :: tag)).Quiet := by
  refine ⟨sound_closing htag, opens_slash (by decide) tag, fun kind _ => opens_slash ?_ tag⟩
  cases kind <;> decide

/-- A wrapper is opened and closed by its tags, which open no region. -/
theorem wrapper_tags : ∀ tag ∈ wrapperNames, tag ∈ elementNames ∧
    opens wrapperNames tag = some (tag, []) ∧ opens [breakName] tag = none ∧
      closes caseFree (lowerText tag) ('/' :: tag) = true ∧
        ∀ kind ∈ RegionKind.all, opens kind.tagNames tag = none := by
  decide

/-- A region is opened and closed by its tags, which open nothing else. -/
theorem region_tags : ∀ kind ∈ RegionKind.paired, ∀ tag ∈ kind.tagNames, tag ∈ elementNames ∧
    opens kind.tagNames tag = some (tag, []) ∧ opens stopNames tag = none ∧
      closes caseFree (lowerText tag) ('/' :: tag) = true ∧
        ∀ other ∈ RegionKind.all, other = kind ∨ opens other.tagNames tag = none := by
  decide

/-! ### Wrappers -/

/-- Parts that may stand in a wrapper: none closes it, and none opens a wrapper or a
region. -/
structure Within (tag : List Char) (ts : List Token) : Prop where
  sound : Sound ts
  noRegion : NoRegion ts
  noWrapper : NoTag (opens wrapperNames) ts
  unclosed : NoTag (wholeTag (closes caseFree (lowerText tag))) ts

theorem within_chars (tag cs : List Char) : Within tag (cs.map .char) where
  sound := sound_chars cs
  noRegion _ _ := noTag_chars cs
  noWrapper := noTag_chars cs
  unclosed := noTag_chars cs

section Wrappers

variable {tag : List Char} {attributes : Attributes} {content rest : List Token}

theorem opens_wrapper (htag : tag ∈ wrapperNames) (attributes : Attributes) :
    opens wrapperNames (tag ++ attributesText attributes) = some (tag, attributesText attributes) :=
  opens_element (by decide) (wrapper_tags tag htag).2.1 attributes

theorem starts_wrapper (htag : tag ∈ wrapperNames) (attributes : Attributes) (ts : List Token) :
    Starts (.tag (tag ++ attributesText attributes) :: ts) :=
  .inl ⟨_, ts, rfl, by rw [opens_wrapper htag]; rfl⟩

theorem noRegion_wrapper (htag : tag ∈ wrapperNames) (attributes : Attributes) {ts : List Token}
    (h : NoRegion ts) : NoRegion (.tag (tag ++ attributesText attributes) :: ts) := by
  intro kind hkind
  refine noTag_tag.mpr ⟨?_, h kind hkind⟩
  exact not_opens_element kind.tagNames_no_space ((wrapper_tags tag htag).2.2.2.2 kind hkind) _

/-- What is unwrapped where a wrapper stands before a row into which no text reaches. -/
theorem unwrap?_element (htag : tag ∈ wrapperNames) (hattributes : attributes.Known)
    {upTo : List Token} (after : List Token) (hts : Sound upTo)
    (hlimit : frontLimit (writeTokens (.tag (tag ++ attributesText attributes) :: (upTo ++ after)))
      = (writeTokens (.tag (tag ++ attributesText attributes) :: upTo)).length) :
    unwrap? (frontLimit (writeTokens (.tag (tag ++ attributesText attributes) :: (upTo ++ after))))
        (writeTokens (.tag (tag ++ attributesText attributes) :: (upTo ++ after)))
      = .ok (match (firstTag (wholeTag (closes caseFree (lowerText tag))) upTo) with
        | some (content, length, _) =>
          if (firstTag (opens wrapperNames) content).isSome
          then some ([], (Token.tag (tag ++ attributesText attributes)).write.length)
          else some ([.paragraph (String.ofList (paragraphText content))
              (hasBoldStyle (attributesText attributes) || isWrappedBold (writeTokens content))],
            (Token.tag (tag ++ attributesText attributes)).write.length
              + (writeTokens content).length + length)
        | none => some ([], (Token.tag (tag ++ attributesText attributes)).write.length)) := by
  obtain ⟨hname, -, hbreak, -, -⟩ := wrapper_tags tag htag
  refine unwrap?_wrapper (sound_opening hname hattributes).2.2 ?_ (opens_wrapper htag _) after hts ?_
  · exact not_opens_element (by decide) hbreak attributes
  · rw [hlimit, writeTokens_cons, List.length_append]
    exact Nat.add_sub_cancel_left ..

/-- **A wrapper that holds text only is read as one paragraph.** -/
theorem Ready.wrapped {more : List Node} (htag : tag ∈ wrapperNames)
    (hattributes : attributes.Known) (hcontent : Within tag content) (h : Ready rest more) :
    Ready (.tag (tag ++ attributesText attributes) :: (content ++ .tag ('/' :: tag) :: rest))
      ([.paragraph (String.ofList (paragraphText content))
        (hasBoldStyle (attributesText attributes) || isWrappedBold (writeTokens content))]
          ++ more) := by
  obtain ⟨hname, -, -, hcloses, -⟩ := wrapper_tags tag htag
  have hclosing := quiet_closing hname
  have hopening := sound_opening hname hattributes
  have hfront : NoRegion (.tag (tag ++ attributesText attributes)
      :: (content ++ [.tag ('/' :: tag)])) := by
    refine noRegion_wrapper htag attributes fun kind hkind => ?_
    simp [hcontent.noRegion kind hkind, hclosing.2.2 kind hkind]
  have hsound : Sound (.tag (tag ++ attributesText attributes)
      :: (content ++ [.tag ('/' :: tag)]) ++ rest) := by
    simp [hopening, hcontent.sound, hclosing.1, h.sound]
  have himages := noTag_append.mpr ⟨hfront .image (by decide), h.noImage⟩
  have hsplit : Token.tag (tag ++ attributesText attributes)
      :: (content ++ .tag ('/' :: tag) :: rest)
      = .tag (tag ++ attributesText attributes) :: (content ++ [.tag ('/' :: tag)]) ++ rest := by
    simp
  rw [hsplit]
  have hlimit := frontLimit_append hsound himages hfront
  refine .of_starts hsound himages (starts_wrapper htag _ _) (Reads.step rfl ?_ h.now)
  obtain ⟨upTo, after, rfl, hahead, -⟩ := exists_ahead h.sound h.noImage
  have hrow : Token.tag (tag ++ attributesText attributes) :: (content ++ [.tag ('/' :: tag)])
      ++ (upTo ++ after)
      = .tag (tag ++ attributesText attributes)
        :: ((content ++ .tag ('/' :: tag) :: upTo) ++ after) := by
    simp
  have hclosed : firstTag (wholeTag (closes caseFree (lowerText tag)))
      (content ++ .tag ('/' :: tag) :: upTo)
      = some (content, (Token.tag ('/' :: tag)).write.length, upTo) := by
    rw [firstTag_append hcontent.unclosed, firstTag_tag (by rw [wholeTag, if_pos hcloses])]
    simp
  have hupTo : Sound (content ++ .tag ('/' :: tag) :: upTo) := by
    simp [hcontent.sound, hclosing.1, (sound_append.mp h.sound).1]
  rw [hrow, hahead] at hlimit
  have hunwrap := unwrap?_element htag hattributes after hupTo (by
    rw [hlimit]
    simp only [writeTokens_cons, writeTokens_append, List.length_append, writeTokens_nil,
      List.length_nil]
    omega)
  rw [hclosed, ← hrow] at hunwrap
  simp only [firstTag_eq_none.mpr hcontent.noWrapper, Option.isSome_none, Bool.false_eq_true,
    if_false] at hunwrap
  rw [readFront_unwrapped hunwrap]
  simp [Nat.add_assoc]

/-- Whatever closes a wrapper behind another one, the other one stands inside. -/
theorem hasWrapper_of_starts {gap upTo inside after : List Token} {n : Nat}
    (hgap : NoTag (wholeTag (closes caseFree (lowerText tag))) gap)
    (hupTo : upTo = [] ∨
      ∃ inner more, upTo = .tag inner :: more ∧ (opens wrapperNames inner).isSome)
    (h : firstTag (wholeTag (closes caseFree (lowerText tag))) (gap ++ upTo)
      = some (inside, n, after)) : (firstTag (opens wrapperNames) inside).isSome := by
  rw [firstTag_append hgap] at h
  rcases hupTo with rfl | ⟨inner, more, rfl, hopens⟩
  · simp [firstTag] at h
  · have hclosed := not_closes_of_opens (by decide) hopens caseFree (lowerText tag)
    simp only [firstTag, wholeTag, hclosed, Bool.false_eq_true, if_false, Option.map_map,
      Option.map_eq_some_iff, Function.comp_apply, Prod.mk.injEq] at h
    obtain ⟨found, -, rfl, -⟩ := h
    refine Option.isSome_iff_ne_none.mpr fun hnone => ?_
    rw [firstTag_eq_none.mp hnone inner (by simp)] at hopens
    simp at hopens

/-- **A wrapper in front of a wrapper or a region is dropped**, and what it holds is read on
its own. -/
theorem Ready.dropped {gap : List Token} {nodes : List Node} (htag : tag ∈ wrapperNames)
    (hattributes : attributes.Known) (hgap : Within tag gap) (hstarts : Starts rest)
    (h : Ready (gap ++ rest) nodes) :
    Ready (.tag (tag ++ attributesText attributes) :: (gap ++ rest)) nodes := by
  have hopening := sound_opening (wrapper_tags tag htag).1 hattributes
  have hfront : NoRegion (.tag (tag ++ attributesText attributes) :: gap) :=
    noRegion_wrapper htag attributes hgap.noRegion
  have hsound : Sound (.tag (tag ++ attributesText attributes) :: gap ++ rest) :=
    sound_cons.mpr ⟨hopening, h.sound⟩
  have hrest := (noTag_append.mp h.noImage).2
  have himages := noTag_append.mpr ⟨hfront .image (by decide), hrest⟩
  have hlimit := frontLimit_append hsound himages hfront
  have hstep : Reads ([Token.tag (tag ++ attributesText attributes)] ++ (gap ++ rest))
      ([] ++ nodes) := by
    refine Reads.step rfl ?_ h.now
    obtain ⟨upTo, after, rfl, hahead, hupTo⟩ :=
      hstarts.exists_ahead (sound_append.mp h.sound).2 hrest
    rw [hahead, List.cons_append, ← List.append_assoc] at hlimit
    have hsoundUpTo : Sound (gap ++ upTo) := by
      simp [hgap.sound, (sound_append.mp (sound_append.mp h.sound).2).1]
    have hunwrap := unwrap?_element htag hattributes after hsoundUpTo (by
      rw [hlimit]
      simp [Nat.add_assoc])
    have hnothing : unwrap?
        (frontLimit (writeTokens (.tag (tag ++ attributesText attributes) :: (gap ++ upTo ++ after))))
        (writeTokens (.tag (tag ++ attributesText attributes) :: (gap ++ upTo ++ after)))
        = .ok (some ([], (Token.tag (tag ++ attributesText attributes)).write.length)) := by
      rw [hunwrap]
      cases hclosed : firstTag (wholeTag (closes caseFree (lowerText tag))) (gap ++ upTo) with
      | none => rfl
      | some found =>
          obtain ⟨inside, n, rest⟩ := found
          simp only [hasWrapper_of_starts hgap.unclosed hupTo hclosed, if_true]
    rw [List.cons_append, List.nil_append, ← List.append_assoc, readFront_unwrapped hnothing]
    simp
  exact .of_starts hsound himages (starts_wrapper htag _ _) hstep

end Wrappers

/-! ### Regions at the front -/

section Regions

variable {kind : RegionKind} {tag : List Char} {attributes : Attributes}
  {content rest : List Token}

/-- Parts that may stand in a region: none closes it, and none is an image. -/
structure Enclosed (tag : List Char) (ts : List Token) : Prop where
  sound : Sound ts
  noImage : NoTag (opens RegionKind.image.tagNames) ts
  unclosed : NoTag (wholeTag (closes caseFree (lowerText tag))) ts

/-- The region that an element is. -/
def RegionKind.element (kind : RegionKind) (tag : List Char) (attributes : Attributes)
    (content : List Token) : Region :=
  kind.written [] (tag ++ attributesText attributes) tag content ('/' :: tag)

theorem nextRegion_element (hkind : kind ∈ RegionKind.paired) (htag : tag ∈ kind.tagNames)
    (hcontent : Enclosed tag content)
    (hts : Sound (.tag (tag ++ attributesText attributes)
      :: (content ++ .tag ('/' :: tag) :: rest)))
    (himages : NoTag (opens RegionKind.image.tagNames)
      (.tag (tag ++ attributesText attributes) :: (content ++ .tag ('/' :: tag) :: rest))) :
    nextRegion (writeTokens (.tag (tag ++ attributesText attributes)
        :: (content ++ .tag ('/' :: tag) :: rest)))
      = some (kind.element tag attributes content) := by
  obtain ⟨-, hopens, -, hcloses, hothers⟩ := region_tags kind hkind tag htag
  have hopening := opens_element kind.tagNames_no_space hopens attributes
  have hclosed : firstTag (wholeTag (closes caseFree (lowerText tag)))
      (content ++ .tag ('/' :: tag) :: rest)
      = some (content, (Token.tag ('/' :: tag)).write.length, rest) := by
    rw [firstTag_append hcontent.unclosed, firstTag_tag (by rw [wholeTag, if_pos hcloses])]
    simp
  have hregion := kind.regionIn_of_first (firstTag_tag hopening _) hopening hclosed
  rw [nextRegion_writeTokens hts himages]
  refine earliest_of_front (List.mem_filterMap.mpr ⟨kind, hkind, hregion⟩) rfl ?_
  intro other hother
  obtain ⟨otherKind, hmem, hfound⟩ := List.mem_filterMap.mp hother
  rcases hothers otherKind (by revert hmem; cases otherKind <;> decide) with rfl | hnone
  · rw [hregion] at hfound
    exact .inl (Option.some.inj hfound).symm
  · have hfront : NoTag (opens otherKind.tagNames) [.tag (tag ++ attributesText attributes)] := by
      simpa using not_opens_element otherKind.tagNames_no_space hnone attributes
    rw [← List.singleton_append, RegionKind.regionIn_append hfront,
      Option.map_eq_some_iff] at hfound
    obtain ⟨further, -, rfl⟩ := hfound
    right
    simp [Region.shifted, Token.write]

/-- A region in front of a row that is ready keeps the row sound and without images. -/
theorem sound_region (hkind : kind ∈ RegionKind.paired) (htag : tag ∈ kind.tagNames)
    (hattributes : attributes.Known) (hcontent : Enclosed tag content) {more : List Node}
    (h : Ready rest more) :
    Sound (.tag (tag ++ attributesText attributes) :: (content ++ .tag ('/' :: tag) :: rest)) ∧
      NoTag (opens RegionKind.image.tagNames)
        (.tag (tag ++ attributesText attributes) :: (content ++ .tag ('/' :: tag) :: rest)) := by
  obtain ⟨hname, -, -, -, hothers⟩ := region_tags kind hkind tag htag
  have hclosing := quiet_closing hname
  have hnone : opens RegionKind.image.tagNames tag = none := by
    refine (hothers .image (by decide)).resolve_left ?_
    rintro rfl
    exact absurd hkind (by decide)
  have hopening := not_opens_element RegionKind.image.tagNames_no_space hnone attributes
  have himage := hclosing.2.2 .image (by decide)
  exact ⟨by simp [sound_opening hname hattributes, hcontent.sound, hclosing.1, h.sound],
    by simp [hopening, hcontent.noImage, himage, h.noImage]⟩

theorem starts_region (hkind : kind ∈ RegionKind.paired) (htag : tag ∈ kind.tagNames)
    (hattributes : attributes.Known) (hcontent : Enclosed tag content) {more : List Node}
    (h : Ready rest more) :
    Starts (.tag (tag ++ attributesText attributes) :: (content ++ .tag ('/' :: tag) :: rest)) := by
  obtain ⟨hsound, himages⟩ := sound_region hkind htag hattributes hcontent h
  right
  rw [frontLimit, nextRegion_element hkind htag hcontent hsound himages]
  rfl

/-- **A region in front of a row is read on its own.** -/
theorem Ready.region {nodes more : List Node} (hkind : kind ∈ RegionKind.paired)
    (htag : tag ∈ kind.tagNames) (hattributes : attributes.Known)
    (hcontent : Enclosed tag content)
    (hnodes : (kind.element tag attributes content).nodes.answer = .ok nodes)
    (h : Ready rest more) :
    Ready (.tag (tag ++ attributesText attributes) :: (content ++ .tag ('/' :: tag) :: rest))
      (nodes ++ more) := by
  obtain ⟨hsound, himages⟩ := sound_region hkind htag hattributes hcontent h
  have hstarts := starts_region hkind htag hattributes hcontent h
  obtain ⟨hname, -, hstop, -, -⟩ := region_tags kind hkind tag htag
  rw [opens_stopNames, Option.or_eq_none_iff] at hstop
  have hread := readFront_region (nextRegion_element hkind htag hcontent hsound himages) rfl
    (unwrap?_of_not_opens 0 (sound_opening hname hattributes).2.2
      (not_opens_element (by decide) hstop.2 attributes)
      (not_opens_element (by decide) hstop.1 attributes) _) hnodes
  have hrow : Token.tag (tag ++ attributesText attributes)
      :: (content ++ .tag ('/' :: tag) :: rest)
      = .tag (tag ++ attributesText attributes) :: (content ++ [.tag ('/' :: tag)]) ++ rest := by
    simp
  refine .of_starts hsound himages hstarts ?_
  rw [hrow] at hread ⊢
  exact Reads.step rfl hread h.now

end Regions

end Paperwork
