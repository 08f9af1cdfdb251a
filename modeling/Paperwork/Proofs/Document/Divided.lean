/-
What a page is divided into.

If every region of a page is closed, the page is a row of regions with gaps between them, and
reading it makes of each region what the region is and paragraphs of everything else: no step
that begins in a gap reaches past its end, however wrappers and line breaks stand there.  So
the nodes of a page that are no paragraphs are those of its regions, one after the other, and
the page fails to be read exactly if one of its regions does.
-/
import Paperwork.Proofs.Document.Scaffold
import Paperwork.Proofs.Document.Tables

namespace Paperwork

open Paperwork.Text
open Paperwork.Html

/-! ### Tags of regions -/

/-- The names of the tags that open a region of any kind. -/
def regionNames : List (List Char) := RegionKind.all.flatMap RegionKind.tagNames

theorem exists_kind_of_opens {inner : List Char} {na : List Char × List Char}
    (h : opens regionNames inner = some na) :
    ∃ kind : RegionKind, opens kind.tagNames inner = some na := by
  have hsplit : regionNames = RegionKind.table.tagNames ++ (RegionKind.heading.tagNames
      ++ (RegionKind.list.tagNames ++ RegionKind.image.tagNames)) := rfl
  rw [hsplit, opens_append, opens_append, opens_append, Option.or_eq_some_iff,
    Option.or_eq_some_iff, Option.or_eq_some_iff] at h
  rcases h with h | ⟨-, h | ⟨-, h | ⟨-, h⟩⟩⟩
  · exact ⟨.table, h⟩
  · exact ⟨.heading, h⟩
  · exact ⟨.list, h⟩
  · exact ⟨.image, h⟩

namespace NoRegion

variable {ts : List Token}

theorem of_noTag (h : NoTag (opens regionNames) ts) : NoRegion ts := by
  intro kind hkind inner hinner
  by_contra hopens
  have hmore := opens_mono (fun n hn => List.mem_flatMap.mpr ⟨kind, hkind, hn⟩)
    (Option.isSome_iff_ne_none.mpr hopens)
  rw [← regionNames, h inner hinner] at hmore
  exact absurd hmore (by simp)

theorem search_eq_none (h : NoRegion ts) (hts : Sound ts) (kind : RegionKind) :
    search (opening? kind.tagNames) (writeTokens ts) = none :=
  (noTag_of_search kind.tagNames_no_bracket hts).mpr (h kind (by cases kind <;> decide))

theorem sublist {less : List Token} (h : NoRegion ts) (hsub : less.Sublist ts) : NoRegion less :=
  fun kind hkind => NoTag.sublist hsub (h kind hkind)

end NoRegion

/-! ### Regions and gaps -/

/-- Parts of a page that are read as a region wherever they stand. -/
structure StandsAs (part : List Token) (region : Region) : Prop where
  begins : ∃ inner more, part = .tag inner :: more ∧ IsPlain (.tag inner)
  next : ∀ rest, nextRegion (writeTokens (part ++ rest)) = some region
  start : region.start = 0
  stop : region.stop = (writeTokens part).length

/-- A page is divided into regions, with gaps in front of them and behind the last. -/
inductive Divided : List Token → List Region → Prop
  | gap {ts : List Token} (h : NoRegion ts) : Divided ts []
  | region {gap part rest : List Token} {region : Region} {regions : List Region}
      (hgap : NoRegion gap) (hpart : StandsAs part region)
      (hrest : Divided rest regions) : Divided (gap ++ (part ++ rest)) (region :: regions)

namespace StandsAs

variable {part : List Token} {region : Region}

theorem distance (h : StandsAs part region) (rest : List Token) :
    distance (writeTokens (part ++ rest)) (nextRegion (writeTokens (part ++ rest))) = 0 := by
  rw [h.next]
  exact h.start

theorem dropWhile (h : StandsAs part region) (rest : List Token) :
    (part ++ rest).dropWhile Token.isBlank = part ++ rest := by
  obtain ⟨inner, more, rfl, -⟩ := h.begins
  exact List.dropWhile_cons_of_neg (by simp [Token.isBlank])

/-- A region at the front is read as such. -/
theorem readFront (h : StandsAs part region) {rest : List Token} (hts : Sound (part ++ rest)) :
    (readFront 0 (writeTokens (part ++ rest)) (nextRegion (writeTokens (part ++ rest)))).answer
      = region.nodes.answer.map fun nodes => (nodes, (writeTokens part).length) := by
  have hunwrap : unwrap? 0 (writeTokens (part ++ rest)) = .ok none := by
    obtain ⟨inner, more, rfl, hplain⟩ := h.begins
    exact unwrap?_of_isPlain 0 (sound_cons.mp hts).1 hplain _
  rw [← h.stop]
  simp only [Paperwork.readFront, h.next, h.start, Nat.sub_zero, hunwrap, if_true,
    Reading.answer_bind, Reading.answer_ofText_ok, ok_bind]
  cases region.nodes.answer <;> rfl

end StandsAs

theorem Divided.of_nil {regions : List Region} (h : Divided [] regions) : regions = [] := by
  generalize hts : ([] : List Token) = ts at h
  cases h with
  | gap _ => rfl
  | region _ hpart _ =>
      obtain ⟨inner, more, rfl, -⟩ := hpart.begins
      exact absurd hts (by simp)

/-- Blanks at the front of a page do not matter. -/
theorem Divided.dropWhile {ts : List Token} {regions : List Region} (h : Divided ts regions) :
    Divided (ts.dropWhile Token.isBlank) regions := by
  cases h with
  | gap h => exact .gap (h.sublist (List.dropWhile_sublist _))
  | region hgap hpart hrest =>
      rw [dropWhile_append_front _ (hpart.dropWhile _)]
      exact .region (hgap.sublist (List.dropWhile_sublist _)) hpart hrest

/-! ### Steps -/

theorem writeTokens_eq_nil {ts : List Token} : writeTokens ts = [] ↔ ts = [] := by
  cases ts with
  | nil => simp
  | cons t ts => simp [t.write_ne_nil]

/-- A step that begins in a gap ends in it, and makes paragraphs. -/
theorem readFront_gap {gap after : List Token} (hts : Sound (gap ++ after)) (hne : gap ≠ [])
    (hgap : NoRegion gap)
    (hafter : distance (writeTokens after) (nextRegion (writeTokens after)) = 0) :
    ∃ front rest nodes, gap = front ++ rest ∧ front ≠ [] ∧
      (readFront 0 (writeTokens (gap ++ after)) (nextRegion (writeTokens (gap ++ after)))).answer
        = .ok (nodes, (writeTokens front).length) ∧ ∀ node ∈ nodes, node.IsParagraph := by
  have hdistance := distance_gap (.writeTokens gap)
    (hgap.search_eq_none (sound_append.mp hts).1) (writeTokens after)
  rw [hafter, Nat.add_zero, ← writeTokens_append] at hdistance
  obtain ⟨front, rest, nodes, hsplit, hfront, hread, -⟩ : FrontKept (gap ++ after) := by
    obtain ⟨t, upTo, rfl⟩ := List.exists_cons_of_ne_nil hne
    exact frontKept_ahead hts hdistance
  have hwritten : writeTokens gap ≠ [] := mt writeTokens_eq_nil.mp hne
  have hreads := readFront_eq_ok hread
  rw [writeTokens_append] at hreads hdistance
  obtain ⟨hle, hparagraphs⟩ := hreads.before_region (.writeTokens gap) hwritten hdistance
  rcases List.append_eq_append_iff.mp hsplit with ⟨more, rfl, -⟩ | ⟨more, rfl, -⟩
  · -- what was read does not end behind the gap
    have hmore : writeTokens more = [] := by
      rw [writeTokens_append, List.length_append] at hle
      exact List.length_eq_zero_iff.mp (by omega)
    obtain rfl := writeTokens_eq_nil.mp hmore
    exact ⟨gap, [], nodes, by simp, hne, by simpa using hread, hparagraphs⟩
  · exact ⟨front, more, nodes, rfl, hfront, hread, hparagraphs⟩

/-- What the steps behind a step note is noted. -/
theorem scanAnew_step_notes {cap : Int} {steps : Nat} {front rest : List Token}
    {nodes : List Node} (hfront : front ≠ [])
    (hread : (readFront 0 (writeTokens (front ++ rest))
        (nextRegion (writeTokens (front ++ rest)))).answer
      = .ok (nodes, (writeTokens front).length)) {p : Notice → Prop}
    (hnotes : (scanAnew cap (steps + 1) (writeTokens (front ++ rest))).Notes p) :
    (scanAnew cap steps (writeTokens (rest.dropWhile Token.isBlank))).Notes p := by
  have hpos : 0 < (writeTokens front).length :=
    List.length_pos_iff.mpr (mt writeTokens_eq_nil.mp hfront)
  have hne : writeTokens (front ++ rest) ≠ [] := by
    rw [ne_eq, writeTokens_eq_nil]
    simp [hfront]
  rw [scanAnew] at hnotes
  · have hmore := hnotes.of_bind hread
    simp only [passed_of_pos hpos, Reading.pure_bind, ← List.drop_drop, drop_takeWhile_length]
      at hmore
    rw [writeTokens_append, List.drop_left, dropWhile_isBlank_writeTokens] at hmore
    exact hmore.of_bind_left
  · exact hne

theorem scanAnew_of_error {cap : Int} {steps : Nat} {cs : List Char} {cause : ReadingError}
    (hcs : cs ≠ []) (hread : (readFront 0 cs (nextRegion cs)).answer = .error cause) :
    (scanAnew cap (steps + 1) cs).answer = .error cause := by
  rw [scanAnew]
  · rw [Reading.answer_bind, hread]
    rfl
  · exact hcs

/-! ### All steps -/

instance : DecidablePred Node.IsParagraph
  | .paragraph _ _ => isTrue trivial
  | .heading _ _ => isFalse id
  | .listItem _ _ _ => isFalse id
  | .table _ => isFalse id
  | .image _ _ => isFalse id

/-- The nodes that are no paragraphs. -/
def nonParagraphs (nodes : List Node) : List Node := nodes.filter fun node => ¬ node.IsParagraph

theorem nonParagraphs_append (nodes more : List Node) :
    nonParagraphs (nodes ++ more) = nonParagraphs nodes ++ nonParagraphs more :=
  List.filter_append nodes more

theorem nonParagraphs_of_isParagraph {nodes : List Node} (h : ∀ node ∈ nodes, node.IsParagraph) :
    nonParagraphs nodes = [] := by
  rw [nonParagraphs, List.filter_eq_nil_iff]
  intro node hnode
  simp [h node hnode]

/-- Reading answers nodes that are those of regions but for paragraphs, or both fail. -/
abbrev ReadsLike (read : Except ReadingError (List Node)) (regions : List Region) : Prop :=
  Agree (fun nodes made => nonParagraphs nodes = nonParagraphs made.flatten) read
    (regions.mapM fun region => region.nodes.answer)

/-- Where a step begins in a gap, what is left is read like what was there. -/
theorem ReadsLike.of_gap {cap : Int} {steps : Nat} {p : Notice → Prop} {gap after : List Token}
    {regions : List Region} (hne : gap ≠ []) (hgap : NoRegion gap)
    (hts : Sound (gap ++ after)) (hblank : after.dropWhile Token.isBlank = after)
    (hafter : distance (writeTokens after) (nextRegion (writeTokens after)) = 0)
    (hnotes : (scanAnew cap (steps + 1) (writeTokens (gap ++ after))).Notes p)
    (hmore : ∀ less, NoRegion less → Sound (less ++ after) →
      (scanAnew cap steps (writeTokens (less ++ after))).Notes p →
      ReadsLike (scanAnew cap steps (writeTokens (less ++ after))).answer regions) :
    ReadsLike (scanAnew cap (steps + 1) (writeTokens (gap ++ after))).answer regions := by
  obtain ⟨front, rest, nodes, rfl, hfront, hread, hparagraphs⟩ :=
    readFront_gap hts hne hgap hafter
  have hless : NoRegion (rest.dropWhile Token.isBlank) :=
    hgap.sublist ((List.dropWhile_sublist _).trans (List.sublist_append_right _ _))
  rw [List.append_assoc] at hread hnotes hts ⊢
  have hbehind : Sound (rest.dropWhile Token.isBlank ++ after) :=
    (sound_append.mp hts).2.sublist ((List.dropWhile_sublist _).append (List.Sublist.refl _))
  have hrest := scanAnew_step_notes hfront hread hnotes
  rw [dropWhile_append_front _ hblank] at hrest
  rw [scanAnew_step cap steps hfront hread, dropWhile_append_front _ hblank]
  refine (hmore _ hless hbehind hrest).map_left fun more made heq => ?_
  rw [nonParagraphs_append, nonParagraphs_of_isParagraph hparagraphs, List.nil_append, heq]

/-- A step reads a region at the front, and what is behind it is left. -/
theorem ReadsLike.of_region {cap : Int} {steps : Nat} {p : Notice → Prop} {part rest : List Token}
    {region : Region} {regions : List Region} (hpart : StandsAs part region)
    (hts : Sound (part ++ rest))
    (hnotes : (scanAnew cap (steps + 1) (writeTokens (part ++ rest))).Notes p)
    (hmore : (scanAnew cap steps (writeTokens (rest.dropWhile Token.isBlank))).Notes p →
      ReadsLike (scanAnew cap steps (writeTokens (rest.dropWhile Token.isBlank))).answer regions) :
    ReadsLike (scanAnew cap (steps + 1) (writeTokens (part ++ rest))).answer
      (region :: regions) := by
  have hread := hpart.readFront hts
  have hne : part ≠ [] := by
    obtain ⟨inner, more, rfl, -⟩ := hpart.begins
    exact List.cons_ne_nil _ _
  rw [ReadsLike, List.mapM_cons]
  cases hnodes : region.nodes.answer with
  | error cause =>
      rw [hnodes] at hread
      rw [scanAnew_of_error (mt writeTokens_eq_nil.mp (by simp [hne])) hread]
      exact .fails
  | ok made =>
      rw [hnodes] at hread
      rw [scanAnew_step cap steps hne hread]
      refine (hmore (scanAnew_step_notes hne hread hnotes)).map fun nodes others heq => ?_
      rw [nonParagraphs_append, heq, List.flatten_cons, nonParagraphs_append]

/-- **A page that is divided into regions is read like these.** -/
theorem Divided.readsLike {ts : List Token} {regions : List Region} (h : Divided ts regions)
    (hts : Sound ts) (cap : Int) (steps : Nat)
    (hnotes : (scanAnew cap steps (writeTokens ts)).Notes fun notice =>
      ∀ limit, notice ≠ .capReached limit) :
    ReadsLike (scanAnew cap steps (writeTokens ts)).answer regions := by
  induction steps generalizing ts regions with
  | zero =>
      by_cases hne : ts = []
      · subst hne
        obtain rfl := h.of_nil
        exact .answers rfl
      · obtain ⟨c, cs, hcs⟩ := List.exists_cons_of_ne_nil (mt writeTokens_eq_nil.mp hne)
        rw [hcs] at hnotes
        exact absurd rfl (hnotes (.capReached cap) List.mem_cons_self cap)
  | succ steps ih =>
      cases h with
      | gap hgap =>
          by_cases hne : ts = []
          · subst hne
            exact .answers rfl
          · rw [← List.append_nil ts] at hnotes hts ⊢
            refine .of_gap hne hgap hts rfl rfl hnotes fun less hless => ?_
            rw [List.append_nil]
            exact ih (.gap hless)
      | @region gap part rest region regions hgap hpart hrest =>
          by_cases hne : gap = []
          · subst hne
            rw [List.nil_append] at hnotes hts ⊢
            have hsound := (sound_append.mp hts).2
            exact .of_region hpart hts hnotes
              (ih hrest.dropWhile (hsound.sublist (List.dropWhile_sublist _)))
          · exact .of_gap hne hgap hts (hpart.dropWhile rest) (hpart.distance rest) hnotes
              fun less hless => ih (.region hless hpart hrest)

/-- A page that is read to its end is read like the regions it is divided into. -/
theorem Divided.readsLike_page {ts : List Token} {regions : List Region}
    (h : Divided (trimmedTokens ts) regions) (hts : Sound ts)
    (hshown : AllShown (writeTokens ts)) {cap : Cap} (hcap : cap.Suffices (writeTokens ts)) :
    ReadsLike (scanPage cap (writeTokens ts)).run.value regions := by
  obtain ⟨husable, hnotes⟩ := hcap
  obtain ⟨limit, steps, hscan⟩ := scanPage_eq husable (writeTokens ts)
  have hread : scanPage cap (writeTokens ts)
      = scanAnew limit steps (writeTokens (trimmedTokens ts)) := by
    rw [hscan, ← readText_writeTokens hshown]
    rfl
  rw [hread] at hnotes ⊢
  exact h.readsLike (hts.sublist (trimmedTokens_sublist ts)) limit steps hnotes

end Paperwork
