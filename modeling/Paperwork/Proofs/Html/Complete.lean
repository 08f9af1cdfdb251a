/-
Texts whose tags are all complete.

A pattern that looks at single tags answers at a bracket by what stands between it and
the bracket that ends the tag.  If behind every bracket that begins a tag there is one
that ends it, what such a pattern finds in a text does not depend on what follows the
text: it finds what it finds in the text alone, or it finds nothing there and what it
finds behind it.  Unlike a row of parts such a text need not be escaped.
-/
import Paperwork.Proofs.Html.Extent
import Paperwork.Proofs.Html.Visible

namespace Paperwork.Html

open Paperwork.Text

/-! ### Complete tags -/

/-- Behind every bracket of a text that begins a tag there is one that ends it. -/
def Complete (cs : List Char) : Prop := ∀ tail, '<' :: tail <:+ cs → '>' ∈ tail

namespace Complete

theorem plain {cs : List Char} (h : '<' ∉ cs) : Complete cs :=
  fun _ htail => absurd (htail.mem List.mem_cons_self) h

theorem nil : Complete [] := plain List.not_mem_nil

theorem tag (inner : List Char) : Complete ('<' :: (inner ++ ['>'])) := by
  rintro tail ⟨front, hfront⟩
  rw [← List.cons_append] at hfront
  rcases List.eq_nil_or_concat tail with rfl | ⟨more, c, rfl⟩
  · exact absurd (List.append_inj_right' hfront rfl) (by decide)
  · rw [List.concat_eq_append, ← List.cons_append, ← List.append_assoc] at hfront
    rw [List.concat_eq_append, List.append_inj_right' hfront rfl]
    simp

theorem of_suffix {a b : List Char} (h : a <:+ b) (hb : Complete b) : Complete a :=
  fun tail htail => hb tail (htail.trans h)

theorem append {a b : List Char} (ha : Complete a) (hb : Complete b) : Complete (a ++ b) := by
  rintro tail ⟨front, hfront⟩
  rcases List.append_eq_append_iff.mp hfront with ⟨more, rfl, htail⟩ | ⟨more, rfl, rfl⟩
  · cases more with
    | nil => exact hb tail (htail ▸ List.suffix_rfl)
    | cons c more =>
        obtain ⟨rfl, rfl⟩ := List.cons.inj htail
        exact List.mem_append_left b (ha more (List.suffix_append front _))
  · exact hb tail (List.suffix_append more _)

theorem flatMap {ι : Type} {f : ι → List Char} {xs : List ι} (h : ∀ x ∈ xs, Complete (f x)) :
    Complete (xs.flatMap f) := by
  induction xs with
  | nil => exact nil
  | cons x xs ih =>
      obtain ⟨hx, hxs⟩ := List.forall_mem_cons.mp h
      exact hx.append (ih hxs)

theorem writeTokens (ts : List Token) : Complete (writeTokens ts) := by
  refine flatMap fun t _ => ?_
  cases t with
  | char c => exact plain (escapeChar_no_bracket c)
  | tag inner => exact tag inner

/-- Such a text begins with a tag or with something else. -/
theorem cases {cs : List Char} (h : Complete cs) :
    cs.head? ≠ some '<' ∨
      ∃ inner rest, cs = '<' :: (inner ++ '>' :: rest) ∧ '>' ∉ inner := by
  cases cs with
  | nil => exact .inl (by simp)
  | cons c cs =>
      by_cases hc : c = '<'
      · subst hc
        obtain ⟨inner, rest, rfl, hinner⟩ :=
          List.eq_append_cons_of_mem (h cs List.suffix_rfl)
        exact .inr ⟨inner, rest, rfl, hinner⟩
      · exact .inl (by simpa using hc)

end Complete

/-! ### Patterns -/

section Patterns

variable {α β : Type} {p : List Char → Option α} {inside : List Char → Option β}
  {answer : β → List Char → α}

/-- What follows a text does not matter to a pattern that answers at its front. -/
theorem ReadsTags.append_eq_none (hp : ReadsTags p inside answer) {cs : List Char}
    (h : Complete cs) (hne : cs ≠ []) (more : List Char) :
    p (cs ++ more) = none ↔ p cs = none := by
  rcases h.cases with hhead | ⟨inner, rest, rfl, hinner⟩
  · obtain ⟨c, cs, rfl⟩ := List.exists_cons_of_ne_nil hne
    exact iff_of_true (hp.onlyAtTags _ hhead) (hp.onlyAtTags _ hhead)
  · rw [List.cons_append, List.append_assoc, List.cons_append, hp.atTag inner _ hinner,
      hp.atTag inner _ hinner, Option.map_eq_none_iff, Option.map_eq_none_iff]

/-- A text in which a pattern answers nowhere is passed over. -/
theorem ReadsTags.search_behind (hp : ReadsTags p inside answer) {front : List Char}
    (h : Complete front) (hnone : search p front = none) (cs : List Char) :
    search p (front ++ cs) = (search p cs).map fun (before, a) => (front ++ before, a) := by
  refine Text.search_append fun tail hne htail => ?_
  exact (hp.append_eq_none (h.of_suffix htail) hne cs).mpr (search_eq_none.mp hnone tail htail)

theorem ReadsTags.search_append_eq_none (hp : ReadsTags p inside answer) {a b : List Char}
    (h : Complete a) (ha : search p a = none) (hb : search p b = none) :
    search p (a ++ b) = none := by
  rw [hp.search_behind h ha, hb, Option.map_none]

theorem ReadsTags.search_flatMap_eq_none {ι : Type} (hp : ReadsTags p inside answer)
    {f : ι → List Char} {xs : List ι} (h : ∀ x ∈ xs, Complete (f x) ∧ search p (f x) = none) :
    search p (xs.flatMap f) = none := by
  induction xs with
  | nil => simp [search, hp.onlyAtTags [] (by simp)]
  | cons x xs ih =>
      obtain ⟨⟨hx, hnone⟩, hxs⟩ := List.forall_mem_cons.mp h
      exact hp.search_append_eq_none hx hnone (ih hxs)

/-- What is found in a text is found there whatever follows it. -/
theorem ReadsTags.search_within (hp : ReadsTags p inside answer) {cs before : List Char} {a : α}
    (h : Complete cs) (hfound : search p cs = some (before, a)) (more : List Char) :
    ∃ b, search p (cs ++ more) = some (before, b) := by
  obtain ⟨rest, rfl, hrest⟩ := search_eq_some hfound
  have hne : rest ≠ [] := by
    rintro rfl
    rw [hp.onlyAtTags [] (by simp)] at hrest
    exact absurd hrest (by simp)
  have hbefore : ∀ tail, tail ≠ [] → tail <:+ before → p (tail ++ (rest ++ more)) = none := by
    rintro tail htail ⟨front, rfl⟩
    have hcomplete : Complete (tail ++ rest) :=
      h.of_suffix ⟨front, (List.append_assoc front tail rest).symm⟩
    rw [← List.append_assoc, hp.append_eq_none hcomplete (by simp [hne])]
    -- An answer here would have been found before the one that was.
    have hlater := search_drop hfound (k := front.length) (by simp)
    rw [List.append_assoc, List.drop_left, List.drop_left] at hlater
    cases hhere : p (tail ++ rest) with
    | none => rfl
    | some b =>
        rw [search_of_some hhere] at hlater
        exact absurd (Prod.mk.inj (Option.some.inj hlater)).1.symm htail
  have hcomplete : Complete rest := h.of_suffix (List.suffix_append before rest)
  obtain ⟨b, hb⟩ := Option.ne_none_iff_exists'.mp
    (mt (hp.append_eq_none hcomplete hne more).mp (by simp [hrest]))
  refine ⟨b, ?_⟩
  rw [List.append_assoc, Text.search_append hbefore, search_of_some hb]
  simp

/-- A tag is found where it is asked for. -/
theorem ReadsTags.search_tag_eq_none (hp : ReadsTags p inside answer) {inner : List Char}
    (hinner : (Token.tag inner).Sound) :
    search p ('<' :: (inner ++ ['>'])) = none ↔ inside inner = none := by
  have hsound : Sound [.tag inner] := by simpa using hinner
  have hsearch := hp.search_writeTokens hsound
  rw [writeTokens_cons, writeTokens_nil, List.append_nil, Token.write] at hsearch
  rw [hsearch, Option.map_eq_none_iff, firstTag_eq_none]
  simp

end Patterns

/-- An opening tag that begins in a text ends in it. -/
theorem Complete.length_of_opening {names : List (List Char)} (hnames : ∀ n ∈ names, '>' ∉ n)
    {front cs : List Char} (h : Complete front) (hne : front ≠ []) {tag : Opening}
    (hopening : opening? names (front ++ cs) = some tag) : tag.length ≤ front.length := by
  have hreads := readsTags_opening hnames
  rcases h.cases with hhead | ⟨inner, rest, rfl, hinner⟩
  · obtain ⟨c, front, rfl⟩ := List.exists_cons_of_ne_nil hne
    rw [hreads.onlyAtTags (c :: front ++ cs) hhead] at hopening
    exact absurd hopening (by simp)
  · rw [List.cons_append, List.append_assoc, List.cons_append,
      hreads.atTag inner _ hinner] at hopening
    obtain ⟨⟨name, attributes⟩, hopens, rfl⟩ := Option.map_eq_some_iff.mp hopening
    rw [Opening.length_of_opens hopens]
    simp only [Token.write, List.length_cons, List.length_append, List.length_nil]
    omega

/-! ### What is shown -/

theorem behind?_append {front cs rest : List Char} (h : behind? front cs = some rest)
    (more : List Char) : behind? front (cs ++ more) = some (rest ++ more) := by
  induction front generalizing cs with
  | nil =>
      obtain rfl := Option.some.inj h
      rfl
  | cons f front ih =>
      cases cs with
      | nil => simp [behind?] at h
      | cons c cs =>
          rw [behind?] at h
          by_cases hc : f = c
          · rw [if_pos hc] at h
            rw [List.cons_append, behind?, if_pos hc, ih h]
          · rw [if_neg hc] at h
            exact absurd h (by simp)

/-- The beginning of a comment is told between the brackets of a tag, too. -/
theorem readsTags_comment : ReadsTags (behind? ['<', '!', '-', '-']) (behind? ['!', '-', '-'])
    fun content rest => content ++ '>' :: rest where
  onlyAtTags cs hcs := by
    cases cs with
    | nil => rfl
    | cons c cs => rw [behind?, if_neg fun h => hcs (by rw [h]; rfl)]
  atTag inner rest _ := by
    rw [behind?, if_pos rfl]
    cases hinner : behind? ['!', '-', '-'] inner with
    | none => exact behind?_stop (by decide) hinner rest
    | some content => exact behind?_append hinner _

/-- A text of complete tags in which nothing begins that is hidden. -/
structure AllShown (cs : List Char) : Prop where
  complete : Complete cs
  noComment : search (behind? ['<', '!', '-', '-']) cs = none
  noHidden : search (opening? hiddenNames) cs = none

namespace AllShown

theorem append {a b : List Char} (ha : AllShown a) (hb : AllShown b) : AllShown (a ++ b) where
  complete := ha.complete.append hb.complete
  noComment := readsTags_comment.search_append_eq_none ha.complete ha.noComment hb.noComment
  noHidden :=
    (readsTags_opening (by decide)).search_append_eq_none ha.complete ha.noHidden hb.noHidden

theorem tag {inner : List Char} (hinner : (Token.tag inner).Sound)
    (hcomment : behind? ['!', '-', '-'] inner = none) (hhidden : opens hiddenNames inner = none) :
    AllShown (Token.tag inner).write where
  complete := .tag inner
  noComment := (readsTags_comment.search_tag_eq_none hinner).mpr hcomment
  noHidden := ((readsTags_opening (by decide)).search_tag_eq_none hinner).mpr hhidden

/-- What is shown stays where it is, whatever stands behind it. -/
theorem visible_append {front : List Char} (h : AllShown front) (cs : List Char) :
    visible (front ++ cs) = front ++ visible cs := by
  refine replaced_append _ (pieces_append fun tail hne htail => ?_)
  have hcomment := search_eq_none.mp h.noComment tail htail
  have hhidden := search_eq_none.mp h.noHidden tail htail
  rcases (h.complete.of_suffix htail).cases with hhead | ⟨inner, rest, rfl, hinner⟩
  · obtain ⟨c, tail, rfl⟩ := List.exists_cons_of_ne_nil hne
    exact onlyAtTags_hidden (c :: tail ++ cs) hhead
  · rw [readsTags_comment.atTag inner rest hinner, Option.map_eq_none_iff] at hcomment
    rw [(readsTags_opening (by decide)).atTag inner rest hinner, Option.map_eq_none_iff] at hhidden
    have hnone := hidden_tag hinner hcomment hhidden (rest ++ cs)
    rwa [List.cons_append, List.append_assoc, List.cons_append]

end AllShown

/-! ### Elements -/

/-- An element as it is written: the tag that opens it, its content, and the tag that
closes it. -/
def enclosed (inner content close : List Char) : List Char :=
  (Token.tag inner).write ++ (content ++ (Token.tag close).write)

theorem enclosed_append (inner content close rest : List Char) :
    enclosed inner content close ++ rest
      = '<' :: (inner ++ '>' :: (content ++ '<' :: (close ++ '>' :: rest))) := by
  simp [enclosed, Token.write]

end Paperwork.Html
