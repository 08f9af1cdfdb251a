/-
What is left of a page without its hidden parts.

Hidden parts are taken out in one pass from the left, and what stands between them is put
together.  No stretch between them holds a hidden part, since the pass would have stopped
there.  But where two stretches meet, a tag that one begins and the other ends, or the sign
that ends a comment, is made whole, and then the text that is read holds what should have
been taken out.  Where no stretch is torn in this way nothing hidden is left.
-/
import Paperwork.Proofs.Document.Ahead

namespace Paperwork.Html

open Paperwork.Text

/-! ### Hidden parts -/

/-- A part of a page that is hidden as a whole: a comment, or an element that is not shown
from the tag that opens it to one that closes it. -/
inductive Hidden : List Char → Prop
  | comment (content : List Char) :
      Hidden (['<', '!', '-', '-'] ++ (content ++ ['-', '-', '>']))
  | element {inner name attributes content close : List Char} (hinner : '>' ∉ inner)
      (hopens : opens hiddenNames inner = some (name, attributes)) (hclose : '>' ∉ close)
      (hcloses : closes fold name close = true) : Hidden (enclosed inner content close)

/-- The sign that ends a comment. -/
def commentEnd : List Char := ['-', '-', '>']

/-- A comment is hidden if it ends anywhere. -/
theorem hidden_comment {cs : List Char} (h : search (behind? commentEnd) cs ≠ none) :
    hidden (['<', '!', '-', '-'] ++ cs) ≠ none := by
  obtain ⟨found, hfound⟩ := Option.ne_none_iff_exists'.mp h
  have hlength : commentLength? (['<', '!', '-', '-'] ++ cs) = some (7 + found.1.length) := by
    rw [commentLength?, behind?_append_self]
    exact Option.bind_eq_some_iff.mpr
      ⟨cs, rfl, Option.bind_eq_some_iff.mpr ⟨found, hfound, rfl⟩⟩
  rw [hidden, hlength]
  exact Option.some_ne_none _

/-- So is an element that is not shown, if it is closed anywhere. -/
theorem hidden_element {inner name attributes cs : List Char} (hinner : '>' ∉ inner)
    (hopens : opens hiddenNames inner = some (name, attributes))
    (h : search (closingLength? fold name) cs ≠ none) :
    hidden ('<' :: (inner ++ '>' :: cs)) ≠ none := by
  obtain ⟨found, hfound⟩ := Option.ne_none_iff_exists'.mp h
  have hopening : opening? hiddenNames ('<' :: (inner ++ '>' :: cs)) = _ :=
    (readsTags_opening (by decide)).atTag inner cs hinner
  rw [hopens] at hopening
  unfold hidden
  cases commentLength? ('<' :: (inner ++ '>' :: cs)) <;>
    simp [elementAmong, element?, hopening, upToClosing?, hfound]

theorem bracket_not_mem_name {names : List (List Char)} {inner name attributes : List Char}
    (hinner : '>' ∉ inner) (hopens : opens names inner = some (name, attributes)) : '>' ∉ name :=
  fun hmem => hinner (opens_eq_some hopens ▸ List.mem_append_left attributes hmem)

/-- Hidden parts are recognised where they stand. -/
theorem Hidden.found {part : List Char} (h : Hidden part) (more : List Char) :
    hidden (part ++ more) ≠ none := by
  cases h with
  | comment content =>
      rw [List.append_assoc, List.append_assoc]
      exact hidden_comment (search_ne_none (behind?_append_self commentEnd more))
  | @element inner name attributes content close hinner hopens hclose hcloses =>
      have hclosing := readsTags_closing (isName_fold (bracket_not_mem_name hinner hopens))
      have hclosed := hclosing.atTag close more hclose
      rw [wholeTag, if_pos hcloses] at hclosed
      rw [enclosed_append]
      exact hidden_element hinner hopens (search_ne_none hclosed)

/-- What is recognised as hidden is a hidden part. -/
theorem exists_hidden {cs : List Char} (h : hidden cs ≠ none) :
    ∃ part more, cs = part ++ more ∧ Hidden part := by
  unfold hidden at h
  cases hcomment : commentLength? cs with
  | some length =>
      obtain ⟨rest, hrest, hlength⟩ := Option.bind_eq_some_iff.mp hcomment
      obtain ⟨⟨content, more⟩, hsearch, -⟩ := Option.bind_eq_some_iff.mp hlength
      obtain ⟨behind, rfl, hend⟩ := search_eq_some hsearch
      refine ⟨_, more, ?_, .comment content⟩
      rw [behind?_eq_some hrest, behind?_eq_some hend, List.append_assoc, List.append_assoc]
  | none =>
      simp only [hcomment, ne_eq, Option.map_eq_none_iff] at h
      obtain ⟨⟨element, length⟩, helement⟩ := Option.ne_none_iff_exists'.mp h
      obtain ⟨found, hfound, -⟩ := Option.map_eq_some_iff.mp helement
      obtain ⟨tag, hopening, hrest⟩ := Option.bind_eq_some_iff.mp hfound
      obtain ⟨⟨content, n⟩, hclosing, -⟩ := Option.bind_eq_some_iff.mp hrest
      have hend : '>' ∈ cs := by
        rw [opening?_eq_some hopening]
        simp [Opening.text]
      obtain ⟨inner, ⟨name, attributes⟩, rest, rfl, hinner, hopens, rfl⟩ :=
        (readsTags_opening (by decide)).exists_tag hopening hend
      obtain ⟨behind, hbehind, hclosed⟩ := search_eq_some hclosing
      obtain ⟨close, b, more, rfl, hclose, hcloses, -⟩ :=
        (readsTags_closing (isName_fold (bracket_not_mem_name hinner hopens))).exists_tag hclosed
          (bracket_mem_of_closingLength? hclosed)
      refine ⟨enclosed inner content close, more, ?_, .element hinner hopens hclose ?_⟩
      · rw [enclosed_append]
        exact congrArg (fun cs => '<' :: (inner ++ '>' :: cs)) hbehind
      · by_contra hnot
        rw [wholeTag, if_neg hnot] at hcloses
        exact absurd hcloses.symm (Option.some_ne_none _)

/-- No part of a text is hidden. -/
def NoneHidden (cs : List Char) : Prop := ∀ part, Hidden part → ¬ part <:+: cs

theorem noneHidden_iff {cs : List Char} : NoneHidden cs ↔ search hidden cs = none := by
  constructor
  · intro h
    refine search_eq_none.mpr fun tail htail => ?_
    by_contra hsome
    obtain ⟨part, more, rfl, hpart⟩ := exists_hidden hsome
    exact h part hpart ((List.prefix_append part more).isInfix.trans htail.isInfix)
  · rintro h part hpart ⟨front, more, rfl⟩
    rw [List.append_assoc] at h
    exact hpart.found more (search_eq_none.mp h (part ++ more) (List.suffix_append front _))

/-! ### The stretches between hidden parts -/

/-- What is shown of a page is what stands between its hidden parts. -/
theorem visible_eq_flatten (cs : List Char) : visible cs = (between hidden cs).flatten :=
  (flatten_between hidden cs).symm

/-- No hidden part lies within one stretch. -/
theorem noneHidden_of_mem_between {cs stretch : List Char} (h : stretch ∈ between hidden cs) :
    NoneHidden stretch := by
  rintro part hpart ⟨front, back, rfl⟩
  obtain ⟨before, after, hsplit⟩ := List.mem_iff_append.mp h
  obtain ⟨rest, -, hrest⟩ :=
    exists_of_between_suffix (hsplit ▸ List.suffix_append before (_ :: after))
  rw [List.append_assoc] at hrest
  obtain ⟨behind, -, hbehind, -⟩ := exists_of_between_append hrest
  obtain ⟨more, rfl, -, hnone⟩ := exists_of_between_append hbehind
  have hne : part ≠ [] := by
    cases hpart <;> simp [enclosed, Token.write]
  exact hpart.found more (hnone hne)

/-- No stretch but the last is torn: its tags are complete, and it does not end in the middle
of the sign that ends a comment. -/
def Untorn (stretches : List (List Char)) : Prop :=
  ∀ s ∈ stretches.dropLast, Complete s ∧ s.getLast? ≠ some '-'

/-- The sign that ends a comment is not found across the end of a text without a hyphen. -/
theorem search_commentEnd_append {a b : List Char} (h : a.getLast? ≠ some '-')
    (ha : search (behind? commentEnd) a = none) (hb : search (behind? commentEnd) b = none) :
    search (behind? commentEnd) (a ++ b) = none := by
  refine search_eq_none.mpr fun tail htail => ?_
  by_contra hsome
  obtain ⟨rest, hrest⟩ := Option.ne_none_iff_exists'.mp hsome
  obtain rfl := behind?_eq_some hrest
  obtain ⟨front, hfront⟩ := htail
  rcases List.append_eq_append_iff.mp hfront with ⟨more, rfl, hmore⟩ | ⟨more, rfl, rfl⟩
  · change '-' :: '-' :: '>' :: rest = more ++ b at hmore
    -- As many of its characters as the first text has are at the end of that text.
    match more, hmore with
    | [], hmore =>
        have hwhole : commentEnd ++ rest = b := hmore
        rw [search_eq_none.mp hb _ (hwhole ▸ List.suffix_rfl)] at hrest
        exact absurd hrest nofun
    | [c], hmore =>
        simp only [List.cons_append, List.cons.injEq] at hmore
        obtain ⟨rfl, -⟩ := hmore
        simp at h
    | [c, d], hmore =>
        simp only [List.cons_append, List.cons.injEq] at hmore
        obtain ⟨-, rfl, -⟩ := hmore
        simp at h
    | c :: d :: e :: more, hmore =>
        simp only [List.cons_append, List.cons.injEq] at hmore
        obtain ⟨rfl, rfl, rfl, -⟩ := hmore
        exact absurd (search_eq_none.mp ha _ (List.suffix_append front _)) nofun
  · rw [search_eq_none.mp hb _ (List.suffix_append more _)] at hrest
    exact absurd hrest nofun

/-- Behind untorn stretches a comment ends only if it ends in the page. -/
theorem search_commentEnd_between {cs : List Char} {stretches : List (List Char)}
    (h : between hidden cs = stretches) (huntorn : Untorn stretches)
    (hnone : search (behind? commentEnd) cs = none) :
    search (behind? commentEnd) stretches.flatten = none := by
  refine search_between_eq_none (fun s => s.getLast? ≠ some '-') ?_
    (fun a b => search_commentEnd_append) h (fun s hs => (huntorn s hs).2) hnone
  intro a b _ hboth
  refine search_eq_none.mpr fun tail htail => ?_
  by_contra hsome
  obtain ⟨rest, hrest⟩ := Option.ne_none_iff_exists'.mp hsome
  obtain ⟨front, rfl⟩ := htail
  rw [List.append_assoc] at hboth
  exact search_ne_none (behind?_append hrest b) hboth

/-- And a tag stands there only if it stands in the page. -/
theorem search_tag_between {α β : Type} {p : List Char → Option α}
    {inside : List Char → Option β} {answer : β → List Char → α} (hp : ReadsTags p inside answer)
    {cs : List Char} {stretches : List (List Char)} (h : between hidden cs = stretches)
    (huntorn : Untorn stretches) (hnone : search p cs = none) :
    search p stretches.flatten = none := by
  refine search_between_eq_none Complete ?_ (fun a b => hp.search_append_eq_none) h
    (fun s hs => (huntorn s hs).1) hnone
  intro a b ha hboth
  by_contra hsome
  obtain ⟨⟨before, found⟩, hfound⟩ := Option.ne_none_iff_exists'.mp hsome
  obtain ⟨other, hother⟩ := hp.search_within ha hfound b
  rw [hother] at hboth
  exact absurd hboth nofun

namespace Untorn

theorem of_append {front chunk : List Char} {chunks : List (List Char)}
    (h : Untorn ((front ++ chunk) :: chunks)) : Untorn (chunk :: chunks) := by
  cases chunks with
  | nil => exact fun s hs => absurd hs List.not_mem_nil
  | cons t chunks =>
      obtain ⟨⟨hcomplete, hhyphen⟩, hmore⟩ := List.forall_mem_cons.mp h
      refine List.forall_mem_cons.mpr ⟨⟨hcomplete.of_suffix (List.suffix_append _ _), ?_⟩, hmore⟩
      intro hlast
      exact hhyphen (by rw [List.getLast?_append, hlast]; rfl)

theorem of_suffix {chunk : List Char} {chunks stretches : List (List Char)}
    (hsuffix : chunk :: chunks <:+ stretches) (h : Untorn stretches) :
    Untorn (chunk :: chunks) := by
  obtain ⟨before, rfl⟩ := hsuffix
  intro s hs
  refine h s ?_
  rw [List.dropLast_append_of_ne_nil (List.cons_ne_nil chunk chunks)]
  exact List.mem_append_right before hs

section Front

variable {cs chunk t more : List Char} {chunks : List (List Char)}

/-- No comment begins with the rest of a stretch: its sign would stand in that stretch, and
what ends it somewhere in the page. -/
theorem not_comment (huntorn : Untorn (chunk :: t :: chunks))
    (h : between hidden cs = chunk :: t :: chunks) (hne : chunk ≠ []) {content : List Char} :
    chunk ++ (t :: chunks).flatten
      ≠ ['<', '!', '-', '-'] ++ (content ++ ['-', '-', '>']) ++ more := by
  intro hsplit
  rw [List.append_assoc] at hsplit
  obtain ⟨⟨hcomplete, -⟩, -⟩ := List.forall_mem_cons.mp huntorn
  have hbegins : behind? ['<', '!', '-', '-'] chunk ≠ none := by
    intro hnone
    rw [← readsTags_comment.append_eq_none hcomplete hne (t :: chunks).flatten, hsplit,
      behind?_append_self] at hnone
    exact absurd hnone nofun
  obtain ⟨chunk, hchunk⟩ := Option.ne_none_iff_exists'.mp hbegins
  obtain rfl := behind?_eq_some hchunk
  obtain ⟨rest, rfl, hrest, hnone⟩ := exists_of_between_append h
  refine hidden_comment (fun hend => ?_) (hnone (by simp))
  have hnowhere := search_commentEnd_between hrest huntorn.of_append hend
  rw [List.append_assoc] at hsplit
  have hbehind := List.append_cancel_left hsplit
  rw [List.flatten_cons, hbehind, List.append_assoc] at hnowhere
  exact search_ne_none (behind?_append_self commentEnd more) hnowhere

/-- Nor does an element that is not shown: the tag that opens it would be the one at the front
of that stretch, and a tag that closes it would stand somewhere in the page. -/
theorem not_element (huntorn : Untorn (chunk :: t :: chunks))
    (h : between hidden cs = chunk :: t :: chunks) (hne : chunk ≠ [])
    {inner name attributes content close : List Char} (hinner : '>' ∉ inner)
    (hopens : opens hiddenNames inner = some (name, attributes)) (hclose : '>' ∉ close)
    (hcloses : closes fold name close = true) :
    chunk ++ (t :: chunks).flatten ≠ enclosed inner content close ++ more := by
  intro hsplit
  rw [enclosed_append] at hsplit
  obtain ⟨⟨hcomplete, -⟩, -⟩ := List.forall_mem_cons.mp huntorn
  obtain hhead | ⟨own, rest, rfl, hown⟩ := hcomplete.cases
  · obtain ⟨c, chunk, rfl⟩ := List.exists_cons_of_ne_nil hne
    obtain ⟨rfl, -⟩ := List.cons.inj hsplit
    exact hhead rfl
  · rw [List.cons_append, List.append_assoc, List.cons_append] at hsplit
    have hparts := congrArg (upTo? '>') (List.cons.inj hsplit).2
    rw [upTo?_append hown, upTo?_append hinner] at hparts
    obtain ⟨rfl, hbehind⟩ := Prod.mk.inj (Option.some.inj hparts)
    have hfront : '<' :: (own ++ '>' :: rest) = ('<' :: (own ++ ['>'])) ++ rest := by simp
    rw [hfront] at h huntorn
    obtain ⟨following, rfl, hfollowing, hnone⟩ := exists_of_between_append h
    have hclosing := readsTags_closing (isName_fold (bracket_not_mem_name hinner hopens))
    have hclosed := hclosing.atTag close more hclose
    rw [wholeTag, if_pos hcloses] at hclosed
    have hpassed : hidden ('<' :: (own ++ '>' :: following)) = none := by
      simpa using hnone (List.cons_ne_nil _ _)
    refine hidden_element hinner hopens (fun hend => ?_) hpassed
    have hnowhere := search_tag_between hclosing hfollowing huntorn.of_append hend
    rw [List.flatten_cons, hbehind] at hnowhere
    exact search_ne_none hclosed hnowhere

/-- Where the rest of a stretch begins, nothing hidden does, whatever the stretches behind it
add to it. -/
theorem hidden_eq_none (huntorn : Untorn (chunk :: chunks))
    (h : between hidden cs = chunk :: chunks) (hne : chunk ≠ []) :
    hidden (chunk ++ chunks.flatten) = none := by
  by_contra hsome
  cases chunks with
  | nil =>
      obtain ⟨rest, -, hnone⟩ := exists_of_between h
      rw [List.flatten_nil, List.append_nil, ← eq_of_between h] at hsome
      exact hsome (hnone hne)
  | cons t chunks =>
      obtain ⟨part, more, hsplit, hpart⟩ := exists_hidden hsome
      cases hpart with
      | comment content => exact huntorn.not_comment h hne hsplit
      | element hinner hopens hclose hcloses =>
          exact huntorn.not_element h hne hinner hopens hclose hcloses hsplit

end Front

end Untorn

/-- What texts put together end with begins in one of them. -/
theorem exists_of_suffix_flatten {texts : List (List Char)} {tail : List Char} (hne : tail ≠ [])
    (h : tail <:+ texts.flatten) :
    ∃ front text more, text ≠ [] ∧ tail = text ++ more.flatten ∧
      (front ++ text) :: more <:+ texts := by
  induction texts with
  | nil => exact absurd (List.suffix_nil.mp h) hne
  | cons first texts ih =>
      have hlater : tail <:+ texts.flatten → ∃ front text more, text ≠ [] ∧
          tail = text ++ more.flatten ∧ (front ++ text) :: more <:+ first :: texts := by
        intro hlater
        obtain ⟨front, text, more, htext, htail, hsuffix⟩ := ih hlater
        exact ⟨front, text, more, htext, htail, hsuffix.trans (List.suffix_cons first texts)⟩
      obtain ⟨front, hfront⟩ := h
      rw [List.flatten_cons] at hfront
      rcases List.append_eq_append_iff.mp hfront with ⟨text, rfl, htail⟩ | ⟨more, rfl, htail⟩
      · by_cases htext : text = []
        · exact hlater (by rw [htail, htext]; exact List.suffix_rfl)
        · exact ⟨front, text, texts, htext, htail, List.suffix_rfl⟩
      · exact hlater ⟨more, htail.symm⟩

/-- **If no stretch is torn, nothing hidden is left.** -/
theorem noneHidden_visible {cs : List Char} (h : Untorn (between hidden cs)) :
    NoneHidden (visible cs) := by
  rw [noneHidden_iff, visible_eq_flatten]
  refine search_eq_none.mpr fun tail htail => ?_
  by_cases hne : tail = []
  · rw [hne]
    exact onlyAtTags_hidden [] nofun
  · obtain ⟨front, chunk, chunks, hchunk, rfl, hsuffix⟩ := exists_of_suffix_flatten hne htail
    obtain ⟨rest, -, hrest⟩ := exists_of_between_suffix hsuffix
    obtain ⟨behind, -, hbehind, -⟩ := exists_of_between_append hrest
    exact (h.of_suffix hsuffix).of_append.hidden_eq_none hbehind hchunk

/-! ### Taking out once more -/

/-- What is shown is no longer than the page. -/
theorem length_visible_le (cs : List Char) : (visible cs).length ≤ cs.length := by
  induction hn : cs.length using Nat.strong_induction_on generalizing cs with
  | _ n ih =>
      subst hn
      rw [visible_eq_flatten]
      cases cs with
      | nil => exact Nat.le_refl 0
      | cons c cs =>
          cases hp : hidden (c :: cs) with
          | some found =>
              have hshorter := (List.drop_suffix (found.2 - 1) cs).length_le
              have hle := ih _ (Nat.lt_succ_of_le hshorter) _ rfl
              rw [visible_eq_flatten] at hle
              rw [between_cons_of_some hp, List.flatten_cons, List.nil_append, List.length_cons]
              omega
          | none =>
              obtain ⟨chunk, chunks, hrest⟩ := between_eq_cons hidden cs
              have hle := ih _ (Nat.lt_succ_self _) cs rfl
              rw [visible_eq_flatten, hrest] at hle
              rw [between_cons_of_none hp hrest]
              simpa using hle

/-- Nothing is hidden exactly where all is shown. -/
theorem noneHidden_iff_visible {cs : List Char} : NoneHidden cs ↔ visible cs = cs := by
  rw [noneHidden_iff]
  refine ⟨replaced_eq_self _, fun h => ?_⟩
  induction cs with
  | nil => exact onlyAtTags_hidden.search_plain List.not_mem_nil
  | cons c cs ih =>
      rw [visible_eq_flatten] at h
      cases hp : hidden (c :: cs) with
      | some found =>
          -- The text would be shorter than it is.
          rw [between_cons_of_some hp, List.flatten_cons, List.nil_append,
            ← visible_eq_flatten] at h
          have hle := length_visible_le (cs.drop (found.2 - 1))
          have hshorter := (List.drop_suffix (found.2 - 1) cs).length_le
          rw [h, List.length_cons] at hle
          omega
      | none =>
          obtain ⟨chunk, chunks, hrest⟩ := between_eq_cons hidden cs
          rw [between_cons_of_none hp hrest, List.flatten_cons, List.cons_append,
            ← List.flatten_cons, ← hrest, ← visible_eq_flatten] at h
          simp [search, hp, ih (List.cons.inj h).2]

end Paperwork.Html

namespace Paperwork

open Paperwork.Text
open Paperwork.Html

/-- Where nothing hidden is left, a page is converted as its text without hidden parts is. -/
theorem convert_visible {page : List Char} (h : NoneHidden (visible page)) (cap : Cap) :
    convert cap (visible page) = convert cap page := by
  have htwice := noneHidden_iff_visible.mp h
  have hscan : scanPage cap (visible page) = scanPage cap page := by
    unfold scanPage
    rw [htwice]
  have hplain : convertPlainly (visible page) = convertPlainly page := by
    unfold convertPlainly plainNodes plainParagraphs
    rw [htwice]
  unfold convert
  rw [hscan, hplain]

/--
**What is hidden stays out of a page unless a stretch of it is torn.**  What is read of a
page is the stretches between its hidden parts, put together, and no stretch holds a hidden
part.  If each stretch but the last has complete tags and does not end with a hyphen, then
nothing that is read is hidden either.  That is so exactly if taking out what is hidden once
more changes nothing, and then the page is converted as if its hidden parts had never been
there.
-/
theorem visible_noneHidden (page : List Char) :
    visible page = (between Html.hidden page).flatten ∧
      (∀ stretch ∈ between Html.hidden page, NoneHidden stretch) ∧
      (Untorn (between Html.hidden page) → NoneHidden (visible page)) ∧
      (NoneHidden (visible page) ↔ visible (visible page) = visible page) ∧
      (NoneHidden (visible page) → ∀ cap, convert cap (visible page) = convert cap page) :=
  ⟨visible_eq_flatten page, fun _ => noneHidden_of_mem_between, noneHidden_visible,
    noneHidden_iff_visible, convert_visible⟩

/-- A page with a comment and a style between complete tags, and a tag that is not. -/
def styledPage : List Char := "a<p>b <!-- <p> --></p><STYLE>c</style>d <br".toList

theorem styledPage_shown :
    Untorn (between Html.hidden styledPage) ∧ NoneHidden (visible styledPage) ∧
      visible styledPage = "a<p>b </p>d <br".toList ∧
      ∀ cap, convert cap "a<p>b </p>d <br".toList = convert cap styledPage := by
  have hstretches : between Html.hidden styledPage
      = [['a'] ++ ('<' :: (['p'] ++ ['>']) ++ ['b', ' ']), '<' :: (['/', 'p'] ++ ['>']),
        "d <br".toList] := by decide
  have huntorn : Untorn (between Html.hidden styledPage) := by
    rw [hstretches]
    have hfirst : Complete (['a'] ++ ('<' :: (['p'] ++ ['>']) ++ ['b', ' '])) :=
      (Complete.plain (by decide)).append ((Complete.tag ['p']).append (.plain (by decide)))
    refine List.forall_mem_cons.mpr ⟨⟨hfirst, by decide⟩, ?_⟩
    exact List.forall_mem_singleton.mpr ⟨Complete.tag ['/', 'p'], by decide⟩
  obtain ⟨hvisible, -, hnone, -, hconvert⟩ := visible_noneHidden styledPage
  have hshown : visible styledPage = "a<p>b </p>d <br".toList := by
    rw [hvisible, hstretches]
    decide
  exact ⟨huntorn, hnone huntorn, hshown, hshown ▸ hconvert (hnone huntorn)⟩

/-- A script within the tag that opens another one. -/
def tornPage : List Char := "<scr<script></script>ipt>alert(1)</script>".toList

/-- What is taken out may leave an element that should have been taken out. -/
theorem tornPage_leaks :
    visible tornPage = "<script>alert(1)</script>".toList ∧
      Hidden "<script>alert(1)</script>".toList ∧
      (convert Cap.standard tornPage).run.value
        = .ok ⟨[.paragraph "alert(1)" false], false⟩ := by
  have hopens : opens hiddenNames "script".toList = some ("script".toList, []) := by
    decide
  have hscript : Hidden (enclosed "script".toList "alert(1)".toList "/script".toList) :=
    .element (by decide) hopens (by decide) (by decide)
  exact ⟨by decide, hscript, by decide +kernel⟩

end Paperwork
