/-
How plain text stands on pages.

A line of the text is wrapped for itself.  Words are set one after another for as long as they
fit between the margins, so a line that is drawn is too wide only if it is a single word, and
it ends only where the next word would be too much.

The lines that are drawn are then set at fifty places from the top of a page downwards.  The
invariant of that is the place where the next line goes: it says how many lines the page has
already, so every page is full before the next one begins.
-/
import Paperwork.Proofs.Print.Plain

namespace Paperwork.Print

open Paperwork.Text

/-! ### Widths -/

theorem textWidth_eq_sum (cs : List Char) : textWidth cs = (cs.map charWidth).sum := by
  rw [textWidth, List.sum_eq_foldl]
  rfl

theorem textWidth_append (a b : List Char) : textWidth (a ++ b) = textWidth a + textWidth b := by
  rw [textWidth_eq_sum, textWidth_eq_sum, textWidth_eq_sum, List.map_append, List.sum_append]

/-- A word more makes a line wider by a space and the word. -/
theorem textWidth_joined_append {row : List (List Char)} (hrow : row ≠ []) (word : List Char) :
    textWidth (joined [' '] (row ++ [word]))
      = textWidth (joined [' '] row) + charWidth ' ' + textWidth word := by
  have hspace : textWidth [' '] = charWidth ' ' := Nat.zero_add _
  rw [joined_append hrow (by simp), textWidth_append, textWidth_append, hspace]
  rfl

/-! ### Wrapping -/

/-- Words set in rows: a row that has several of them fits between the margins, and a row
ends where its words and the next one would not fit. -/
structure IsFilled (rows : List (List (List Char))) : Prop where
  solid : ∀ row ∈ rows, row ≠ []
  narrow : ∀ row ∈ rows, 1 < row.length → fits (textWidth (joined [' '] row)) = true
  full : rows.IsChain fun row next => ∀ word, next.head? = some word →
    fits (textWidth (joined [' '] row) + charWidth ' ' + textWidth word) = false

/-- Wrapping goes on with a row whose width it knows. -/
theorem isFilled_wrapFrom {row : List (List Char)} {width : Nat} (rest : List (List Char))
    (hrow : row ≠ []) (hwidth : width = textWidth (joined [' '] row))
    (hnarrow : 1 < row.length → fits width = true) :
    IsFilled (wrapFrom row width rest) ∧
      ∃ first more, wrapFrom row width rest = first :: more ∧ first.head? = row.head? := by
  fun_induction wrapFrom row width rest with
  | case1 row width =>
      refine ⟨⟨?_, ?_, .singleton row⟩, row, [], rfl, rfl⟩
      · simpa using hrow
      · simpa [← hwidth] using hnarrow
  | case2 row width word rest wider hfits ih =>
      have hwider : wider = textWidth (joined [' '] (row ++ [word])) := by
        rw [textWidth_joined_append hrow, ← hwidth]
      obtain ⟨hfilled, first, more, hwrap, hhead⟩ := ih (by simp) hwider fun _ => hfits
      refine ⟨hfilled, first, more, hwrap, ?_⟩
      rw [hhead, List.head?_append_of_ne_nil _ hrow]
  | case3 row width word rest wider hfits ih =>
      obtain ⟨hfilled, first, more, hwrap, hhead⟩ :=
        ih (List.cons_ne_nil _ _) rfl fun h => absurd h (by simp)
      refine ⟨⟨?_, ?_, ?_⟩, row, _, rfl, rfl⟩
      · exact List.forall_mem_cons.mpr ⟨hrow, hfilled.solid⟩
      · exact List.forall_mem_cons.mpr ⟨fun h => hwidth ▸ hnarrow h, hfilled.narrow⟩
      · have hfull := hfilled.full
        rw [hwrap] at hfull ⊢
        refine List.isChain_cons_cons.mpr ⟨fun next hnext => ?_, hfull⟩
        obtain rfl : word = next := Option.some.inj (hhead.symm.trans hnext)
        rw [← hwidth]
        exact Bool.not_eq_true _ ▸ hfits

theorem isFilled_wrapWords (ws : List (List Char)) : IsFilled (wrapWords ws) := by
  cases ws with
  | nil => exact ⟨by simp [wrapWords], by simp [wrapWords], .nil⟩
  | cons word rest =>
      exact (isFilled_wrapFrom rest (List.cons_ne_nil _ _) rfl fun h => absurd h (by simp)).1

/-- What a line of a text is drawn as: lines with its words, one space between them, each as
full as it can be.  A blank line leaves a single empty one, any other no empty line at all. -/
structure IsDrawnAs (source : List Char) (drawn : List (List Char)) : Prop where
  words : drawn.flatMap words = words source
  spaced : ∀ line ∈ drawn, collapsed line = line
  blank : (∀ c ∈ source, isBlank c = true) → drawn = [[]]
  solid : (∃ c ∈ source, isBlank c = false) → ∀ line ∈ drawn, line ≠ []
  narrow : ∀ line ∈ drawn, 1 < (Text.words line).length →
    textWidth line * fontSize ≤ available * 1000
  full : drawn.IsChain fun line next => ∀ word, (Text.words next).head? = some word →
    available * 1000 < (textWidth line + charWidth ' ' + textWidth word) * fontSize

/-- A text has words unless it is blank. -/
theorem words_eq_nil {cs : List Char} : words cs = [] ↔ ∀ c ∈ cs, isBlank c = true := by
  rw [← letters_eq_nil, ← letters_words, List.flatten_eq_nil_iff]
  constructor
  · intro hnil
    simp [hnil]
  · intro hall
    refine List.eq_nil_iff_forall_not_mem.mpr fun word hword => ?_
    exact (of_mem_words hword).1 (hall word hword)

/-- **Every line of a text is drawn as greedy wrapping makes it.** -/
theorem isDrawnAs_wrapped (source : List Char) : IsDrawnAs source (wrapped source) := by
  have hwords := words_wrapped source
  by_cases hblank : ∀ c ∈ source, isBlank c = true
  · have hwrapped : wrapped source = [[]] := by
      rw [wrapped, words_eq_nil.mpr hblank]
      rfl
    rw [hwrapped] at hwords ⊢
    refine ⟨hwords, by simp [collapsed, joined], fun _ => rfl, ?_, by simp, .singleton _⟩
    rintro ⟨c, hc, hletter⟩
    exact absurd (hblank c hc) (by simp [hletter])
  · -- Every line is a row of words of the source, and these are found again in it.
    have hrows : wrapped source = (wrapWords (words source)).map (joined [' ']) := by
      rw [wrapped]
      cases hwrap : wrapWords (words source) with
      | nil =>
          have hflat := flatten_wrapWords (words source)
          rw [hwrap] at hflat
          exact absurd (words_eq_nil.mp hflat.symm) hblank
      | cons row more => rfl
    have hfilled := isFilled_wrapWords (words source)
    have hspaced : ∀ row ∈ wrapWords (words source), words (joined [' '] row) = row := by
      intro row hrow
      refine words_spaced fun word hword => ?_
      have hmem : word ∈ words source := by
        rw [← flatten_wrapWords (words source)]
        exact List.mem_flatten_of_mem hrow hword
      exact of_mem_words hmem
    rw [hrows] at hwords ⊢
    refine ⟨hwords, ?_, fun h => absurd h hblank, fun _ => ?_, ?_, ?_⟩
    · refine List.forall_mem_map.mpr fun row hrow => ?_
      rw [collapsed, hspaced row hrow]
    · refine List.forall_mem_map.mpr fun row hrow hnil => hfilled.solid row hrow ?_
      rw [← hspaced row hrow, hnil, words_nil]
    · refine List.forall_mem_map.mpr fun row hrow hseveral => ?_
      rw [hspaced row hrow] at hseveral
      exact of_decide_eq_true (hfilled.narrow row hrow hseveral)
    · rw [List.isChain_map]
      refine List.IsChain.imp_of_mem_imp ?_ hfilled.full
      intro row next hrow hnext hfull word hword
      rw [hspaced next hnext] at hword
      exact Nat.not_le.mp (of_decide_eq_false (hfull word hword))

theorem wrapped_ne_nil (source : List Char) : wrapped source ≠ [] := by
  intro hnil
  have hdrawn := isDrawnAs_wrapped source
  have hwords := hdrawn.words
  rw [hnil, List.flatMap_nil] at hwords
  have hblank := hdrawn.blank (words_eq_nil.mp hwords.symm)
  exact absurd (hnil.symm.trans hblank) (List.cons_ne_nil _ _).symm

/-- The lines of a text as they are wrapped: a text without any has an empty one. -/
def sourceLines (text : List Char) : List (List Char) :=
  match lines text with
  | [] => [[]]
  | ls => ls

theorem printedLines_eq (text : List Char) :
    printedLines text = (sourceLines text).flatMap wrapped := by
  rw [printedLines, sourceLines]
  cases lines text <;> rfl

theorem sourceLines_ne_nil (text : List Char) : sourceLines text ≠ [] := by
  rw [sourceLines]
  cases lines text <;> simp

theorem printedLines_ne_nil (text : List Char) : printedLines text ≠ [] := by
  rw [printedLines_eq]
  intro hnil
  obtain ⟨source, more, hsource⟩ := List.exists_cons_of_ne_nil (sourceLines_ne_nil text)
  exact wrapped_ne_nil source (List.flatMap_eq_nil_iff.mp hnil source (by simp [hsource]))

/-! ### Places on a page -/

/-- How many lines have room on a page. -/
def linesPerPage : Nat := 50

/-- Lines one below the other, the first of them behind `filled` others. -/
def IsSetBehind (filled : Nat) (page : Page) : Prop :=
  ∀ i line, page[i]? = some line →
    line.across = margin ∧ line.up = top - leading * (filled + i : Nat) ∧ filled + i < linesPerPage

theorem isSetBehind_cons {filled : Nat} {text : String} {page : Page}
    (hroom : filled < linesPerPage) (h : IsSetBehind (filled + 1) page) :
    IsSetBehind filled (⟨margin, top - leading * filled, text⟩ :: page) := by
  intro i line hline
  cases i with
  | zero =>
      obtain rfl := Option.some.inj hline
      exact ⟨rfl, rfl, hroom⟩
  | succ i =>
      obtain ⟨hacross, hup, hlt⟩ := h i line hline
      rw [Nat.add_right_comm, Nat.add_assoc] at hup hlt
      exact ⟨hacross, hup, hlt⟩

theorem IsSetBehind.length_le {filled : Nat} {page : Page} (h : IsSetBehind filled page)
    (hfilled : filled ≤ linesPerPage) : filled + page.length ≤ linesPerPage := by
  cases hlength : page.length with
  | zero => exact hfilled
  | succ i =>
      obtain ⟨-, -, hlt⟩ := h i page[i] (List.getElem?_eq_getElem _)
      exact hlt

/-- Pages as they are filled, the first of them from behind `filled` lines on: no page but
the first is without lines, and none but the last has room for more. -/
structure AreFilled (filled : Nat) (first : Page) (more : List Page) : Prop where
  firstSet : IsSetBehind filled first
  moreSet : ∀ page ∈ more, page ≠ [] ∧ IsSetBehind 0 page
  firstFull : more ≠ [] → filled + first.length = linesPerPage
  moreFull : ∀ page ∈ more.dropLast, page.length = linesPerPage

/-- **A page begins only where the one before is full.** -/
theorem areFilled_placeFrom {filled : Nat} (hfilled : filled ≤ linesPerPage)
    (ls : List (List Char)) :
    AreFilled filled (placeFrom (top - leading * filled) ls).1
      (placeFrom (top - leading * filled) ls).2 := by
  induction ls generalizing filled with
  | nil => exact ⟨by simp [placeFrom, IsSetBehind], by simp [placeFrom], by simp [placeFrom],
      by simp [placeFrom]⟩
  | cons line ls ih =>
      have hbelow : top - leading * filled < margin ↔ filled = linesPerPage := by
        simp only [top, leading, margin, linesPerPage] at hfilled ⊢
        omega
      rw [placeFrom]
      by_cases hfull : filled = linesPerPage
      · -- The page is full, so the line is the first of the next one.
        rw [if_pos (hbelow.mpr hfull)]
        have hone : 1 ≤ linesPerPage := by decide
        have hnext := ih hone
        rw [Nat.cast_one, mul_one] at hnext
        have hset : IsSetBehind 0
            (⟨margin, top, String.ofList line⟩ :: (placeFrom (top - leading) ls).1) :=
          isSetBehind_cons (by decide) hnext.firstSet
        refine ⟨by simp [IsSetBehind], ?_, fun _ => by simpa using hfull, ?_⟩
        · exact List.forall_mem_cons.mpr ⟨⟨List.cons_ne_nil _ _, hset⟩, hnext.moreSet⟩
        · cases hmore : (placeFrom (top - leading) ls).2 with
          | nil => simp [hmore]
          | cons page pages =>
              have hlength := hnext.firstFull (by simp [hmore])
              have hothers := hnext.moreFull
              simp only [hmore] at hothers ⊢
              refine List.forall_mem_cons.mpr ⟨?_, hothers⟩
              rw [List.length_cons, ← hlength, Nat.add_comm]
      · rw [if_neg (mt hbelow.mp hfull)]
        have hroom : filled < linesPerPage := Nat.lt_of_le_of_ne hfilled hfull
        have hplaced : filled + 1 ≤ linesPerPage := hroom
        have hnext := ih hplaced
        have hup : top - leading * filled - leading = top - leading * (filled + 1 : Nat) := by
          push_cast
          ring
        rw [hup]
        refine ⟨isSetBehind_cons hroom hnext.firstSet, hnext.moreSet, fun hmore => ?_,
          hnext.moreFull⟩
        rw [List.length_cons, ← hnext.firstFull hmore, Nat.add_assoc, Nat.add_comm 1]

/-- The first line of all goes on the first page. -/
theorem placeFrom_top_ne_nil {ls : List (List Char)} (hls : ls ≠ []) :
    (placeFrom top ls).1 ≠ [] := by
  obtain ⟨line, more, rfl⟩ := List.exists_cons_of_ne_nil hls
  rw [placeFrom, if_neg (by decide)]
  exact List.cons_ne_nil _ _

/-- Pages of a text are filled one after another from the top. -/
theorem plainPages_filled (text : List Char) :
    (∀ page ∈ plainPages text, page ≠ [] ∧ IsSetBehind 0 page) ∧
      ∀ page ∈ (plainPages text).dropLast, page.length = linesPerPage := by
  have hfilled := areFilled_placeFrom (Nat.zero_le linesPerPage) (printedLines text)
  rw [Nat.cast_zero, mul_zero, sub_zero] at hfilled
  have hfirst := placeFrom_top_ne_nil (printedLines_ne_nil text)
  have hpages : plainPages text
      = (placeFrom top (printedLines text)).1 :: (placeFrom top (printedLines text)).2 := rfl
  rw [hpages]
  refine ⟨List.forall_mem_cons.mpr ⟨⟨hfirst, hfilled.firstSet⟩, hfilled.moreSet⟩, ?_⟩
  have hfull := hfilled.firstFull
  have hothers := hfilled.moreFull
  cases hmore : (placeFrom top (printedLines text)).2 with
  | nil => simp
  | cons page pages =>
      rw [hmore] at hfull hothers
      rw [List.dropLast_cons_cons]
      exact List.forall_mem_cons.mpr ⟨by simpa using hfull (List.cons_ne_nil _ _), hothers⟩

/-- The lines that are drawn, page by page, are those that the lines of the text are wrapped
into. -/
theorem texts_plainPages (text : List Char) :
    (plainPages text).flatten.map (fun line => line.text.toList)
      = ((sourceLines text).map wrapped).flatten := by
  calc (plainPages text).flatten.map (fun line => line.text.toList)
      = ((plainPages text).flatten.map PlacedLine.text).map String.toList := by
        rw [List.map_map]
        rfl
    _ = ((printedLines text).map String.ofList).map String.toList :=
        congrArg (List.map String.toList) (texts_placeFrom top (printedLines text))
    _ = printedLines text := by simp
    _ = ((sourceLines text).map wrapped).flatten := by rw [printedLines_eq, List.flatMap_def]

/-- Where all pages but the last are full, the number of a line tells its page and its place
on it. -/
theorem exists_page_of_full {n : Nat} {pages : List Page}
    (hfull : ∀ page ∈ pages.dropLast, page.length = n) (hroom : ∀ page ∈ pages, page.length ≤ n)
    {k : Nat} {line : PlacedLine} (hline : pages.flatten[k]? = some line) :
    ∃ page, pages[k / n]? = some page ∧ page[k % n]? = some line := by
  induction pages generalizing k with
  | nil => simp at hline
  | cons page pages ih =>
      obtain ⟨hpage, hothers⟩ := List.forall_mem_cons.mp hroom
      rw [List.flatten_cons] at hline
      by_cases hk : k < page.length
      · rw [List.getElem?_append_left hk] at hline
        have hlt : k < n := Nat.lt_of_lt_of_le hk hpage
        rw [Nat.div_eq_of_lt hlt, Nat.mod_eq_of_lt hlt]
        exact ⟨page, rfl, hline⟩
      · rw [List.getElem?_append_right (Nat.not_lt.mp hk)] at hline
        cases pages with
        | nil => simp at hline
        | cons next pages =>
            rw [List.dropLast_cons_cons] at hfull
            obtain ⟨hlength, hrest⟩ := List.forall_mem_cons.mp hfull
            obtain ⟨found, hfound, hplace⟩ := ih hrest hothers hline
            have hpos : 0 < n := by
              by_contra hzero
              have hempty : ∀ page ∈ next :: pages, page = [] := fun page hmem =>
                List.length_eq_zero_iff.mp (by have := hothers page hmem; omega)
              rw [List.flatten_eq_nil_iff.mpr hempty] at hline
              simp at hline
            obtain ⟨j, rfl⟩ := Nat.exists_eq_add_of_le' (Nat.not_lt.mp hk)
            rw [hlength] at hfound hplace ⊢
            rw [Nat.add_sub_cancel] at hfound hplace
            refine ⟨found, ?_, ?_⟩
            · rw [Nat.add_div_right j hpos, List.getElem?_cons_succ]
              exact hfound
            · rw [Nat.add_mod_right]
              exact hplace

/--
**Plain pages have every word of their text once, in order, and between the margins.**  Each
line of the text is drawn for itself: as lines with its words, of which only one of a single
word can be too wide, or, if it is blank, as one empty line.  The lines that are drawn stand
one below the other from the top of a page downwards, fifty to a page: the one numbered `k`
is on page `k / 50`, at the left margin and `14 * (k % 50)` points below the first, which is
never below the lower margin.  Every page but the last is full, and none is empty.
-/
theorem plainPages_layout (text : List Char) :
    pageWords (plainPages text) = words text ∧
    (∃ drawn, List.Forall₂ IsDrawnAs (sourceLines text) drawn ∧
      (plainPages text).flatten.map (fun line => line.text.toList) = drawn.flatten) ∧
    (∀ line ∈ (plainPages text).flatten, 1 < (words line.text.toList).length →
      textWidth line.text.toList * 12 ≤ 512 * 1000) ∧
    (∀ k line, (plainPages text).flatten[k]? = some line →
      (∃ page, (plainPages text)[k / 50]? = some page ∧ page[k % 50]? = some line) ∧
      line.across = 50 ∧ line.up = 742 - 14 * ((k % 50 : Nat) : Int) ∧
      50 ≤ line.up ∧ line.up ≤ 742) ∧
    (∀ page ∈ plainPages text, page ≠ [] ∧ page.length ≤ 50) ∧
    ∀ page ∈ (plainPages text).dropLast, page.length = 50 := by
  have hdrawn : List.Forall₂ IsDrawnAs (sourceLines text) ((sourceLines text).map wrapped) :=
    List.forall₂_map_right_iff.mpr (List.forall₂_same.mpr fun source _ => isDrawnAs_wrapped source)
  have htexts := texts_plainPages text
  obtain ⟨hset, hfull⟩ := plainPages_filled text
  have hroom : ∀ page ∈ plainPages text, page.length ≤ linesPerPage := by
    intro page hpage
    simpa using (hset page hpage).2.length_le (Nat.zero_le _)
  refine ⟨words_plainPages text, ⟨_, hdrawn, htexts⟩, ?_, ?_, ?_, hfull⟩
  · intro line hline
    have hmem : line.text.toList ∈ ((sourceLines text).map wrapped).flatten := by
      rw [← htexts]
      exact List.mem_map_of_mem hline
    obtain ⟨drawn, hsource, hdrawn⟩ := List.mem_flatten.mp hmem
    obtain ⟨source, -, rfl⟩ := List.mem_map.mp hsource
    exact (isDrawnAs_wrapped source).narrow _ hdrawn
  · intro k line hline
    obtain ⟨page, hpage, hplace⟩ := exists_page_of_full hfull hroom hline
    obtain ⟨hacross, hup, hlt⟩ := (hset page (List.mem_of_getElem? hpage)).2 _ line hplace
    rw [Nat.zero_add] at hup hlt
    have hdown : line.up = 742 - 14 * ((k % 50 : Nat) : Int) := hup
    have hrow : k % 50 < 50 := hlt
    exact ⟨⟨page, hpage, hplace⟩, hacross, hdown, by omega, by omega⟩
  · exact fun page hpage => ⟨(hset page hpage).1, hroom page hpage⟩

end Paperwork.Print
