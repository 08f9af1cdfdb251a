/-
Reading paragraphs back.

Three notions of a separator meet where a text is cut: gaps part its paragraphs, line
breaks of every kind its lines, and all blanks its words.  What has been put together from
the pieces of a finer cut holds nothing that a coarser one would find.  A line whose words
are set apart by single spaces has no line break in it, and behind each line feed of a
paragraph a word begins, so that no gap opens there.  So lines below each other, and
paragraphs with an empty line between them, are read back as they were.
-/
import Paperwork.Proofs.Text.OneLine

namespace Paperwork.Text

/-! ### Lines below each other -/

theorem lines_cons_of_unbroken {c : Char} (hc : isLineBreak c = false) (rest : List Char) :
    lines (c :: rest) = (c :: (lines rest).headD []) :: (lines rest).tail := by
  rw [lines]
  · cases lines rest <;> simp [hc]
  · rintro _ rfl
    exact absurd hc (by decide)

/-- A line feed ends the line in front of it. -/
theorem lines_append_feed_of_unbroken {row : List Char} (hrow : ∀ c ∈ row, isLineBreak c = false)
    (rest : List Char) : lines (row ++ '\n' :: rest) = row :: lines rest := by
  induction row with
  | nil => simp [lines, isLineBreak]
  | cons c row ih =>
      obtain ⟨hc, hrest⟩ := List.forall_mem_cons.mp hrow
      rw [List.cons_append, lines_cons_of_unbroken hc, ih hrest]
      rfl

theorem lines_eq_singleton {row : List Char} (hne : row ≠ [])
    (hrow : ∀ c ∈ row, isLineBreak c = false) : lines row = [row] := by
  induction row with
  | nil => exact absurd rfl hne
  | cons c row ih =>
      obtain ⟨hc, hrest⟩ := List.forall_mem_cons.mp hrow
      rw [lines_cons_of_unbroken hc]
      cases row with
      | nil => rfl
      | cons d row =>
          rw [ih (by simp) hrest]
          rfl

/-- **Lines below each other are found again.** -/
theorem lines_joined {rows : List (List Char)} (h : ∀ row ∈ rows, row ≠ [] ∧ OnOneLine row) :
    lines (joined ['\n'] rows) = rows := by
  induction rows with
  | nil => rfl
  | cons row rows ih =>
      obtain ⟨⟨hne, hrow⟩, hrows⟩ := List.forall_mem_cons.mp h
      cases rows with
      | nil => exact lines_eq_singleton hne hrow.unbroken
      | cons next rows =>
          rw [joined_cons_cons, List.append_assoc, List.singleton_append,
            lines_append_feed_of_unbroken hrow.unbroken, ih hrows]

/-! ### Lines that are not blank -/

theorem collapsed_eq_nil {cs : List Char} : collapsed cs = [] ↔ isAllBlank cs = true := by
  rw [isAllBlank, List.all_eq_true, ← letters_eq_nil]
  refine ⟨fun h => ?_, collapsed_of_blank⟩
  rw [← letters_collapsed, h, letters_nil]

/-- Blank lines may be left out before or after words are set apart. -/
theorem visibleLines_eq_filter (cs : List Char) :
    visibleLines cs = ((lines cs).filter fun line => !isAllBlank line).map collapsed := by
  rw [visibleLines, List.filter_map]
  congr 1
  refine List.filter_congr fun line _ => ?_
  rw [Function.comp_apply, Bool.eq_iff_iff]
  simp [collapsed_eq_nil]

/-- Where no text is empty and each is left as it is, all of them stay. -/
theorem filter_map_eq_self {f : List Char → List Char} {texts : List (List Char)}
    (h : ∀ text ∈ texts, text ≠ [] ∧ f text = text) :
    (texts.map f).filter (fun text => !text.isEmpty) = texts := by
  have hmap : texts.map f = texts :=
    (List.map_congr_left fun text htext => (h text htext).2).trans texts.map_id'
  have hsolid : ∀ text ∈ texts, (!text.isEmpty) = true := by
    intro text htext
    simpa using (h text htext).1
  rw [hmap, List.filter_eq_self.mpr hsolid]

/-- **Lines below each other that are not blank, with their words set apart, stay as they
are.** -/
theorem visibleLines_joined {rows : List (List Char)}
    (h : ∀ row ∈ rows, row ≠ [] ∧ OnOneLine row) : visibleLines (joined ['\n'] rows) = rows := by
  rw [visibleLines, lines_joined h]
  exact filter_map_eq_self fun row hrow => ⟨(h row hrow).1, (h row hrow).2.collapsed_eq⟩

theorem Lined.joined_visibleLines {cs : List Char} (h : Lined cs) :
    joined ['\n'] (visibleLines cs) = cs := by
  obtain ⟨rows, rfl, hrows⟩ := h
  rw [visibleLines_joined hrows]

/-! ### Where words begin -/

/-- A word begins at the front of a text. -/
def BeginsWord (cs : List Char) : Prop := ∃ c rest, cs = c :: rest ∧ isBlank c = false

theorem BeginsWord.append {cs : List Char} (h : BeginsWord cs) (rest : List Char) :
    BeginsWord (cs ++ rest) := by
  obtain ⟨c, word, rfl, hc⟩ := h
  exact ⟨c, word ++ rest, rfl, hc⟩

theorem BeginsWord.joined {text : List Char} (h : BeginsWord text) (separator : List Char)
    (texts : List (List Char)) : BeginsWord (Text.joined separator (text :: texts)) := by
  cases texts with
  | nil => exact h
  | cons next texts =>
      rw [joined_cons_cons, List.append_assoc]
      exact h.append _

theorem OnOneLine.beginsWord {row : List Char} (h : OnOneLine row) (hne : row ≠ []) :
    BeginsWord row := by
  obtain ⟨c, rest, rfl⟩ := List.exists_cons_of_ne_nil hne
  exact ⟨c, rest, rfl, h.first c rfl⟩

theorem Lined.beginsWord {cs : List Char} (h : Lined cs) (hne : cs ≠ []) : BeginsWord cs := by
  obtain ⟨rows, rfl, hrows⟩ := h
  cases rows with
  | nil => exact absurd rfl hne
  | cons row rows =>
      obtain ⟨hrow, hon⟩ := hrows row List.mem_cons_self
      exact (hon.beginsWord hrow).joined _ rows

/-! ### Gaps -/

theorem chunks_cons_of_none {c : Char} {cs chunk : List Char} {more : List (List Char)}
    (h : gapLength? (c :: cs) = none) (hrest : chunks cs = chunk :: more) :
    chunks (c :: cs) = (c :: chunk) :: more := by
  have hfrom : chunksFrom 0 cs = chunk :: more := hrest
  simp [chunks, chunksFrom, h, hfrom]

/-- On a line no gap begins. -/
theorem chunks_append_of_unbroken {row cs chunk : List Char} {more : List (List Char)}
    (hrow : ∀ c ∈ row, isLineBreak c = false) (hrest : chunks cs = chunk :: more) :
    chunks (row ++ cs) = (row ++ chunk) :: more := by
  induction row with
  | nil => exact hrest
  | cons c row ih =>
      obtain ⟨hc, hcs⟩ := List.forall_mem_cons.mp hrow
      refine chunks_cons_of_none ?_ (ih hcs)
      rw [List.append_eq, gapLength?]
      intro rest heq
      obtain ⟨rfl, -⟩ := List.cons.inj heq
      exact absurd hc (by decide)

/-- No gap begins in front of a word. -/
theorem chunks_feed {cs chunk : List Char} {more : List (List Char)} (h : BeginsWord cs)
    (hrest : chunks cs = chunk :: more) : chunks ('\n' :: cs) = ('\n' :: chunk) :: more := by
  obtain ⟨c, word, rfl, hc⟩ := h
  have hnone : gapLength? ('\n' :: c :: word) = none := by simp [gapLength?, hc, afterLastFeed?]
  exact chunks_cons_of_none hnone hrest

/-- An empty line in front of a word is a gap. -/
theorem chunks_empty_line {cs : List Char} (h : BeginsWord cs) :
    chunks ('\n' :: '\n' :: cs) = [] :: chunks cs := by
  obtain ⟨c, word, rfl, hc⟩ := h
  have hfeed : isBlank '\n' = true := by decide
  have hgap : gapLength? ('\n' :: '\n' :: c :: word) = some 2 := by
    simp [gapLength?, hfeed, hc, afterLastFeed?]
  simp [chunks, chunksFrom, hgap]

/-- Lines below each other are one chunk, in front of a gap and of the end of the text. -/
theorem chunks_joined_append {rows : List (List Char)} (hne : rows ≠ [])
    (h : ∀ row ∈ rows, row ≠ [] ∧ OnOneLine row) {cs : List Char} {more : List (List Char)}
    (hrest : chunks cs = [] :: more) :
    chunks (joined ['\n'] rows ++ cs) = joined ['\n'] rows :: more := by
  induction rows with
  | nil => exact absurd rfl hne
  | cons row rows ih =>
      obtain ⟨⟨-, hrow⟩, hrows⟩ := List.forall_mem_cons.mp h
      cases rows with
      | nil => simpa [joined] using chunks_append_of_unbroken hrow.unbroken hrest
      | cons next rows =>
          -- The line below begins with a word, so the line feed in front of it opens no gap.
          obtain ⟨hnext, hon⟩ := hrows next List.mem_cons_self
          have hword := ((hon.beginsWord hnext).joined ['\n'] rows).append cs
          have hbelow := chunks_feed hword (ih (List.cons_ne_nil next rows) hrows)
          rw [joined_cons_cons]
          simpa using chunks_append_of_unbroken hrow.unbroken hbelow

/-! ### Paragraphs -/

/-- **Paragraphs with an empty line between them are found again.** -/
theorem chunks_joined {texts : List (List Char)} (hne : texts ≠ [])
    (h : ∀ text ∈ texts, text ≠ [] ∧ Lined text) : chunks (joined ['\n', '\n'] texts) = texts := by
  induction texts with
  | nil => exact absurd rfl hne
  | cons text texts ih =>
      obtain ⟨⟨htext, rows, rfl, hrows⟩, htexts⟩ := List.forall_mem_cons.mp h
      have hsome : rows ≠ [] := by
        rintro rfl
        exact htext rfl
      cases texts with
      | nil =>
          have hend : chunks [] = [[]] := rfl
          simpa [joined] using chunks_joined_append hsome hrows hend
      | cons next texts =>
          -- And so does the next paragraph, which keeps the gap from reaching any further.
          obtain ⟨hnext, hlined⟩ := htexts next List.mem_cons_self
          have hword := (hlined.beginsWord hnext).joined ['\n', '\n'] texts
          have hgap := chunks_empty_line hword
          rw [ih (List.cons_ne_nil next texts) htexts] at hgap
          rw [joined_cons_cons, List.append_assoc]
          exact chunks_joined_append hsome hrows hgap

theorem of_mem_paragraphs {cs text : List Char} (h : text ∈ paragraphs cs) :
    text ≠ [] ∧ Lined text :=
  ⟨by simpa using (List.mem_filter.mp h).2, lined_of_mem_paragraphs h⟩

/-- **A text of paragraphs is cut into these paragraphs.** -/
theorem paragraphs_joined {texts : List (List Char)}
    (h : ∀ text ∈ texts, text ≠ [] ∧ Lined text) :
    paragraphs (joined ['\n', '\n'] texts) = texts := by
  by_cases hnil : texts = []
  · rw [hnil]
    rfl
  · rw [paragraphs_eq, chunks_joined hnil h, List.map_map]
    exact filter_map_eq_self fun text htext =>
      ⟨(h text htext).1, (h text htext).2.joined_visibleLines⟩

/-- A text of paragraphs with an empty line between them, each of them a text of lines. -/
def Parted (cs : List Char) : Prop :=
  ∃ texts, cs = joined ['\n', '\n'] texts ∧ ∀ text ∈ texts, text ≠ [] ∧ Lined text

theorem parted_paragraphs (cs : List Char) : Parted (joined ['\n', '\n'] (paragraphs cs)) :=
  ⟨paragraphs cs, rfl, fun _ => of_mem_paragraphs⟩

/-- **Cutting a text into paragraphs and putting them together again leaves it as it is exactly
if it is made of paragraphs.** -/
theorem joined_paragraphs_eq_self {cs : List Char} :
    joined ['\n', '\n'] (paragraphs cs) = cs ↔ Parted cs := by
  refine ⟨fun h => h ▸ parted_paragraphs cs, ?_⟩
  rintro ⟨texts, rfl, htexts⟩
  rw [paragraphs_joined htexts]

/-! ### Paragraphs and lines -/

/-- How paragraphs hold lines: all of them, in order, each within one paragraph and none of
them changed. -/
structure HoldsLines (texts rows : List (List Char)) : Prop where
  /-- Written below each other, the paragraphs are the lines written below each other. -/
  below : joined ['\n'] texts = joined ['\n'] rows
  /-- Cut into lines, that text is cut into these lines. -/
  readBack : lines (joined ['\n'] texts) = rows
  /-- The lines of one paragraph after another are the lines. -/
  divided : texts.flatMap lines = rows
  /-- Every paragraph has a line. -/
  solid : ∀ text ∈ texts, text ≠ []
  /-- Every line has a word, and its words are set apart by single spaces. -/
  spaced : ∀ row ∈ rows, row ≠ [] ∧ OnOneLine row

/-- **The paragraphs of a text hold its lines that are not blank.** -/
theorem holdsLines_paragraphs (cs : List Char) : HoldsLines (paragraphs cs)
    (((lines cs).filter fun line => !isAllBlank line).map collapsed) := by
  rw [← visibleLines_eq_filter]
  have hlines : ∀ text, lines (joined ['\n'] (visibleLines text)) = visibleLines text :=
    fun text => lines_joined fun _ => of_mem_visibleLines
  refine ⟨joined_paragraphs cs, ?_, ?_, fun text htext => (of_mem_paragraphs htext).1,
    fun _ => of_mem_visibleLines⟩
  · rw [joined_paragraphs, hlines]
  · rw [paragraphs_eq, flatMap_without_empty rfl, List.map_map, List.flatMap_map,
      ← visibleLines_chunks]
    exact List.flatMap_congr fun chunk _ => hlines chunk

end Paperwork.Text
