/-
The words of a text.

Words are cut at blanks, so it does not matter which blanks stand between two texts, or how
many.  Where none stands between them, the last word of the first and the first word of the
second become one, and there is one word less.
-/
import Paperwork.Proofs.Text.Lines
import Paperwork.Proofs.Text.Split

namespace Paperwork.Text

/-! ### Blanks between words -/

@[simp] theorem words_nil : words [] = [] := rfl

/-- **A blank ends a word.** -/
theorem words_append_blank {c : Char} (hc : isBlank c = true) (a b : List Char) :
    words (a ++ c :: b) = words a ++ words b := by
  rw [words, splitWhere_append_of_true hc, List.filter_append]
  rfl

theorem words_of_blank_append {blanks : List Char} (h : ∀ c ∈ blanks, isBlank c = true)
    (cs : List Char) : words (blanks ++ cs) = words cs := by
  induction blanks with
  | nil => rfl
  | cons c blanks ih =>
      have hfirst := words_append_blank (h c List.mem_cons_self) [] (blanks ++ cs)
      rw [List.cons_append, ← List.nil_append (c :: (blanks ++ cs)), hfirst]
      exact ih fun d hd => h d (List.mem_cons_of_mem _ hd)

/-- Words are not empty and hold no blank. -/
theorem of_mem_words {cs word : List Char} (h : word ∈ words cs) :
    word ≠ [] ∧ ∀ c ∈ word, isBlank c = false := by
  obtain ⟨hpiece, hne⟩ := List.mem_filter.mp h
  exact ⟨by simpa using hne, of_mem_splitWhere hpiece⟩

theorem words_word {word : List Char} (hne : word ≠ []) (h : ∀ c ∈ word, isBlank c = false) :
    words word = [word] := by
  have hpieces := splitWhere_append_of_false h (show splitWhere isBlank [] = [[]] from rfl)
  rw [List.append_nil] at hpieces
  simp [words, hpieces, hne]

/-! ### Texts with blanks between them -/

/-- Texts of no characters have no words. -/
theorem words_without_empty (texts : List (List Char)) :
    (texts.filter fun text => !text.isEmpty).flatMap words = texts.flatMap words :=
  flatMap_without_empty words_nil texts

/-- **Texts with blanks between them keep their words.** -/
theorem words_joined {separator : List Char} (hne : separator ≠ [])
    (hall : separator.all isBlank = true) :
    ∀ texts : List (List Char), words (joined separator texts) = texts.flatMap words
  | [] => rfl
  | [text] => by simp [joined]
  | a :: b :: texts => by
      obtain ⟨c, more, rfl⟩ := List.exists_cons_of_ne_nil hne
      obtain ⟨hc, hmore⟩ := Bool.and_eq_true_iff.mp hall
      rw [joined_cons_cons, List.append_assoc, List.cons_append, words_append_blank hc,
        words_of_blank_append (List.all_eq_true.mp hmore), words_joined hne hall (b :: texts)]
      rfl

/-- Words with a space between them are found again. -/
theorem words_spaced {ws : List (List Char)} (h : ∀ w ∈ ws, w ≠ [] ∧ ∀ c ∈ w, isBlank c = false) :
    words (joined [' '] ws) = ws := by
  rw [words_joined (by simp) (by decide)]
  induction ws with
  | nil => rfl
  | cons w ws ih =>
      obtain ⟨hne, hletters⟩ := h w List.mem_cons_self
      rw [List.flatMap_cons, words_word hne hletters,
        ih fun v hv => h v (List.mem_cons_of_mem _ hv)]
      rfl

@[simp] theorem words_collapsed (cs : List Char) : words (collapsed cs) = words cs :=
  words_spaced fun _ => of_mem_words

/-- The words of a text are those of its lines. -/
theorem words_lines (cs : List Char) : (lines cs).flatMap words = words cs := by
  have hfirst : ∀ ls : List (List Char),
      words (ls.headD []) ++ ls.tail.flatMap words = ls.flatMap words := by
    intro ls
    cases ls <;> rfl
  -- What is read of the first line so far may be in the middle of a word.
  have hbegun : ∀ begun : List Char, words (begun ++ cs)
      = words (begun ++ (lines cs).headD []) ++ (lines cs).tail.flatMap words := by
    fun_induction lines cs with
    | case1 => simp
    | case2 rest ih =>
        intro begun
        have hrest : words rest = (lines rest).flatMap words := (ih []).trans (hfirst _)
        have hreturn : isBlank '\r' = true := by decide
        have hfeed : isBlank '\n' = true := by decide
        rw [words_append_blank hreturn, ← List.nil_append ('\n' :: rest),
          words_append_blank hfeed, hrest]
        simp
    | case3 c rest _ hbreak ih =>
        intro begun
        have hrest : words rest = (lines rest).flatMap words := (ih []).trans (hfirst _)
        rw [words_append_blank (isBlank_of_isLineBreak hbreak), hrest]
        simp
    | case4 c rest _ hbreak hnil ih =>
        intro begun
        have hrest := ih (begun ++ [c])
        simpa [hnil] using hrest
    | case5 c rest _ hbreak line more hcons ih =>
        intro begun
        have hrest := ih (begun ++ [c])
        simpa [hcons] using hrest
  exact (hfirst _).symm.trans (hbegun []).symm

theorem words_visibleLines (cs : List Char) : (visibleLines cs).flatMap words = words cs := by
  rw [visibleLines, words_without_empty, List.flatMap_map]
  simpa using words_lines cs

@[simp] theorem words_joined_visibleLines (cs : List Char) :
    words (joined ['\n'] (visibleLines cs)) = words cs := by
  rw [words_joined (by simp) (by decide), words_visibleLines]

/-- Paragraphs keep all words, in order. -/
theorem words_paragraphs (cs : List Char) : (paragraphs cs).flatMap words = words cs := by
  have hfeed : ['\n'].all isBlank = true := by decide
  rw [← words_joined (by simp) hfeed, joined_paragraphs, words_joined_visibleLines]

/-! ### Texts next to each other -/

/-- A blank stands between two texts that are written next to each other. -/
def Apart (a b : List Char) : Prop :=
  a.getLast?.any isBlank = true ∨ b.head?.any isBlank = true

/-- No two texts of a row run together when they are written next to each other: a blank
stands between each two neighbours, where texts of no characters do not count. -/
def SetApart (texts : List (List Char)) : Prop :=
  (texts.filter fun text => !text.isEmpty).IsChain Apart

instance (a b : List Char) : Decidable (Apart a b) :=
  inferInstanceAs (Decidable (a.getLast?.any isBlank = true ∨ b.head?.any isBlank = true))

instance (texts : List (List Char)) : Decidable (SetApart texts) :=
  inferInstanceAs (Decidable ((texts.filter fun text => !text.isEmpty).IsChain Apart))

theorem words_append_of_apart {a b : List Char} (h : Apart a b) :
    words (a ++ b) = words a ++ words b := by
  rcases h with hlast | hfirst
  · obtain ⟨c, hc, hblank⟩ := Option.any_eq_true _ _ |>.mp hlast
    obtain ⟨front, rfl⟩ := List.getLast?_eq_some_iff.mp hc
    rw [List.append_assoc, List.singleton_append, words_append_blank hblank,
      words_append_blank hblank, words_nil, List.append_nil]
  · obtain ⟨c, hc, hblank⟩ := Option.any_eq_true _ _ |>.mp hfirst
    obtain ⟨back, rfl⟩ := List.head?_eq_some_iff.mp hc
    have hback := words_append_blank hblank [] back
    rw [List.nil_append] at hback
    rw [words_append_blank hblank, hback, words_nil, List.nil_append]

/-- Without a blank between them two texts have one word less. -/
theorem length_words_append {a b : List Char} (ha : a ≠ []) (hb : b ≠ []) (h : ¬ Apart a b) :
    (words (a ++ b)).length + 1 = (words a).length + (words b).length := by
  obtain ⟨front, last, rfl⟩ := (List.eq_nil_or_concat' a).resolve_left ha
  obtain ⟨first, back, rfl⟩ := List.exists_cons_of_ne_nil hb
  have hends : isBlank last = false ∧ isBlank first = false := by simpa [Apart] using h
  obtain ⟨before, piece, next, after, hfront, hpiece, hback, hnext, hall⟩ :=
    splitWhere_append front back hends.1 hends.2
  rw [List.append_assoc, List.singleton_append, words, words, words, hfront, hback, hall]
  simp [hpiece, hnext]
  omega

theorem length_words_append_le (a b : List Char) :
    (words (a ++ b)).length ≤ (words a).length + (words b).length := by
  by_cases ha : a = []
  · simp [ha]
  · by_cases hb : b = []
    · simp [hb]
    · by_cases h : Apart a b
      · rw [words_append_of_apart h, List.length_append]
      · have hless := length_words_append ha hb h
        omega

/-- What stands in front of a row of texts stands in front of the first one. -/
theorem apart_flatten {a b : List Char} (hb : b ≠ []) (texts : List (List Char)) :
    Apart a (b :: texts).flatten ↔ Apart a b := by
  obtain ⟨c, back, rfl⟩ := List.exists_cons_of_ne_nil hb
  simp [Apart]

section Row

variable {texts : List (List Char)} (hne : ∀ text ∈ texts, text ≠ [])
include hne

private theorem words_of_chain (h : texts.IsChain Apart) :
    words texts.flatten = texts.flatMap words := by
  induction h with
  | nil => rfl
  | singleton text => simp
  | @cons_cons a b rest hapart _ ih =>
      have hb : b ≠ [] := hne b (by simp)
      rw [List.flatten_cons, words_append_of_apart ((apart_flatten hb rest).mpr hapart),
        ih fun text htext => hne text (List.mem_cons_of_mem _ htext)]
      rfl

private theorem length_words_lt_of_not_chain (h : ¬ texts.IsChain Apart) :
    (words texts.flatten).length < (texts.flatMap words).length := by
  induction texts with
  | nil => exact absurd .nil h
  | cons a rest ih =>
      have hrest : ∀ text ∈ rest, text ≠ [] := fun t ht => hne t (List.mem_cons_of_mem _ ht)
      rw [List.flatten_cons, List.flatMap_cons, List.length_append]
      by_cases hchain : rest.IsChain Apart
      · cases rest with
        | nil => exact absurd (.singleton a) h
        | cons b rest =>
            have hb : b ≠ [] := hrest b List.mem_cons_self
            have hapart : ¬ Apart a (b :: rest).flatten := by
              rw [apart_flatten hb]
              exact fun hapart => h (.cons_cons hapart hchain)
            have hless := length_words_append (hne a List.mem_cons_self) (by simp [hb]) hapart
            rw [← words_of_chain hrest hchain]
            omega
      · have hless := ih hrest hchain
        have hmost := length_words_append_le a rest.flatten
        omega

end Row

/-- **Texts that are set apart keep their words.** -/
theorem words_of_setApart {texts : List (List Char)} (h : SetApart texts) :
    words texts.flatten = texts.flatMap words := by
  rw [← words_without_empty, ← List.flatten_filter_not_isEmpty]
  exact words_of_chain (by simp) h

/-- **Texts that are not set apart have fewer words together than one by one.** -/
theorem length_words_lt {texts : List (List Char)} (h : ¬ SetApart texts) :
    (words texts.flatten).length < (texts.flatMap words).length := by
  rw [← words_without_empty, ← List.flatten_filter_not_isEmpty]
  exact length_words_lt_of_not_chain (by simp) h

/-- **Rows of texts have the words of their texts exactly if all rows are set apart.** -/
theorem words_rows_iff (rows : List (List (List Char))) :
    rows.flatMap (fun texts => words texts.flatten)
        = rows.flatMap (fun texts => texts.flatMap words)
      ↔ ∀ texts ∈ rows, SetApart texts := by
  constructor
  · intro heq texts htexts
    by_contra hapart
    have hmost : ∀ texts ∈ rows,
        (words texts.flatten).length ≤ (texts.flatMap words).length := by
      intro texts _
      by_cases h : SetApart texts
      · rw [words_of_setApart h]
      · exact (length_words_lt h).le
    have hless : (rows.map fun texts => (words texts.flatten).length).sum
        < (rows.map fun texts => (texts.flatMap words).length).sum :=
      List.sum_lt_sum _ _ hmost ⟨texts, htexts, length_words_lt hapart⟩
    have hlength := congrArg List.length heq
    rw [List.length_flatMap, List.length_flatMap] at hlength
    omega
  · intro h
    exact List.flatMap_congr fun texts htexts => words_of_setApart (h texts htexts)

end Paperwork.Text
