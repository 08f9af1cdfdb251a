/-
Texts on one line.

Whatever a text is made of, its words set apart by single spaces are on one line: every
blank is a space, none is doubled and none stands at an end.  Every line break is blank,
so none is left.  A paragraph is such lines one below the other.
-/
import Paperwork.Proofs.Text.Words

namespace Paperwork.Text

/-- A text on one line, its words set apart by single spaces. -/
structure OnOneLine (cs : List Char) : Prop where
  unbroken : ∀ c ∈ cs, isLineBreak c = false
  spaces : ∀ c ∈ cs, isBlank c = true → c = ' '
  single : cs.IsChain fun a b => ¬ (a = ' ' ∧ b = ' ')
  first : ∀ c, cs.head? = some c → isBlank c = false
  last : ∀ c, cs.getLast? = some c → isBlank c = false

namespace OnOneLine

theorem nil : OnOneLine [] where
  unbroken := nofun
  spaces := nofun
  single := .nil
  first := nofun
  last := nofun

/-- A word is on one line. -/
theorem of_letters {cs : List Char} (h : ∀ c ∈ cs, isBlank c = false) : OnOneLine cs where
  unbroken c hc := by
    by_contra hbreak
    have hblank := isBlank_of_isLineBreak (Bool.not_eq_false _ ▸ hbreak)
    rw [h c hc] at hblank
    exact absurd hblank (by decide)
  spaces c hc hblank := by
    rw [h c hc] at hblank
    exact absurd hblank (by decide)
  single := by
    refine List.Pairwise.isChain (List.pairwise_iff_forall_sublist.mpr fun hsub => ?_)
    rintro ⟨rfl, -⟩
    have hspace := h ' ' (hsub.subset List.mem_cons_self)
    exact absurd hspace (by decide)
  first c hc := h c (List.mem_of_mem_head? hc)
  last c hc := h c (List.mem_of_getLast? hc)

/-- Two texts on one line with a space between them are on one line. -/
theorem append_space {a b : List Char} (ha : OnOneLine a) (hb : OnOneLine b) (hna : a ≠ [])
    (hnb : b ≠ []) : OnOneLine (a ++ ' ' :: b) where
  unbroken c hc := by
    rcases List.mem_append.mp hc with hc | hc
    · exact ha.unbroken c hc
    · rcases List.mem_cons.mp hc with rfl | hc
      · decide
      · exact hb.unbroken c hc
  spaces c hc hblank := by
    rcases List.mem_append.mp hc with hc | hc
    · exact ha.spaces c hc hblank
    · rcases List.mem_cons.mp hc with rfl | hc
      · rfl
      · exact hb.spaces c hc hblank
  single := by
    obtain ⟨d, rest, rfl⟩ := List.exists_cons_of_ne_nil hnb
    have hspace : isBlank ' ' = true := by decide
    refine List.isChain_append.mpr ⟨ha.single, List.isChain_cons_cons.mpr ⟨?_, hb.single⟩, ?_⟩
    · rintro ⟨-, rfl⟩
      exact absurd (hb.first ' ' rfl) (by rw [hspace]; decide)
    · intro c hc e he
      rintro ⟨rfl, -⟩
      exact absurd (ha.last ' ' hc) (by rw [hspace]; decide)
  first c hc := by
    obtain ⟨d, rest, rfl⟩ := List.exists_cons_of_ne_nil hna
    exact ha.first c hc
  last c hc := by
    obtain ⟨d, rest, rfl⟩ := List.exists_cons_of_ne_nil hnb
    rw [List.getLast?_append_of_ne_nil _ (by simp), List.getLast?_cons_cons] at hc
    exact hb.last c hc

/-- A space on a line stands between two texts that are on one line themselves. -/
theorem of_append_space {a b : List Char} (h : OnOneLine (a ++ ' ' :: b)) :
    (a ≠ [] ∧ OnOneLine a) ∧ b ≠ [] ∧ OnOneLine b := by
  have hspace : isBlank ' ' = true := by decide
  have hleft : a ≠ [] := by
    rintro rfl
    exact absurd (h.first ' ' rfl) (by rw [hspace]; decide)
  have hright : b ≠ [] := by
    rintro rfl
    exact absurd (h.last ' ' List.getLast?_concat) (by rw [hspace]; decide)
  obtain ⟨hbefore, hbehind, hbetween⟩ := List.isChain_append.mp h.single
  refine ⟨⟨hleft, ?_, ?_, hbefore, ?_, ?_⟩, hright, ?_, ?_, hbehind.tail, ?_, ?_⟩
  · exact fun c hc => h.unbroken c (List.mem_append_left _ hc)
  · exact fun c hc => h.spaces c (List.mem_append_left _ hc)
  · exact fun c hc => h.first c (by rw [List.head?_append_of_ne_nil _ hleft, hc])
  · intro c hc
    by_contra hblank
    have hmem := List.mem_append_left (' ' :: b) (List.mem_of_getLast? hc)
    obtain rfl := h.spaces c hmem (Bool.not_eq_false _ ▸ hblank)
    exact hbetween ' ' hc ' ' rfl ⟨rfl, rfl⟩
  · exact fun c hc => h.unbroken c (by simp [hc])
  · exact fun c hc => h.spaces c (by simp [hc])
  · intro c hc
    by_contra hblank
    obtain rfl := h.spaces c (by simp [List.mem_of_mem_head? hc]) (Bool.not_eq_false _ ▸ hblank)
    obtain ⟨rest, rfl⟩ := List.head?_eq_some_iff.mp hc
    exact (List.isChain_cons_cons.mp hbehind).1 ⟨rfl, rfl⟩
  · intro c hc
    refine h.last c ?_
    rw [List.getLast?_append_of_ne_nil _ (by simp), List.getLast?_cons, hc]
    rfl

/-- **A text on one line is left as it is when its words are set apart.** -/
theorem collapsed_eq {cs : List Char} (h : OnOneLine cs) : collapsed cs = cs := by
  induction hn : cs.length using Nat.strong_induction_on generalizing cs with
  | _ n ih =>
      subst hn
      by_cases hblank : ∃ c ∈ cs, isBlank c = true
      · -- The blank is a space, and what stands on either side of it is shorter.
        obtain ⟨c, hc, hblank⟩ := hblank
        obtain rfl := h.spaces c hc hblank
        obtain ⟨a, b, rfl⟩ := List.append_of_mem hc
        obtain ⟨⟨hleft, ha⟩, hright, hb⟩ := h.of_append_space
        have hbefore := ih a.length (by simp) ha rfl
        have hbehind := ih b.length (by simp; omega) hb rfl
        have hwords : ∀ {text : List Char}, text ≠ [] → collapsed text = text →
            words text ≠ [] := by
          intro text hne heq hnone
          rw [collapsed, hnone] at heq
          exact hne heq.symm
        rw [collapsed, words_append_blank hblank,
          joined_append (hwords hleft hbefore) (hwords hright hbehind), ← collapsed, ← collapsed,
          hbefore, hbehind, List.append_assoc, List.singleton_append]
      · have hletters : ∀ c ∈ cs, isBlank c = false := by simpa using hblank
        by_cases hnil : cs = []
        · rw [hnil]
          rfl
        · rw [collapsed, words_word hnil hletters]
          rfl

end OnOneLine

/-- **The words of a text are set apart on one line.** -/
theorem onOneLine_collapsed (cs : List Char) : OnOneLine (collapsed cs) := by
  have hwords : ∀ word ∈ words cs, word ≠ [] ∧ ∀ c ∈ word, isBlank c = false :=
    fun word hword => of_mem_words hword
  have hjoined : ∀ ws : List (List Char),
      (∀ word ∈ ws, word ≠ [] ∧ ∀ c ∈ word, isBlank c = false) → OnOneLine (joined [' '] ws) := by
    intro ws
    induction ws with
    | nil => exact fun _ => .nil
    | cons word ws ih =>
        intro hws
        have hword := hws word List.mem_cons_self
        have hrest : ∀ w ∈ ws, w ≠ [] ∧ ∀ c ∈ w, isBlank c = false :=
          fun w hw => hws w (List.mem_cons_of_mem _ hw)
        cases ws with
        | nil => exact .of_letters hword.2
        | cons next ws =>
            have hne : joined [' '] (next :: ws) ≠ [] := by
              rw [ne_eq, joined_eq_nil _ fun w hw => (hrest w hw).1]
              exact List.cons_ne_nil _ _
            rw [joined_cons_cons, List.append_assoc, List.singleton_append]
            exact (OnOneLine.of_letters hword.2).append_space (ih hrest) hword.1 hne
  exact hjoined _ hwords

/-! ### Paragraphs -/

/-- A text of lines, none of them empty, one below the other. -/
def Lined (cs : List Char) : Prop :=
  ∃ rows, cs = joined ['\n'] rows ∧ ∀ row ∈ rows, row ≠ [] ∧ OnOneLine row

theorem lined_nil : Lined [] := ⟨[], rfl, nofun⟩

theorem of_mem_visibleLines {cs row : List Char} (h : row ∈ visibleLines cs) :
    row ≠ [] ∧ OnOneLine row := by
  obtain ⟨line, -, rfl⟩ := List.mem_map.mp (List.mem_filter.mp h).1
  exact ⟨visibleLines_ne_nil h, onOneLine_collapsed line⟩

/-- The lines of a text that are not blank, one below the other. -/
theorem lined_visibleLines (cs : List Char) : Lined (joined ['\n'] (visibleLines cs)) :=
  ⟨visibleLines cs, rfl, fun _ => of_mem_visibleLines⟩

theorem lined_of_mem_paragraphs {cs text : List Char} (h : text ∈ paragraphs cs) :
    Lined text := by
  obtain ⟨chunk, -, rfl⟩ := List.mem_map.mp (List.mem_filter.mp h).1
  exact lined_visibleLines chunk

end Paperwork.Text
