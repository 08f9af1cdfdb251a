/-
What cutting a text keeps.

Words, lines and paragraphs are cut out of a text at blanks, so none of them loses a
letter: `letters` are the characters that are not blank, and they come out in order
whichever way a text is cut and joined again.

Paragraphs keep more than that.  Gaps only separate lines, so the paragraphs of a text
written below each other are its lines written below each other, blank ones left out.
-/
import Mathlib
import Paperwork.Text.Lines

namespace Paperwork.Text

/-- The characters of a text that are not blank. -/
def letters (cs : List Char) : List Char := cs.filter fun c => !isBlank c

@[simp] theorem letters_nil : letters [] = [] := rfl

theorem letters_cons (c : Char) (cs : List Char) :
    letters (c :: cs) = (if isBlank c then [] else [c]) ++ letters cs := by
  by_cases hc : isBlank c = true <;> simp [letters, hc]

@[simp] theorem letters_append (a b : List Char) :
    letters (a ++ b) = letters a ++ letters b := List.filter_append ..

theorem letters_flatten (texts : List (List Char)) :
    letters texts.flatten = texts.flatMap letters := by
  induction texts with
  | nil => rfl
  | cons text texts ih => simp [ih]

@[simp] theorem letters_letters (cs : List Char) : letters (letters cs) = letters cs := by
  simp [letters, List.filter_filter]

theorem letters_eq_nil {cs : List Char} : letters cs = [] ↔ ∀ c ∈ cs, isBlank c = true := by
  simp [letters]

/-! ### Trimming -/

/-- A text that neither begins nor ends with a blank has nothing to be trimmed. -/
theorem trimmed_eq_self {p : Char → Bool} {cs : List Char}
    (hfirst : ∀ c, cs.head? = some c → p c = false)
    (hlast : ∀ c, cs.getLast? = some c → p c = false) : trimmed p cs = cs := by
  have hkeep : ∀ ds : List Char, (∀ c, ds.head? = some c → p c = false) →
      ds.dropWhile p = ds := by
    intro ds hds
    cases ds with
    | nil => rfl
    | cons d ds => exact List.dropWhile_cons_of_neg (by simp [hds d rfl])
  rw [trimmed, hkeep cs hfirst, hkeep, List.reverse_reverse]
  intro c hc
  rw [List.head?_reverse] at hc
  exact hlast c hc

/-- What is trimmed is taken away on both sides. -/
theorem trimmed_padded {p : Char → Bool} {before cs after : List Char}
    (hbefore : ∀ c ∈ before, p c = true) (hafter : ∀ c ∈ after, p c = true) :
    trimmed p (before ++ cs ++ after) = trimmed p cs := by
  rw [trimmed, trimmed, List.append_assoc, List.dropWhile_append_of_pos hbefore,
    List.dropWhile_append]
  split_ifs with hcs
  · rw [List.dropWhile_eq_nil_iff.mpr hafter, List.isEmpty_iff.mp hcs]
  · rw [List.reverse_append, List.dropWhile_append_of_pos (by simpa using hafter)]

/-! ### Joining texts -/

theorem joined_cons_cons (separator a b : List Char) (texts : List (List Char)) :
    joined separator (a :: b :: texts) = a ++ separator ++ joined separator (b :: texts) := rfl

/-- A blank separator adds no letter. -/
theorem letters_joined {separator : List Char} (h : letters separator = []) :
    ∀ texts : List (List Char), letters (joined separator texts) = texts.flatMap letters
  | [] => rfl
  | [text] => by simp [joined]
  | a :: b :: texts => by
      rw [joined_cons_cons, letters_append, letters_append, h, letters_joined h (b :: texts)]
      simp

theorem joined_append {separator : List Char} {a b : List (List Char)} (ha : a ≠ [])
    (hb : b ≠ []) :
    joined separator (a ++ b) = joined separator a ++ separator ++ joined separator b := by
  induction a with
  | nil => exact absurd rfl ha
  | cons text a ih =>
      cases a with
      | nil =>
          obtain ⟨next, b, rfl⟩ := List.exists_cons_of_ne_nil hb
          rfl
      | cons next a =>
          rw [List.cons_append, List.cons_append, joined_cons_cons, joined_cons_cons,
            ← List.cons_append, ih (by simp)]
          simp

theorem joined_eq_nil (separator : List Char) {texts : List (List Char)}
    (h : ∀ text ∈ texts, text ≠ []) : joined separator texts = [] ↔ texts = [] := by
  constructor
  · intro hnil
    match texts with
    | [] => rfl
    | [text] => exact absurd hnil (h text (by simp))
    | a :: b :: texts =>
        have ha := h a (by simp)
        simp_all [joined_cons_cons]
  · rintro rfl
    rfl

/-- Joining groups of texts one by one and then together is joining all texts; groups
without a text leave nothing. -/
theorem joined_groups {separator : List Char} {groups : List (List (List Char))}
    (h : ∀ group ∈ groups, ∀ text ∈ group, text ≠ []) :
    joined separator ((groups.map (joined separator)).filter fun text => !text.isEmpty)
      = joined separator groups.flatten := by
  induction groups with
  | nil => rfl
  | cons group groups ih =>
      have hgroup := h group (by simp)
      have hgroups : ∀ g ∈ groups, ∀ text ∈ g, text ≠ [] := fun g hg => h g (by simp [hg])
      have hempty := joined_eq_nil separator hgroup
      rw [List.map_cons, List.flatten_cons, List.filter_cons]
      by_cases hnil : group = []
      · simp [hnil, joined, ih hgroups]
      · have hkeep : (!(joined separator group).isEmpty) = true := by
          simpa using mt hempty.mp hnil
        rw [if_pos hkeep]
        by_cases hrest : (groups.map (joined separator)).filter (fun text => !text.isEmpty) = []
        · have hflat : groups.flatten = [] := by
            rw [← joined_eq_nil separator, ← ih hgroups, hrest]
            · rfl
            · intro text htext
              obtain ⟨g, hg, hmem⟩ := List.mem_flatten.mp htext
              exact hgroups g hg text hmem
          rw [hrest, hflat, List.append_nil]
          rfl
        · have hflat : groups.flatten ≠ [] := by
            intro hflat
            apply hrest
            rw [List.filter_eq_nil_iff]
            intro text htext
            obtain ⟨g, hg, rfl⟩ := List.mem_map.mp htext
            have : g = [] := List.flatten_eq_nil_iff.mp hflat g hg
            simp [this, joined]
          rw [joined_append hnil hflat, ← ih hgroups]
          obtain ⟨text, more, hmore⟩ := List.exists_cons_of_ne_nil hrest
          rw [hmore, joined_cons_cons]

/-! ### Words -/

theorem letters_words (cs : List Char) : (words cs).flatten = letters cs := by
  unfold words
  rw [List.flatten_filter_not_isEmpty]
  induction cs with
  | nil => rfl
  | cons c cs ih =>
      rw [letters_cons, ← ih, splitWhere]
      split
      · simp
      · cases splitWhere isBlank cs <;> simp

@[simp] theorem letters_collapsed (cs : List Char) : letters (collapsed cs) = letters cs := by
  rw [collapsed, letters_joined (by decide), ← letters_flatten, letters_words, letters_letters]

/-- Blanks alone leave nothing behind. -/
theorem collapsed_of_blank {cs : List Char} (h : letters cs = []) : collapsed cs = [] := by
  have hwords : words cs = [] := by
    cases hw : words cs with
    | nil => rfl
    | cons word more =>
        have hmem : word ∈ words cs := by rw [hw]; simp
        have hne : word ≠ [] := by simpa using (List.mem_filter.mp hmem).2
        have hflat : word ++ more.flatten = [] := by
          rw [← List.flatten_cons, ← hw, letters_words, h]
        exact absurd (List.append_eq_nil_iff.mp hflat).1 hne
  simp [collapsed, hwords, joined]

/-! ### Lines -/

theorem lines_eq_nil {cs : List Char} : lines cs = [] ↔ cs = [] := by
  constructor
  · intro h
    unfold lines at h
    split at h
    · rfl
    · simp at h
    · split at h
      · simp at h
      · split at h <;> simp at h
  · rintro rfl
    rfl

theorem letters_lines (cs : List Char) : (lines cs).flatMap letters = letters cs := by
  fun_induction lines cs with
  | case1 => rfl
  | case2 rest ih =>
      rw [letters_cons, letters_cons]
      simpa [show isBlank '\r' = true by decide, show isBlank '\n' = true by decide] using ih
  | case3 c rest _ hbreak ih =>
      rw [letters_cons, if_pos (isBlank_of_isLineBreak hbreak)]
      simpa using ih
  | case4 c rest _ hbreak hnil ih =>
      rw [letters_cons, ← ih, hnil]
      simp [letters_cons]
  | case5 c rest _ hbreak line more hcons ih =>
      rw [letters_cons c rest, ← ih, hcons]
      simp [letters_cons]

/-- A line feed ends a line: it adds an empty one only where no line was begun. -/
private theorem lines_append_feed (a b : List Char) :
    ∃ gap, (gap = [] ∨ gap = [[]]) ∧ lines (a ++ '\n' :: b) = lines a ++ gap ++ lines b := by
  fun_induction lines a with
  | case1 => exact ⟨[[]], .inr rfl, by simp [lines, isLineBreak]⟩
  | case2 rest ih =>
      obtain ⟨gap, hgap, heq⟩ := ih
      exact ⟨gap, hgap, by simp [lines, heq]⟩
  | case3 c rest hreturn hbreak ih =>
      by_cases hlast : c = '\r' ∧ rest = []
      · obtain ⟨rfl, rfl⟩ := hlast
        exact ⟨[], .inl rfl, by simp [lines]⟩
      · obtain ⟨gap, hgap, heq⟩ := ih
        refine ⟨gap, hgap, ?_⟩
        have hstep : lines (c :: (rest ++ '\n' :: b)) = [] :: lines (rest ++ '\n' :: b) := by
          rw [lines]
          · simp [hbreak]
          · rintro more rfl hmore
            cases rest with
            | nil => exact hlast ⟨rfl, rfl⟩
            | cons d rest =>
                obtain ⟨rfl, rfl⟩ := List.cons.inj hmore
                exact hreturn rest rfl rfl
        rw [List.cons_append, hstep, heq]
        simp
  | case4 c rest hreturn hbreak hnil ih =>
      obtain rfl := lines_eq_nil.mp hnil
      have hne : c ≠ '\r' := by
        rintro rfl
        exact hbreak (by decide)
      refine ⟨[], .inl rfl, ?_⟩
      have hfeed : lines ('\n' :: b) = [] :: lines b := by simp [lines, isLineBreak]
      simp [lines, hbreak, hfeed, hne]
  | case5 c rest hreturn hbreak line more hcons ih =>
      obtain ⟨gap, hgap, heq⟩ := ih
      have hne : c ≠ '\r' := by
        rintro rfl
        exact hbreak (by decide)
      refine ⟨gap, hgap, ?_⟩
      rw [List.cons_append, lines]
      · simp [hbreak, heq, hcons]
      · rintro _ rfl
        exact absurd rfl hne

/-! ### Lines that are not blank -/

/-- The lines of a text that are not blank, every one with its words set apart by single
spaces. -/
def visibleLines (cs : List Char) : List (List Char) :=
  ((lines cs).map collapsed).filter fun line => !line.isEmpty

theorem visibleLines_ne_nil {cs line : List Char} (h : line ∈ visibleLines cs) : line ≠ [] := by
  simpa using (List.mem_filter.mp h).2

/-- What is read of texts does not depend on those that have no characters. -/
theorem flatMap_without_empty {α : Type} {f : List Char → List α} (hf : f [] = [])
    (texts : List (List Char)) :
    (texts.filter fun text => !text.isEmpty).flatMap f = texts.flatMap f := by
  induction texts with
  | nil => rfl
  | cons text texts ih => cases text <;> simp [ih, hf]

theorem letters_visibleLines (cs : List Char) :
    (visibleLines cs).flatMap letters = letters cs := by
  rw [visibleLines, flatMap_without_empty letters_nil, List.flatMap_map]
  simpa using letters_lines cs

theorem visibleLines_append_feed (a b : List Char) :
    visibleLines (a ++ '\n' :: b) = visibleLines a ++ visibleLines b := by
  obtain ⟨gap, rfl | rfl, heq⟩ := lines_append_feed a b
  · simp [visibleLines, heq]
  · simp [visibleLines, heq, show collapsed [] = [] from rfl]

theorem visibleLines_of_blank {cs : List Char} (h : ∀ c ∈ cs, isBlank c = true) :
    visibleLines cs = [] := by
  rw [visibleLines, List.filter_eq_nil_iff]
  intro line hline
  obtain ⟨piece, hpiece, rfl⟩ := List.mem_map.mp hline
  have hall : (lines cs).flatMap letters = [] := by rw [letters_lines, letters_eq_nil.mpr h]
  have hnone : letters piece = [] := List.flatMap_eq_nil_iff.mp hall piece hpiece
  simp [collapsed_of_blank hnone]

/-! ### Paragraphs -/

theorem afterLastFeed?_eq_some {cs tail : List Char} (h : afterLastFeed? cs = some tail) :
    ∃ front, cs = front ++ '\n' :: tail := by
  induction cs generalizing tail with
  | nil => simp [afterLastFeed?] at h
  | cons c cs ih =>
      simp only [afterLastFeed?] at h
      split at h
      · rename_i t ht
        obtain ⟨front, rfl⟩ := ih (h ▸ ht)
        exact ⟨c :: front, rfl⟩
      · split at h
        · rename_i hc
          obtain rfl := Option.some.inj h
          exact ⟨[], by rw [hc]; rfl⟩
        · simp at h

/-- A gap is two line feeds with blanks between them. -/
theorem gapLength?_eq_some {cs : List Char} {length : Nat} (h : gapLength? cs = some length) :
    ∃ blanks rest, cs = '\n' :: (blanks ++ '\n' :: rest) ∧ (∀ c ∈ blanks, isBlank c = true) ∧
      length = blanks.length + 2 := by
  unfold gapLength? at h
  split at h
  · rename_i rest
    obtain ⟨tail, htail, rfl⟩ := Option.map_eq_some_iff.mp h
    obtain ⟨blanks, hblanks⟩ := afterLastFeed?_eq_some htail
    have hrest : rest = blanks ++ '\n' :: (tail ++ rest.dropWhile isBlank) := by
      conv_lhs => rw [← List.takeWhile_append_dropWhile (p := isBlank) (l := rest), hblanks]
      simp
    refine ⟨blanks, tail ++ rest.dropWhile isBlank, by rw [← hrest], ?_, ?_⟩
    · intro c hc
      exact List.mem_takeWhile_imp (by rw [hblanks]; simp [hc])
    · rw [hblanks]
      simp only [List.length_append, List.length_cons]
      omega
  · exact absurd h nofun

theorem chunksFrom_eq_drop (skip : Nat) (cs : List Char) :
    chunksFrom skip cs = chunks (cs.drop skip) := by
  induction cs generalizing skip with
  | nil => cases skip <;> simp [chunksFrom, chunks]
  | cons c cs ih =>
      cases skip with
      | zero => rfl
      | succ skip => rw [chunksFrom, ih, List.drop_succ_cons]

/-- A text is a single chunk, or its first gap ends one. -/
theorem chunks_cases (cs : List Char) :
    chunks cs = [cs] ∨ ∃ front blanks rest, cs = front ++ '\n' :: (blanks ++ '\n' :: rest) ∧
      (∀ c ∈ blanks, isBlank c = true) ∧ chunks cs = front :: chunks rest := by
  induction cs with
  | nil => exact .inl rfl
  | cons c cs ih =>
      rw [show chunks (c :: cs) = chunksFrom 0 (c :: cs) from rfl, chunksFrom]
      cases hgap : gapLength? (c :: cs) with
      | some length =>
          obtain ⟨blanks, rest, heq, hblanks, rfl⟩ := gapLength?_eq_some hgap
          obtain ⟨rfl, rfl⟩ := List.cons.inj heq
          refine .inr ⟨[], blanks, rest, rfl, hblanks, ?_⟩
          have hdrop : (blanks ++ '\n' :: rest).drop (blanks.length + 2 - 1) = rest := by
            rw [Nat.add_sub_assoc (by decide), ← List.drop_drop, List.drop_left]
            rfl
          simp only [chunksFrom_eq_drop, hdrop]
      | none =>
          simp only [chunksFrom_eq_drop, List.drop_zero]
          rcases ih with hone | ⟨front, blanks, rest, rfl, hblanks, hcut⟩
          · exact .inl (by rw [hone])
          · exact .inr ⟨c :: front, blanks, rest, rfl, hblanks, by rw [hcut]⟩

/-- Gaps separate lines and hold none that is not blank. -/
theorem visibleLines_chunks (cs : List Char) :
    (chunks cs).flatMap visibleLines = visibleLines cs := by
  induction hn : cs.length using Nat.strong_induction_on generalizing cs with
  | _ n ih =>
      subst hn
      rcases chunks_cases cs with hone | ⟨front, blanks, rest, rfl, hblanks, hcut⟩
      · simp [hone]
      · rw [hcut, List.flatMap_cons, ih rest.length (by simp; omega) rest rfl,
          visibleLines_append_feed, visibleLines_append_feed, visibleLines_of_blank hblanks,
          List.nil_append]

/-- A paragraph is made of the lines of a chunk. -/
theorem paragraphs_eq (cs : List Char) :
    paragraphs cs = (((chunks cs).map visibleLines).map (joined ['\n'])).filter
      fun text => !text.isEmpty := by
  rw [List.map_map]
  rfl

/-- **The paragraphs of a text, one below the other, are its lines that are not blank.** -/
theorem joined_paragraphs (cs : List Char) :
    joined ['\n'] (paragraphs cs) = joined ['\n'] (visibleLines cs) := by
  rw [paragraphs_eq, joined_groups, ← List.flatMap_def, visibleLines_chunks]
  intro group hgroup line hline
  obtain ⟨chunk, -, rfl⟩ := List.mem_map.mp hgroup
  exact visibleLines_ne_nil hline

/-- Paragraphs keep all letters, in order. -/
theorem letters_paragraphs (cs : List Char) : (paragraphs cs).flatMap letters = letters cs := by
  rw [← letters_joined (show letters ['\n'] = [] by decide), joined_paragraphs,
    letters_joined (by decide), letters_visibleLines]

end Paperwork.Text
