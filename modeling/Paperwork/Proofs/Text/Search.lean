/-
What a search through a text finds.

A search answers at the first place where its pattern does.  Two consequences carry
everything that is proved about reading pages: a search that is begun later, but not
behind the place it finds, finds the same place; and text at which the pattern answers
nowhere can be set in front of another text without changing what is found there.
-/
import Mathlib
import Paperwork.Text.Pattern

namespace Paperwork.Text

variable {α : Type}

/-! ### The place a search finds -/

/-- A search finds the place it begins at, or one that it finds behind the next character. -/
theorem search_cons_eq_some {p : List Char → Option α} {c : Char} {cs before : List Char} {a : α}
    (h : search p (c :: cs) = some (before, a)) :
    (before = [] ∧ p (c :: cs) = some a) ∨
      ∃ inner, before = c :: inner ∧ p (c :: cs) = none ∧ search p cs = some (inner, a) := by
  simp only [search] at h
  cases hp : p (c :: cs) with
  | some b =>
      simp only [hp, Option.some.injEq, Prod.mk.injEq] at h
      obtain ⟨rfl, rfl⟩ := h
      exact .inl ⟨rfl, rfl⟩
  | none =>
      simp only [hp, Option.map_eq_some_iff, Prod.mk.injEq] at h
      obtain ⟨⟨inner, b⟩, hfound, rfl, rfl⟩ := h
      exact .inr ⟨inner, rfl, rfl, hfound⟩

theorem search_eq_some {p : List Char → Option α} {cs before : List Char} {a : α}
    (h : search p cs = some (before, a)) : ∃ rest, cs = before ++ rest ∧ p rest = some a := by
  induction cs generalizing before with
  | nil =>
      simp only [search, Option.map_eq_some_iff, Prod.mk.injEq] at h
      obtain ⟨b, hb, rfl, rfl⟩ := h
      exact ⟨[], rfl, hb⟩
  | cons c cs ih =>
      obtain ⟨rfl, hp⟩ | ⟨inner, rfl, -, hfound⟩ := search_cons_eq_some h
      · exact ⟨c :: cs, rfl, hp⟩
      · obtain ⟨rest, rfl, hrest⟩ := ih hfound
        exact ⟨rest, rfl, hrest⟩

theorem search_of_some {p : List Char → Option α} {cs : List Char} {a : α}
    (h : p cs = some a) : search p cs = some ([], a) := by
  cases cs <;> simp [search, h]

/-- A search begun later, not behind the place it finds, finds that place. -/
theorem search_drop {p : List Char → Option α} {cs before : List Char} {a : α}
    (h : search p cs = some (before, a)) {k : Nat} (hk : k ≤ before.length) :
    search p (cs.drop k) = some (before.drop k, a) := by
  induction k generalizing cs before with
  | zero => simpa using h
  | succ k ih =>
      cases cs with
      | nil =>
          simp only [search, Option.map_eq_some_iff, Prod.mk.injEq] at h
          obtain ⟨b, -, rfl, -⟩ := h
          simp at hk
      | cons c cs =>
          obtain ⟨rfl, -⟩ | ⟨inner, rfl, -, hfound⟩ := search_cons_eq_some h
          · exact absurd hk (Nat.not_succ_le_zero k)
          · exact ih hfound (Nat.le_of_succ_le_succ hk)

/-- A search that finds nothing finds nothing later either. -/
theorem search_drop_none {p : List Char → Option α} {cs : List Char}
    (h : search p cs = none) (k : Nat) : search p (cs.drop k) = none := by
  induction k generalizing cs with
  | zero => simpa using h
  | succ k ih =>
      cases cs with
      | nil => simpa using h
      | cons c cs =>
          simp only [search] at h
          cases hp : p (c :: cs) with
          | some b => simp [hp] at h
          | none =>
              simp only [hp, Option.map_eq_none_iff] at h
              exact ih h

/-- Text at which the pattern answers nowhere does not change what is found behind it. -/
theorem search_append {p : List Char → Option α} {front cs : List Char}
    (h : ∀ tail, tail ≠ [] → tail <:+ front → p (tail ++ cs) = none) :
    search p (front ++ cs) = (search p cs).map fun (before, a) => (front ++ before, a) := by
  induction front with
  | nil => cases hs : search p cs <;> simp [hs]
  | cons c front ih =>
      have hfront : ∀ tail, tail ≠ [] → tail <:+ front → p (tail ++ cs) = none :=
        fun tail hne htail => h tail hne (htail.trans (List.suffix_cons c front))
      have hhead : p (c :: (front ++ cs)) = none :=
        h (c :: front) (by simp) List.suffix_rfl
      simp only [List.cons_append, search, hhead, ih hfront, Option.map_map]
      rfl

/-- A search finds nothing exactly if its pattern answers nowhere. -/
theorem search_eq_none {p : List Char → Option α} {cs : List Char} :
    search p cs = none ↔ ∀ tail, tail <:+ cs → p tail = none := by
  constructor
  · rintro h tail ⟨front, rfl⟩
    cases hp : p tail with
    | none => rfl
    | some a =>
        have hdrop := search_drop_none h front.length
        rw [List.drop_left, search_of_some hp] at hdrop
        exact absurd hdrop (by simp)
  · intro h
    cases hs : search p cs with
    | none => rfl
    | some found =>
        obtain ⟨rest, hcs, hp⟩ := search_eq_some hs
        rw [h rest ⟨found.1, hcs.symm⟩] at hp
        exact absurd hp (by simp)

/-- What a pattern finds somewhere is found. -/
theorem search_ne_none {p : List Char → Option α} {front rest : List Char} {a : α}
    (h : p rest = some a) : search p (front ++ rest) ≠ none := by
  intro hnone
  rw [search_eq_none.mp hnone rest (List.suffix_append front rest)] at h
  exact absurd h nofun

/-! ### Reading on behind a match -/

theorem piecesFrom_eq_drop (p : Pattern α) (skip : Nat) (cs : List Char) :
    piecesFrom p skip cs = pieces p (cs.drop skip) := by
  induction cs generalizing skip with
  | nil => cases skip <;> simp [piecesFrom, pieces]
  | cons c cs ih =>
      cases skip with
      | zero => rfl
      | succ skip => simpa [piecesFrom] using ih skip

@[simp] theorem pieces_nil (p : Pattern α) : pieces p [] = [] := rfl

theorem pieces_cons_of_none {p : Pattern α} {c : Char} {cs : List Char}
    (h : p (c :: cs) = none) : pieces p (c :: cs) = .plain c :: pieces p cs := by
  simp [pieces, piecesFrom, h]

theorem pieces_of_some {p : Pattern α} {cs : List Char} {a : α} {length : Nat}
    (h : p cs = some (a, length)) (hpos : 0 < length) (hcs : cs ≠ []) :
    pieces p cs = .hit a :: pieces p (cs.drop length) := by
  cases cs with
  | nil => exact absurd rfl hcs
  | cons c cs =>
      obtain ⟨length, rfl⟩ : ∃ n, length = n + 1 := ⟨length - 1, by omega⟩
      have hstep : pieces p (c :: cs) = .hit a :: piecesFrom p length cs := by
        simp [pieces, piecesFrom, h]
      rw [hstep, piecesFrom_eq_drop]
      rfl

/-- Where the pattern answers nowhere in front, reading begins with plain characters. -/
theorem pieces_append {p : Pattern α} {front cs : List Char}
    (h : ∀ tail, tail ≠ [] → tail <:+ front → p (tail ++ cs) = none) :
    pieces p (front ++ cs) = front.map .plain ++ pieces p cs := by
  induction front with
  | nil => rfl
  | cons c front ih =>
      have hfront : ∀ tail, tail ≠ [] → tail <:+ front → p (tail ++ cs) = none :=
        fun tail hne htail => h tail hne (htail.trans (List.suffix_cons c front))
      have hhead : p (c :: (front ++ cs)) = none :=
        h (c :: front) (by simp) List.suffix_rfl
      rw [List.cons_append, pieces_cons_of_none hhead, ih hfront]
      rfl

theorem replaced_append {p : Pattern α} {front cs : List Char} (filling : α → List Char)
    (h : pieces p (front ++ cs) = front.map .plain ++ pieces p cs) :
    replaced p filling (front ++ cs) = front ++ replaced p filling cs := by
  simp [replaced, h, List.flatMap_append, List.flatMap_map]

/-- Where the pattern answers nowhere, nothing is replaced. -/
theorem replaced_eq_self {p : Pattern α} {cs : List Char} (filling : α → List Char)
    (h : search p cs = none) : replaced p filling cs = cs := by
  have hpieces : pieces p (cs ++ []) = cs.map .plain ++ pieces p [] := by
    refine pieces_append fun tail _ htail => ?_
    rw [List.append_nil]
    exact search_eq_none.mp h tail htail
  have hreplaced := replaced_append filling hpieces
  rwa [List.append_nil, show replaced p filling [] = [] from rfl, List.append_nil] at hreplaced

theorem replaced_of_some {p : Pattern α} {cs : List Char} {a : α} {length : Nat}
    (filling : α → List Char) (h : p cs = some (a, length)) (hpos : 0 < length)
    (hcs : cs ≠ []) : replaced p filling cs = filling a ++ replaced p filling (cs.drop length) := by
  simp [replaced, pieces_of_some h hpos hcs]

theorem matchesIn_append {p : Pattern α} {front cs : List Char}
    (h : pieces p (front ++ cs) = front.map .plain ++ pieces p cs) :
    matchesIn p (front ++ cs) = matchesIn p cs := by
  simp [matchesIn, h, List.filterMap_append, List.filterMap_map]

theorem matchesIn_of_some {p : Pattern α} {cs : List Char} {a : α} {length : Nat}
    (h : p cs = some (a, length)) (hpos : 0 < length) (hcs : cs ≠ []) :
    matchesIn p cs = a :: matchesIn p (cs.drop length) := by
  simp [matchesIn, pieces_of_some h hpos hcs]

theorem between_eq_cons (p : Pattern α) (cs : List Char) :
    ∃ chunk chunks, between p cs = chunk :: chunks := ⟨_, _, rfl⟩

theorem between_append {p : Pattern α} {front cs chunk : List Char} {chunks : List (List Char)}
    (h : pieces p (front ++ cs) = front.map .plain ++ pieces p cs)
    (hrest : between p cs = chunk :: chunks) :
    between p (front ++ cs) = (front ++ chunk) :: chunks := by
  obtain ⟨hchunk, hchunks⟩ := List.cons.inj hrest
  unfold between at *
  rw [h]
  clear h hrest
  induction front with
  | nil => simp [hchunk, hchunks]
  | cons c front ih =>
      obtain ⟨hone, hmore⟩ := List.cons.inj ih
      simp only [List.map_cons, List.cons_append, List.foldr_cons, hone, hmore]

theorem between_of_hit {p : Pattern α} {cs rest : List Char} {a : α}
    (h : pieces p cs = .hit a :: pieces p rest) : between p cs = [] :: between p rest := by
  simp [between, h]

theorem between_of_some {p : Pattern α} {cs : List Char} {a : α} {length : Nat}
    (h : p cs = some (a, length)) (hpos : 0 < length) (hcs : cs ≠ []) :
    between p cs = [] :: between p (cs.drop length) :=
  between_of_hit (pieces_of_some h hpos hcs)

/-- There is one piece of text more than there are matches. -/
theorem length_between (p : Pattern α) (cs : List Char) :
    (between p cs).length = (matchesIn p cs).length + 1 := by
  unfold between matchesIn
  induction pieces p cs with
  | nil => rfl
  | cons piece pieces ih =>
      cases piece with
      | plain c => exact ih
      | hit a => exact congrArg (· + 1) ih

theorem between_cons_of_none {p : Pattern α} {c : Char} {cs chunk : List Char}
    {chunks : List (List Char)} (h : p (c :: cs) = none) (hrest : between p cs = chunk :: chunks) :
    between p (c :: cs) = (c :: chunk) :: chunks := by
  have hpieces : pieces p ([c] ++ cs) = [c].map .plain ++ pieces p cs := pieces_cons_of_none h
  exact between_append hpieces hrest

theorem between_cons_of_some {p : Pattern α} {c : Char} {cs : List Char} {a : α} {length : Nat}
    (h : p (c :: cs) = some (a, length)) :
    between p (c :: cs) = [] :: between p (cs.drop (length - 1)) := by
  have hpieces : pieces p (c :: cs) = .hit a :: pieces p (cs.drop (length - 1)) := by
    rw [← piecesFrom_eq_drop]
    simp [pieces, piecesFrom, h]
  exact between_of_hit hpieces

/-- What stands between the matches is what is left if they are taken out. -/
theorem flatten_between (p : Pattern α) (cs : List Char) :
    (between p cs).flatten = replaced p (fun _ => []) cs := by
  unfold between replaced
  induction pieces p cs with
  | nil => rfl
  | cons piece pieces ih =>
      cases piece with
      | plain c => exact congrArg (c :: ·) ih
      | hit a => exact ih

/-- Where a front of the first piece ends, the rest of it begins. -/
theorem exists_of_between_append {p : Pattern α} {front chunk cs : List Char}
    {chunks : List (List Char)} (h : between p cs = (front ++ chunk) :: chunks) :
    ∃ rest, cs = front ++ rest ∧ between p rest = chunk :: chunks ∧
      (front ≠ [] → p cs = none) := by
  induction front generalizing cs with
  | nil => exact ⟨cs, rfl, h, fun hne => absurd rfl hne⟩
  | cons f front ih =>
      cases cs with
      | nil => exact absurd (List.cons.inj h).1 nofun
      | cons c cs =>
          cases hp : p (c :: cs) with
          | some found =>
              rw [between_cons_of_some hp] at h
              exact absurd (List.cons.inj h).1 nofun
          | none =>
              obtain ⟨more, others, hmore⟩ := between_eq_cons p cs
              rw [between_cons_of_none hp hmore] at h
              obtain ⟨hfirst, rfl⟩ := List.cons.inj h
              obtain ⟨rfl, rfl⟩ := List.cons.inj hfirst
              obtain ⟨rest, rfl, hrest, -⟩ := ih hmore
              exact ⟨rest, rfl, hrest, fun _ => rfl⟩

theorem exists_of_between {p : Pattern α} {chunk cs : List Char} {chunks : List (List Char)}
    (h : between p cs = chunk :: chunks) :
    ∃ rest, cs = chunk ++ rest ∧ (chunk ≠ [] → p cs = none) := by
  rw [← List.append_nil chunk] at h
  obtain ⟨rest, hcs, -, hnone⟩ := exists_of_between_append h
  exact ⟨rest, hcs, hnone⟩

/-- Each of the pieces begins somewhere in the text, and those behind it follow there. -/
theorem exists_of_between_suffix {p : Pattern α} {cs chunk : List Char}
    {chunks : List (List Char)} (h : chunk :: chunks <:+ between p cs) :
    ∃ rest, rest <:+ cs ∧ between p rest = chunk :: chunks := by
  induction hn : cs.length using Nat.strong_induction_on generalizing cs with
  | _ n ih =>
      subst hn
      cases cs with
      | nil =>
          rcases List.suffix_cons_iff.mp h with heq | hnil
          · exact ⟨[], List.suffix_rfl, heq.symm⟩
          · exact absurd (List.suffix_nil.mp hnil) nofun
      | cons c cs =>
          cases hp : p (c :: cs) with
          | some found =>
              obtain ⟨a, length⟩ := found
              have hcut := between_cons_of_some hp
              rw [hcut] at h
              rcases List.suffix_cons_iff.mp h with heq | hbehind
              · exact ⟨c :: cs, List.suffix_rfl, hcut.trans heq.symm⟩
              · have hsuffix := List.drop_suffix (length - 1) cs
                obtain ⟨rest, hrest, hbetween⟩ :=
                  ih _ (Nat.lt_succ_of_le hsuffix.length_le) hbehind rfl
                exact ⟨rest, (hrest.trans hsuffix).trans (List.suffix_cons c cs), hbetween⟩
          | none =>
              obtain ⟨more, others, hmore⟩ := between_eq_cons p cs
              have hkept := between_cons_of_none hp hmore
              rw [hkept] at h
              rcases List.suffix_cons_iff.mp h with heq | hbehind
              · exact ⟨c :: cs, List.suffix_rfl, hkept.trans heq.symm⟩
              · have hlater : chunk :: chunks <:+ between p cs :=
                  hmore ▸ hbehind.trans (List.suffix_cons more others)
                obtain ⟨rest, hrest, hbetween⟩ := ih _ (Nat.lt_succ_self _) hlater rfl
                exact ⟨rest, hrest.trans (List.suffix_cons c cs), hbetween⟩

/-- If there is one piece only, it is the text. -/
theorem eq_of_between {p : Pattern α} {cs chunk : List Char} (h : between p cs = [chunk]) :
    cs = chunk := by
  rw [← List.append_nil chunk] at h
  obtain ⟨rest, rfl, hrest, -⟩ := exists_of_between_append h
  cases rest with
  | nil => rw [List.append_nil]
  | cons c rest =>
      obtain ⟨more, others, hmore⟩ := between_eq_cons p rest
      cases hp : p (c :: rest) with
      | none =>
          rw [between_cons_of_none hp hmore] at hrest
          exact absurd (List.cons.inj hrest).1 nofun
      | some found =>
          obtain ⟨first, others, hfirst⟩ := between_eq_cons p (rest.drop (found.2 - 1))
          rw [between_cons_of_some hp, hfirst] at hrest
          exact absurd (List.cons.inj hrest).2 nofun

/-- What a pattern finds nowhere in a text it does not find between the matches of another
pattern in it either, put together, if it does not see where pieces are joined. -/
theorem search_between_eq_none {β : Type} {p : Pattern α} {q : List Char → Option β}
    (whole : List Char → Prop)
    (hwithin : ∀ a b, whole a → search q (a ++ b) = none → search q a = none)
    (hjoined : ∀ a b, whole a → search q a = none → search q b = none → search q (a ++ b) = none)
    {cs : List Char} {stretches : List (List Char)} (h : between p cs = stretches)
    (hwhole : ∀ s ∈ stretches.dropLast, whole s) (hnone : search q cs = none) :
    search q stretches.flatten = none := by
  induction stretches generalizing cs with
  | nil =>
      obtain ⟨chunk, chunks, hcons⟩ := between_eq_cons p cs
      exact absurd (hcons.symm.trans h) nofun
  | cons s more ih =>
      cases more with
      | nil => simpa [eq_of_between h] using hnone
      | cons t more =>
          obtain ⟨hs, hmore⟩ := List.forall_mem_cons.mp hwhole
          obtain ⟨rest, hrest, hbetween⟩ :=
            exists_of_between_suffix (h ▸ List.suffix_cons s (t :: more))
          obtain ⟨behind, rfl, -⟩ := exists_of_between h
          refine hjoined _ _ hs (hwithin s behind hs hnone) (ih hbetween hmore ?_)
          exact search_eq_none.mpr fun tail htail =>
            search_eq_none.mp hnone tail (htail.trans hrest)

/-! ### Up to a character -/

theorem upTo?_append {stop : Char} {before : List Char} (h : stop ∉ before)
    (rest : List Char) : upTo? stop (before ++ stop :: rest) = some (before, rest) := by
  induction before with
  | nil => simp [upTo?]
  | cons c before ih =>
      simp only [List.mem_cons, not_or] at h
      simp [upTo?, Ne.symm h.1, ih h.2]

/-! ### Reading on to a stop -/

/-- A front of characters of one kind ends where the first of another kind stands. -/
theorem span_append {p : Char → Bool} {front rest : List Char} (hfront : ∀ c ∈ front, p c = true)
    (hrest : ∀ c ∈ rest.head?, p c = false) : (front ++ rest).span p = (front, rest) := by
  have hstop : rest.takeWhile p = [] ∧ rest.dropWhile p = rest := by
    cases rest with
    | nil => exact ⟨rfl, rfl⟩
    | cons c rest => simp [hrest c rfl]
  rw [List.span_eq_takeWhile_dropWhile, List.takeWhile_append_of_pos hfront,
    List.dropWhile_append_of_pos hfront, hstop.1, hstop.2, List.append_nil]

theorem behind?_append_self (front rest : List Char) :
    behind? front (front ++ rest) = some rest := by
  induction front with
  | nil => rfl
  | cons c front ih => rw [List.cons_append, behind?, if_pos rfl, ih]

end Paperwork.Text
