/-
Pages as rows of characters and tags.

What is looked for in a page always begins with a tag, and text that has been escaped
holds no angle bracket.  So a page made of escaped text and complete tags can be read
tag by tag: whatever a pattern finds in its characters, it finds at a tag, and it finds
it there by looking at the text between the two brackets only.

`ReadsTags` says this of a pattern, and the lemmas about `search`, `pieces` and `content`
carry it to everything that is done with such a page.
-/
import Paperwork.Html.Content
import Paperwork.Proofs.Html.Reference
import Paperwork.Proofs.Text.Search

namespace Paperwork.Html

open Paperwork.Text

/-- A part of a page: a character of text, or a tag with what stands between its
brackets. -/
inductive Token
  | char (c : Char)
  | tag (inner : List Char)
  deriving DecidableEq, Repr

namespace Token

/-- How a part is written. -/
def write : Token → List Char
  | char c => escapeChar c
  | tag inner => '<' :: (inner ++ ['>'])

/-- A tag holds something, and no angle bracket. -/
def Sound : Token → Prop
  | char _ => True
  | tag inner => inner ≠ [] ∧ '<' ∉ inner ∧ '>' ∉ inner

instance (t : Token) : Decidable t.Sound :=
  match t with
  | char _ => inferInstanceAs (Decidable True)
  | tag inner => inferInstanceAs (Decidable (inner ≠ [] ∧ '<' ∉ inner ∧ '>' ∉ inner))

end Token

/-- How the parts of a page are written. -/
def writeTokens (ts : List Token) : List Char := ts.flatMap Token.write

/-- All tags of a page are sound. -/
def Sound (ts : List Token) : Prop := ∀ t ∈ ts, t.Sound

@[simp] theorem writeTokens_nil : writeTokens [] = [] := rfl

@[simp] theorem writeTokens_cons (t : Token) (ts : List Token) :
    writeTokens (t :: ts) = t.write ++ writeTokens ts := rfl

@[simp] theorem writeTokens_append (a b : List Token) :
    writeTokens (a ++ b) = writeTokens a ++ writeTokens b := List.flatMap_append

/-- Escaped text is a row of characters. -/
theorem writeTokens_chars (cs : List Char) : writeTokens (cs.map .char) = escapeChars cs := by
  simp [writeTokens, escapeChars, List.flatMap_map, Token.write]

@[simp] theorem sound_nil : Sound [] := by simp [Sound]

@[simp] theorem sound_cons {t : Token} {ts : List Token} :
    Sound (t :: ts) ↔ t.Sound ∧ Sound ts := by simp [Sound]

@[simp] theorem sound_append {a b : List Token} : Sound (a ++ b) ↔ Sound a ∧ Sound b := by
  simp only [Sound, List.mem_append]
  exact ⟨fun h => ⟨fun t ht => h t (.inl ht), fun t ht => h t (.inr ht)⟩,
    fun h t ht => ht.elim (h.1 t) (h.2 t)⟩

@[simp] theorem sound_chars (cs : List Char) : Sound (cs.map .char) := by
  simp [Sound, Token.Sound]

theorem Token.write_ne_nil (t : Token) : t.write ≠ [] := by
  cases t with
  | tag inner => simp [write]
  | char c =>
      rcases escapeChar_cases c with ⟨hc, -⟩ | ⟨body, hc, -⟩ <;> simp [write, hc]

/-! ### Patterns that answer at tags only -/

/-- A pattern that answers at no text but one that begins with a tag. -/
def OnlyAtTags {α : Type} (p : List Char → Option α) : Prop :=
  ∀ cs, cs.head? ≠ some '<' → p cs = none

theorem escapeChar_no_bracket (c : Char) : '<' ∉ escapeChar c := by
  unfold escapeChar
  split
  all_goals first | decide | skip
  rename_i hlt _ _ _
  simpa using Ne.symm hlt

/-- Inside a part such a pattern answers nowhere. -/
theorem OnlyAtTags.inside {α : Type} {p : List Char → Option α} (hp : OnlyAtTags p)
    {t : Token} (ht : t.Sound) {tail : List Char} (htail : tail <:+ t.write) (hne : tail ≠ [])
    (hpart : tail ≠ t.write ∨ ∃ c, t = .char c) (rest : List Char) :
    p (tail ++ rest) = none := by
  refine hp _ ?_
  obtain ⟨d, tail, rfl⟩ := List.exists_cons_of_ne_nil hne
  simp only [List.cons_append, List.head?_cons, ne_eq, Option.some.injEq]
  rintro rfl
  cases t with
  | char c =>
      exact escapeChar_no_bracket c (htail.mem (by simp))
  | tag inner =>
      obtain ⟨-, hopen, -⟩ := ht
      have hproper : '<' :: tail ≠ '<' :: (inner ++ ['>']) := by
        rcases hpart with h | ⟨c, hc⟩
        · exact h
        · exact absurd hc (by simp)
      rcases List.suffix_cons_iff.mp htail with heq | hsuffix
      · exact hproper heq
      · have hmem : '<' ∈ inner ++ ['>'] := hsuffix.mem (by simp)
        simp only [List.mem_append, List.mem_singleton] at hmem
        rcases hmem with h | h
        · exact hopen h
        · exact absurd h (by decide)

/-- A character of text is passed over. -/
theorem OnlyAtTags.search_char {α : Type} {p : List Char → Option α} (hp : OnlyAtTags p)
    (c : Char) (cs : List Char) :
    search p (escapeChar c ++ cs)
      = (search p cs).map fun (before, a) => (escapeChar c ++ before, a) :=
  search_append fun _ hne htail =>
    hp.inside (t := .char c) trivial htail hne (.inr ⟨c, rfl⟩) cs

/-- A tag at which the pattern does not answer is passed over. -/
theorem OnlyAtTags.search_tag {α : Type} {p : List Char → Option α} (hp : OnlyAtTags p)
    {t : Token} (ht : t.Sound) {cs : List Char} (hnone : p (t.write ++ cs) = none) :
    search p (t.write ++ cs) = (search p cs).map fun (before, a) => (t.write ++ before, a) := by
  refine search_append fun tail hne htail => ?_
  by_cases hwhole : tail = t.write
  · rw [hwhole]
    exact hnone
  · exact hp.inside ht htail hne (.inl hwhole) cs

theorem OnlyAtTags.pieces_tag {α : Type} {p : Pattern α} (hp : OnlyAtTags p)
    {t : Token} (ht : t.Sound) {cs : List Char} (hnone : p (t.write ++ cs) = none) :
    pieces p (t.write ++ cs) = t.write.map .plain ++ pieces p cs := by
  refine pieces_append fun tail hne htail => ?_
  by_cases hwhole : tail = t.write
  · rw [hwhole]
    exact hnone
  · exact hp.inside ht htail hne (.inl hwhole) cs

theorem OnlyAtTags.char_none {α : Type} {p : List Char → Option α} (hp : OnlyAtTags p)
    (c : Char) (cs : List Char) : p (escapeChar c ++ cs) = none :=
  hp.inside (t := .char c) trivial List.suffix_rfl (Token.write_ne_nil (.char c))
    (.inr ⟨c, rfl⟩) cs

/-- In text without a bracket such a pattern answers nowhere. -/
theorem OnlyAtTags.plain_none {α : Type} {p : List Char → Option α} (hp : OnlyAtTags p)
    {front : List Char} (h : '<' ∉ front) {tail : List Char} (hne : tail ≠ [])
    (htail : tail <:+ front) (cs : List Char) : p (tail ++ cs) = none := by
  refine hp _ ?_
  obtain ⟨d, tail, rfl⟩ := List.exists_cons_of_ne_nil hne
  have hd : d ∈ front := htail.mem (by simp)
  simp only [List.cons_append, List.head?_cons, ne_eq, Option.some.injEq]
  rintro rfl
  exact h hd

theorem OnlyAtTags.search_plain {α : Type} {p : List Char → Option α} (hp : OnlyAtTags p)
    {cs : List Char} (h : '<' ∉ cs) : search p cs = none := by
  have hnil : search p [] = none := by simp [search, hp [] (by simp)]
  rw [← List.append_nil cs, search_append fun _ hne htail => hp.plain_none h hne htail [], hnil]
  rfl

theorem OnlyAtTags.replaced_plain {α : Type} {p : Pattern α} (hp : OnlyAtTags p)
    (filling : α → List Char) {cs : List Char} (h : '<' ∉ cs) : replaced p filling cs = cs :=
  replaced_eq_self filling (hp.search_plain h)

/-! ### Patterns that look at single tags -/

/-- A pattern that answers at a tag by what stands between its brackets, given the text
behind it, and nowhere else. -/
structure ReadsTags {α β : Type} (p : List Char → Option α) (inside : List Char → Option β)
    (answer : β → List Char → α) : Prop where
  onlyAtTags : OnlyAtTags p
  atTag : ∀ inner rest, '>' ∉ inner →
    p ('<' :: (inner ++ '>' :: rest)) = (inside inner).map fun b => answer b rest

/-- A pattern that looks at single tags, at a tag that has been written. -/
theorem ReadsTags.at_write {α β : Type} {p : List Char → Option α}
    {inside : List Char → Option β} {answer : β → List Char → α} (hp : ReadsTags p inside answer)
    {inner : List Char} (hinner : '>' ∉ inner) (rest : List Char) :
    p ((Token.tag inner).write ++ rest) = (inside inner).map fun b => answer b rest := by
  rw [← hp.atTag inner rest hinner]
  simp [Token.write]

/-- What a pattern that takes whole tags of a kind answers: their length. -/
def wholeTag (kind : List Char → Bool) (inner : List Char) : Option Nat :=
  if kind inner then some (Token.tag inner).write.length else none

/-- The first tag of a row for which `inside` has an answer, with the parts before and
behind it. -/
def firstTag {β : Type} (inside : List Char → Option β) :
    List Token → Option (List Token × β × List Token)
  | [] => none
  | .char c :: ts => (firstTag inside ts).map fun (before, b) => (.char c :: before, b)
  | .tag inner :: ts =>
    match inside inner with
    | some b => some ([], b, ts)
    | none => (firstTag inside ts).map fun (before, b) => (.tag inner :: before, b)

/-- **A search in a written page finds the first tag that its pattern asks for.** -/
theorem ReadsTags.search_writeTokens {α β : Type} {p : List Char → Option α}
    {inside : List Char → Option β} {answer : β → List Char → α}
    (hp : ReadsTags p inside answer) {ts : List Token} (hts : Sound ts) :
    search p (writeTokens ts) = (firstTag inside ts).map fun (before, b, after) =>
      (writeTokens before, answer b (writeTokens after)) := by
  induction ts with
  | nil => simp [search, firstTag, hp.onlyAtTags [] (by simp)]
  | cons t ts ih =>
      obtain ⟨ht, hrest⟩ := sound_cons.mp hts
      cases t with
      | char c =>
          rw [writeTokens_cons, Token.write, hp.onlyAtTags.search_char, ih hrest, firstTag,
            Option.map_map, Option.map_map]
          rfl
      | tag inner =>
          have hat := hp.at_write ht.2.2 (writeTokens ts)
          rw [writeTokens_cons, firstTag]
          cases hin : inside inner with
          | some b =>
              rw [hin, Option.map_some] at hat
              rw [search_of_some hat]
              rfl
          | none =>
              rw [hin, Option.map_none] at hat
              rw [hp.onlyAtTags.search_tag ht hat, ih hrest, Option.map_map, Option.map_map]
              rfl

/-! ### The first tag of a row -/

section FirstTag

variable {β : Type} {inside : List Char → Option β}

/-- The first tag of a row is in front, or it is the first tag behind a part that is not
asked for. -/
theorem firstTag_cons_eq_some {t : Token} {ts before after : List Token} {b : β}
    (h : firstTag inside (t :: ts) = some (before, b, after)) :
    (∃ inner, t = .tag inner ∧ inside inner = some b ∧ before = [] ∧ after = ts) ∨
      ∃ front, before = t :: front ∧ (∀ inner, t = .tag inner → inside inner = none) ∧
        firstTag inside ts = some (front, b, after) := by
  cases t with
  | char c =>
      simp only [firstTag, Option.map_eq_some_iff, Prod.mk.injEq] at h
      obtain ⟨⟨front, b', after'⟩, hfirst, rfl, rfl, rfl⟩ := h
      exact .inr ⟨front, rfl, nofun, hfirst⟩
  | tag inner =>
      simp only [firstTag] at h
      cases hin : inside inner with
      | some b' =>
          simp only [hin, Option.some.injEq, Prod.mk.injEq] at h
          obtain ⟨rfl, rfl, rfl⟩ := h
          exact .inl ⟨inner, rfl, hin, rfl, rfl⟩
      | none =>
          simp only [hin, Option.map_eq_some_iff, Prod.mk.injEq] at h
          obtain ⟨⟨front, b', after'⟩, hfirst, rfl, rfl, rfl⟩ := h
          exact .inr ⟨front, rfl, fun other heq => Token.tag.inj heq ▸ hin, hfirst⟩

theorem firstTag_eq_some {ts before after : List Token} {b : β}
    (h : firstTag inside ts = some (before, b, after)) :
    ∃ inner, ts = before ++ .tag inner :: after ∧ inside inner = some b := by
  induction ts generalizing before with
  | nil => exact absurd h nofun
  | cons t ts ih =>
      obtain ⟨inner, rfl, hin, rfl, rfl⟩ | ⟨front, rfl, -, hfirst⟩ := firstTag_cons_eq_some h
      · exact ⟨inner, rfl, hin⟩
      · obtain ⟨inner, rfl, hin⟩ := ih hfirst
        exact ⟨inner, rfl, hin⟩

/-- No tag of a row is asked for. -/
def NoTag (inside : List Char → Option β) (ts : List Token) : Prop :=
  ∀ inner, .tag inner ∈ ts → inside inner = none

theorem firstTag_eq_none : ∀ {ts : List Token}, firstTag inside ts = none ↔ NoTag inside ts
  | [] => by simp [firstTag, NoTag]
  | .char c :: ts => by
      simp only [firstTag, Option.map_eq_none_iff, firstTag_eq_none, NoTag, List.mem_cons,
        reduceCtorEq, false_or]
  | .tag inner :: ts => by
      simp only [firstTag]
      cases hin : inside inner with
      | some b =>
          simp only [reduceCtorEq, false_iff, NoTag, not_forall]
          exact ⟨inner, by simp, by simp [hin]⟩
      | none =>
          simp only [Option.map_eq_none_iff, firstTag_eq_none, NoTag, List.mem_cons,
            Token.tag.injEq]
          exact ⟨fun h i hi => hi.elim (fun e => e ▸ hin) (h i), fun h i hi => h i (.inr hi)⟩

@[simp] theorem noTag_nil : NoTag inside [] := by simp [NoTag]

@[simp] theorem noTag_char {c : Char} {ts : List Token} :
    NoTag inside (.char c :: ts) ↔ NoTag inside ts := by simp [NoTag]

@[simp] theorem noTag_tag {inner : List Char} {ts : List Token} :
    NoTag inside (.tag inner :: ts) ↔ inside inner = none ∧ NoTag inside ts := by
  simp only [NoTag, List.mem_cons, Token.tag.injEq]
  exact ⟨fun h => ⟨h inner (.inl rfl), fun i hi => h i (.inr hi)⟩,
    fun h i hi => hi.elim (fun e => e ▸ h.1) (h.2 i)⟩

@[simp] theorem noTag_append {a b : List Token} :
    NoTag inside (a ++ b) ↔ NoTag inside a ∧ NoTag inside b := by
  simp only [NoTag, List.mem_append]
  exact ⟨fun h => ⟨fun i hi => h i (.inl hi), fun i hi => h i (.inr hi)⟩,
    fun h i hi => hi.elim (h.1 i) (h.2 i)⟩

@[simp] theorem noTag_chars (cs : List Char) : NoTag inside (cs.map .char) := by simp [NoTag]

theorem NoTag.sublist {a b : List Token} (h : a.Sublist b) (hb : NoTag inside b) :
    NoTag inside a := fun inner hinner => hb inner (h.subset hinner)

/-- Parts that are not asked for do not change what is found behind them. -/
theorem firstTag_append {a b : List Token} (ha : NoTag inside a) :
    firstTag inside (a ++ b)
      = (firstTag inside b).map fun (before, x) => (a ++ before, x) := by
  induction a with
  | nil => cases hb : firstTag inside b <;> simp [hb]
  | cons t a ih =>
      cases t with
      | char c =>
          rw [noTag_char] at ha
          rw [List.cons_append, firstTag, ih ha, Option.map_map]
          rfl
      | tag inner =>
          rw [noTag_tag] at ha
          rw [List.cons_append, firstTag, ha.1, ih ha.2]
          simp only [Option.map_map]
          rfl

theorem firstTag_tag {inner : List Char} {b : β} (h : inside inner = some b) (ts : List Token) :
    firstTag inside (.tag inner :: ts) = some ([], b, ts) := by
  simp [firstTag, h]

theorem firstTag_before {ts before after : List Token} {b : β}
    (h : firstTag inside ts = some (before, b, after)) : NoTag inside before := by
  induction ts generalizing before with
  | nil => exact absurd h nofun
  | cons t ts ih =>
      obtain ⟨inner, -, -, rfl, -⟩ | ⟨front, rfl, hnone, hfirst⟩ := firstTag_cons_eq_some h
      · exact noTag_nil
      · intro inner hinner
        rcases List.mem_cons.mp hinner with heq | hmem
        · exact hnone inner heq.symm
        · exact ih hfirst inner hmem

end FirstTag

/-! ### All tags of a kind -/

/-- What a pattern that takes whole tags of a kind makes of a part: a match, or the
characters it is written with. -/
def Token.pieces (kind : List Char → Bool) : Token → List (Piece Unit)
  | .char c => (escapeChar c).map .plain
  | .tag inner => if kind inner then [.hit ()] else (Token.tag inner).write.map .plain

section WholeTag

variable {p : Pattern Unit} {kind : List Char → Bool}

theorem ReadsTags.pieces_write (hp : ReadsTags p (wholeTag kind) fun length _ => ((), length))
    {t : Token} (ht : t.Sound) (cs : List Char) :
    Text.pieces p (t.write ++ cs) = t.pieces kind ++ Text.pieces p cs := by
  cases t with
  | char c => exact hp.onlyAtTags.pieces_tag ht (hp.onlyAtTags.char_none c cs)
  | tag inner =>
      have hat := hp.at_write ht.2.2 cs
      by_cases hkind : kind inner = true
      · rw [wholeTag, if_pos hkind, Option.map_some] at hat
        rw [pieces_of_some hat (by simp [Token.write]) (by simp [Token.write]), List.drop_left,
          Token.pieces, if_pos hkind]
        rfl
      · rw [wholeTag, if_neg hkind, Option.map_none] at hat
        rw [hp.onlyAtTags.pieces_tag ht hat, Token.pieces, if_neg hkind]

/-- **A pattern that takes whole tags of a kind takes just these out of a written page.** -/
theorem ReadsTags.pieces_writeTokens
    (hp : ReadsTags p (wholeTag kind) fun length _ => ((), length)) {ts : List Token}
    (hts : Sound ts) : Text.pieces p (writeTokens ts) = ts.flatMap (Token.pieces kind) := by
  induction ts with
  | nil => rfl
  | cons t ts ih =>
      obtain ⟨ht, hrest⟩ := sound_cons.mp hts
      rw [writeTokens_cons, hp.pieces_write ht, ih hrest, List.flatMap_cons]

end WholeTag

end Paperwork.Html
