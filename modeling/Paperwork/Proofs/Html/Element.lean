/-
Elements of a written page.

An element reaches from its opening tag to the first tag that closes it.  Both are whole
parts of a written page, so the content of an element is a row of parts again, and the
contents of all elements of a page follow one another in it.
-/
import Paperwork.Proofs.Html.Content

namespace Paperwork.Html

open Paperwork.Text

/-- Elements of several names, each ended by a closing tag of the name that `closed`
tells. -/
def elements (key : Char → Char) (names : List (List Char)) (closed : Opening → List Char) :
    Pattern Element := fun cs =>
  (element? key names closed cs).map fun e => (e, e.length)

theorem elementNamed_eq (name : List Char) :
    elementNamed name = elements caseFree [name] fun _ => name := rfl

section Elements

variable {key : Char → Char} {names : List (List Char)} {closed : Opening → List Char}

theorem onlyAtTags_elements (h : ∀ n ∈ names, '>' ∉ n) :
    OnlyAtTags (elements key names closed) := by
  intro cs hcs
  simp [elements, element?, (readsTags_opening h).onlyAtTags cs hcs]

theorem elements_of_not_opens (h : ∀ n ∈ names, '>' ∉ n) {inner : List Char}
    (hinner : (Token.tag inner).Sound) (hopens : opens names inner = none) (cs : List Char) :
    elements key names closed ((Token.tag inner).write ++ cs) = none := by
  have hat := (readsTags_opening h).at_write hinner.2.2 cs
  rw [hopens, Option.map_none] at hat
  simp only [elements, element?, hat]
  rfl

/-- The element that begins with a tag ends with the first tag that closes it. -/
theorem elements_of_opens (h : ∀ n ∈ names, '>' ∉ n) {inner name attributes : List Char}
    (hinner : (Token.tag inner).Sound) (hopens : opens names inner = some (name, attributes))
    {ts : List Token} (hts : Sound ts)
    (hclosed : IsName key (closed ⟨name, attributes, writeTokens ts⟩)) :
    elements key names closed (writeTokens (.tag inner :: ts))
      = (firstTag (wholeTag (closes key (closed ⟨name, attributes, writeTokens ts⟩))) ts).map
          fun (body, length, _) =>
            (⟨⟨name, attributes, writeTokens ts⟩, writeTokens body,
                (Token.tag inner).write.length + (writeTokens body).length + length⟩,
              (Token.tag inner).write.length + (writeTokens body).length + length) := by
  have hat := (readsTags_opening h).at_write hinner.2.2 (writeTokens ts)
  rw [hopens, Option.map_some] at hat
  simp only [elements, element?, writeTokens_cons, hat, Option.bind_eq_bind, Option.bind_some]
  rw [upToClosing?, (readsTags_closing hclosed).search_writeTokens hts]
  cases firstTag (wholeTag (closes key (closed ⟨name, attributes, writeTokens ts⟩))) ts with
  | none => rfl
  | some found =>
      have hlength := Opening.length_of_opens hopens (writeTokens ts)
      simp only [Option.map_some, Option.bind_some, hlength, Token.write]
      rfl

/-- What is not the beginning of an element is passed over. -/
theorem matchesIn_elements_of_none (h : ∀ n ∈ names, '>' ∉ n) {t : Token} (ht : t.Sound)
    {cs : List Char} (hnone : elements key names closed (t.write ++ cs) = none) :
    matchesIn (elements key names closed) (t.write ++ cs)
      = matchesIn (elements key names closed) cs :=
  matchesIn_append ((onlyAtTags_elements h).pieces_tag ht hnone)

theorem matchesIn_elements_char (h : ∀ n ∈ names, '>' ∉ n) (c : Char) (cs : List Char) :
    matchesIn (elements key names closed) (escapeChar c ++ cs)
      = matchesIn (elements key names closed) cs :=
  matchesIn_elements_of_none h (t := .char c) trivial ((onlyAtTags_elements h).char_none c cs)

/-- Parts at which no element begins are passed over. -/
theorem matchesIn_elements_append (h : ∀ n ∈ names, '>' ∉ n) {front : List Token}
    (hfront : Sound front) (hnone : NoTag (opens names) front) (ts : List Token) :
    matchesIn (elements key names closed) (writeTokens (front ++ ts))
      = matchesIn (elements key names closed) (writeTokens ts) := by
  induction front with
  | nil => rfl
  | cons t front ih =>
      obtain ⟨ht, hrest⟩ := sound_cons.mp hfront
      rw [List.cons_append, writeTokens_cons]
      cases t with
      | char c =>
          rw [noTag_char] at hnone
          rw [Token.write, matchesIn_elements_char h, ih hrest hnone]
      | tag inner =>
          rw [noTag_tag] at hnone
          rw [matchesIn_elements_of_none h ht (elements_of_not_opens h ht hnone.1 _),
            ih hrest hnone.2]

/-- An element is found, and reading goes on behind it. -/
theorem matchesIn_elements_of_opens (h : ∀ n ∈ names, '>' ∉ n)
    {inner name attributes close : List Char} (hinner : (Token.tag inner).Sound)
    (hopens : opens names inner = some (name, attributes)) {body rest : List Token}
    (hts : Sound (body ++ .tag close :: rest))
    (hclosed : IsName key
      (closed ⟨name, attributes, writeTokens (body ++ .tag close :: rest)⟩))
    (hfirst : firstTag (wholeTag (closes key
        (closed ⟨name, attributes, writeTokens (body ++ .tag close :: rest)⟩)))
      (body ++ .tag close :: rest) = some (body, (Token.tag close).write.length, rest)) :
    ∃ element : Element,
      element.opening = ⟨name, attributes, writeTokens (body ++ .tag close :: rest)⟩ ∧
        element.content = writeTokens body ∧
        matchesIn (elements key names closed)
            (writeTokens (.tag inner :: (body ++ .tag close :: rest)))
          = element :: matchesIn (elements key names closed) (writeTokens rest) := by
  have hfound := elements_of_opens h hinner hopens hts hclosed
  rw [hfirst, Option.map_some] at hfound
  have hlength : (Token.tag inner).write.length + (writeTokens body).length
      + (Token.tag close).write.length
      = (writeTokens (.tag inner :: (body ++ [.tag close]))).length := by
    simp only [writeTokens_cons, writeTokens_append, writeTokens_nil, List.append_nil,
      List.length_append]
    omega
  simp only [hlength] at hfound
  refine ⟨⟨⟨name, attributes, writeTokens (body ++ .tag close :: rest)⟩, writeTokens body,
    (writeTokens (.tag inner :: (body ++ [.tag close]))).length⟩, rfl, rfl, ?_⟩
  rw [matchesIn_of_some hfound (by simp [Token.write]) (by simp [Token.write])]
  have hsplit : writeTokens (.tag inner :: (body ++ .tag close :: rest))
      = writeTokens (.tag inner :: (body ++ [.tag close])) ++ writeTokens rest := by
    simp
  rw [hsplit, List.drop_left]

end Elements

/-! ### The contents of elements -/

theorem Sound.sublist {a b : List Token} (h : a.Sublist b) (hb : Sound b) : Sound a :=
  fun t ht => hb t (h.subset ht)

/-- What a whole tag is closed by is a tag, and its length is that of the tag. -/
theorem firstTag_wholeTag {kind : List Char → Bool} {ts before after : List Token} {n : Nat}
    (h : firstTag (wholeTag kind) ts = some (before, n, after)) :
    ∃ close, ts = before ++ .tag close :: after ∧ kind close = true ∧
      n = (Token.tag close).write.length := by
  obtain ⟨close, hts, hclose⟩ := firstTag_eq_some h
  unfold wholeTag at hclose
  split at hclose
  · rename_i hkind
    exact ⟨close, hts, hkind, (Option.some.inj hclose).symm⟩
  · simp at hclose

/-- No element begins at the front of a row, or one does and reading goes on behind it. -/
theorem matchesIn_elements_cons {key : Char → Char} {names : List (List Char)}
    {closed : Opening → List Char} (h : ∀ n ∈ names, '>' ∉ n)
    (hclosed : ∀ inner name attributes rest, '>' ∉ inner →
      opens names inner = some (name, attributes) → IsName key (closed ⟨name, attributes, rest⟩))
    {t : Token} {ts : List Token} (hts : Sound (t :: ts)) :
    matchesIn (elements key names closed) (writeTokens (t :: ts))
        = matchesIn (elements key names closed) (writeTokens ts) ∨
      ∃ (body : List Token) (close : List Char) (rest : List Token) (element : Element),
        ts = body ++ .tag close :: rest ∧ element.content = writeTokens body ∧
          matchesIn (elements key names closed) (writeTokens (t :: ts))
            = element :: matchesIn (elements key names closed) (writeTokens rest) := by
  obtain ⟨ht, hrest⟩ := sound_cons.mp hts
  cases t with
  | char c => exact .inl (matchesIn_elements_char h c _)
  | tag inner =>
      cases hopens : opens names inner with
      | none => exact .inl (matchesIn_elements_of_none h ht (elements_of_not_opens h ht hopens _))
      | some na =>
          obtain ⟨name, attributes⟩ := na
          have hname := hclosed inner name attributes (writeTokens ts) ht.2.2 hopens
          cases hfirst : firstTag (wholeTag (closes key
              (closed ⟨name, attributes, writeTokens ts⟩))) ts with
          | none =>
              have hnone := elements_of_opens h ht hopens hrest hname
              rw [hfirst, Option.map_none] at hnone
              exact .inl (matchesIn_elements_of_none h ht hnone)
          | some found =>
              obtain ⟨body, n, rest⟩ := found
              obtain ⟨close, rfl, -, rfl⟩ := firstTag_wholeTag hfirst
              obtain ⟨element, -, hcontent, hmatches⟩ :=
                matchesIn_elements_of_opens h ht hopens hrest hname hfirst
              exact .inr ⟨body, close, rest, element, rfl, hcontent, hmatches⟩

/-- **The contents of elements stand in the page one after another.** -/
theorem exists_bodies {key : Char → Char} {names : List (List Char)}
    {closed : Opening → List Char} (h : ∀ n ∈ names, '>' ∉ n)
    (hclosed : ∀ inner name attributes rest, '>' ∉ inner →
      opens names inner = some (name, attributes) → IsName key (closed ⟨name, attributes, rest⟩))
    {ts : List Token} (hts : Sound ts) :
    ∃ bodies : List (List Token),
      (matchesIn (elements key names closed) (writeTokens ts)).map Element.content
        = bodies.map writeTokens ∧ bodies.flatten.Sublist ts := by
  induction hn : ts.length using Nat.strong_induction_on generalizing ts with
  | _ n ih =>
      subst hn
      cases ts with
      | nil => exact ⟨[], rfl, List.Sublist.refl _⟩
      | cons t ts =>
          obtain ⟨-, hrest⟩ := sound_cons.mp hts
          obtain hskipped | ⟨body, close, rest, element, rfl, hcontent, hmatches⟩ :=
            matchesIn_elements_cons h hclosed hts
          · obtain ⟨bodies, hcontents, hsub⟩ := ih ts.length (by simp) hrest rfl
            exact ⟨bodies, by rw [hskipped, hcontents], hsub.cons t⟩
          · have hbehind : Sound rest := hrest.sublist
              ((List.sublist_cons_self _ rest).trans (List.sublist_append_right body _))
            obtain ⟨bodies, hcontents, hsub⟩ := ih rest.length (by simp; omega) hbehind rfl
            refine ⟨body :: bodies, ?_, ?_⟩
            · rw [hmatches, List.map_cons, hcontent, hcontents, List.map_cons]
            · rw [List.flatten_cons]
              exact ((List.Sublist.refl body).append (hsub.cons _)).cons _

/-- What stands between tags of a kind follows one another in the page, too. -/
theorem exists_between {p : Pattern Unit} {kind : List Char → Bool}
    (hp : ReadsTags p (wholeTag kind) fun length _ => ((), length)) {ts : List Token}
    (hts : Sound ts) :
    ∃ bodies : List (List Token), between p (writeTokens ts) = bodies.map writeTokens ∧
      bodies.flatten.Sublist ts := by
  induction ts with
  | nil => exact ⟨[[]], rfl, List.Sublist.refl _⟩
  | cons t ts ih =>
      obtain ⟨ht, hrest⟩ := sound_cons.mp hts
      obtain ⟨bodies, hbetween, hsub⟩ := ih hrest
      have hpieces := hp.pieces_write ht (writeTokens ts)
      have hskip : t.pieces kind = t.write.map .plain →
          ∃ bodies : List (List Token), between p (writeTokens (t :: ts))
            = bodies.map writeTokens ∧ bodies.flatten.Sublist (t :: ts) := by
        intro hplain
        rw [hplain] at hpieces
        obtain ⟨chunk, chunks, hchunks⟩ := between_eq_cons p (writeTokens ts)
        obtain ⟨body, more, rfl⟩ : ∃ body more, bodies = body :: more := by
          cases bodies with
          | nil => rw [hbetween] at hchunks; simp at hchunks
          | cons body more => exact ⟨body, more, rfl⟩
        refine ⟨(t :: body) :: more, ?_, by simpa using hsub⟩
        exact between_append hpieces hbetween
      cases t with
      | char c => exact hskip rfl
      | tag inner =>
          by_cases hkind : kind inner = true
          · rw [Token.pieces, if_pos hkind] at hpieces
            refine ⟨[] :: bodies, ?_, by simpa using hsub.cons _⟩
            rw [writeTokens_cons, between_of_hit hpieces, hbetween]
            rfl
          · exact hskip (if_neg hkind)

end Paperwork.Html
