/-
How much of a text a tag takes.

This holds of any text, however malformed.  A tag that is recognised at the front of a
text is there with all its characters, and its name is one of the names that were asked
for, up to the way letters are compared.  A closing tag that is found lies in the text
that was searched.
-/
import Paperwork.Proofs.Html.Tag

namespace Paperwork.Text

theorem upTo?_eq_some {stop : Char} {cs before after : List Char}
    (h : upTo? stop cs = some (before, after)) : cs = before ++ stop :: after := by
  induction cs generalizing before with
  | nil => simp [upTo?] at h
  | cons c cs ih =>
      rw [upTo?] at h
      by_cases hc : c = stop
      · rw [if_pos hc] at h
        obtain ⟨rfl, rfl⟩ := Prod.mk.inj (Option.some.inj h)
        rw [hc, List.nil_append]
      · rw [if_neg hc, Option.map_eq_some_iff] at h
        obtain ⟨⟨front, back⟩, hrest, heq⟩ := h
        obtain ⟨rfl, rfl⟩ := Prod.mk.inj heq
        rw [ih hrest, List.cons_append]

end Paperwork.Text

namespace Paperwork.Html

open Paperwork.Text

/-! ### Names -/

theorem behindName?_keys {key : Char → Char} {name cs rest : List Char}
    (h : behindName? key name cs = some rest) : (cs.take name.length).map key = name.map key := by
  induction name generalizing cs with
  | nil => simp
  | cons n name ih =>
      cases cs with
      | nil => simp [behindName?] at h
      | cons c cs =>
          rw [behindName?] at h
          by_cases hc : key n = key c
          · rw [if_pos hc] at h
            simp [ih h, hc]
          · rw [if_neg hc] at h
            exact absurd h (by simp)

/-- A name is read where it stands. -/
theorem behindName?_of_keys {key : Char → Char} {name word : List Char}
    (h : word.map key = name.map key) (rest : List Char) :
    behindName? key name (word ++ rest) = some rest := by
  induction name generalizing word with
  | nil =>
      obtain rfl := List.map_eq_nil_iff.mp h
      rfl
  | cons n name ih =>
      obtain ⟨c, more, rfl, hc, hmore⟩ := List.map_eq_cons_iff.mp h
      rw [List.cons_append, behindName?, if_pos hc.symm, ih hmore]

/-- The name of a tag passes for one of the names that were asked for. -/
theorem tagName?_keys {names : List (List Char)} {cs name rest : List Char}
    (h : tagName? names cs = some (name, rest)) :
    ∃ n ∈ names, name.map caseFree = n.map caseFree := by
  unfold tagName? at h
  split at h
  · rename_i tail
    obtain ⟨n, hn, hfound⟩ := List.exists_of_findSome?_eq_some h
    refine ⟨n, hn, ?_⟩
    cases hbehind : behindName? caseFree n tail with
    | none => simp [hbehind] at hfound
    | some more =>
        simp only [hbehind] at hfound
        split at hfound
        · exact absurd hfound (by simp)
        · obtain ⟨rfl, -⟩ := Prod.mk.inj (Option.some.inj hfound)
          exact behindName?_keys hbehind
  · exact absurd h (by simp)

theorem tagName?_eq_some {names : List (List Char)} {cs name rest : List Char}
    (h : tagName? names cs = some (name, rest)) : cs = '<' :: (name ++ rest) := by
  cases cs with
  | nil => simp [tagName?] at h
  | cons c cs =>
      by_cases hc : c = '<'
      · subst hc
        rw [← opens_eq_some h]
      · simp [tagName?, hc] at h

/-! ### Tags -/

/-- A pattern that reads tags answers at a tag, if one ends there at all. -/
theorem ReadsTags.exists_tag {α β : Type} {p : List Char → Option α}
    {inside : List Char → Option β} {answer : β → List Char → α} (hp : ReadsTags p inside answer)
    {cs : List Char} {a : α} (h : p cs = some a) (hend : '>' ∈ cs) :
    ∃ inner b rest, cs = '<' :: (inner ++ '>' :: rest) ∧ '>' ∉ inner ∧ inside inner = some b ∧
      a = answer b rest := by
  have hhead : cs.head? = some '<' := by
    by_contra hne
    rw [hp.onlyAtTags cs hne] at h
    exact absurd h nofun
  obtain ⟨tail, rfl⟩ := List.head?_eq_some_iff.mp hhead
  have htail : '>' ∈ tail := by simpa using hend
  obtain ⟨inner, rest, rfl, hinner⟩ := List.eq_append_cons_of_mem htail
  rw [hp.atTag inner rest hinner] at h
  obtain ⟨b, hb, rfl⟩ := Option.map_eq_some_iff.mp h
  exact ⟨inner, b, rest, rfl, hinner, hb, rfl⟩

/-! ### Opening tags -/

/-- An opening tag stands at the front of the text, and the rest behind it. -/
theorem opening?_eq_some {names : List (List Char)} {cs : List Char} {tag : Opening}
    (h : opening? names cs = some tag) : cs = tag.text ++ tag.rest := by
  obtain ⟨⟨name, behind⟩, hname, hrest⟩ := Option.bind_eq_some_iff.mp h
  obtain ⟨⟨attributes, rest⟩, hattributes, htag⟩ := Option.bind_eq_some_iff.mp hrest
  obtain rfl := Option.some.inj htag
  rw [tagName?_eq_some hname, upTo?_eq_some hattributes]
  simp [Opening.text]

theorem opening?_keys {names : List (List Char)} {cs : List Char} {tag : Opening}
    (h : opening? names cs = some tag) :
    ∃ n ∈ names, tag.name.map caseFree = n.map caseFree := by
  obtain ⟨⟨name, behind⟩, hname, hrest⟩ := Option.bind_eq_some_iff.mp h
  obtain ⟨attributes, -, htag⟩ := Option.bind_eq_some_iff.mp hrest
  obtain rfl := Option.some.inj htag
  exact tagName?_keys hname

theorem Opening.length_text (tag : Opening) : tag.text.length = tag.length := by
  simp only [text, length, List.length_append, List.length_cons, List.length_nil]
  omega

theorem Opening.length_pos (tag : Opening) : 0 < tag.length := by
  rw [length]
  omega

theorem length_of_opening {names : List (List Char)} {cs : List Char} {tag : Opening}
    (h : opening? names cs = some tag) : cs.length = tag.length + tag.rest.length := by
  rw [opening?_eq_some h, List.length_append, Opening.length_text]

/-! ### Closing tags -/

theorem closingLength?_le {key : Char → Char} {name cs : List Char} {length : Nat}
    (h : closingLength? key name cs = some length) : length ≤ cs.length := by
  unfold closingLength? at h
  split at h
  · rename_i cs
    split at h
    · rename_i rest hbehind
      simp only at h
      split at h
      · rename_i more hclose
        obtain rfl := Option.some.inj h
        obtain ⟨heq, hname⟩ := behindName?_length hbehind
        have hcs : cs.length = name.length + rest.length := by
          rw [heq, List.length_append, hname]
        have hrest : rest.length - (rest.takeWhile isBlank).length = more.length + 1 := by
          rw [← List.length_drop, hclose, List.length_cons]
        simp only [List.length_cons]
        omega
      · exact absurd h (by simp)
    · exact absurd h (by simp)
  · exact absurd h (by simp)

/-- A closing tag has the bracket that ends it. -/
theorem bracket_mem_of_closingLength? {key : Char → Char} {name cs : List Char} {length : Nat}
    (h : closingLength? key name cs = some length) : '>' ∈ cs := by
  unfold closingLength? at h
  split at h
  · rename_i cs
    split at h
    · rename_i rest hbehind
      simp only at h
      split at h
      · rename_i more hclose
        have hmem : '>' ∈ rest := List.mem_of_mem_drop (hclose ▸ List.mem_cons_self)
        rw [(behindName?_length hbehind).1]
        simp [hmem]
      · exact absurd h nofun
    · exact absurd h nofun
  · exact absurd h nofun

/-- What stands before a closing tag and the tag itself lie in the text. -/
theorem upToClosing?_le {key : Char → Char} {name cs inner : List Char} {length : Nat}
    (h : upToClosing? key name cs = some (inner, length)) :
    inner.length + length ≤ cs.length := by
  obtain ⟨rest, rfl, hrest⟩ := search_eq_some h
  have hle := closingLength?_le hrest
  rw [List.length_append]
  omega

end Paperwork.Html
