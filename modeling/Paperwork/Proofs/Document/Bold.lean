/-
Bold text.

Whether an element is bold is told by its attributes as they are written.  Escaping
changes none of the characters that a heavy weight is written with, and puts none of them
together; and neither do the names of attributes.  So the values of the attributes alone
tell whether an element is bold.
-/
import Paperwork.Proofs.Html.Blank
import Paperwork.Proofs.Html.Grammar
import Paperwork.Proofs.Number.Text
import Paperwork.Document.Wrapper

namespace Paperwork

open Paperwork.Text
open Paperwork.Html

/-! ### Escaped text -/

/-- The characters that are escaped. -/
def escaped : List Char := ['&', '<', '>', '"', '\'']

theorem escapeChar_plain {c : Char} (h : c ∉ escaped) : escapeChar c = [c] := by
  simp only [escaped, List.mem_cons, List.not_mem_nil, or_false, not_or] at h
  obtain ⟨h1, h2, h3, h4, h5⟩ := h
  unfold escapeChar
  split <;> simp_all

theorem escapeChar_escaped {c : Char} (h : c ∈ escaped) :
    ∃ body, escapeChar c = '&' :: body ∧
      (escapeChar c).all (fun d => caseFree 'f' != caseFree d) = true := by
  simp only [escaped, List.mem_cons, List.not_mem_nil, or_false] at h
  rcases h with rfl | rfl | rfl | rfl | rfl
  all_goals exact ⟨_, rfl, by decide⟩

theorem escaped_symbols {c : Char} (h : c ∈ escaped) :
    isBlank c = false ∧ 0 < c.toNat ∧ c.toNat < 65 := by
  simp only [escaped, List.mem_cons, List.not_mem_nil, or_false] at h
  rcases h with rfl | rfl | rfl | rfl | rfl <;> decide

/-- A name without escaped characters is found in escaped text where it is in the text. -/
theorem behindName?_escapeChars {key : Char → Char} {name : List Char}
    (hname : ∀ n ∈ name, ∀ c ∈ escaped, key n ≠ key c) (cs tail : List Char) :
    behindName? key name (escapeChars cs ++ '"' :: tail)
      = (behindName? key name cs).map (escapeChars · ++ '"' :: tail) := by
  induction name generalizing cs with
  | nil => rfl
  | cons n name ih =>
      have hn := hname n List.mem_cons_self
      have hrest := ih fun m hm => hname m (List.mem_cons_of_mem n hm)
      cases cs with
      | nil => simp [behindName?, escapeChars, hn '"' (by decide)]
      | cons c cs =>
          rw [escapeChars_cons]
          by_cases hc : c ∈ escaped
          · obtain ⟨body, hbody, -⟩ := escapeChar_escaped hc
            simp [hbody, behindName?, hn c hc, hn '&' (by decide)]
          · rw [escapeChar_plain hc]
            simp only [List.cons_append, List.nil_append, behindName?]
            split
            · exact hrest cs
            · rfl

theorem dropWhile_isBlank_escapeChars (cs tail : List Char) :
    (escapeChars cs ++ '"' :: tail).dropWhile isBlank
      = escapeChars (cs.dropWhile isBlank) ++ '"' :: tail := by
  induction cs with
  | nil => exact List.dropWhile_cons_of_neg (by decide)
  | cons c cs ih =>
      by_cases hc : c ∈ escaped
      · obtain ⟨body, hbody, -⟩ := escapeChar_escaped hc
        rw [List.dropWhile_cons_of_neg (by simp [(escaped_symbols hc).1]), escapeChars_cons,
          hbody]
        exact List.dropWhile_cons_of_neg (by decide)
      · rw [escapeChars_cons, escapeChar_plain hc, List.dropWhile_cons]
        by_cases hblank : isBlank c = true
        · simp [hblank, ih]
        · simp [hblank, escapeChars_cons, escapeChar_plain hc]

/-! ### Heavy weights -/

theorem caseFree_ne_escaped {name : List Char} (h : (name.all fun n => n ∉ escaped) = true) :
    ∀ n ∈ name, ∀ c ∈ escaped, caseFree n ≠ caseFree c := by
  intro n hn c hc heq
  have hnone := of_decide_eq_true (List.all_eq_true.mp h n hn)
  exact hnone (eq_of_caseFree (escaped_symbols hc).2 heq ▸ hc)

/-- A heavy weight is a word, or a digit and two zeros. -/
theorem isHeavy_eq (cs : List Char) :
    isHeavy cs = ((behindName? caseFree ['b', 'o', 'l', 'd'] cs).isSome ||
      match cs with
      | c :: rest =>
        decide ('6' ≤ c) && decide (c ≤ '9') && (behindName? id ['0', '0'] rest).isSome
      | [] => false) := by
  unfold isHeavy
  congr 1
  match cs with
  | [] => rfl
  | [c] => simp [behindName?]
  | [c, d] => by_cases hd : '0' = d <;> simp [behindName?, hd]
  | c :: d :: e :: rest =>
      by_cases hd : d = '0'
      · by_cases he : e = '0'
        · simp [behindName?, hd, he]
        · simp [behindName?, hd, he, Ne.symm he]
      · simp [behindName?, hd, Ne.symm hd]

theorem isHeavy_escapeChars (cs tail : List Char) :
    isHeavy (escapeChars cs ++ '"' :: tail) = isHeavy cs := by
  have hword := caseFree_ne_escaped (show ['b', 'o', 'l', 'd'].all (· ∉ escaped) by decide)
  have hzeros : ∀ n ∈ ['0', '0'], ∀ c ∈ escaped, id n ≠ id c := by simp [escaped]
  rw [isHeavy_eq, isHeavy_eq, behindName?_escapeChars hword, Option.isSome_map]
  congr 1
  cases cs with
  | nil => rfl
  | cons c cs =>
      by_cases hc : c ∈ escaped
      · obtain ⟨body, hbody, -⟩ := escapeChar_escaped hc
        have hdigit : ∀ c ∈ escaped, (decide ('6' ≤ c) && decide (c ≤ '9')) = false := by
          simp [escaped]
        simp only [escapeChars_cons, hbody, List.cons_append, hdigit c hc, hdigit '&' (by decide),
          Bool.false_and]
      · rw [escapeChars_cons, escapeChar_plain hc]
        simp only [List.cons_append, List.nil_append]
        rw [behindName?_escapeChars hzeros, Option.isSome_map]

theorem boldProperty?_escapeChars (cs tail : List Char) :
    (boldProperty? (escapeChars cs ++ '"' :: tail)).isSome = (boldProperty? cs).isSome := by
  have hname := caseFree_ne_escaped (show "font-weight".toList.all (· ∉ escaped) by decide)
  unfold boldProperty?
  rw [behindName?_escapeChars hname]
  cases behindName? caseFree "font-weight".toList cs with
  | none => rfl
  | some rest =>
      simp only [Option.map_some, Option.bind_eq_bind, Option.bind_some,
        dropWhile_isBlank_escapeChars]
      cases rest.dropWhile isBlank with
      | nil => rfl
      | cons c rest =>
          by_cases hc : c ∈ escaped
          · obtain ⟨body, hbody, -⟩ := escapeChar_escaped hc
            have hcolon : ∀ c ∈ escaped, c ≠ ':' := by simp [escaped]
            rw [escapeChars_cons, hbody]
            simp [hcolon c hc]
          · rw [escapeChars_cons, escapeChar_plain hc]
            by_cases hcolon : c = ':'
            · subst hcolon
              simp [dropWhile_isBlank_escapeChars, isHeavy_escapeChars]
            · simp [hcolon]

/-! ### Attributes -/

theorem boldProperty?_of_ne {c : Char} (h : caseFree 'f' ≠ caseFree c) (cs : List Char) :
    boldProperty? (c :: cs) = none := by
  have hname : behindName? caseFree "font-weight".toList (c :: cs) = none := if_neg h
  rw [boldProperty?, hname]
  rfl

/-- Where no character passes for the first one of the property, it does not begin. -/
theorem search_boldProperty?_append {front : List Char}
    (h : (front.all fun c => caseFree 'f' != caseFree c) = true) (cs : List Char) :
    (search boldProperty? (front ++ cs)).isSome = (search boldProperty? cs).isSome := by
  rw [search_append, Option.isSome_map]
  intro tail hne htail
  obtain ⟨c, tail, rfl⟩ := List.exists_cons_of_ne_nil hne
  have hc := List.all_eq_true.mp h c (htail.mem (by simp))
  exact boldProperty?_of_ne (by simpa using hc) _

theorem isSome_search_cons {α : Type} (p : List Char → Option α) (c : Char) (cs : List Char) :
    (search p (c :: cs)).isSome = ((p (c :: cs)).isSome || (search p cs).isSome) := by
  rw [search]
  cases p (c :: cs) <;> simp

theorem search_boldProperty?_escapeChars (cs tail : List Char) :
    (search boldProperty? (escapeChars cs ++ '"' :: tail)).isSome
      = (hasBoldStyle cs || (search boldProperty? tail).isSome) := by
  induction cs with
  | nil =>
      have hquote : (['"'].all fun c => caseFree 'f' != caseFree c) = true := by decide
      exact search_boldProperty?_append hquote tail
  | cons c cs ih =>
      rw [hasBoldStyle] at ih ⊢
      rw [isSome_search_cons, Bool.or_assoc, ← ih]
      by_cases hc : c ∈ escaped
      · obtain ⟨-, -, hfront⟩ := escapeChar_escaped hc
        have hf := caseFree_ne_escaped (show ['f'].all (· ∉ escaped) by decide) 'f' (by simp) c hc
        rw [boldProperty?_of_ne hf, escapeChars_cons, List.append_assoc,
          search_boldProperty?_append hfront]
        simp
      · have hhere := boldProperty?_escapeChars (c :: cs) tail
        rw [escapeChars_cons, escapeChar_plain hc] at hhere ⊢
        rw [← hhere]
        exact isSome_search_cons _ _ _

/-- Whether a value of an attribute makes text bold. -/
def isBold (attributes : Attributes) : Bool := attributes.any fun a => hasBoldStyle a.2.toList

/-- **Attributes make text bold if one of their values does.** -/
theorem hasBoldStyle_attributesText {attributes : Attributes} (h : attributes.Known) :
    hasBoldStyle (attributesText attributes) = isBold attributes := by
  induction attributes with
  | nil => rfl
  | cons a attributes ih =>
      obtain ⟨name, value⟩ := a
      have hname : name.toList ∈ attributeNames := h (name, value) List.mem_cons_self
      have hfront : ∀ n ∈ attributeNames, ((' ' :: n ++ ['=', '"']).all
          fun c => caseFree 'f' != caseFree c) = true := by
        decide
      have hrest : Attributes.Known attributes := fun b hb => h b (List.mem_cons_of_mem _ hb)
      have htext : attributesText ((name, value) :: attributes)
          = (' ' :: name.toList ++ ['=', '"'])
            ++ (escapeChars value.toList ++ '"' :: attributesText attributes) := by
        simp [attributesText, attributeText]
      rw [hasBoldStyle, htext, search_boldProperty?_append (hfront _ hname),
        search_boldProperty?_escapeChars, ← hasBoldStyle, ih hrest]
      rfl

/-! ### Numbers -/

theorem behindName?_eq_none {key : Char → Char} {name cs : List Char} {n : Char} (hn : n ∈ name)
    (h : ∀ c ∈ cs, key n ≠ key c) : behindName? key name cs = none := by
  induction name generalizing cs with
  | nil => simp at hn
  | cons m name ih =>
      cases cs with
      | nil => rfl
      | cons c cs =>
          rw [behindName?]
          split
          · rename_i heq
            rcases List.mem_cons.mp hn with rfl | hn
            · exact absurd heq (h c List.mem_cons_self)
            · exact ih hn fun d hd => h d (List.mem_cons_of_mem c hd)
          · rfl

/-- Without one of its letters the property is nowhere. -/
theorem hasBoldStyle_eq_false {cs : List Char} (h : ∀ c ∈ cs, caseFree 'w' ≠ caseFree c) :
    hasBoldStyle cs = false := by
  rw [hasBoldStyle, search_eq_none.mpr, Option.isSome_none]
  intro tail htail
  have hname : behindName? caseFree "font-weight".toList tail = none :=
    behindName?_eq_none (by decide) fun c hc => h c (htail.mem hc)
  rw [boldProperty?, hname]
  rfl

theorem caseFree_ne_of_spelled {cs : List Char} (h : Spelled cs) :
    ∀ c ∈ cs, caseFree 'w' ≠ caseFree c := by
  intro c hc heq
  rcases h c hc with hdigit | hletter
  · have hcode : 48 ≤ c.toNat ∧ c.toNat ≤ 57 := Char.isDigit_iff_toNat.mp hdigit
    have hsymbol : 'w' = c := eq_of_caseFree (by omega) heq
    rw [← hsymbol] at hcode
    exact absurd hcode (by decide)
  · simp only [List.mem_cons, List.not_mem_nil, or_false] at hletter
    rcases hletter with rfl | rfl | rfl | rfl | rfl | rfl | rfl | rfl
    all_goals exact absurd heq (by decide)

/-- No height makes text bold. -/
theorem isBold_height (size : Number) :
    isBold [("style", "height:" ++ size.shown ++ "px")] = false := by
  have hheight : ("height:".toList.all fun c => caseFree 'w' != caseFree c) = true := by
    decide
  have hunit : ("px".toList.all fun c => caseFree 'w' != caseFree c) = true := by
    decide
  have hnone : hasBoldStyle ("height:" ++ size.shown ++ "px").toList = false := by
    refine hasBoldStyle_eq_false fun c hc => ?_
    rw [String.toList_append, String.toList_append, List.mem_append, List.mem_append] at hc
    rcases hc with (hc | hc) | hc
    · exact bne_iff_ne.mp (List.all_eq_true.mp hheight c hc)
    · exact caseFree_ne_of_spelled size.spelled_shown c hc
    · exact bne_iff_ne.mp (List.all_eq_true.mp hunit c hc)
  rw [isBold, List.any_cons, hnone]
  rfl

end Paperwork
