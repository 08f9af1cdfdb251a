/-
What stands in no number.

The text of a list or an object begins with a bracket or a brace.  Whatever is taken away from
a text before it is read as a number, a bracket is not, and no number is written with
one.  The same holds of the blanks that separate words without being white space.
-/
import Paperwork.Data.Rehydrate
import Paperwork.Proofs.Text.Split

namespace Paperwork

open Paperwork.Text

/-- The signs that the texts of containers begin with. -/
def openingSigns : List Char := ['[', '\x7b']

theorem forall_mem_opening {P : Char → Prop} : (∀ c ∈ openingSigns, P c) ↔ P '[' ∧ P '\x7b' := by
  simp [openingSigns]

theorem mem_dropWhile_of_false {p : Char → Bool} {c : Char} {cs : List Char} (h : c ∈ cs)
    (hp : p c = false) : c ∈ cs.dropWhile p := by
  rw [← List.takeWhile_append_dropWhile (p := p) (l := cs), List.mem_append] at h
  rcases h with hfront | hrest
  · rw [List.mem_takeWhile_imp hfront] at hp
    cases hp
  · exact hrest

theorem mem_trimmed_of_false {p : Char → Bool} {c : Char} {cs : List Char} (h : c ∈ cs)
    (hp : p c = false) : c ∈ trimmed p cs := by
  rw [trimmed, List.mem_reverse]
  refine mem_dropWhile_of_false ?_ hp
  rw [List.mem_reverse]
  exact mem_dropWhile_of_false h hp

/-- The text of a container has a bracket or a brace. -/
theorem openingSigns_mem_of_looksLikeContainer {s : String} (h : looksLikeContainer s = true) :
    ∃ c ∈ openingSigns, c ∈ s.toList := by
  have hsublist : ∀ cs : List Char, (trimmed isBlank cs).Sublist cs := by
    intro cs
    have hback := List.reverse_sublist.mpr
      (List.dropWhile_sublist isBlank (l := (cs.dropWhile isBlank).reverse))
    rw [List.reverse_reverse] at hback
    exact hback.trans (List.dropWhile_sublist isBlank)
  have hhead : ∀ c, (trimmed isBlank s.toList).head? = some c → c ∈ s.toList :=
    fun c hc => (hsublist s.toList).subset (List.mem_of_mem_head? hc)
  simp only [looksLikeContainer, Bool.or_eq_true, Bool.and_eq_true, beq_iff_eq] at h
  rcases h with ⟨hbrace, -⟩ | ⟨hbracket, -⟩
  · exact ⟨'\x7b', by simp [openingSigns], hhead _ hbrace⟩
  · exact ⟨'[', by simp [openingSigns], hhead _ hbracket⟩

namespace Decimal

/-- The signs that stand in no number and are not taken away in front of one or behind it:
those that containers begin with, and the blanks that are no white space. -/
def foreignSigns : List Char := openingSigns ++ ['\x1c', '\x1d', '\x1e', '\x1f']

variable {c : Char} {cs : List Char}

theorem foreign_of_opening (hc : c ∈ openingSigns) : c ∈ foreignSigns :=
  List.mem_append_left _ hc

theorem forall_mem_foreign {P : Char → Prop} : (∀ c ∈ foreignSigns, P c) ↔
    (P '[' ∧ P '\x7b') ∧ P '\x1c' ∧ P '\x1d' ∧ P '\x1e' ∧ P '\x1f' := by
  rw [foreignSigns, List.forall_mem_append, forall_mem_opening]
  simp

theorem notDigit_of_foreign : ∀ c ∈ foreignSigns, isDigit c = false :=
  forall_mem_foreign.mpr ⟨⟨rfl, rfl⟩, rfl, rfl, rfl, rfl⟩

theorem notSpace_of_foreign : ∀ c ∈ foreignSigns, isSpace c = false :=
  forall_mem_foreign.mpr ⟨⟨rfl, rfl⟩, rfl, rfl, rfl, rfl⟩

theorem toLower_of_foreign : ∀ c ∈ foreignSigns, c.toLower = c :=
  forall_mem_foreign.mpr ⟨⟨rfl, rfl⟩, rfl, rfl, rfl, rfl⟩

/-- The blanks that are no white space are foreign to numbers. -/
theorem foreign_of_blank (hblank : isBlank c = true) (hspace : isSpace c = false) :
    c ∈ foreignSigns := by
  simp only [isBlank, hspace, Bool.false_or, Bool.and_eq_true, decide_eq_true_eq] at hblank
  obtain ⟨hlow, hhigh⟩ := hblank
  have hcodes : c.toNat = 0x1c ∨ c.toNat = 0x1d ∨ c.toNat = 0x1e ∨ c.toNat = 0x1f := by omega
  rw [← Char.ofNat_toNat c]
  rcases hcodes with h | h | h | h <;> rw [h] <;> decide

theorem ne_of_foreign (hc : c ∈ foreignSigns) {d : Char} (hd : d ∉ foreignSigns) : c ≠ d :=
  fun heq => hd (heq ▸ hc)

theorem mem_digits (hc : c ∈ foreignSigns) (h : c ∈ cs) : c ∈ (digits cs).2 := by
  rw [digits, List.span_eq_takeWhile_dropWhile]
  exact mem_dropWhile_of_false h (notDigit_of_foreign c hc)

theorem mem_sign (hc : c ∈ foreignSigns) (h : c ∈ cs) : c ∈ (sign cs).2 := by
  unfold sign
  split
  · exact List.mem_of_ne_of_mem (ne_of_foreign hc (by decide)) h
  · exact List.mem_of_ne_of_mem (ne_of_foreign hc (by decide)) h
  · exact h

/-! ### Numbers of double precision -/

theorem exponent?_not_mem (hc : c ∈ foreignSigns) {exponent : Int}
    (h : exponent? cs = some (exponent, [])) : c ∉ cs := by
  intro hmem
  cases cs with
  | nil => simp [exponent?] at h
  | cons mark rest =>
      rw [exponent?] at h
      by_cases hmark : mark = 'e' ∨ mark = 'E'
      · rw [if_pos hmark] at h
        have hne : c ≠ mark := by
          rcases hmark with rfl | rfl
          · exact ne_of_foreign hc (by decide)
          · exact ne_of_foreign hc (by decide)
        have hrest := mem_digits hc (mem_sign hc (List.mem_of_ne_of_mem hne hmem))
        simp only at h
        split_ifs at h
        all_goals
          obtain ⟨-, hnil⟩ := Prod.mk.inj (Option.some.inj h)
          rw [hnil] at hrest
          simp at hrest
      · rw [if_neg hmark] at h
        cases h

theorem unsigned?_not_mem (hc : c ∈ foreignSigns) {negative : Bool} {x : Binary64}
    (h : unsigned? negative cs = some x) : c ∉ cs := by
  intro hmem
  have hwhole := mem_digits hc hmem
  unfold unsigned? at h
  simp only at h
  split at h
  -- Behind the point or without one: what follows the digits is empty or an exponent.
  · rename_i rest heq
    rw [heq] at hwhole
    have hfraction :=
      mem_digits hc (List.mem_of_ne_of_mem (ne_of_foreign hc (by decide)) hwhole)
    split_ifs at h
    split at h
    · rename_i hnil
      rw [hnil] at hfraction
      simp at hfraction
    · split at h
      · exact exponent?_not_mem hc ‹_› hfraction
      · cases h
  · split_ifs at h
    split at h
    · rename_i hnil
      rw [hnil] at hwhole
      simp at hwhole
    · split at h
      · exact exponent?_not_mem hc ‹_› hwhole
      · cases h

/-- The values that are spelled out. -/
def spelledOut : List String := ["inf", "infinity", "nan"]

/-- A text with a character that is in no value that is spelled out is to be written in digits. -/
theorem literal?_eq_unsigned? (hlower : c.toLower = c) (hmem : c ∈ (sign cs).2)
    (hwords : ∀ word ∈ spelledOut, c ∉ word.toList) :
    literal? cs = unsigned? (sign cs).1 (sign cs).2 := by
  have hne : ∀ word ∈ spelledOut, String.ofList ((sign cs).2.map Char.toLower) ≠ word := by
    rintro word hword rfl
    have hmap := List.mem_map_of_mem (f := Char.toLower) hmem
    rw [hlower] at hmap
    exact hwords _ hword (by rwa [String.toList_ofList])
  have hinf := hne "inf" (by decide)
  have hinfinity := hne "infinity" (by decide)
  have hnan := hne "nan" (by decide)
  rw [literal?]
  simp only [hinf, hinfinity, hnan, or_self, if_false]

theorem literal?_not_mem (hc : c ∈ foreignSigns) {x : Binary64} (h : literal? cs = some x) :
    c ∉ cs := by
  intro hmem
  have hrest := mem_sign hc hmem
  have hwords : ∀ c ∈ foreignSigns, ∀ word ∈ spelledOut, c ∉ word.toList := by
    rw [forall_mem_foreign]
    decide
  rw [literal?_eq_unsigned? (toLower_of_foreign c hc) hrest (hwords c hc)] at h
  exact unsigned?_not_mem hc h hrest

/-! ### Texts before they are read -/

theorem mem_strippedUnderscores? (hc : c ∈ foreignSigns) {out : List Char}
    (h : strippedUnderscores? cs = some out) (hmem : c ∈ cs) : c ∈ out := by
  unfold strippedUnderscores? at h
  simp only at h
  split_ifs at h
  obtain rfl := Option.some.inj h
  have hne : (c == '_') = false := beq_false_of_ne (ne_of_foreign hc (by decide))
  rw [flatten_splitWhere]
  exact List.mem_filter.mpr ⟨hmem, by simp [hne]⟩

theorem mem_inAscii? (hc : c ∈ foreignSigns) {out : List Char} (h : inAscii? cs = some out)
    (hmem : c ∈ cs) : c ∈ out := by
  have hplain : ∀ c ∈ foreignSigns, c.toNat < 127 := by
    rw [forall_mem_foreign]
    decide
  unfold inAscii? at h
  induction cs generalizing out with
  | nil => simp at hmem
  | cons d cs ih =>
      rw [List.mapM_cons] at h
      obtain ⟨first, hfirst, hrest⟩ := Option.bind_eq_some_iff.mp h
      obtain ⟨rest, hmore, heq⟩ := Option.bind_eq_some_iff.mp hrest
      obtain rfl := Option.some.inj heq
      rcases List.mem_cons.mp hmem with rfl | hmem
      · rw [if_pos (hplain c hc)] at hfirst
        obtain rfl := Option.some.inj hfirst
        exact List.mem_cons_self
      · exact List.mem_cons_of_mem _ (ih hmore hmem)

theorem mem_joinDigits? (hc : c ∈ foreignSigns) {after : Bool} {out : List Char}
    (h : joinDigits? after cs = some out) (hmem : c ∈ cs) : c ∈ out := by
  fun_induction joinDigits? after cs generalizing out
  case case1 => simp at hmem
  case case2 after next rest hdigit ih =>
    exact ih h (List.mem_of_ne_of_mem (ne_of_foreign hc (by decide)) hmem)
  case case3 => cases h
  case case4 => cases h
  case case5 after d rest hne ih =>
    obtain ⟨more, hmore, rfl⟩ := Option.map_eq_some_iff.mp h
    rcases List.mem_cons.mp hmem with rfl | hmem
    · exact List.mem_cons_self
    · exact List.mem_cons_of_mem _ (ih hmore hmem)

theorem mem_tolerant? (hc : c ∈ foreignSigns) {out : List Char} (h : tolerant? cs = some out)
    (hmem : c ∈ cs) : c ∈ out := by
  obtain ⟨plain, hplain, hjoined⟩ := Option.bind_eq_some_iff.mp h
  have htrimmed := mem_trimmed_of_false hmem (notSpace_of_foreign c hc)
  exact mem_joinDigits? hc hjoined (mem_inAscii? hc hplain htrimmed)

theorem toFloat?_not_mem (hc : c ∈ foreignSigns) {s : String} {x : Binary64}
    (h : toFloat? s = some x) : c ∉ s.toList := by
  intro hmem
  obtain ⟨cs, hcs, hread⟩ := Option.bind_eq_some_iff.mp h
  exact literal?_not_mem hc hread (mem_tolerant? hc hcs hmem)

/-! ### Integers

An integer may be simplified before it is read, which leaves all brackets in it. -/

theorem toInt?_not_mem (hc : c ∈ foreignSigns) {s : String} {n : Int} (h : toInt? s = some n) :
    c ∉ s.toList := by
  intro hmem
  obtain ⟨cs, hcs, hread⟩ := Option.bind_eq_some_iff.mp h
  have hrest := mem_sign hc (mem_tolerant? hc hcs hmem)
  simp only at hread
  split_ifs at hread with hbad
  all_goals
    refine hbad ?_
    have hall : (sign cs).2.all isDigit = false := by
      rw [List.all_eq_false]
      exact ⟨c, hrest, by simp [notDigit_of_foreign c hc]⟩
    simp [hall]

/-- Digits are not all that stands in a text with a bracket. -/
theorem behindDigits_of_mem (hc : c ∈ foreignSigns) (h : c ∈ cs) :
    (digits cs).2.isEmpty = false := by
  have hbehind := mem_digits hc h
  cases hrest : (digits cs).2 with
  | nil => simp [hrest] at hbehind
  | cons d rest => rfl

theorem simpleInt_not_mem (hc : c ∈ foreignSigns) {n : Int} (h : simpleInt cs = .ok n) :
    c ∉ cs := by
  intro hmem
  unfold simpleInt at h
  simp only at h
  split at h
  · have hrest := List.mem_of_ne_of_mem (ne_of_foreign hc (by decide)) hmem
    simp only [behindDigits_of_mem hc hrest, Bool.false_eq_true, if_false] at h
    split_ifs at h
  · simp only [behindDigits_of_mem hc hmem, Bool.false_eq_true, if_false] at h
    split_ifs at h

theorem mem_withoutPlus? (hc : c ∈ foreignSigns) {out : List Char}
    (h : withoutPlus? cs = some out) (hmem : c ∈ cs) : c ∈ out := by
  unfold withoutPlus? at h
  split at h
  · cases h
  · obtain rfl := Option.some.inj h
    exact List.mem_of_ne_of_mem (ne_of_foreign hc (by decide)) hmem
  · obtain rfl := Option.some.inj h
    exact hmem

theorem mem_afterZeros (hc : c ∈ foreignSigns) {last : Char} {out : List Char}
    (h : withoutLeadingZeros?.afterZeros last cs = some out) (hmem : c ∈ cs) : c ∈ out := by
  fun_induction withoutLeadingZeros?.afterZeros last cs
  case case1 => simp at hmem
  case case2 last d rest hd ih =>
    refine ih h (List.mem_of_ne_of_mem ?_ hmem)
    rcases hd with rfl | rfl <;> exact ne_of_foreign hc (by decide)
  case case3 =>
    obtain rfl := Option.some.inj h
    exact hmem
  case case4 =>
    obtain rfl := Option.some.inj h
    exact List.mem_cons_of_mem _ hmem
  case case5 => cases h

theorem mem_withoutLeadingZeros? (hc : c ∈ foreignSigns) {out : List Char}
    (h : withoutLeadingZeros? cs = some out) (hmem : c ∈ cs) : c ∈ out := by
  unfold withoutLeadingZeros? at h
  split at h
  · exact mem_afterZeros hc h (List.mem_of_ne_of_mem (ne_of_foreign hc (by decide)) hmem)
  · split_ifs at h
    obtain rfl := Option.some.inj h
    exact hmem
  · cases h

/-- Nothing but a point and zeros is taken away. -/
theorem mem_withoutZeroFraction (hc : c ∈ foreignSigns) (hmem : c ∈ cs) :
    c ∈ withoutZeroFraction cs := by
  have hsplit := List.takeWhile_append_dropWhile (p := (· != '.')) (l := cs)
  have hdrop : cs.drop (cs.takeWhile (· != '.')).length = cs.dropWhile (· != '.') := by
    have hbehind := @List.drop_left _ (cs.takeWhile (· != '.')) (cs.dropWhile (· != '.'))
    rwa [hsplit] at hbehind
  have hpoint := List.head?_dropWhile_not (· != '.') cs
  unfold withoutZeroFraction
  simp only [hdrop]
  split
  · rename_i point fraction heq
    split_ifs with hzeros
    · rw [← hsplit, List.mem_append, heq] at hmem
      rw [heq] at hpoint
      rcases hmem with hfront | hbehind
      · exact hfront
      · have hdot : point = '.' := by simpa using hpoint
        have hall : ∀ d ∈ point :: '0' :: fraction, d ∉ foreignSigns := by
          intro d hd
          rcases List.mem_cons.mp hd with rfl | hd
          · rw [hdot]
            decide
          rcases List.mem_cons.mp hd with rfl | hd
          · decide
          · have hzero : d = '0' := by simpa using List.all_eq_true.mp hzeros d hd
            rw [hzero]
            decide
        exact absurd hc (hall c hbehind)
    · exact hmem
  · exact hmem

theorem plainInt_not_mem (hc : c ∈ foreignSigns) {s : String} {n : Int} (h : plainInt s = .ok n) :
    c ∉ s.toList := by
  intro hmem
  unfold plainInt at h
  split at h
  · split at h
    · rename_i hsimple
      obtain ⟨plain, hplain, hread⟩ := Option.map_eq_some_iff.mp hsimple
      obtain ⟨unsigned, hunsigned, hrest⟩ := Option.bind_eq_some_iff.mp hplain
      obtain ⟨whole, hwhole, hstripped⟩ := Option.bind_eq_some_iff.mp hrest
      have htrimmed := mem_trimmed_of_false hmem (notSpace_of_foreign c hc)
      have hleading := mem_withoutLeadingZeros? hc hwhole (mem_withoutPlus? hc hunsigned htrimmed)
      have hmem := mem_strippedUnderscores? hc hstripped (mem_withoutZeroFraction hc hleading)
      exact simpleInt_not_mem hc hread hmem
    · cases h
  · exact simpleInt_not_mem hc h hmem

theorem plainFloat?_not_mem (hc : c ∈ foreignSigns) {s : String} {x : Binary64}
    (h : plainFloat? s = some x) : c ∉ s.toList := by
  intro hmem
  unfold plainFloat? at h
  split at h
  · rename_i hread
    exact literal?_not_mem hc hread (mem_trimmed_of_false hmem (notSpace_of_foreign c hc))
  · obtain ⟨plain, hplain, hread⟩ := Option.bind_eq_some_iff.mp h
    exact literal?_not_mem hc hread (mem_strippedUnderscores? hc hplain hmem)

end Decimal

end Paperwork
