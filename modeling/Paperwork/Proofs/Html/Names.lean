/-
Telling tags apart by their names.

A tag is known by what it begins with, letters compared freely.  So a tag of one name is
not taken for one of another unless one of the two names begins with the other; that it
is not is then a matter of comparing names, whatever else stands in the tag.
-/
import Paperwork.Proofs.Html.Extent
import Paperwork.Proofs.Html.Visible

namespace Paperwork.Html

open Paperwork.Text

/-! ### What a tag begins with -/

/-- A text begins with a name, letters compared freely. -/
def BeginsWith (name cs : List Char) : Prop := name.map caseFree <+: cs.map caseFree

instance (name cs : List Char) : Decidable (BeginsWith name cs) :=
  inferInstanceAs (Decidable (_ <+: _))

theorem beginsWith_of_behindName? {key : Char → Char}
    (hkey : ∀ c d, key c = key d → caseFree c = caseFree d) {name cs rest : List Char}
    (h : behindName? key name cs = some rest) : BeginsWith name cs := by
  induction name generalizing cs with
  | nil => exact List.nil_prefix
  | cons n name ih =>
      cases cs with
      | nil => exact absurd h (by simp [behindName?])
      | cons c cs =>
          rw [behindName?] at h
          by_cases hc : key n = key c
          · rw [if_pos hc] at h
            rw [BeginsWith, List.map_cons, List.map_cons, hkey n c hc]
            exact List.prefix_cons_inj _ |>.mpr (ih h)
          · rw [if_neg hc] at h
            exact absurd h (by simp)

theorem caseFree_of_fold {c d : Char} (h : fold c = fold d) : caseFree c = caseFree d := by
  rw [caseFree, caseFree, h]

theorem opens_name {names : List (List Char)} {inner name attributes : List Char}
    (h : opens names inner = some (name, attributes)) :
    ∃ n ∈ names, name.map caseFree = n.map caseFree := tagName?_keys h

/-- An opening tag begins with one of the names it is recognised by. -/
theorem beginsWith_of_opens {names : List (List Char)} {inner : List Char}
    (h : (opens names inner).isSome) : ∃ n ∈ names, BeginsWith n inner := by
  obtain ⟨⟨name, attributes⟩, hopens⟩ := Option.isSome_iff_exists.mp h
  obtain ⟨n, hn, hname⟩ := opens_name hopens
  refine ⟨n, hn, ?_⟩
  rw [BeginsWith, ← hname, opens_eq_some hopens, List.map_append]
  exact List.prefix_append _ _

/-- More names open more tags. -/
theorem opens_mono {names more : List (List Char)} (hmore : ∀ n ∈ names, n ∈ more)
    {inner : List Char} (h : (opens names inner).isSome) : (opens more inner).isSome := by
  unfold opens tagName? at h ⊢
  simp only [List.findSome?_isSome_iff] at h ⊢
  obtain ⟨n, hn, hopens⟩ := h
  exact ⟨n, hmore n hn, hopens⟩

/-- A closing tag begins with the name it closes. -/
theorem beginsWith_of_closes {key : Char → Char}
    (hkey : ∀ c d, key c = key d → caseFree c = caseFree d) {name inner : List Char}
    (h : closes key name inner = true) : ∃ cs, inner = '/' :: cs ∧ BeginsWith name cs := by
  unfold closes at h
  split at h
  · rename_i cs
    split at h
    · rename_i rest hbehind
      exact ⟨cs, rfl, beginsWith_of_behindName? hkey hbehind⟩
    · exact absurd h (by simp)
  · exact absurd h (by simp)

theorem behind?_eq_some {front cs rest : List Char} (h : behind? front cs = some rest) :
    cs = front ++ rest := by
  induction front generalizing cs with
  | nil => exact Option.some.inj h
  | cons f front ih =>
      cases cs with
      | nil => exact absurd h (by simp [behind?])
      | cons c cs =>
          rw [behind?] at h
          by_cases hc : f = c
          · rw [if_pos hc] at h
            rw [hc, ih h, List.cons_append]
          · rw [if_neg hc] at h
            exact absurd h (by simp)

/-! ### Names of which none begins with another -/

/-- No name among some begins with one among others, or the other way round. -/
def NamesApart (names others : List (List Char)) : Prop :=
  ∀ n ∈ names, ∀ m ∈ others, ¬ BeginsWith n m ∧ ¬ BeginsWith m n

instance (names others : List (List Char)) : Decidable (NamesApart names others) :=
  inferInstanceAs (Decidable (∀ n ∈ names, ∀ m ∈ others, _ ∧ _))

namespace NamesApart

variable {names others : List (List Char)}

theorem of_subset (h : NamesApart names others) {some : List (List Char)}
    (hsome : ∀ m ∈ some, m ∈ others) : NamesApart names some :=
  fun n hn m hm => h n hn m (hsome m hm)

/-- No text begins with two names that are apart. -/
theorem not_beginsWith (h : NamesApart names others) {n m cs : List Char} (hn : n ∈ names)
    (hm : m ∈ others) (hcs : BeginsWith n cs) : ¬ BeginsWith m cs := by
  intro hother
  obtain ⟨hnm, hmn⟩ := h n hn m hm
  rcases List.prefix_or_prefix_of_prefix hcs hother with hprefix | hprefix
  · exact hnm hprefix
  · exact hmn hprefix

/-- A tag that opens one of some names opens none that are apart from these. -/
theorem opens_eq_none (h : NamesApart names others) {inner : List Char}
    (hopens : (opens names inner).isSome) : opens others inner = none := by
  obtain ⟨n, hn, hbegins⟩ := beginsWith_of_opens hopens
  by_contra hother
  obtain ⟨m, hm, hbeginsOther⟩ := beginsWith_of_opens (Option.isSome_iff_ne_none.mpr hother)
  exact h.not_beginsWith hn hm hbegins hbeginsOther

/-- A tag that closes a name does not close one that is apart from it. -/
theorem not_closes (h : NamesApart names others) {key : Char → Char}
    (hkey : ∀ c d, key c = key d → caseFree c = caseFree d) {n m cs : List Char}
    (hn : n ∈ names) (hm : m ∈ others) (hbegins : BeginsWith n cs) :
    closes key m ('/' :: cs) = false := by
  by_contra hcloses
  rw [Bool.not_eq_false] at hcloses
  obtain ⟨ds, heq, hother⟩ := beginsWith_of_closes hkey hcloses
  obtain ⟨-, rfl⟩ := List.cons.inj heq
  exact h.not_beginsWith hn hm hbegins hother

/-- A tag that opens one of some names does not begin with what is apart from these. -/
theorem behind?_eq_none {front : List Char} (h : NamesApart names [front]) {inner : List Char}
    (hopens : (opens names inner).isSome) : behind? front inner = none := by
  obtain ⟨n, hn, hbegins⟩ := beginsWith_of_opens hopens
  cases hbehind : behind? front inner with
  | none => rfl
  | some rest =>
      refine absurd ?_ (h.not_beginsWith hn (List.mem_singleton.mpr rfl) hbegins)
      rw [BeginsWith, behind?_eq_some hbehind, List.map_append]
      exact List.prefix_append _ _

end NamesApart

/-! ### Tags of some names -/

/-- What stands in a tag that opens or closes one of some names. -/
inductive TagOf (names : List (List Char)) : List Char → Prop
  | opening {inner : List Char} (h : (opens names inner).isSome) : TagOf names inner
  | closing {n cs : List Char} (hn : n ∈ names) (h : BeginsWith n cs) : TagOf names ('/' :: cs)

namespace TagOf

variable {names others : List (List Char)} {inner : List Char}

theorem not_opens (h : TagOf names inner) (happart : NamesApart names others)
    (hothers : ∀ n ∈ others, n ≠ [] ∧ '/' ∉ n) : opens others inner = none := by
  cases h with
  | opening hopens => exact happart.opens_eq_none hopens
  | closing _ _ => exact opens_slash hothers _

theorem not_closes (h : TagOf names inner) {name : List Char} (happart : NamesApart names [name])
    (hnames : ∀ n ∈ names, n ≠ [] ∧ '/' ∉ n) {key : Char → Char}
    (hkey : ∀ c d, key c = key d → caseFree c = caseFree d) : closes key name inner = false := by
  cases h with
  | opening hopens => exact not_closes_of_opens hnames hopens key name
  | closing hn hbegins => exact happart.not_closes hkey hn (List.mem_singleton.mpr rfl) hbegins

theorem mono (h : TagOf names inner) (hmore : ∀ n ∈ names, n ∈ others) : TagOf others inner := by
  cases h with
  | opening hopens => exact .opening (opens_mono hmore hopens)
  | closing hn hbegins => exact .closing (hmore _ hn) hbegins

/-- A closing tag is one of the name that it closes. -/
theorem of_closes {key : Char → Char} (hkey : ∀ c d, key c = key d → caseFree c = caseFree d)
    {name n : List Char} (hn : n ∈ names) (hname : name.map caseFree = n.map caseFree)
    (h : closes key name inner = true) : TagOf names inner := by
  obtain ⟨cs, rfl, hbegins⟩ := beginsWith_of_closes hkey h
  rw [BeginsWith, hname] at hbegins
  exact .closing hn hbegins

theorem not_comment (h : TagOf names inner) (happart : NamesApart names [['!', '-', '-']]) :
    behind? ['!', '-', '-'] inner = none := by
  cases h with
  | opening hopens => exact happart.behind?_eq_none hopens
  | closing _ _ => rfl

end TagOf

/-! ### Names in lower case -/

/-- A small letter that only itself and its capital pass for. -/
def IsSmall (c : Char) : Prop := caseFree c = c ∧ c ∉ ['i', 's', 'σ']

instance (c : Char) : Decidable (IsSmall c) :=
  inferInstanceAs (Decidable (caseFree c = c ∧ c ∉ ['i', 's', 'σ']))

/-- What passes for such a letter is that letter in lower case, wherever it stands. -/
theorem IsSmall.lowerWithin {c d : Char} (hc : IsSmall c) (h : caseFree d = caseFree c)
    (before after : List Char) : Text.lowerWithin before d after = [c] := by
  obtain ⟨hsmall, hother⟩ := hc
  simp only [List.mem_cons, List.not_mem_nil, or_false, not_or] at hother
  obtain ⟨hi, hs, hsigma⟩ := hother
  have hfold : fold d = c := by
    rw [hsmall, caseFree] at h
    split at h
    · exact absurd h.symm hi
    · split at h
      · exact absurd h.symm hs
      · exact h
  have hcapital : d ≠ 'Σ' := by
    rintro rfl
    exact hsigma (hfold.symm.trans (by decide))
  have hdotted : d ≠ '\u0130' := by
    rintro rfl
    exact hi (hfold.symm.trans (by decide))
  rw [Text.lowerWithin, if_neg fun hd => hcapital hd.1, lower, if_neg hdotted, hfold]

/-- A tag's name in lower case is the name it passes for. -/
theorem lowerText_of_caseFree {n name : List Char} (hn : ∀ c ∈ n, IsSmall c)
    (h : name.map caseFree = n.map caseFree) : lowerText name = n := by
  have hbehind : ∀ before, lowerBehind before name = n := by
    induction n generalizing name with
    | nil =>
        obtain rfl := List.map_eq_nil_iff.mp h
        exact fun _ => rfl
    | cons c n ih =>
        intro before
        obtain ⟨d, more, rfl, hd, hmore⟩ := List.map_eq_cons_iff.mp h
        rw [lowerBehind, (hn c List.mem_cons_self).lowerWithin hd,
          ih (fun e he => hn e (List.mem_cons_of_mem c he)) hmore, List.singleton_append]
  exact hbehind []

end Paperwork.Html
