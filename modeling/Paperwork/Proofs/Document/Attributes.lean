/-
Where the source of an image is found.

The source of an image is not looked up among the attributes of its tag: it is the first
place in the text of the tag that reads as one, `src` and a sign and a quote, at which no
word goes on.  That place may be in an attribute in front of the one that is meant: a hyphen
ends a word, so names such as `data-src` end with the name of the source, and in a value all
may stand that is asked for.  An attribute with neither is passed over.
-/
import Paperwork.Proofs.Document.Ahead
import Paperwork.Proofs.Page.Filling

namespace Paperwork

open Paperwork.Text
open Paperwork.Html

/-! ### Places that read as a source -/

/-- Whether a word goes on behind a text. -/
def endsInWord (cs : List Char) : Bool := cs.getLast?.any isWordChar

@[simp] theorem endsInWord_nil : endsInWord [] = false := rfl

@[simp] theorem endsInWord_concat (cs : List Char) (c : Char) :
    endsInWord (cs ++ [c]) = isWordChar c := by
  simp [endsInWord]

/-- Text in which no place reads as a source is passed over. -/
theorem source?_append (before : List Char) {front cs : List Char}
    (h : ∀ passed tail, front = passed ++ tail → tail ≠ [] →
      endsInWord (before ++ passed) = false → sourceValue? (tail ++ cs) = none) :
    source? (endsInWord before) (front ++ cs) = source? (endsInWord (before ++ front)) cs := by
  induction front generalizing before with
  | nil => rw [List.append_nil, List.nil_append]
  | cons c front ih =>
      have hhere : (if endsInWord before then none else sourceValue? (c :: (front ++ cs)))
          = none := by
        by_cases hword : endsInWord before = true
        · rw [if_pos hword]
        · rw [if_neg hword]
          exact h [] (c :: front) rfl (List.cons_ne_nil c front) (by simpa using hword)
      have hrest := ih (before ++ [c]) fun passed tail hfront hne hword =>
        h (c :: passed) tail (by rw [hfront, List.cons_append]) hne (by simpa using hword)
      rw [endsInWord_concat, List.append_assoc, List.singleton_append] at hrest
      rw [List.cons_append, source?, hhere]
      exact hrest

/-- The name of the source of an image. -/
def sourceName : List Char := ['s', 'r', 'c']

/-- A word is taken for the name of the source. -/
def IsSource (word : List Char) : Prop := word.map caseFree = sourceName.map caseFree

instance (word : List Char) : Decidable (IsSource word) := inferInstanceAs (Decidable (_ = _))

theorem IsSource.length {word : List Char} (h : IsSource word) : word.length = 3 := by
  have hlength := congrArg List.length h
  rwa [List.length_map, List.length_map] at hlength

/-- What reads as a source in front of a symbol has its name in front of it, too. -/
theorem sourceValue?_stop {stop : Char} (hsymbol : 0 < stop.toNat ∧ stop.toNat < 65)
    {cs rest value : List Char} (h : sourceValue? (cs ++ stop :: rest) = some value) :
    ∃ word after more, cs = word ++ after ∧ IsSource word ∧
      (after ++ stop :: rest).dropWhile isBlank = '=' :: more ∧
      quotedValue? (more.dropWhile isBlank) = some value := by
  have hname : ∀ c ∈ sourceName, caseFree c ≠ caseFree stop := by
    intro c hc heq
    obtain rfl := eq_of_caseFree hsymbol heq
    simp only [sourceName, List.mem_cons, List.not_mem_nil, or_false] at hc
    obtain rfl | rfl | rfl := hc <;> exact absurd hsymbol.2 (by decide)
  obtain ⟨behind, hbehind, hvalue⟩ := Option.bind_eq_some_iff.mp h
  rw [show ['s', 'r', 'c'] = sourceName from rfl, behindName?_stop hname] at hbehind
  obtain ⟨after, hafter, rfl⟩ := Option.map_eq_some_iff.mp hbehind
  split at hvalue
  · rename_i more hmore
    exact ⟨_, after, more, (behindName?_length hafter).1, behindName?_keys hafter, hmore, hvalue⟩
  · exact absurd hvalue nofun

/-- A character that the name of the source does not begin with is passed over. -/
theorem source?_cons {c : Char} (hname : caseFree 's' ≠ caseFree c) (inWord : Bool)
    (cs : List Char) : source? inWord (c :: cs) = source? (isWordChar c) cs := by
  have hnone : sourceValue? (c :: cs) = none := by
    rw [sourceValue?, behindName?, if_neg hname]
    rfl
  rw [source?, hnone]
  cases inWord <;> rfl

theorem source?_symbol {c : Char} (hname : caseFree 's' ≠ caseFree c)
    (hword : isWordChar c = false) (inWord : Bool) (cs : List Char) :
    source? inWord (c :: cs) = source? false cs := by
  rw [source?_cons hname, hword]

/-! ### Attributes -/

/-- An attribute, whose value stands between double quotes. -/
structure Attribute where
  name : List Char
  value : List Char

/-- The characters that have a meaning in a page or in a value. -/
def marks : List Char := ['&', '"', '<', '>']

/-- A character of a format is no blank and has no meaning of its own. -/
theorem plain_of_isFormatChar {c : Char} (h : isFormatChar c = true) :
    isBlank c = false ∧ c ∉ '=' :: marks := by
  have hmarks : ('=' :: marks).all (fun d => !isFormatChar d) = true := by decide
  constructor
  · by_contra hblank
    rw [Bool.not_eq_false] at hblank
    simp only [isFormatChar, isWordChar_of_isBlank hblank, Bool.false_or, Bool.or_eq_true,
      beq_iff_eq] at h
    obtain (rfl | rfl) | rfl := h <;> exact absurd hblank (by decide)
  · intro hmem
    have hmark := List.all_eq_true.mp hmarks c hmem
    rw [h] at hmark
    exact absurd hmark (by decide)

/-- Whether a character may stand in the name of an attribute. -/
def isNameChar (c : Char) : Bool := isWordChar c || c == '-'

theorem plain_of_isNameChar {c : Char} (h : isNameChar c = true) :
    isBlank c = false ∧ c ∉ '=' :: marks := by
  refine plain_of_isFormatChar ?_
  simp only [isNameChar, Bool.or_eq_true] at h
  rcases h with h | h <;> simp [isFormatChar, h]

/-- A name ends with the name of the source, and no word goes on in front of that. -/
def NamesSource (name : List Char) : Prop :=
  ∃ front word, name = front ++ word ∧ endsInWord front = false ∧ IsSource word

instance (name : List Char) : Decidable (NamesSource name) :=
  decidable_of_iff (endsInWord (name.take (name.length - 3)) = false ∧
      IsSource (name.drop (name.length - 3))) <| by
    constructor
    · rintro ⟨hfront, hword⟩
      exact ⟨_, _, (List.take_append_drop _ name).symm, hfront, hword⟩
    · rintro ⟨front, word, rfl, hfront, hword⟩
      rw [List.length_append, hword.length, Nat.add_sub_cancel, List.take_left, List.drop_left]
      exact ⟨hfront, hword⟩

/-- In a value stands the name of the source where no word goes on, with its sign, and then
a single quote or nothing more. -/
def HoldsSource (value : List Char) : Prop :=
  ∃ front word after more, value = front ++ (word ++ after) ∧ endsInWord front = false ∧
    IsSource word ∧ after.dropWhile isBlank = '=' :: more ∧
    ∀ c ∈ (more.dropWhile isBlank).head?, c = '\''

/-- In a name only the end of it reads as a source. -/
theorem isSource_of_name {cs rest value : List Char} (hname : ∀ c ∈ cs, isNameChar c = true)
    (h : sourceValue? (cs ++ '=' :: rest) = some value) : IsSource cs := by
  obtain ⟨word, after, more, rfl, hword, hsign, -⟩ := sourceValue?_stop (by decide) h
  cases after with
  | nil => rwa [List.append_nil]
  | cons c after =>
      obtain ⟨hblank, hmark⟩ := plain_of_isNameChar (hname c (by simp))
      rw [List.cons_append, List.dropWhile_cons_of_neg (by simp [hblank])] at hsign
      exact absurd ((List.cons.inj hsign).1 ▸ List.mem_cons_self) hmark

/-- A value in which a place reads as a source holds one. -/
theorem holdsSource_of_value {front cs rest value : List Char} (hquote : '"' ∉ cs)
    (hfront : endsInWord front = false) (h : sourceValue? (cs ++ '"' :: rest) = some value) :
    HoldsSource (front ++ cs) := by
  obtain ⟨word, after, more, rfl, hword, hsign, hvalue⟩ := sourceValue?_stop (by decide) h
  have hstops : ('"' :: rest).dropWhile isBlank = '"' :: rest :=
    List.dropWhile_cons_of_neg (by decide)
  rw [dropWhile_append_front _ hstops] at hsign
  cases hafter : after.dropWhile isBlank with
  | nil =>
      rw [hafter] at hsign
      exact absurd (List.cons.inj hsign).1 (by decide)
  | cons c behind =>
      rw [hafter, List.cons_append] at hsign
      obtain ⟨rfl, rfl⟩ := List.cons.inj hsign
      refine ⟨front, word, after, behind, rfl, hfront, hword, hafter, fun c hc => ?_⟩
      obtain ⟨tail, htail⟩ := List.head?_eq_some_iff.mp hc
      have hmem : c ∈ after := (List.dropWhile_suffix isBlank).mem (by
        rw [hafter]
        exact List.mem_cons_of_mem _ ((List.dropWhile_suffix isBlank).mem (by simp [htail])))
      have hne : c ≠ '"' := fun heq => hquote (heq ▸ List.mem_append_right word hmem)
      rw [dropWhile_append_front _ hstops, htail, List.cons_append, quotedValue?] at hvalue
      by_contra hsingle
      rw [if_neg (by simp [hne, hsingle])] at hvalue
      exact absurd hvalue nofun

/-- A name that does not end with that of the source is passed over. -/
theorem source?_name {name : List Char} (hname : ∀ c ∈ name, isNameChar c = true)
    (h : ¬ NamesSource name) (rest : List Char) :
    source? false (name ++ '=' :: rest) = source? (endsInWord name) ('=' :: rest) := by
  refine source?_append [] fun passed tail hsplit _ hword => ?_
  by_contra hsome
  obtain ⟨value, hvalue⟩ := Option.ne_none_iff_exists'.mp hsome
  have htail : ∀ c ∈ tail, isNameChar c = true := fun c hc =>
    hname c (hsplit ▸ List.mem_append_right passed hc)
  exact h ⟨passed, tail, hsplit, hword, isSource_of_name htail hvalue⟩

/-- So is a value in which nothing reads as a source. -/
theorem source?_value {value : List Char} (hquote : '"' ∉ value) (h : ¬ HoldsSource value)
    (rest : List Char) :
    source? false (value ++ '"' :: rest) = source? (endsInWord value) ('"' :: rest) := by
  refine source?_append [] fun passed tail hsplit _ hword => ?_
  by_contra hsome
  obtain ⟨found, hfound⟩ := Option.ne_none_iff_exists'.mp hsome
  have htail : '"' ∉ tail := fun hc => hquote (hsplit ▸ List.mem_append_right passed hc)
  exact h (hsplit ▸ holdsSource_of_value htail hword hfound)

namespace Attribute

/-- How an attribute is written. -/
def write (a : Attribute) : List Char := ' ' :: (a.name ++ '=' :: '"' :: (a.value ++ ['"']))

/-- The name has letters and hyphens, and the value neither double quotes nor brackets. -/
structure Sound (a : Attribute) : Prop where
  name : ∀ c ∈ a.name, isNameChar c = true
  noQuote : '"' ∉ a.value
  noOpening : '<' ∉ a.value
  noClosing : '>' ∉ a.value

instance (a : Attribute) : Decidable a.Sound :=
  decidable_of_iff (a.name.all isNameChar = true ∧ '"' ∉ a.value ∧ '<' ∉ a.value ∧ '>' ∉ a.value)
    ⟨fun h => ⟨List.all_eq_true.mp h.1, h.2.1, h.2.2.1, h.2.2.2⟩,
      fun h => ⟨List.all_eq_true.mpr h.name, h.noQuote, h.noOpening, h.noClosing⟩⟩

/-- Nothing in an attribute reads as a source. -/
structure Apart (a : Attribute) : Prop where
  name : ¬ NamesSource a.name
  value : ¬ HoldsSource a.value

/-- An attribute in which nothing reads as a source is passed over. -/
theorem Apart.source?_append {a : Attribute} (h : a.Apart) (hsound : a.Sound) (inWord : Bool)
    (cs : List Char) : source? inWord (a.write ++ cs) = source? false cs := by
  have hwrite : a.write ++ cs = ' ' :: (a.name ++ '=' :: '"' :: (a.value ++ '"' :: cs)) := by
    simp [write]
  rw [hwrite, source?_symbol (by decide) (by decide),
    source?_name hsound.name h.name, source?_symbol (by decide) (by decide),
    source?_symbol (by decide) (by decide), source?_value hsound.noQuote h.value,
    source?_symbol (by decide) (by decide)]

/-- An attribute that names the source gives its value. -/
theorem source?_of_names {a : Attribute} (h : NamesSource a.name) (hsound : a.Sound)
    (inWord : Bool) (cs : List Char) : source? inWord (a.write ++ cs) = some a.value := by
  obtain ⟨front, word, hname, hfront, hword⟩ := h
  have hwrite : a.write ++ cs
      = ' ' :: (front ++ (word ++ '=' :: '"' :: (a.value ++ '"' :: cs))) := by
    simp [write, hname]
  have hpassed : source? false (front ++ (word ++ '=' :: '"' :: (a.value ++ '"' :: cs)))
      = source? (endsInWord front) (word ++ '=' :: '"' :: (a.value ++ '"' :: cs)) := by
    refine Paperwork.source?_append [] fun passed tail hsplit hne _ => ?_
    by_contra hsome
    obtain ⟨value, hvalue⟩ := Option.ne_none_iff_exists'.mp hsome
    have htail : ∀ c ∈ tail ++ word, isNameChar c = true := by
      intro c hc
      refine hsound.name c (hname ▸ ?_)
      rw [hsplit, List.append_assoc]
      exact List.mem_append_right passed hc
    -- All of the tail and the word would be the name of the source, which is too long.
    rw [← List.append_assoc] at hvalue
    have hlength := (isSource_of_name htail hvalue).length
    rw [List.length_append, hword.length] at hlength
    exact hne (List.length_eq_zero_iff.mp (by omega))
  have hhere : sourceValue? (word ++ '=' :: '"' :: (a.value ++ '"' :: cs)) = some a.value := by
    rw [sourceValue?, show ['s', 'r', 'c'] = sourceName from rfl, behindName?_of_keys hword]
    have hquoted : quotedValue? ('"' :: (a.value ++ '"' :: cs)) = some a.value := by
      rw [quotedValue?, if_pos (.inl rfl), upTo?_append hsound.noQuote]
      rfl
    exact hquoted
  obtain ⟨c, more, rfl⟩ := List.exists_cons_of_length_pos (by rw [hword.length]; decide)
  rw [hwrite, source?_symbol (by decide) (by decide), hpassed, hfront,
    List.cons_append, source?, if_neg (by decide), ← List.cons_append, hhere]

end Attribute

end Paperwork
