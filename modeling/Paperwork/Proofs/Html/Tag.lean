/-
How tags are recognised in a written page.

Opening and closing tags are recognised by their names.  A name never reaches past the
bracket that ends its tag: no letter passes for that bracket, whichever way letters are
compared.  So both kinds of tags are recognised between their brackets.
-/
import Paperwork.Proofs.Html.Token

namespace Paperwork.Text

/-! ### What folds to a symbol -/

/-- Where a table of letters sends to small letters only, whatever is moved ends there. -/
theorem shiftCase_cases {runs : List CaseRun} (h : ∀ run ∈ runs, 97 ≤ run.1 + run.2.2.2)
    (code : Nat) : shiftCase runs code = code ∨ 97 ≤ shiftCase runs code := by
  induction runs with
  | nil => exact .inl rfl
  | cons run runs ih =>
      obtain ⟨first, last, stride, distance⟩ := run
      have hrun : (97 : Int) ≤ first + distance :=
        h (first, last, stride, distance) List.mem_cons_self
      rw [shiftCase]
      split
      · exact .inl rfl
      · split
        · exact .inr (by omega)
        · exact ih fun r hr => h r (by simp [hr])

/-- No character but itself is folded to one that comes before the letters. -/
theorem eq_of_fold {c symbol : Char} (hsymbol : 0 < symbol.toNat ∧ symbol.toNat < 65)
    (h : fold c = symbol) : c = symbol := by
  have hruns : ∀ run ∈ lowerRuns, 97 ≤ run.1 + run.2.2.2 := by decide +kernel
  have hcode : shiftCase lowerRuns c.toNat = symbol.toNat := by
    have hval := congrArg Char.toNat h
    rw [fold, Char.toNat_ofNat] at hval
    split at hval
    · exact hval
    · omega
  rcases shiftCase_cases hruns c.toNat with hsame | hbig
  · exact Char.toNat_inj.mp (by rw [← hsame, hcode])
  · omega

theorem fold_symbol {symbol : Char} (hsymbol : symbol.toNat < 65) : fold symbol = symbol := by
  have hcode : shiftCase lowerRuns symbol.toNat = symbol.toNat := by
    rw [lowerRuns, shiftCase, if_pos (by omega)]
  rw [fold, hcode, Char.ofNat_toNat]

theorem bracket_not_mem_lowerText {cs : List Char} (h : '>' ∉ cs) : '>' ∉ lowerText cs := by
  have hbehind : ∀ before, '>' ∉ lowerBehind before cs := by
    induction cs with
    | nil => simp [lowerBehind]
    | cons c cs ih =>
        intro before hmem
        simp only [List.mem_cons, not_or] at h
        rw [lowerBehind, List.mem_append] at hmem
        rcases hmem with hmem | hmem
        · unfold lowerWithin lower at hmem
          split at hmem
          · simp at hmem
          · split at hmem
            · simp at hmem
            · exact h.1 (eq_of_fold (by decide) (List.mem_singleton.mp hmem).symm).symm
        · exact ih h.2 _ hmem
  exact hbehind []

end Paperwork.Text

namespace Paperwork.Html

open Paperwork.Text

/-! ### Names -/

/-- No character of a name passes for the bracket that ends a tag. -/
def IsName (key : Char → Char) (name : List Char) : Prop := ∀ c ∈ name, key c ≠ key '>'

theorem isName_fold {name : List Char} (h : '>' ∉ name) : IsName fold name := by
  intro c hc heq
  have hbracket : fold '>' = '>' := fold_symbol (by decide)
  rw [hbracket] at heq
  exact h (eq_of_fold (by decide) heq ▸ hc)

/-- No other character passes for one that comes before the letters. -/
theorem eq_of_caseFree {c symbol : Char} (hsymbol : 0 < symbol.toNat ∧ symbol.toNat < 65)
    (h : caseFree c = caseFree symbol) : c = symbol := by
  have hletters : symbol ≠ 'ı' ∧ symbol ≠ 'ſ' ∧ symbol ≠ 'i' ∧ symbol ≠ 's' := by
    refine ⟨?_, ?_, ?_, ?_⟩ <;> exact fun heq => absurd hsymbol.2 (by rw [heq]; decide)
  rw [caseFree, caseFree, fold_symbol hsymbol.2] at h
  simp only [hletters, if_false] at h
  refine eq_of_fold hsymbol ?_
  split at h
  · exact absurd h.symm hletters.2.2.1
  · split at h
    · exact absurd h.symm hletters.2.2.2
    · exact h

theorem isName_caseFree {name : List Char} (h : '>' ∉ name) : IsName caseFree name :=
  fun _ hc heq => h (eq_of_caseFree (by decide) heq ▸ hc)

/-- A character that no character of a name passes for ends what is read of the name. -/
theorem behindName?_stop {key : Char → Char} {stop : Char} {name : List Char}
    (hname : ∀ c ∈ name, key c ≠ key stop) (inner rest : List Char) :
    behindName? key name (inner ++ stop :: rest)
      = (behindName? key name inner).map (· ++ stop :: rest) := by
  induction name generalizing inner with
  | nil => simp [behindName?]
  | cons n name ih =>
      have hrest : ∀ c ∈ name, key c ≠ key stop := fun c hc => hname c (by simp [hc])
      cases inner with
      | nil => simp [behindName?, hname n (by simp)]
      | cons c inner =>
          simp only [List.cons_append, behindName?]
          split
          · exact ih hrest inner
          · rfl

theorem behindName?_bracket {key : Char → Char} {name : List Char} (hname : IsName key name)
    (inner rest : List Char) :
    behindName? key name (inner ++ '>' :: rest)
      = (behindName? key name inner).map (· ++ '>' :: rest) :=
  behindName?_stop hname inner rest

theorem behindName?_length {key : Char → Char} {name cs rest : List Char}
    (h : behindName? key name cs = some rest) :
    cs = cs.take name.length ++ rest ∧ (cs.take name.length).length = name.length := by
  induction name generalizing cs with
  | nil => simp_all [behindName?]
  | cons n name ih =>
      cases cs with
      | nil => simp [behindName?] at h
      | cons c cs =>
          simp only [behindName?] at h
          split at h
          · obtain ⟨heq, hlen⟩ := ih h
            exact ⟨by simpa using heq, by simpa using hlen⟩
          · simp at h

/-! ### Opening tags -/

/-- The name and the attributes of a tag, if what stands between its brackets opens one
of the names. -/
def opens (names : List (List Char)) (inner : List Char) : Option (List Char × List Char) :=
  tagName? names ('<' :: inner)

theorem opens_append (names more : List (List Char)) (inner : List Char) :
    opens (names ++ more) inner = (opens names inner).or (opens more inner) := List.findSome?_append

theorem opens_eq_some {names : List (List Char)} {inner name attributes : List Char}
    (h : opens names inner = some (name, attributes)) : inner = name ++ attributes := by
  unfold opens tagName? at h
  obtain ⟨n, -, hn⟩ := List.exists_of_findSome?_eq_some h
  cases hb : behindName? caseFree n inner with
  | none => simp [hb] at hn
  | some rest =>
      simp only [hb] at hn
      split at hn
      · simp at hn
      · simp only [Option.some.injEq, Prod.mk.injEq] at hn
        obtain ⟨rfl, rfl⟩ := hn
        exact (behindName?_length hb).1

theorem startsInWord_stop {stop : Char} (hstop : isWordChar stop = false)
    (cs rest : List Char) : startsInWord (cs ++ stop :: rest) = startsInWord cs := by
  cases cs with
  | nil => simp [startsInWord, hstop]
  | cons c cs => rfl

/-- Whether a tag has a name is told by what stands up to the first character that cannot
belong to one. -/
theorem opens_stop {names : List (List Char)} {stop : Char} (hnames : ∀ n ∈ names, stop ∉ n)
    (hsymbol : 0 < stop.toNat ∧ stop.toNat < 65) (hstop : isWordChar stop = false)
    (inner rest : List Char) :
    opens names (inner ++ stop :: rest)
      = (opens names inner).map fun na => (na.1, na.2 ++ stop :: rest) := by
  unfold opens tagName?
  simp only
  induction names with
  | nil => rfl
  | cons n names ih =>
      have hn : ∀ c ∈ n, caseFree c ≠ caseFree stop :=
        fun c hc heq => hnames n (by simp) (eq_of_caseFree hsymbol heq ▸ hc)
      simp only [List.findSome?_cons]
      rw [ih fun m hm => hnames m (by simp [hm]), behindName?_stop hn]
      cases hb : behindName? caseFree n inner with
      | none => rfl
      | some r =>
          have hlen := (behindName?_length hb).2
          have htake : (inner ++ stop :: rest).take n.length = inner.take n.length := by
            refine List.take_append_of_le_length ?_
            rw [List.length_take] at hlen
            omega
          simp only [Option.map_some, startsInWord_stop hstop, htake]
          by_cases hword : startsInWord r = true
          · simp only [if_pos hword]
          · simp only [if_neg hword]
            rfl

/-- A closing tag opens nothing. -/
theorem opens_slash {names : List (List Char)} (hnames : ∀ n ∈ names, n ≠ [] ∧ '/' ∉ n)
    (cs : List Char) : opens names ('/' :: cs) = none := by
  have hnil : opens names [] = none := by
    refine List.findSome?_eq_none_iff.mpr fun n hn => ?_
    obtain ⟨c, more, rfl⟩ := List.exists_cons_of_ne_nil (hnames n hn).1
    rfl
  have hstop := opens_stop (fun n hn => (hnames n hn).2) (by decide) (by decide +kernel) [] cs
  rwa [hnil] at hstop

theorem readsTags_tagName {names : List (List Char)} (h : ∀ n ∈ names, '>' ∉ n) :
    ReadsTags (tagName? names) (opens names)
      fun na rest => (na.1, na.2 ++ '>' :: rest) where
  onlyAtTags cs hcs := by
    unfold tagName?
    split
    · simp at hcs
    · rfl
  atTag inner rest _ := opens_stop h (by decide) (by decide +kernel) inner rest

theorem readsTags_opening {names : List (List Char)} (h : ∀ n ∈ names, '>' ∉ n) :
    ReadsTags (opening? names) (opens names) fun na rest => ⟨na.1, na.2, rest⟩ where
  onlyAtTags cs hcs := by
    simp [opening?, (readsTags_tagName h).onlyAtTags cs hcs]
  atTag inner rest hinner := by
    unfold opening?
    rw [(readsTags_tagName h).atTag inner rest hinner]
    cases hopens : opens names inner with
    | none => rfl
    | some na =>
        have hbracket : '>' ∉ na.2 := by
          rw [opens_eq_some hopens] at hinner
          exact fun hmem => hinner (by simp [hmem])
        simp [upTo?_append hbracket]

theorem Opening.length_of_opens {names : List (List Char)} {inner name attributes : List Char}
    (h : opens names inner = some (name, attributes)) (rest : List Char) :
    (⟨name, attributes, rest⟩ : Opening).length = (Token.tag inner).write.length := by
  rw [opens_eq_some h]
  simp only [Opening.length, Token.write, List.length_cons, List.length_append,
    List.length_nil]
  omega

/-! ### Closing tags -/

/-- Whether what stands between the brackets of a tag closes a name. -/
def closes (key : Char → Char) (name inner : List Char) : Bool :=
  match inner with
  | '/' :: cs =>
    match behindName? key name cs with
    | some rest => rest.all isBlank
    | none => false
  | _ => false

/-- A tag that opens a name closes none. -/
theorem not_closes_of_opens {names : List (List Char)} (hnames : ∀ n ∈ names, n ≠ [] ∧ '/' ∉ n)
    {inner : List Char} (hopens : (opens names inner).isSome) (key : Char → Char)
    (name : List Char) : closes key name inner = false := by
  unfold closes
  split
  · rw [opens_slash hnames] at hopens
    simp at hopens
  · rfl

/-- The bracket that ends a tag is not blank. -/
theorem takeWhile_isBlank_bracket (cs rest : List Char) :
    (cs ++ '>' :: rest).takeWhile isBlank = cs.takeWhile isBlank := by
  induction cs with
  | nil => exact List.takeWhile_cons_of_neg (by decide)
  | cons c cs ih => rw [List.cons_append, List.takeWhile_cons, List.takeWhile_cons, ih]

theorem drop_blanks_bracket (cs rest : List Char) :
    (cs ++ '>' :: rest).drop (cs.takeWhile isBlank).length
      = cs.dropWhile isBlank ++ '>' :: rest := by
  induction cs with
  | nil => rfl
  | cons c cs ih => by_cases hc : isBlank c = true <;> simp [hc, ih]

/-- In text without a bracket, none stands behind the blanks. -/
theorem exists_behind_blanks {cs : List Char} (hbracket : '>' ∉ cs)
    (hall : ¬ cs.all isBlank = true) : ∃ d ds, cs.dropWhile isBlank = d :: ds ∧ d ≠ '>' := by
  have hne : cs.dropWhile isBlank ≠ [] := fun hnil =>
    hall (List.all_eq_true.mpr (List.dropWhile_eq_nil_iff.mp hnil))
  obtain ⟨d, ds, hrest⟩ := List.exists_cons_of_ne_nil hne
  have hmem : d ∈ cs :=
    (List.dropWhile_suffix isBlank).mem (by rw [hrest]; exact List.mem_cons_self)
  exact ⟨d, ds, hrest, ne_of_mem_of_not_mem hmem hbracket⟩

theorem readsTags_closing {key : Char → Char} {name : List Char} (hname : IsName key name) :
    ReadsTags (closingLength? key name) (wholeTag (closes key name))
      fun length _ => length where
  onlyAtTags cs hcs := by
    unfold closingLength?
    split
    · simp at hcs
    · rfl
  atTag inner rest hinner := by
    unfold wholeTag closes closingLength?
    cases inner with
    | nil => rfl
    | cons c inner =>
        by_cases hc : c = '/'
        · subst hc
          simp only [List.cons_append, behindName?_bracket hname]
          cases hb : behindName? key name inner with
          | none => rfl
          | some r =>
              obtain ⟨heq, hlen⟩ := behindName?_length hb
              have hbracket : '>' ∉ r := fun hmem => hinner (by rw [heq]; simp [hmem])
              simp only [Option.map_some, takeWhile_isBlank_bracket, drop_blanks_bracket]
              by_cases hall : r.all isBlank = true
              · have hblanks := List.all_eq_true.mp hall
                have htotal : inner.length = name.length + r.length := by
                  rw [heq, List.length_append, hlen]
                simp only [List.takeWhile_eq_self_iff.mpr hblanks,
                  List.dropWhile_eq_nil_iff.mpr hblanks, List.nil_append, hall, if_true,
                  Token.write, List.length_cons, List.length_append, List.length_nil,
                  Option.map_some, Option.some.injEq]
                omega
              · obtain ⟨d, ds, hrest, hd⟩ := exists_behind_blanks hbracket hall
                simp only [hrest, List.cons_append, if_neg hall]
                split
                · rename_i heq'
                  exact absurd (List.cons.inj heq').1 hd
                · rfl
        · simp [hc]

end Paperwork.Html
