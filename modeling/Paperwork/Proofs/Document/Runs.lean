/-
Paragraphs of bold and of plain runs.

A paragraph is bold or it is not: single runs of its text cannot be.  Whether it is bold is
told by the two ends of what it holds.  If that begins with a tag that makes bold and ends
with the closing tag of the same name, all of it counts as bold, whatever stands in
between.  So the first and the last run decide, and the runs between them do not.
-/
import Paperwork.Proofs.Document.Items

namespace Paperwork

open Paperwork.Text
open Paperwork.Html

/-! ### Runs -/

/-- The tags that make text bold. -/
inductive BoldTag
  | b | strong
  deriving DecidableEq, Repr

/-- The name of a tag. -/
def BoldTag.name : BoldTag → List Char
  | b => ['b']
  | strong => ['s', 't', 'r', 'o', 'n', 'g']

/-- A run of text, with the tag that makes it bold if one does. -/
structure Run where
  text : String
  bold : Option BoldTag
  deriving DecidableEq, Repr

namespace Run

/-- How a run is written. -/
def write (run : Run) : List Char :=
  match run.bold with
  | some tag => enclosed tag.name run.text.toList ('/' :: tag.name)
  | none => run.text.toList

/-- A run shows something, and nothing in it is taken for a tag or for a reference. -/
structure Sound (run : Run) : Prop where
  bare : IsBare run.text.toList
  notBlank : isAllBlank run.text.toList = false

instance (run : Run) : Decidable run.Sound :=
  decidable_of_iff (IsBare run.text.toList ∧ isAllBlank run.text.toList = false)
    ⟨fun h => ⟨h.1, h.2⟩, fun h => ⟨h.bare, h.notBlank⟩⟩

theorem write_plain {text : String} : (⟨text, none⟩ : Run).write = text.toList := rfl

theorem write_bold {text : String} {tag : BoldTag} :
    (⟨text, some tag⟩ : Run).write = enclosed tag.name text.toList ('/' :: tag.name) := rfl

end Run

/-- How runs are written one after another. -/
def writeRuns (runs : List Run) : List Char := runs.flatMap Run.write

/-- The text of runs. -/
def textOfRuns (runs : List Run) : List Char := runs.flatMap fun run => run.text.toList

theorem writeRuns_cons (run : Run) (runs : List Run) :
    writeRuns (run :: runs) = run.write ++ writeRuns runs := rfl

theorem isBare_textOfRuns {runs : List Run} (h : ∀ run ∈ runs, run.Sound) :
    IsBare (textOfRuns runs) := by
  induction runs with
  | nil => exact ⟨List.not_mem_nil, List.not_mem_nil, List.not_mem_nil⟩
  | cons run runs ih =>
      obtain ⟨hrun, hrest⟩ := List.forall_mem_cons.mp h
      exact hrun.bare.append (ih hrest)

/-! ### What is not found in runs -/

theorem BoldTag.sound_name (tag : BoldTag) :
    (Token.tag tag.name).Sound ∧ (Token.tag ('/' :: tag.name)).Sound := by
  cases tag <;> decide

theorem Run.Sound.complete {run : Run} (h : run.Sound) : Complete run.write := by
  obtain ⟨text, bold⟩ := run
  cases bold with
  | none => exact .plain h.bare.noOpening
  | some tag => exact (Complete.tag _).append ((Complete.plain h.bare.noOpening).append (.tag _))

theorem complete_writeRuns {runs : List Run} (h : ∀ run ∈ runs, run.Sound) :
    Complete (writeRuns runs) := .flatMap fun run hrun => (h run hrun).complete

section Search

variable {α β : Type} {p : List Char → Option α} {inside : List Char → Option β}
  {answer : β → List Char → α}

/-- What is not asked for at the tags that make text bold is not found in a run. -/
theorem Run.Sound.search_write {run : Run} (h : run.Sound) (hp : ReadsTags p inside answer)
    (hopening : ∀ tag : BoldTag, inside tag.name = none)
    (hclosing : ∀ tag : BoldTag, inside ('/' :: tag.name) = none) :
    search p run.write = none := by
  obtain ⟨text, bold⟩ := run
  have htext : search p text.toList = none := hp.onlyAtTags.search_plain h.bare.noOpening
  cases bold with
  | none => exact htext
  | some tag =>
      obtain ⟨hopen, hclose⟩ := tag.sound_name
      refine hp.search_append_eq_none (.tag _)
        ((hp.search_tag_eq_none hopen).mpr (hopening tag)) ?_
      exact hp.search_append_eq_none (.plain h.bare.noOpening) htext
        ((hp.search_tag_eq_none hclose).mpr (hclosing tag))

theorem search_writeRuns {runs : List Run} (h : ∀ run ∈ runs, run.Sound)
    (hp : ReadsTags p inside answer) (hopening : ∀ tag : BoldTag, inside tag.name = none)
    (hclosing : ∀ tag : BoldTag, inside ('/' :: tag.name) = none) :
    search p (writeRuns runs) = none :=
  hp.search_flatMap_eq_none fun run hrun =>
    ⟨(h run hrun).complete, (h run hrun).search_write hp hopening hclosing⟩

end Search

/-! ### The text of runs -/

theorem Run.Sound.replaced_write {run : Run} (h : run.Sound) (rest : List Char) :
    replaced anyTag (fun _ => []) (run.write ++ rest)
      = run.text.toList ++ replaced anyTag (fun _ => []) rest := by
  obtain ⟨text, bold⟩ := run
  have htext : ∀ more, replaced anyTag (fun _ => []) (text.toList ++ more)
      = text.toList ++ replaced anyTag (fun _ => []) more := fun more =>
    replaced_append _ (h.bare.pieces_append readsTags_anyTag.onlyAtTags more)
  cases bold with
  | none => exact htext rest
  | some tag =>
      obtain ⟨hopen, hclose⟩ := tag.sound_name
      rw [Run.write_bold, enclosed, List.append_assoc, List.append_assoc,
        replaced_anyTag_tag hopen, htext, replaced_anyTag_tag hclose]

/-- **The paragraphs in runs are those of their text**: the tags leave nothing. -/
theorem contentParagraphs_writeRuns {runs : List Run} (h : ∀ run ∈ runs, run.Sound) :
    contentParagraphs (writeRuns runs) = .ok (paragraphs (textOfRuns runs)) := by
  have hbreak : search lineBreak (writeRuns runs) = none := by
    refine search_writeRuns h readsTags_lineBreak ?_ ?_ <;> intro tag <;> cases tag <;>
      decide
  have htags : ∀ rs : List Run, (∀ run ∈ rs, run.Sound) →
      replaced anyTag (fun _ => []) (writeRuns rs) = textOfRuns rs := by
    intro rs hrs
    induction rs with
    | nil => rfl
    | cons run rs ih =>
        obtain ⟨hrun, hrest⟩ := List.forall_mem_cons.mp hrs
        rw [writeRuns_cons, hrun.replaced_write, ih hrest]
        rfl
  rw [contentParagraphs, content, withoutTags, replaced_eq_self _ hbreak, htags runs h,
    unescape_bare (isBare_textOfRuns h).noReference]
  rfl

/-! ### The ends of runs -/

/-- What a text that is not blank begins with, blanks aside. -/
theorem exists_dropWhile_isBlank {cs : List Char} (h : isAllBlank cs = false) :
    ∃ c rest, cs.dropWhile isBlank = c :: rest ∧ c ∈ cs := by
  obtain ⟨d, hd, hblank⟩ := List.all_eq_false.mp h
  have hne : cs.dropWhile isBlank ≠ [] := by
    intro hnil
    exact hblank (List.dropWhile_eq_nil_iff.mp hnil d hd)
  obtain ⟨c, rest, hcons⟩ := List.exists_cons_of_ne_nil hne
  exact ⟨c, rest, hcons, (List.dropWhile_suffix isBlank).mem (by simp [hcons])⟩

/-- The closing tag at the end of a text is that of its own name only. -/
theorem endsWithClosing_closing (tag other : BoldTag) (front : List Char) :
    endsWithClosing tag.name (front ++ (Token.tag ('/' :: other.name)).write)
      = decide (other = tag) := by
  have hb : isBlank 'b' = false ∧ isBlank 'g' = false ∧ isBlank '>' = false := by decide
  have hfold : fold 'b' ≠ fold 'g' := by decide
  cases tag <;> cases other <;>
    simp [endsWithClosing, Token.write, BoldTag.name, behindName?, hb, hfold, hfold.symm]

/-- A text that shows something does not end with a closing tag if it holds no bracket. -/
theorem endsWithClosing_bare (name front : List Char) {text : List Char} (hbracket : '>' ∉ text)
    (h : isAllBlank text = false) : endsWithClosing name (front ++ text) = false := by
  obtain ⟨c, rest, hcons, hc⟩ :=
    exists_dropWhile_isBlank (show isAllBlank text.reverse = false by
      rwa [isAllBlank, List.all_reverse])
  have hlast : (front ++ text).reverse.dropWhile isBlank = c :: (rest ++ front.reverse) := by
    rw [List.reverse_append, List.dropWhile_append, hcons]
    rfl
  have hne : c ≠ '>' := fun heq => hbracket (heq ▸ List.mem_reverse.mp hc)
  unfold endsWithClosing
  rw [hlast]
  split
  · rename_i heq
    exact absurd (List.cons.inj heq).1 hne
  · rfl

/-- What ends with a run ends with a closing tag exactly if the run is bold by that tag. -/
theorem Run.Sound.endsWithClosing {run : Run} (h : run.Sound) (tag : BoldTag)
    (front : List Char) :
    endsWithClosing tag.name (front ++ run.write) = decide (run.bold = some tag) := by
  obtain ⟨text, bold⟩ := run
  cases bold with
  | none => exact endsWithClosing_bare _ front h.bare.noClosing h.notBlank
  | some other =>
      rw [Run.write_bold, enclosed, ← List.append_assoc, ← List.append_assoc,
        endsWithClosing_closing]
      simp

theorem opens_boldNames (tag : BoldTag) : opens boldNames tag.name = some (tag.name, []) := by
  cases tag <;> decide

/-- **Runs count as wrapped in bold exactly if the first and the last of them are bold by
the same tag.** -/
theorem isWrappedBold_writeRuns {runs : List Run} (h : ∀ run ∈ runs, run.Sound)
    (hne : runs ≠ []) :
    isWrappedBold (writeRuns runs) = true ↔
      ∃ tag, (runs.head hne).bold = some tag ∧ (runs.getLast hne).bold = some tag := by
  obtain ⟨⟨text, bold⟩, more, rfl⟩ := List.exists_cons_of_ne_nil hne
  obtain ⟨hfirst, hmore⟩ := List.forall_mem_cons.mp h
  cases bold with
  | none =>
      -- The run begins with a character of its text, and that is no bracket.
      obtain ⟨c, rest, hcons, hc⟩ := exists_dropWhile_isBlank hfirst.notBlank
      have hbegins : (writeRuns (⟨text, none⟩ :: more)).dropWhile isBlank
          = c :: (rest ++ writeRuns more) := by
        rw [writeRuns_cons, Run.write_plain, List.dropWhile_append, hcons]
        rfl
      have hopening : opening? boldNames (c :: (rest ++ writeRuns more)) = none := by
        refine (readsTags_opening (by decide)).onlyAtTags _ ?_
        simpa using fun heq : c = '<' => hfirst.bare.noOpening (heq ▸ hc)
      simp [isWrappedBold, hbegins, hopening]
  | some tag =>
      have hbegins : (writeRuns (⟨text, some tag⟩ :: more)).dropWhile isBlank
          = (Token.tag tag.name).write
            ++ (text.toList ++ ((Token.tag ('/' :: tag.name)).write ++ writeRuns more)) := by
        rw [writeRuns_cons, Run.write_bold, enclosed, List.append_assoc, List.append_assoc]
        exact List.dropWhile_cons_of_neg (by decide)
      have hwrapped : isWrappedBold (writeRuns (⟨text, some tag⟩ :: more))
          = endsWithClosing tag.name
              (text.toList ++ ((Token.tag ('/' :: tag.name)).write ++ writeRuns more)) := by
        rw [isWrappedBold, hbegins, opening?_tag (by decide) tag.sound_name.1.2.2,
          opens_boldNames]
        rfl
      rcases List.eq_nil_or_concat' more with rfl | ⟨init, last, rfl⟩
      · rw [hwrapped, writeRuns, List.flatMap_nil, List.append_nil, endsWithClosing_closing]
        simp
      · have hends : endsWithClosing tag.name
            (text.toList ++ ((Token.tag ('/' :: tag.name)).write ++ writeRuns (init ++ [last])))
              = decide (last.bold = some tag) := by
          rw [writeRuns, List.flatMap_append, List.flatMap_singleton, ← List.append_assoc,
            ← List.append_assoc, (hmore last (by simp)).endsWithClosing]
        rw [hwrapped, hends]
        simp

/-! ### Paragraphs -/

/-- What may stand in the tag of a paragraph behind its name and makes nothing bold. -/
structure Unstyled (attributes : List Char) : Prop where
  noOpening : '<' ∉ attributes
  noClosing : '>' ∉ attributes
  apart : startsInWord attributes = false
  notBold : hasBoldStyle attributes = false

/-- How a paragraph of runs is written. -/
def runsParagraph (attributes : List Char) (runs : List Run) : List Char :=
  enclosed ('p' :: attributes) (writeRuns runs) ['/', 'p']

/-- The node that a paragraph of runs becomes. -/
def runsNode (runs : List Run) (bold : Bool) : Node :=
  .paragraph (String.ofList (joined ['\n'] (visibleLines (textOfRuns runs)))) bold

namespace Unstyled

variable {attributes : List Char} {runs : List Run}

theorem sound (h : Unstyled attributes) : (Token.tag ('p' :: attributes)).Sound := by
  refine ⟨List.cons_ne_nil _ _, ?_, ?_⟩
  · simpa using h.noOpening
  · simpa using h.noClosing

theorem opens (h : Unstyled attributes) :
    Html.opens wrapperNames ('p' :: attributes) = some (['p'], attributes) := by
  simp [Html.opens, tagName?, wrapperNames, behindName?, h.apart]

/-- The tag of a paragraph opens nothing else. -/
theorem opens_eq_none (h : Unstyled attributes) {others : List (List Char)}
    (hothers : NamesApart [['p']] others) : Html.opens others ('p' :: attributes) = none := by
  refine hothers.opens_eq_none ?_
  simp [Html.opens, tagName?, behindName?, h.apart]

theorem complete (hruns : ∀ run ∈ runs, run.Sound) :
    Complete (runsParagraph attributes runs) :=
  (Complete.tag _).append ((complete_writeRuns hruns).append (.tag _))

/-- What is asked for neither at the tags of a paragraph nor at those of bold runs is not
found in it. -/
theorem search_eq_none {α β : Type} {p : List Char → Option α} {inside : List Char → Option β}
    {answer : β → List Char → α} (h : Unstyled attributes) (hruns : ∀ run ∈ runs, run.Sound)
    (hp : ReadsTags p inside answer) (htag : inside ('p' :: attributes) = none)
    (hclose : inside ['/', 'p'] = none) (hopening : ∀ tag : BoldTag, inside tag.name = none)
    (hclosing : ∀ tag : BoldTag, inside ('/' :: tag.name) = none) :
    search p (runsParagraph attributes runs) = none := by
  refine hp.search_append_eq_none (.tag _) ((hp.search_tag_eq_none h.sound).mpr htag) ?_
  exact hp.search_append_eq_none (complete_writeRuns hruns)
    (search_writeRuns hruns hp hopening hclosing)
    ((hp.search_tag_eq_none (by decide)).mpr hclose)

/-- None of some names opens in a paragraph if none of them is that of its tags. -/
theorem search_opening?_eq_none (h : Unstyled attributes) (hruns : ∀ run ∈ runs, run.Sound)
    {others : List (List Char)} (hbrackets : ∀ n ∈ others, '>' ∉ n)
    (hslash : ∀ n ∈ others, n ≠ [] ∧ '/' ∉ n) (hothers : NamesApart [['p']] others)
    (hbold : NamesApart boldNames others) :
    search (opening? others) (runsParagraph attributes runs) = none := by
  refine h.search_eq_none hruns (readsTags_opening hbrackets) (h.opens_eq_none hothers)
    (opens_slash hslash _) (fun tag => hbold.opens_eq_none ?_) fun tag => opens_slash hslash _
  rw [opens_boldNames]
  rfl

theorem allShown (h : Unstyled attributes) (hruns : ∀ run ∈ runs, run.Sound) :
    AllShown (runsParagraph attributes runs) where
  complete := complete hruns
  noComment := by
    refine h.search_eq_none hruns readsTags_comment rfl rfl ?_ ?_ <;> intro tag <;> cases tag <;>
      rfl
  noHidden := h.search_opening?_eq_none hruns (by decide) (by decide) (by decide)
    (by decide)

theorem nextRegion_eq_none (h : Unstyled attributes) (hruns : ∀ run ∈ runs, run.Sound) :
    nextRegion (runsParagraph attributes runs) = none := by
  have hnone : ∀ kind : RegionKind,
      search (opening? kind.tagNames) (runsParagraph attributes runs) = none := fun kind =>
    h.search_opening?_eq_none hruns kind.tagNames_no_bracket kind.tagNames_no_slash
      (by cases kind <;> decide) (by cases kind <;> decide)
  simp [nextRegion, RegionKind.find, hnone, earliest]

/-- Runs are closed as a paragraph by the closing tag behind them. -/
theorem upToOwnClosing?_writeRuns (hruns : ∀ run ∈ runs, run.Sound) (tag : Opening)
    (hname : tag.name = ['p']) :
    upToOwnClosing? tag (writeRuns runs ++ (Token.tag ['/', 'p']).write)
      = some (writeRuns runs, (Token.tag ['/', 'p']).write.length) := by
  have hclosing := readsTags_closing (isName_caseFree (show '>' ∉ ['p'] by decide))
  have hunclosed : search (closingLength? caseFree ['p']) (writeRuns runs) = none := by
    refine search_writeRuns hruns hclosing ?_ ?_ <;> intro tag <;> cases tag <;> decide
  have hcloses : closingLength? caseFree ['p'] (Token.tag ['/', 'p']).write
      = some (Token.tag ['/', 'p']).write.length := by decide
  have hlower : lowerText ['p'] = ['p'] := by decide
  rw [upToOwnClosing?, upToClosing?, hname, hlower,
    hclosing.search_behind (complete_writeRuns hruns) hunclosed, search_of_some hcloses]
  simp

theorem hasWrapper_writeRuns (hruns : ∀ run ∈ runs, run.Sound) :
    hasWrapper (writeRuns runs) = false := by
  have hnone : search (tagName? wrapperNames) (writeRuns runs) = none := by
    refine search_writeRuns hruns (readsTags_tagName (by decide)) ?_ ?_ <;> intro tag <;>
      cases tag <;> decide
  rw [hasWrapper, hnone]
  rfl

/-- **A paragraph of runs is unwrapped as a whole.** -/
theorem unwrap?_eq (h : Unstyled attributes) (hruns : ∀ run ∈ runs, run.Sound) :
    unwrap? (runsParagraph attributes runs).length (runsParagraph attributes runs)
      = .ok (some ([runsNode runs (isWrappedBold (writeRuns runs))],
          (runsParagraph attributes runs).length)) := by
  have hwhole : runsParagraph attributes runs = (Token.tag ('p' :: attributes)).write
      ++ (writeRuns runs ++ (Token.tag ['/', 'p']).write) := rfl
  have hbreak : opening? [breakName] (runsParagraph attributes runs) = none := by
    rw [hwhole, opening?_tag (by decide) h.sound.2.2, h.opens_eq_none (by decide)]
    rfl
  let tag : Opening := ⟨['p'], attributes, writeRuns runs ++ (Token.tag ['/', 'p']).write⟩
  have hopening : opening? wrapperNames (runsParagraph attributes runs) = some tag := by
    rw [hwhole, opening?_tag (by decide) h.sound.2.2, h.opens]
    rfl
  have hlength : (runsParagraph attributes runs).length = tag.length + tag.rest.length :=
    length_of_opening hopening
  have hwrapped : wrapped? tag ((runsParagraph attributes runs).length - tag.length)
      = some (writeRuns runs, (Token.tag ['/', 'p']).write.length) := by
    rw [wrapped?, hlength, Nat.add_sub_cancel_left, List.take_length,
      upToOwnClosing?_writeRuns hruns tag rfl]
    simp [hasWrapper_writeRuns hruns]
  have hnode : wrapperNode tag (writeRuns runs)
      = .ok (runsNode runs (isWrappedBold (writeRuns runs))) := by
    rw [wrapperNode, contentParagraphs_writeRuns hruns, ok_bind, joined_paragraphs, h.notBold,
      Bool.false_or]
    rfl
  have hall : tag.length + (writeRuns runs).length + (Token.tag ['/', 'p']).write.length
      = (runsParagraph attributes runs).length := by
    rw [hlength, Nat.add_assoc, ← List.length_append]
  rw [unwrap?, hbreak]
  simp only [hopening, hwrapped, hnode, ok_bind, hall]
  rfl

/-- A paragraph of runs becomes one paragraph, which is bold if the runs are wrapped. -/
theorem convert (h : Unstyled attributes) (hruns : ∀ run ∈ runs, run.Sound) {cap : Cap}
    (hcap : cap.Allows 1) :
    (Paperwork.convert cap (runsParagraph attributes runs)).run.value
      = .ok ⟨[runsNode runs (isWrappedBold (writeRuns runs))], false⟩ := by
  have hlimit : frontLimit (runsParagraph attributes runs)
      = (runsParagraph attributes runs).length := by
    rw [frontLimit, h.nextRegion_eq_none hruns]
  have hunwrap := h.unwrap?_eq hruns
  nth_rewrite 1 [← hlimit] at hunwrap
  exact convert_of_readFront (by simp [enclosed, Token.write])
    (h.allShown hruns).readText_enclosed (readFront_unwrapped hunwrap) hcap

end Unstyled

/--
**The first and the last run decide whether a paragraph is bold.**  Let any runs that show
something stand one after another in a paragraph whose tag makes nothing bold, the bold
ones each in its tag.  Then the page is converted to one paragraph with the whole text of
the runs, and that is bold exactly if the first and the last run are bold by the same tag.
So it is bold exactly if all runs are under two conditions: where the first and the last
are bold by one tag, none between them is plain; and where all are bold, the first and the
last are bold by one tag.
-/
theorem convert_runs_bold_iff {attributes : List Char} (hattributes : Unstyled attributes)
    {runs : List Run} (hruns : ∀ run ∈ runs, run.Sound) (hne : runs ≠ []) {cap : Cap}
    (hcap : cap.Allows 1) :
    ∃ bold, (convert cap (runsParagraph attributes runs)).run.value
        = .ok ⟨[runsNode runs bold], false⟩ ∧
      (bold = true ↔
        ∃ tag, (runs.head hne).bold = some tag ∧ (runs.getLast hne).bold = some tag) ∧
      ((bold = true ↔ ∀ run ∈ runs, run.bold.isSome) ↔
        (∀ tag, (runs.head hne).bold = some tag → (runs.getLast hne).bold = some tag →
          ∀ run ∈ runs, run.bold.isSome) ∧
        ((∀ run ∈ runs, run.bold.isSome) → (runs.head hne).bold = (runs.getLast hne).bold)) := by
  refine ⟨_, hattributes.convert hruns hcap, isWrappedBold_writeRuns hruns hne, ?_⟩
  rw [isWrappedBold_writeRuns hruns hne]
  constructor
  · intro hiff
    refine ⟨fun tag hhead hlast => hiff.mp ⟨tag, hhead, hlast⟩, fun hall => ?_⟩
    obtain ⟨tag, hhead, hlast⟩ := hiff.mpr hall
    rw [hhead, hlast]
  · rintro ⟨hbetween, hends⟩
    refine ⟨fun ⟨tag, hhead, hlast⟩ => hbetween tag hhead hlast, fun hall => ?_⟩
    obtain ⟨tag, htag⟩ := Option.isSome_iff_exists.mp (hall _ (List.head_mem hne))
    exact ⟨tag, htag, (hends hall).symm.trans htag⟩

/-- A bold run and one that is plain, with blanks between the words. -/
def headedRuns : List Run := [⟨"Total: ", some .strong⟩, ⟨" 5 \n EUR", none⟩]

theorem headedRuns_not_bold :
    Unstyled " class=\"x\"".toList ∧ (∀ run ∈ headedRuns, run.Sound) ∧
      Cap.standard.Allows 1 ∧
      runsParagraph " class=\"x\"".toList headedRuns
        = "<p class=\"x\"><strong>Total: </strong> 5 \n EUR</p>".toList ∧
      (convert Cap.standard (runsParagraph " class=\"x\"".toList headedRuns)).run.value
        = .ok ⟨[.paragraph "Total: 5\nEUR" false], false⟩ := by
  have hattributes : Unstyled " class=\"x\"".toList :=
    ⟨by decide, by decide, by decide, by decide +kernel⟩
  have hruns : ∀ run ∈ headedRuns, run.Sound := by decide
  have hcap : Cap.standard.Allows 1 := Cap.allows_standard (by decide)
  obtain ⟨bold, hconvert, hbold, -⟩ :=
    convert_runs_bold_iff hattributes hruns (List.cons_ne_nil _ _) hcap
  have hplain : bold = false := by
    rw [Bool.eq_false_iff]
    intro htrue
    obtain ⟨tag, -, hlast⟩ := hbold.mp htrue
    exact absurd hlast nofun
  have hnode : runsNode headedRuns false = .paragraph "Total: 5\nEUR" false := by decide
  exact ⟨hattributes, hruns, hcap, by decide, by rw [hconvert, hplain, hnode]⟩

/-- A plain run between two bold ones. -/
def interruptedRuns : List Run := [⟨"a", some .b⟩, ⟨"x", none⟩, ⟨"c", some .b⟩]

/-- A paragraph may be bold although a run in it is not. -/
theorem interruptedRuns_bold :
    runsParagraph [] interruptedRuns = "<p><b>a</b>x<b>c</b></p>".toList ∧
      (convert Cap.standard (runsParagraph [] interruptedRuns)).run.value
        = .ok ⟨[.paragraph "axc" true], false⟩ ∧
      ¬ ∀ run ∈ interruptedRuns, run.bold.isSome := by
  have hruns : ∀ run ∈ interruptedRuns, run.Sound := by decide
  have hattributes : Unstyled [] := ⟨by decide, by decide, by decide, by decide⟩
  have hconvert := hattributes.convert hruns (Cap.allows_standard (show 1 ≤ 10000 by decide))
  have hnode : runsNode interruptedRuns (isWrappedBold (writeRuns interruptedRuns))
      = .paragraph "axc" true := by decide
  exact ⟨by decide, by rw [hconvert, hnode], by decide⟩

end Paperwork
