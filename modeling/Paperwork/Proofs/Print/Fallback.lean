/-
What happens when a page cannot be read or printed.

A page that cannot be read keeps its plain text, and a page that cannot be printed is
printed as its plain text.  Both ways out read the character references of the page once
more, so they are barred by the one thing that makes reading references fail: a decimal
reference of too many digits among the text that is shown.  Nothing else bars them.
-/
import Paperwork.Print.Pdf
import Paperwork.Proofs.Document.Convert
import Paperwork.Proofs.Html.Visible

namespace Paperwork

open Paperwork.Text
open Paperwork.Html
open Paperwork.Print (Printer plainPages printStory printWith)

/-! ### The plain text of a page -/

/-- The text that is shown has a reference that cannot be read. -/
def HasUnreadableText (page : List Char) : Prop := HasLongReference (withoutTags (visible page))

theorem plainParagraphs_fails_iff (page : List Char) :
    (∃ cause, plainParagraphs page = .error cause) ↔ HasUnreadableText page := by
  rw [HasUnreadableText, ← unescape_fails_iff]
  simp only [plainParagraphs, contentParagraphs, content, bind_eq_error]
  simp [pure, Except.pure]

theorem plainNodes_fails_iff (page : List Char) :
    (∃ cause, plainNodes page = .error cause) ↔ HasUnreadableText page := by
  rw [← plainParagraphs_fails_iff]
  simp only [plainNodes, bind_eq_error]
  simp [pure, Except.pure]

theorem plainText_fails_iff (page : List Char) :
    (∃ cause, plainText page = .error cause) ↔ HasUnreadableText page := by
  rw [← plainParagraphs_fails_iff]
  simp only [plainText, bind_eq_error]
  simp [pure, Except.pure]

/-! ### Converting -/

theorem convert_fails_iff (cap : Cap) (page : List Char) :
    (∃ cause, (convert cap page).run.value = .error cause) ↔
      ScanFails cap page ∧ HasUnreadableText page := by
  rw [← plainNodes_fails_iff]
  cases hscan : (scanPage cap page).run.value with
  | ok nodes => simp [convert_of_scanned hscan, ScanFails, hscan]
  | error cause =>
      have hfails : ScanFails cap page := ⟨cause, hscan⟩
      rw [convert_of_scanFails hfails]
      cases plainNodes page <;> simp [hfails, Except.map]

/-- Plain paragraphs stand for a page exactly if it could not be read. -/
theorem convert_plainly_iff (cap : Cap) (page : List Char) (nodes : List Node) :
    (convert cap page).run.value = .ok ⟨nodes, true⟩ ↔
      ScanFails cap page ∧ plainNodes page = .ok nodes := by
  cases hscan : (scanPage cap page).run.value with
  | ok scanned => simp [convert_of_scanned hscan, ScanFails, hscan]
  | error cause =>
      have hfails : ScanFails cap page := ⟨cause, hscan⟩
      rw [convert_of_scanFails hfails]
      cases plainNodes page <;> simp [hfails, Except.map]

/-! ### Printing -/

/-- A page is printed: its printer gives bytes, or, without one, its story can be told. -/
def Prints (printer : Option Printer) (settings : Settings) (page : List Char) : Prop :=
  match printer with
  | some printer => ∃ bytes, bytes ≠ [] ∧ printer page = some bytes
  | none => ∃ shown, (printStory settings page).value = some shown

/-- What is printed before anything is given up. -/
private def printed (printer : Option Printer) (settings : Settings) (page : List Char) :
    Option Print.Pdf :=
  match printer with
  | some printer => printWith printer page
  | none => (printStory settings page).value

private theorem printed_eq_none {printer : Option Printer} {settings : Settings}
    {page : List Char} : printed printer settings page = none ↔ ¬ Prints printer settings page := by
  cases printer with
  | none =>
      cases h : (printStory settings page).value <;> simp [printed, Prints, h]
  | some printer =>
      simp only [printed, Prints, printWith]
      cases h : printer page with
      | none => simp
      | some bytes => cases bytes <;> simp

private theorem pdf_value (printer : Option Printer) (settings : Settings) (page : List Char) :
    (Print.pdf printer settings page).run.value =
      match printed printer settings page with
      | some shown => .ok shown
      | none => (plainText page).map fun text => .plain (plainPages text) := by
  unfold Print.pdf printed
  cases printer with
  | none =>
      simp only
      generalize printStory settings page = story
      obtain ⟨value, notices⟩ := story
      cases value with
      | some shown => rfl
      | none => cases plainText page <;> rfl
  | some printer =>
      simp only
      cases printWith printer page with
      | some shown => rfl
      | none => cases plainText page <;> rfl

theorem pdf_fails_iff (printer : Option Printer) (settings : Settings) (page : List Char) :
    (∃ cause, (Print.pdf printer settings page).run.value = .error cause) ↔
      ¬ Prints printer settings page ∧ HasUnreadableText page := by
  rw [pdf_value, ← printed_eq_none, ← plainText_fails_iff]
  cases printed printer settings page with
  | some shown => simp
  | none => cases plainText page <;> simp [Except.map]

/-- What is printed otherwise is never plain pages. -/
private theorem printed_ne_plain (printer : Option Printer) (settings : Settings)
    (page : List Char) (pages : List Print.Page) :
    printed printer settings page ≠ some (.plain pages) := by
  cases printer with
  | some printer =>
      simp only [printed, printWith]
      split <;> simp
  | none =>
      intro h
      simp only [printed, printStory, bind, Noted.andThen] at h
      split at h
      · simp [pure, Noted.silent] at h
      · simp only at h
        split at h
        · simp [pure, Noted.silent] at h
        · split at h <;> simp [pure, Noted.silent] at h

/-- Pages of plain text stand for a page exactly if it could not be printed. -/
theorem pdf_plainly_iff (printer : Option Printer) (settings : Settings) (page : List Char)
    (pages : List Print.Page) :
    (Print.pdf printer settings page).run.value = .ok (.plain pages) ↔
      ¬ Prints printer settings page ∧
        ∃ text, plainText page = .ok text ∧ pages = plainPages text := by
  have hplain := printed_ne_plain printer settings page pages
  rw [pdf_value, ← printed_eq_none]
  cases hprinted : printed printer settings page with
  | some shown =>
      rw [hprinted] at hplain
      simpa using hplain
  | none => cases plainText page <;> simp [Except.map, eq_comm]

/--
**What is given up keeps its plain text, unless that text cannot be read.**  A page whose
reading fails becomes its plain paragraphs, and a page whose printing fails becomes pages
of its plain text.  Either fails as a whole exactly if, besides, a reference in the text
that is shown has too many digits.
-/
theorem fallback_fails_iff (cap : Cap) (printer : Option Printer) (settings : Settings)
    (page : List Char) :
    ((∃ cause, (convert cap page).run.value = .error cause) ↔
        ScanFails cap page ∧ HasUnreadableText page) ∧
      (∀ nodes, (convert cap page).run.value = .ok ⟨nodes, true⟩ ↔
        ScanFails cap page ∧ plainNodes page = .ok nodes) ∧
      ((∃ cause, (Print.pdf printer settings page).run.value = .error cause) ↔
        ¬ Prints printer settings page ∧ HasUnreadableText page) ∧
      ∀ pages, (Print.pdf printer settings page).run.value = .ok (.plain pages) ↔
        ¬ Prints printer settings page ∧
          ∃ text, plainText page = .ok text ∧ pages = plainPages text :=
  ⟨convert_fails_iff cap page, convert_plainly_iff cap page,
    pdf_fails_iff printer settings page, pdf_plainly_iff printer settings page⟩

/-! ### A page that is refused

A page without a bracket is a single text: nothing is hidden in it, nothing is dropped from
it, and it is read in one step.
-/

theorem nextRegion_plain {cs : List Char} (h : '<' ∉ cs) : nextRegion cs = none := by
  have hnone : ∀ kind : RegionKind, (kind.find 0 cs).region = none := by
    intro kind
    have hopening : OnlyAtTags (opening? kind.tagNames) :=
      (readsTags_opening (by cases kind <;> decide)).onlyAtTags
    rw [RegionKind.find, hopening.search_plain h]
  simp [nextRegion, hnone, earliest]

theorem readFront_plain {cs : List Char} (h : '<' ∉ cs) :
    readFront 0 cs none = Reading.ofText (do return (← paragraphNodes cs, cs.length)) := by
  have hhead : cs.head? ≠ some '<' := fun hc => h (List.mem_of_mem_head? hc)
  have hunwrap : unwrap? cs.length cs = .ok none := by
    rw [unwrap?, (readsTags_opening (by decide)).onlyAtTags cs hhead]
    simp only
    rw [(readsTags_opening (by decide)).onlyAtTags cs hhead]
  have hlength : plainLength cs.length cs = cs.length := by
    have hrest : '<' ∉ (cs.take cs.length).drop 1 :=
      fun hmem => h (List.mem_of_mem_take (List.mem_of_mem_drop hmem))
    rw [plainLength, (readsTags_tagName (by decide)).onlyAtTags.search_plain hrest]
  simp only [readFront, hunwrap, hlength, List.take_length]
  cases paragraphNodes cs <;> rfl

/-- A text without a bracket is not read if its references are not. -/
theorem scanFails_plain {cs : List Char} (hplain : '<' ∉ cs) (htrimmed : trimmed isBlank cs = cs)
    (hlong : HasLongReference cs) : ScanFails (.atMost 1) cs := by
  obtain ⟨cause, hcause⟩ : ∃ cause, paragraphNodes cs = .error cause := by
    obtain ⟨cause, hcause⟩ := (unescape_fails_iff cs).mpr hlong
    exact ⟨cause, by simp [paragraphNodes, contentParagraphs, content, withoutTags_plain hplain,
      hcause, bind, Except.bind]⟩
  obtain ⟨c, rest, hcs⟩ : ∃ c rest, cs = c :: rest := by
    obtain ⟨before, rest, rfl, -⟩ := hlong
    exact List.exists_cons_of_ne_nil (by simp)
  refine ⟨.reference cause, ?_⟩
  have hscan : scanPage (.atMost 1) cs = scanAnew 1 1 cs := by
    rw [scanPage, visible_plain hplain, htrimmed]
    exact scan_none_eq_scanAnew 1 1 cs
  rw [hscan]
  have hfront := readFront_plain hplain
  rw [hcause] at hfront
  subst hcs
  rw [scanAnew, nextRegion_plain hplain, hfront]
  · rfl
  · simp

/-- A single reference, with one digit too many. -/
def refusedPage : List Char := '&' :: '#' :: List.replicate (digitLimit + 1) '1'

private theorem isDecimal_digits {n : Nat} {c : Char} (h : c ∈ List.replicate n '1') :
    isDecimal c = true := by
  rw [List.eq_of_mem_replicate h]
  decide

private theorem refusedPage_plain : '<' ∉ refusedPage := by
  intro h
  rcases List.mem_cons.mp h with h | h
  · exact absurd h (by decide)
  · rcases List.mem_cons.mp h with h | h
    · exact absurd h (by decide)
    · exact absurd (isDecimal_digits h) (by decide)

private theorem refusedPage_long : HasLongReference refusedPage := by
  refine ⟨[], '#' :: List.replicate (digitLimit + 1) '1', rfl,
    List.replicate (digitLimit + 1) '1', [], ?_, fun c hc => isDecimal_digits hc, ?_⟩
  · rw [List.append_nil]
  · rw [List.length_replicate]
    exact Nat.lt_succ_self _

private theorem refusedPage_trimmed : trimmed isBlank refusedPage = refusedPage := by
  refine trimmed_eq_self ?_ ?_
  · intro c hc
    obtain rfl : '&' = c := Option.some.inj hc
    decide
  · intro c hc
    have hlast : refusedPage = ('&' :: '#' :: List.replicate digitLimit '1') ++ ['1'] := by
      rw [refusedPage, List.replicate_succ']
      rfl
    rw [hlast, List.getLast?_concat] at hc
    obtain rfl : '1' = c := Option.some.inj hc
    decide

/-- **The page is refused**: it is neither converted nor, by a printer that fails,
printed. -/
theorem refusedPage_fails :
    (∃ cause, (convert (.atMost 1) refusedPage).run.value = .error cause) ∧
      ∃ cause, (Print.pdf (some fun _ => none) Settings.standard refusedPage).run.value
        = .error cause := by
  have hunreadable : HasUnreadableText refusedPage := by
    rw [HasUnreadableText, visible_plain refusedPage_plain, withoutTags_plain refusedPage_plain]
    exact refusedPage_long
  refine ⟨(convert_fails_iff _ _).mpr ⟨?_, hunreadable⟩,
    (pdf_fails_iff _ _ _).mpr ⟨?_, hunreadable⟩⟩
  · exact scanFails_plain refusedPage_plain refusedPage_trimmed refusedPage_long
  · rintro ⟨bytes, -, hbytes⟩
    exact absurd hbytes (by simp)

end Paperwork
