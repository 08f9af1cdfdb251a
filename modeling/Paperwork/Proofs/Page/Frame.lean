/-
What stands around the content of a printed page.

A page has a head, which is hidden, and a few tags and blanks around one division, which
holds the content.  The title is escaped and the style sheet has no tags, so the head ends
where it is closed and everything behind it is shown.
-/
import Paperwork.Proofs.Html.Visible
import Paperwork.Proofs.Page.Lines

namespace Paperwork

open Paperwork.Text
open Paperwork.Html

/-! ### The head of a page -/

/-- A search passes over texts and tags that are not asked for. -/
theorem Html.ReadsTags.search_texts {α β : Type} {p : List Char → Option α}
    {inside : List Char → Option β} {answer : β → List Char → α} (hp : ReadsTags p inside answer)
    {parts : List (List Char × List Char)}
    (h : ∀ part ∈ parts, '<' ∉ part.1 ∧ (Token.tag part.2).Sound ∧ inside part.2 = none)
    (cs : List Char) :
    search p (parts.flatMap (fun part => part.1 ++ (Token.tag part.2).write) ++ cs)
      = (search p cs).map fun (before, a) =>
        (parts.flatMap (fun part => part.1 ++ (Token.tag part.2).write) ++ before, a) := by
  induction parts with
  | nil => cases hs : search p cs <;> simp [hs]
  | cons part parts ih =>
      obtain ⟨hplain, hsound, hnone⟩ := h part List.mem_cons_self
      have htag : ∀ rest, p ((Token.tag part.2).write ++ rest) = none := by
        intro rest
        rw [hp.at_write hsound.2.2, hnone, Option.map_none]
      rw [List.flatMap_cons, List.append_assoc, List.append_assoc,
        search_append fun _ hne htail => hp.onlyAtTags.plain_none hplain hne htail _,
        hp.onlyAtTags.search_tag hsound (htag _),
        ih fun part hpart => h part (List.mem_cons_of_mem _ hpart)]
      simp only [Option.map_map]
      cases search p cs <;> simp

/-- A body that can be filled makes a page. -/
theorem Template.exists_page {t : Template} {data : Fields} {body : List Char}
    (h : t.body data = .ok body) (title : Option String) (fallback : String) :
    ∃ page, t.page data title fallback = .ok page := by
  rw [Template.page, h]
  exact ⟨_, rfl⟩

namespace Page

/-- The name of the element that is not shown. -/
def headName : List Char := ['h', 'e', 'a', 'd']

/-- The tags in the head of a page. -/
def headTags : List (List Char) :=
  ["meta charset=\"UTF-8\" /".toList,
   "meta name=\"viewport\" content=\"width=device-width, initial-scale=1.0\" /".toList,
   "title".toList, "/title".toList, "style".toList, "/style".toList]

/-- The texts in the head of a page, each in front of a tag. -/
def headTexts (title : List Char) : List (List Char) :=
  ["\n    ".toList, "\n    ".toList, "\n    ".toList, escapeChars title, "\n    ".toList,
   stylesheet.toList ++ "    ".toList]

/-- What stands in the head of a page: texts, each with the tag behind it. -/
def headParts (title : List Char) : List (List Char × List Char) :=
  (headTexts title).zip headTags

/-- The text in the head of a page. -/
def headText (title : List Char) : List Char :=
  (headParts title).flatMap (fun part => part.1 ++ (Token.tag part.2).write) ++ "\n  ".toList

/-- The head of a page. -/
def head (title : List Char) : List Char :=
  (Token.tag headName).write ++ headText title ++ (Token.tag ('/' :: headName)).write

theorem escapeChars_no_bracket (cs : List Char) : '<' ∉ escapeChars cs := by
  intro hmem
  obtain ⟨c, -, hc⟩ := List.mem_flatMap.mp hmem
  exact escapeChar_no_bracket c hc

/-- The style sheet holds no tags. -/
theorem stylesheet_no_bracket : '<' ∉ stylesheet.toList := by
  rw [stylesheet, String.toList_append, String.toList_join]
  simp only [stylesheetLines, List.map_cons, List.map_nil, List.flatMap_cons, List.flatMap_nil,
    String.toList_append]
  repeat rw [String.toList_ofList]
  decide +kernel

theorem headParts_open (title : List Char) : ∀ part ∈ headParts title,
    '<' ∉ part.1 ∧ (Token.tag part.2).Sound ∧ wholeTag (closes fold headName) part.2 = none := by
  have htags : ∀ tag ∈ headTags, (tag ≠ [] ∧ '<' ∉ tag ∧ '>' ∉ tag) ∧
      wholeTag (closes fold headName) tag = none := by
    decide
  have htexts : ∀ text ∈ headTexts title, '<' ∉ text := by
    simp [headTexts, escapeChars_no_bracket, stylesheet_no_bracket]
  intro part hpart
  obtain ⟨htext, htag⟩ := List.of_mem_zip hpart
  exact ⟨htexts _ htext, htags _ htag⟩

/-- The head ends where it is closed, whatever its title is. -/
theorem upToClosing_head (title rest : List Char) :
    upToClosing? fold headName (headText title ++ ((Token.tag ('/' :: headName)).write ++ rest))
      = some (headText title, 7) := by
  have hname : '>' ∉ headName := by decide
  have hreads := readsTags_closing (isName_fold hname)
  have hclosing := hreads.atTag ('/' :: headName) rest (by decide)
  rw [show wholeTag (closes fold headName) ('/' :: headName) = some 7 by decide,
    Option.map_some] at hclosing
  have hblank : '<' ∉ "\n  ".toList := by decide
  have hwrite : (Token.tag ('/' :: headName)).write ++ rest
      = '<' :: ('/' :: headName ++ '>' :: rest) := by
    simp [Token.write]
  rw [upToClosing?, headText, List.append_assoc, hreads.search_texts (headParts_open title),
    search_append fun _ hne htail => hreads.onlyAtTags.plain_none hblank hne htail _,
    hwrite, search_of_some hclosing]
  simp

theorem hidden_head (title rest : List Char) :
    Html.hidden (head title ++ rest) = some ((), (head title).length) := by
  have hwrite : head title ++ rest = '<' :: (headName ++ '>'
      :: (headText title ++ ((Token.tag ('/' :: headName)).write ++ rest))) := by
    simp [head, Token.write]
  have hopening : opening? hiddenNames (head title ++ rest)
      = some ⟨headName, [], headText title ++ ((Token.tag ('/' :: headName)).write ++ rest)⟩ := by
    rw [hwrite, (readsTags_opening (by decide)).atTag headName _ (by decide),
      show opens hiddenNames headName = some (headName, []) by decide]
    rfl
  have hcomment : commentLength? (head title ++ rest) = none := by
    simp [hwrite, commentLength?, behind?, headName]
  have hlength : (head title).length = 6 + (headText title).length + 7 := by
    simp [head, Token.write, headName]
    omega
  have hname : headName.length = 4 := rfl
  rw [Html.hidden, hcomment, elementAmong, element?, hopening]
  simp [upToClosing_head, hlength, Opening.length, hname]

/-! ### The parts of a page -/

/-- The parts of a text without tags. -/
def plainTokens (text : String) : List Token := text.toList.map .char

theorem sound_plainTokens (text : String) : Sound (plainTokens text) := sound_chars _

theorem silent_plainTokens {text : String} (h : text.toList.all isBlank = true) :
    Silent (plainTokens text) := .blanks h

/-- The parts of a page in front of its head. -/
def beforeHead : List Token :=
  .tag "!DOCTYPE html".toList :: (plainTokens "\n" ++ .tag "html lang=\"en\"".toList
    :: plainTokens "\n  ")

/-- The parts of a page between its head and its content. -/
def behindHead : List Token :=
  plainTokens "\n  " ++ .tag "body".toList :: plainTokens "\n    "

/-- The parts of a page behind its content. -/
def ending : List Token :=
  plainTokens "\n  " ++ .tag "/body".toList :: (plainTokens "\n" ++ [.tag "/html".toList])

/-- The attributes of the element around the content. -/
def container (sheet : StyleSheet) : Attributes :=
  Fill.classed "container" (Fill.styleAttribute (sheet.lookup "document"))

/-- The parts of the element around the content. -/
def containerTokens (sheet : StyleSheet) (content : List Token) : List Token :=
  .tag (divisionName ++ attributesText (container sheet))
    :: ((plainTokens "\n      " ++ content ++ plainTokens "\n    ")
      ++ .tag ('/' :: divisionName) :: ending)

/-- The parts of a page that are shown. -/
def shownTokens (sheet : StyleSheet) (content : List Token) : List Token :=
  beforeHead ++ (behindHead ++ containerTokens sheet content)

theorem beforeTitle_eq : beforeTitle.toList = writeTokens beforeHead
    ++ ((Token.tag headName).write ++ "\n    <meta charset=\"UTF-8\" />\n    ".toList
      ++ "<meta name=\"viewport\" content=\"width=device-width, initial-scale=1.0\" />".toList
      ++ "\n    <title>".toList) := by
  -- Rewriting by the definition would have the whole text computed.
  delta beforeTitle
  simp only [String.toList_append, beforeHead, plainTokens]
  repeat rw [String.toList_ofList]
  decide

theorem beforeBody_eq : beforeBody.toList = "    </style>\n  ".toList
    ++ ((Token.tag ('/' :: headName)).write ++ writeTokens behindHead) := by
  rw [beforeBody, behindHead, plainTokens, plainTokens]
  repeat rw [String.toList_ofList]
  decide

theorem afterContent_eq : afterContent.toList = writeTokens (plainTokens "\n    ")
    ++ ((Token.tag ('/' :: divisionName)).write ++ writeTokens ending) := by
  rw [afterContent, ending, plainTokens, plainTokens, plainTokens]
  repeat rw [String.toList_ofList]
  decide

theorem headText_eq (title : List Char) : headText title
    = "\n    <meta charset=\"UTF-8\" />\n    ".toList
      ++ "<meta name=\"viewport\" content=\"width=device-width, initial-scale=1.0\" />".toList
      ++ "\n    <title>".toList ++ escapeChars title ++ beforeStyles.toList
      ++ stylesheet.toList ++ "    </style>\n  ".toList := by
  rw [headText, headParts, headTexts, headTags, beforeStyles]
  simp only [List.zip_cons_cons, List.zip_nil_right, List.flatMap_cons, List.flatMap_nil,
    Token.write, List.append_assoc]
  repeat rw [String.toList_ofList]
  simp only [List.cons_append, List.nil_append]

/-- **A page is its head and the parts that are shown.** -/
theorem page_eq {t : Template} {data : Fields} {title : Option String} {fallback : String}
    {page : List Char} (h : t.page data title fallback = .ok page) :
    ∃ ms, t.fill data = .ok ms ∧
      page = writeTokens beforeHead ++ (head (t.pageTitle title fallback).toList
        ++ writeTokens (behindHead ++ containerTokens t.styles.resolved (tokenLines ms))) := by
  obtain ⟨body, hbody, hpage⟩ := bind_eq_ok.mp h
  obtain ⟨ms, hms, hjoined⟩ := bind_eq_ok.mp hbody
  obtain rfl := Except.ok.inj hjoined
  refine ⟨ms, hms, ?_⟩
  have hcontainer : containerTag t.styles.resolved
      = (Token.tag (divisionName ++ attributesText (container t.styles.resolved))).write := by
    simp [containerTag, openingTag, container, divisionName, Token.write]
  have hindentation : "\n      ".toList = writeTokens (plainTokens "\n      ") := by
    decide
  rw [← Except.ok.inj hpage, beforeTitle_eq, beforeBody_eq, afterContent_eq, hcontainer,
    hindentation, ← writeTokens_tokenLines, head, headText_eq]
  simp only [containerTokens, writeTokens_cons, writeTokens_append, List.append_assoc]

/-! ### What is shown of a page -/

/-- The tags around the content of a page. -/
def frameTags : List (List Char) :=
  ["!DOCTYPE html".toList, "html lang=\"en\"".toList, "body".toList, "/body".toList,
   "/html".toList]

theorem frameTags_silent : ∀ inner ∈ frameTags, (inner ≠ [] ∧ '<' ∉ inner ∧ '>' ∉ inner) ∧
    (opens stopNames inner = none ∧ ∀ kind ∈ RegionKind.all, opens kind.tagNames inner = none) ∧
      behind? ['!', '-', '-'] inner = none ∧ opens hiddenNames inner = none := by
  decide

/-- A row of blanks and of tags that stand around the content of a page. -/
def IsFrame (ts : List Token) : Prop :=
  ∀ t ∈ ts, (∃ c, t = .char c ∧ isBlank c = true) ∨ ∃ inner ∈ frameTags, t = .tag inner

namespace IsFrame

variable {ts : List Token}

theorem quiet (h : IsFrame ts) : Quiet ts := by
  intro t ht
  rcases h t ht with ⟨c, rfl, hc⟩ | ⟨inner, hinner, rfl⟩
  · exact hc
  · exact ⟨(frameTags_silent inner hinner).1, (frameTags_silent inner hinner).2.1⟩

theorem shown (h : IsFrame ts) : Shown ts := by
  have htags : ∀ inner, .tag inner ∈ ts → inner ∈ frameTags := by
    intro inner hmem
    rcases h _ hmem with ⟨c, heq, -⟩ | ⟨other, hother, heq⟩
    · exact absurd heq (by simp)
    · exact Token.tag.inj heq ▸ hother
  exact ⟨fun inner hmem => (frameTags_silent inner (htags inner hmem)).2.2.1,
    fun inner hmem => (frameTags_silent inner (htags inner hmem)).2.2.2⟩

end IsFrame

theorem isFrame_beforeHead : IsFrame beforeHead := by
  simp [IsFrame, beforeHead, plainTokens, frameTags]
  decide

theorem isFrame_behindHead : IsFrame behindHead := by
  simp [IsFrame, behindHead, plainTokens, frameTags]
  decide

theorem isFrame_ending : IsFrame ending := by
  simp [IsFrame, ending, plainTokens, frameTags]
  decide

end Page

/-- Nothing is asked for at the tags of a piece of known names. -/
theorem Html.Markup.Known.noTag {β : Type} {inside : List Char → Option β}
    (havoids : Avoids inside elementNames)
    (hrule : ∀ attributes, inside ("hr".toList ++ attributesText attributes ++ ['/']) = none)
    {m : Markup} (h : m.Known) : NoTag inside m.tokens := by
  induction h with
  | leaf htag _ =>
      obtain ⟨hopening, hclosing⟩ := havoids _ htag
      simp [Markup.tokens, tokensOf, hopening, hclosing]
  | parent htag _ _ ih =>
      obtain ⟨hopening, hclosing⟩ := havoids _ htag
      simp [Markup.tokens, noTag_tokensOf ih, hopening, hclosing]
  | rule _ => exact noTag_tag.mpr ⟨hrule _, noTag_nil⟩

/-- All of a piece of known names is shown. -/
theorem Html.Markup.Known.shown {m : Markup} (h : m.Known) : Shown m.tokens where
  noComment := by
    have hnames : ∀ tag ∈ elementNames, behind? ['!', '-', '-'] tag = none := by decide
    refine h.noTag (fun tag htag => ⟨fun attributes => ?_, rfl⟩) fun _ => rfl
    rcases attributesText_cases attributes with hnone | ⟨rest, hsome⟩
    · rw [hnone, List.append_nil, hnames tag htag]
    · rw [hsome]
      exact behind?_stop (by decide) (hnames tag htag) rest
  noHidden := h.noTag (avoids_opens (by decide) (by decide))
    (not_opens_rule (by decide) (by decide))

/-- What holds of the parts of pieces and of blanks holds of the pieces on their lines. -/
theorem shown_tokenLines {ms : List Markup} (h : ∀ m ∈ ms, m.Known) :
    Sound (tokenLines ms) ∧ Shown (tokenLines ms) := by
  induction ms with
  | nil => exact ⟨sound_nil, noTag_nil, noTag_nil⟩
  | cons m ms ih =>
      obtain ⟨hsound, hshown⟩ := ih fun m hm => h m (List.mem_cons_of_mem _ hm)
      obtain ⟨gap, -, hlines⟩ := tokenLines_cons m ms
      have hm := h m List.mem_cons_self
      rw [hlines]
      exact ⟨sound_append.mpr ⟨hm.sound, sound_append.mpr ⟨sound_chars gap, hsound⟩⟩,
        hm.shown.append ((shown_chars gap).append hshown)⟩

namespace Page

theorem known_container (sheet : StyleSheet) : (container sheet).Known :=
  Fill.known_classed _ (Fill.known_styleAttribute _)

section Content

variable (sheet : StyleSheet) {content : List Token}

theorem sound_containerTokens (h : Sound content) : Sound (containerTokens sheet content) := by
  have hname : divisionName ∈ elementNames := by decide
  have hopening := sound_opening hname (known_container sheet)
  have hclosing := sound_closing hname
  simp [containerTokens, sound_plainTokens, hopening, hclosing, h, isFrame_ending.quiet.sound]

theorem shown_containerTokens (h : Shown content) : Shown (containerTokens sheet content) := by
  have htags : Shown (Markup.element "div" (container sheet) []).tokens :=
    (Markup.Known.parent (by decide) (known_container sheet) (by simp)).shown
  have hopening : Shown [.tag (divisionName ++ attributesText (container sheet))] :=
    ⟨htags.noComment.sublist (by simp [Markup.tokens, divisionName]),
      htags.noHidden.sublist (by simp [Markup.tokens, divisionName])⟩
  have hclosing : Shown [.tag ('/' :: divisionName)] :=
    ⟨htags.noComment.sublist (by simp [Markup.tokens, divisionName]),
      htags.noHidden.sublist (by simp [Markup.tokens, divisionName])⟩
  have hinside := ((shown_chars "\n      ".toList).append h).append (shown_chars "\n    ".toList)
  have hall := (hopening.append hinside).append (hclosing.append isFrame_ending.shown)
  simpa [containerTokens, plainTokens] using hall

/-- **Of a page everything but its head is shown.** -/
theorem visible_page (title : List Char) (hsound : Sound content) (hshown : Shown content) :
    visible (writeTokens beforeHead
        ++ (head title ++ writeTokens (behindHead ++ containerTokens sheet content)))
      = writeTokens (shownTokens sheet content) := by
  have hrest : Sound (behindHead ++ containerTokens sheet content) :=
    sound_append.mpr ⟨isFrame_behindHead.quiet.sound, sound_containerTokens sheet hsound⟩
  have hall := visible_append hrest
    (isFrame_behindHead.shown.append (shown_containerTokens sheet hshown)) []
  rw [List.append_nil, show visible [] = [] from rfl, List.append_nil] at hall
  rw [visible_append isFrame_beforeHead.quiet.sound isFrame_beforeHead.shown,
    visible_of_hidden (hidden_head title _) (by simp [head, Token.write])
      (by simp [head, Token.write]), List.drop_left, hall, shownTokens,
    writeTokens_append beforeHead]

/-- No blanks stand around a page. -/
theorem trimmed_shownTokens :
    trimmedTokens (shownTokens sheet content) = shownTokens sheet content := by
  have hlast : ∀ h, (shownTokens sheet content).getLast h = .tag "/html".toList := by
    simp [shownTokens, containerTokens, ending]
  have hfirst : (shownTokens sheet content).dropWhile Token.isBlank
      = shownTokens sheet content := List.dropWhile_cons_of_neg (by simp [Token.isBlank])
  rw [trimmedTokens, hfirst, List.rdropWhile_eq_self_iff]
  intro hne
  rw [hlast hne]
  simp [Token.isBlank]

theorem sound_shownTokens (h : Sound content) : Sound (shownTokens sheet content) :=
  sound_append.mpr ⟨isFrame_beforeHead.quiet.sound,
    sound_append.mpr ⟨isFrame_behindHead.quiet.sound, sound_containerTokens sheet h⟩⟩

end Content

end Page

/-- **Of a page the frame and the filled blocks are shown**, and not more than it holds. -/
theorem Template.shown_page {t : Template} {data : Fields} {title : Option String}
    {fallback : String} {page : List Char} (hlevels : ∀ b ∈ t.blocks, b.Leveled)
    (hpage : t.page data title fallback = .ok page) :
    ∃ ms, t.fill data = .ok ms ∧ Sound (tokenLines ms) ∧
      visible page = writeTokens (Page.shownTokens t.styles.resolved (tokenLines ms)) ∧
      (visible page).length ≤ page.length := by
  obtain ⟨ms, hms, hwritten⟩ := Page.page_eq hpage
  have hknown : ∀ m ∈ ms, m.Known := by
    intro m hm
    obtain ⟨b, hb, hblock⟩ := exists_of_mem_mapM hms hm
    exact Fill.block_known (hlevels b hb) hblock
  obtain ⟨hsound, hshown⟩ := shown_tokenLines hknown
  have hvisible := Page.visible_page t.styles.resolved (t.pageTitle title fallback).toList
    hsound hshown
  rw [← hwritten] at hvisible
  refine ⟨ms, hms, hsound, hvisible, ?_⟩
  rw [hvisible, hwritten, Page.shownTokens, writeTokens_append Page.beforeHead]
  simp only [List.length_append]
  omega

end Paperwork
