/-
Images that stand in their page.

An image is written out in the address of its tag: its type, and its bytes in letters.  If
the source of the tag is that address, the bytes come back whatever they are, as nothing of
them is lost on the way, neither in the value of the attribute nor at the references, the
blanks and the parts of the address.
-/
import Paperwork.Proofs.Document.Attributes
import Paperwork.Proofs.Document.Items
import Paperwork.Proofs.Document.WellFormed
import Paperwork.Proofs.Text.Base64

namespace Paperwork

open Paperwork.Text
open Paperwork.Html

/-! ### Tags of images -/

/-- What stands in the tag of an image. -/
def imageInner (attributes : List Attribute) : List Char :=
  ['i', 'm', 'g'] ++ attributes.flatMap Attribute.write

/-- A page that is an image and nothing else. -/
def imagePage (attributes : List Attribute) : List Char :=
  (Token.tag (imageInner attributes)).write

/-- The first attribute that names the source gives the source of an image, if nothing in
front of it reads as one. -/
theorem source?_imagePage {lead more : List Attribute} {a : Attribute}
    (hlead : ∀ x ∈ lead, x.Sound ∧ x.Apart) (hsound : a.Sound) (hnames : NamesSource a.name) :
    source? false (imagePage (lead ++ a :: more)) = some a.value := by
  have hpassed : ∀ inWord, source? inWord (lead.flatMap Attribute.write
      ++ (a.write ++ (more.flatMap Attribute.write ++ ['>']))) = some a.value := by
    induction lead with
    | nil => exact fun inWord => Attribute.source?_of_names hnames hsound inWord _
    | cons x lead ih =>
        obtain ⟨⟨hx, happart⟩, hrest⟩ := List.forall_mem_cons.mp hlead
        intro inWord
        rw [List.flatMap_cons, List.append_assoc, happart.source?_append hx]
        exact ih hrest false
  have hpage : imagePage (lead ++ a :: more) = '<' :: 'i' :: 'm' :: 'g'
      :: (lead.flatMap Attribute.write ++ (a.write ++ (more.flatMap Attribute.write ++ ['>']))) := by
    simp [imagePage, imageInner, Token.write]
  rw [hpage, source?_cons (by decide), source?_cons (by decide),
    source?_cons (by decide), source?_cons (by decide), hpassed]

/-- A source stands for a node, if its address is read and the image there becomes that. -/
def StandsFor (value : List Char) (node : Node) : Prop :=
  ∃ address, unescape value = .ok address ∧ (imageAt address).answer = .ok node

theorem imageNode_iff {tag value : List Char} (h : source? false tag = some value)
    {node : Node} : (imageNode tag).answer = .ok node ↔ StandsFor value node := by
  rw [imageNode_eq, Reading.answer_bind, imageAddress, h, bind_eq_ok]
  simp only [Reading.answer_ofText, StandsFor]

section Page

variable {attributes : List Attribute}

theorem sound_imageInner (h : ∀ a ∈ attributes, a.Sound) :
    (Token.tag (imageInner attributes)).Sound := by
  have hwrite : ∀ a ∈ attributes, '<' ∉ a.write ∧ '>' ∉ a.write := by
    intro a ha
    have hname : ∀ c ∈ marks, c ∉ a.name := fun c hmark hc =>
      (plain_of_isNameChar ((h a ha).name c hc)).2 (List.mem_cons_of_mem _ hmark)
    simp [Attribute.write, hname '<' (by decide), hname '>' (by decide), (h a ha).noOpening,
      (h a ha).noClosing]
  refine ⟨by simp [imageInner], ?_, ?_⟩ <;> intro hmem <;>
    obtain ⟨a, ha, hc⟩ : ∃ a ∈ attributes, _ ∈ a.write := by simpa [imageInner] using hmem
  · exact (hwrite a ha).1 hc
  · exact (hwrite a ha).2 hc

theorem opens_imageInner (attributes : List Attribute) :
    opens RegionKind.image.tagNames (imageInner attributes)
      = some (['i', 'm', 'g'], attributes.flatMap Attribute.write) := by
  have happart : startsInWord (attributes.flatMap Attribute.write) = false := by
    cases attributes with
    | nil => rfl
    | cons a more =>
        show isWordChar ' ' = false
        decide
  simp [opens, tagName?, RegionKind.tagNames, imageInner, behindName?, happart]

theorem isSome_opens_imageInner (attributes : List Attribute) :
    (opens RegionKind.image.tagNames (imageInner attributes)).isSome := by
  rw [opens_imageInner]
  rfl

theorem imagePage_ne_nil : imagePage attributes ≠ [] := List.cons_ne_nil _ _

/-- An image is shown as a whole. -/
theorem readText_imagePage (h : ∀ a ∈ attributes, a.Sound) :
    readText (imagePage attributes) = imagePage attributes := by
  have happart : NamesApart RegionKind.image.tagNames hiddenNames := by decide
  have hshown : AllShown (imagePage attributes) :=
    .tag (sound_imageInner h) rfl (happart.opens_eq_none (isSome_opens_imageInner attributes))
  refine hshown.readText_eq imagePage_ne_nil (List.dropWhile_cons_of_neg (by decide)) ?_
  exact List.rdropWhile_concat_neg isBlank ('<' :: imageInner attributes) '>' (by decide)

theorem opening?_imagePage (h : ∀ a ∈ attributes, a.Sound) {names : List (List Char)}
    (hnames : ∀ n ∈ names, '>' ∉ n) :
    opening? names (imagePage attributes)
      = (opens names (imageInner attributes)).map fun na => ⟨na.1, na.2, []⟩ :=
  (readsTags_opening hnames).atTag (imageInner attributes) [] (sound_imageInner h).2.2

/-- The region that an image is. -/
def imageRegion (attributes : List Attribute) : Region :=
  ⟨.image, 0, (imagePage attributes).length, ['i', 'm', 'g'], imagePage attributes, []⟩

theorem nextRegion_imagePage (h : ∀ a ∈ attributes, a.Sound) :
    nextRegion (imagePage attributes) = some (imageRegion attributes) := by
  have hopening := opening?_imagePage h RegionKind.image.tagNames_no_bracket
  rw [opens_imageInner] at hopening
  have hfind : (RegionKind.image.find 0 (imagePage attributes)).region
      = some (imageRegion attributes) := by
    have hlength := Opening.length_of_opens (opens_imageInner attributes) []
    have htext : (⟨['i', 'm', 'g'], attributes.flatMap Attribute.write, []⟩ : Opening).text
        = imagePage attributes := by
      simp [Opening.text, imagePage, imageInner, Token.write]
    unfold RegionKind.find
    rw [search_of_some hopening]
    simp [imageRegion, hlength, htext, imagePage]
  exact nextRegion_of_opens (sound_imageInner h).2.2 (isSome_opens_imageInner attributes) hfind rfl

/-- An image is neither a line break nor a wrapper. -/
theorem opening?_imagePage_stop (h : ∀ a ∈ attributes, a.Sound) (names : List (List Char))
    (hnames : ∀ n ∈ names, n ∈ stopNames) : opening? names (imagePage attributes) = none := by
  have hbrackets : ∀ n ∈ stopNames, '>' ∉ n := by decide
  have happart := (RegionKind.namesApart_stopNames .image).of_subset hnames
  rw [opening?_imagePage h fun n hn => hbrackets n (hnames n hn),
    happart.opens_eq_none (isSome_opens_imageInner attributes)]
  rfl

theorem nodes_imageRegion {nodes : List Node} :
    (imageRegion attributes).nodes.answer = .ok nodes ↔
      ∃ node, (imageNode (imagePage attributes)).answer = .ok node ∧ nodes = [node] := by
  show (imageNode (imagePage attributes) >>= fun node => pure [node]).answer = _ ↔ _
  rw [Reading.answer_bind, bind_eq_ok]
  simp only [Reading.answer_pure, Except.ok.injEq, eq_comm]

/-- **A page that is an image becomes the node that stands for the image.** -/
theorem convert_imagePage_iff (h : ∀ a ∈ attributes, a.Sound) {node : Node} {cap : Cap}
    (hcap : cap.Allows 1) :
    (convert cap (imagePage attributes)).run.value = .ok ⟨[node], false⟩ ↔
      (imageNode (imagePage attributes)).answer = .ok node := by
  have hnext := nextRegion_imagePage h
  have hbreak := opening?_imagePage_stop h [breakName] (by decide)
  have hwrapper := opening?_imagePage_stop h wrapperNames (by decide)
  constructor
  · intro hconvert
    obtain ⟨made, length, hfront, hmade⟩ :=
      readFront_of_convert imagePage_ne_nil (readText_imagePage h) hcap hconvert
    obtain ⟨region, hregion, -, hnodes, -⟩ | ⟨hahead, -⟩ :=
      (readFront_eq_ok hfront).of_not_opening hbreak hwrapper
    · obtain rfl := Option.some.inj (hnext.symm.trans hregion)
      obtain ⟨other, hother, rfl⟩ := nodes_imageRegion.mp hnodes
      rw [hother, (List.cons_prefix_cons.mp hmade).1]
    · exact absurd (hahead _ hnext) (Nat.lt_irrefl 0)
  · intro hnode
    have hunwrap : unwrap? 0 (imagePage attributes) = .ok none := by
      unfold unwrap?
      simp only [hbreak, hwrapper]
    exact convert_of_readFront imagePage_ne_nil (readText_imagePage h)
      (readFront_region hnext rfl hunwrap (nodes_imageRegion.mpr ⟨node, hnode, rfl⟩)) hcap

end Page

/-! ### Images that are written out -/

/-- The address of an image that is written out in it. -/
def embeddedAddress (format : List Char) (bytes : List UInt8) : List Char :=
  "data:".toList ++ ("image/".toList
    ++ (format ++ (";base64,".toList ++ Base64.encode Base64.alphabet bytes)))

/-- The source attribute of an image that is written out. -/
def embeddedSource (format : List Char) (bytes : List UInt8) : Attribute :=
  ⟨sourceName, embeddedAddress format bytes⟩

/-- The image that is written out. -/
def embeddedImage (format : List Char) (bytes : List UInt8) : Node :=
  .image bytes (String.ofList ("image/".toList ++ lowerText format))

section Embedded

variable {format : List Char} {bytes : List UInt8}

/-- Nothing in the address of such an image is blank or has a meaning in a page. -/
theorem plain_of_mem_embeddedAddress (hformat : ∀ c ∈ format, isFormatChar c = true) {c : Char}
    (h : c ∈ embeddedAddress format bytes) : isBlank c = false ∧ c ∉ marks := by
  have hall : ∀ cs : List Char, (cs.all fun c => !isBlank c && !marks.contains c) = true →
      ∀ c ∈ cs, isBlank c = false ∧ c ∉ marks := by
    intro cs hcs c hc
    simpa using List.all_eq_true.mp hcs c hc
  unfold embeddedAddress at h
  simp only [List.mem_append] at h
  rcases h with h | h | h | h | h
  · exact hall _ (by decide) c h
  · exact hall _ (by decide) c h
  · obtain ⟨hblank, hmarks⟩ := plain_of_isFormatChar (hformat c h)
    exact ⟨hblank, fun hmark => hmarks (List.mem_cons_of_mem _ hmark)⟩
  · exact hall _ (by decide) c h
  · exact hall _ (by decide) c (Base64.mem_of_encode h)

theorem sound_embeddedSource (hformat : ∀ c ∈ format, isFormatChar c = true) :
    (embeddedSource format bytes).Sound where
  name := List.all_eq_true.mp (by decide : sourceName.all isNameChar = true)
  noQuote hmem := (plain_of_mem_embeddedAddress hformat hmem).2 (by decide)
  noOpening hmem := (plain_of_mem_embeddedAddress hformat hmem).2 (by decide)
  noClosing hmem := (plain_of_mem_embeddedAddress hformat hmem).2 (by decide)

/-- The parts of such an address are found again. -/
theorem embedded?_embeddedAddress (hne : format ≠ [])
    (hformat : ∀ c ∈ format, isFormatChar c = true) :
    embedded? (embeddedAddress format bytes)
      = some ("image/".toList ++ format, Base64.encode Base64.alphabet bytes) := by
  have hspan : (format ++ (";base64,".toList ++ Base64.encode Base64.alphabet bytes)).span
      isFormatChar = (format, ";base64,".toList ++ Base64.encode Base64.alphabet bytes) := by
    refine span_append hformat fun c hc => ?_
    obtain rfl := Option.some.inj hc
    decide
  have hempty : format.isEmpty = false := by simpa using hne
  unfold embedded? embeddedAddress
  simp only [behind?_append_self, hspan, hempty, Option.bind_eq_bind,
    Option.bind_some, Bool.false_eq_true, if_false]

/-- Whether a word has begun does not reach past a character that is in none. -/
theorem meetsCased_stop {stop : Char} (hpassed : ignorableRanges.holds stop.toNat = false)
    (hcased : casedRanges.holds stop.toNat = false) (cs rest : List Char) :
    meetsCased (cs ++ stop :: rest) = meetsCased cs := by
  induction cs with
  | nil => simp [meetsCased, hpassed, hcased]
  | cons c cs ih =>
      unfold meetsCased at ih ⊢
      by_cases hc : ignorableRanges.holds c.toNat = true
      · simpa only [List.cons_append, List.dropWhile_cons, hc, if_true] using ih
      · simp [hc]

theorem lowerBehind_stop {stop : Char} (hpassed : ignorableRanges.holds stop.toNat = false)
    (hcased : casedRanges.holds stop.toNat = false) (before rest cs : List Char) :
    lowerBehind (before ++ stop :: rest) cs = lowerBehind before cs := by
  induction cs generalizing before with
  | nil => rfl
  | cons c cs ih =>
      rw [lowerBehind, lowerBehind, lowerWithin, lowerWithin, endsWord, endsWord,
        meetsCased_stop hpassed hcased, ← List.cons_append, ih]

/-- The format is written in lower case as it is by itself. -/
theorem lowerText_format (format : List Char) :
    lowerText ("image/".toList ++ format) = "image/".toList ++ lowerText format := by
  rw [lowerText_imageType]
  congr 1
  exact lowerBehind_stop (by decide) (by decide) [] "egami".toList format

/-- **An image that is written out in an address is read back from it.** -/
theorem standsFor_embedded (hne : format ≠ []) (hformat : ∀ c ∈ format, isFormatChar c = true) :
    StandsFor (embeddedAddress format bytes) (embeddedImage format bytes) := by
  have hplain := @plain_of_mem_embeddedAddress format bytes hformat
  have htrimmed : trimmed isBlank (embeddedAddress format bytes)
      = embeddedAddress format bytes :=
    trimmed_eq_self (fun c hc => (hplain (List.mem_of_mem_head? hc)).1)
      fun c hc => (hplain (List.mem_of_getLast? hc)).1
  have hletters : (words (Base64.encode Base64.alphabet bytes)).flatten
      = Base64.encode Base64.alphabet bytes := by
    rw [letters_words]
    refine List.filter_eq_self.mpr fun c hc => ?_
    have hmem : c ∈ embeddedAddress format bytes := by
      unfold embeddedAddress
      simp only [List.mem_append]
      exact .inr (.inr (.inr (.inr hc)))
    simp [(hplain hmem).1]
  refine ⟨embeddedAddress format bytes, unescape_bare fun hmem => (hplain hmem).2 (by decide), ?_⟩
  unfold imageAt
  simp only [htrimmed, embedded?_embeddedAddress hne hformat, hletters, Base64.decode_encode,
    lowerText_format]
  rfl

end Embedded

/--
**An image that is written out is found exactly if the first source is it.**  Let any
attributes stand in the tag of an image in front of its source and behind it, those in front
with values in which nothing reads as a source.  Then the page is converted to that image
alone, with all its bytes and its type in lower case, exactly if the first attribute in front
whose name ends with that of the source, if there is one, stands for the same image.  So it
always is if no name in front ends with that of the source.
-/
theorem convert_embedded_iff {before after : List Attribute}
    (hbefore : ∀ a ∈ before, a.Sound ∧ ¬ HoldsSource a.value) (hafter : ∀ a ∈ after, a.Sound)
    {format : List Char} (hne : format ≠ []) (hformat : ∀ c ∈ format, isFormatChar c = true)
    (bytes : List UInt8) {cap : Cap} (hcap : cap.Allows 1) :
    (convert cap (imagePage (before ++ embeddedSource format bytes :: after))).run.value
        = .ok ⟨[embeddedImage format bytes], false⟩ ↔
      ∀ a, before.find? (fun a => NamesSource a.name) = some a →
        StandsFor a.value (embeddedImage format bytes) := by
  have hsource : (embeddedSource format bytes).Sound := sound_embeddedSource hformat
  have hsound : ∀ a ∈ before ++ embeddedSource format bytes :: after, a.Sound := by
    intro a ha
    rcases List.mem_append.mp ha with ha | ha
    · exact (hbefore a ha).1
    · exact (List.forall_mem_cons.mpr ⟨hsource, hafter⟩) a ha
  rw [convert_imagePage_iff hsound hcap]
  cases hfind : before.find? (fun a => NamesSource a.name) with
  | none =>
      have hlead : ∀ a ∈ before, a.Sound ∧ a.Apart := by
        intro a ha
        have hname := List.find?_eq_none.mp hfind a ha
        exact ⟨(hbefore a ha).1, by simpa using hname, (hbefore a ha).2⟩
      have hnames : NamesSource (embeddedSource format bytes).name := ⟨[], sourceName, rfl, rfl, rfl⟩
      rw [imageNode_iff (source?_imagePage hlead hsource hnames)]
      exact iff_of_true (standsFor_embedded hne hformat) nofun
  | some a =>
      obtain ⟨hnames, lead, more, rfl, hlead⟩ := List.find?_eq_some_iff_append.mp hfind
      rw [decide_eq_true_eq] at hnames
      have happart : ∀ x ∈ lead, x.Sound ∧ x.Apart := by
        intro x hx
        obtain ⟨hx', hvalue⟩ := hbefore x (List.mem_append_left _ hx)
        exact ⟨hx', by simpa using hlead x hx, hvalue⟩
      have ha : a.Sound := (hbefore a (by simp)).1
      rw [List.append_assoc, List.cons_append,
        imageNode_iff (source?_imagePage happart ha hnames)]
      simp

/-- Without a sign no value reads as a source. -/
theorem not_holdsSource {value : List Char} (h : '=' ∉ value) : ¬ HoldsSource value := by
  rintro ⟨front, word, after, more, rfl, -, -, hsign, -⟩
  refine h (List.mem_append_right _ (List.mem_append_right _ ?_))
  exact (List.dropWhile_suffix isBlank).mem (by rw [hsign]; exact List.mem_cons_self)

/-- An attribute that speaks of the source, and one that has a name of two words. -/
def logoAttributes : List Attribute :=
  [⟨"alt".toList, "logo; see src".toList⟩, ⟨"src-set".toList, "none".toList⟩]

theorem logoAttributes_embedded :
    (∀ a ∈ logoAttributes, a.Sound ∧ ¬ HoldsSource a.value) ∧ Cap.standard.Allows 1 ∧
      imagePage (logoAttributes ++ embeddedSource "PNG".toList [1, 2, 255] :: logoAttributes)
        = ("<img alt=\"logo; see src\" src-set=\"none\" src=\"data:image/PNG;base64,AQL/\""
          ++ " alt=\"logo; see src\" src-set=\"none\">").toList ∧
      (convert Cap.standard (imagePage (logoAttributes
          ++ embeddedSource "PNG".toList [1, 2, 255] :: logoAttributes))).run.value
        = .ok ⟨[.image [1, 2, 255] "image/png"], false⟩ := by
  have hattributes : ∀ a ∈ logoAttributes, a.Sound ∧ ¬ HoldsSource a.value := by
    refine List.forall_mem_cons.mpr ⟨⟨by decide, not_holdsSource (by decide)⟩, ?_⟩
    exact List.forall_mem_singleton.mpr ⟨by decide, not_holdsSource (by decide)⟩
  have hcap : Cap.standard.Allows 1 := Cap.allows_standard (by decide)
  have hformat : ∀ c ∈ "PNG".toList, isFormatChar c = true :=
    List.all_eq_true.mp (by decide)
  have hnone : logoAttributes.find? (fun a => NamesSource a.name) = none := by decide
  have himage : embeddedImage "PNG".toList [1, 2, 255] = .image [1, 2, 255] "image/png" := by
    decide
  have hconvert := convert_embedded_iff hattributes (fun a ha => (hattributes a ha).1)
    (by decide : "PNG".toList ≠ []) hformat [1, 2, 255] hcap
  rw [himage] at hconvert
  exact ⟨hattributes, hcap, by decide +kernel, hconvert.mpr (by simp [hnone])⟩

/-- An attribute whose name ends with that of the source. -/
def lazyAttributes : List Attribute := [⟨"data-src".toList, "x".toList⟩]

/-- An image that is written out may be lost by an attribute of another name. -/
theorem lazyAttributes_lost :
    (∀ a ∈ lazyAttributes, a.Sound ∧ a.name ≠ sourceName) ∧
      imagePage (lazyAttributes ++ embeddedSource "png".toList [0] :: [])
        = "<img data-src=\"x\" src=\"data:image/png;base64,AA==\">".toList ∧
      (convert Cap.standard
          (imagePage (lazyAttributes ++ embeddedSource "png".toList [0] :: []))).run.value
        = .ok ⟨[.paragraph "[Image]" false], false⟩ ∧
      embeddedImage "png".toList [0] = .image [0] "image/png" := by
  have hlazy : (⟨"data-src".toList, "x".toList⟩ : Attribute).Sound := by decide
  have hnames : NamesSource "data-src".toList := by decide
  have hsource : (embeddedSource "png".toList [0]).Sound :=
    sound_embeddedSource (List.all_eq_true.mp (by decide))
  have hsound : ∀ a ∈ lazyAttributes ++ embeddedSource "png".toList [0] :: [], a.Sound := by
    simpa [lazyAttributes] using And.intro hlazy hsource
  have hstands : StandsFor "x".toList (.paragraph "[Image]" false) :=
    ⟨"x".toList, unescape_bare (by decide), rfl⟩
  refine ⟨by simpa [lazyAttributes] using And.intro hlazy (by decide), by decide, ?_,
    by decide⟩
  have hfound : source? false (imagePage ([] ++ ⟨"data-src".toList, "x".toList⟩
      :: [embeddedSource "png".toList [0]])) = some "x".toList :=
    source?_imagePage (by simp) hlazy hnames
  rw [convert_imagePage_iff hsound (Cap.allows_standard (by decide))]
  exact (imageNode_iff hfound).mpr hstands

end Paperwork
