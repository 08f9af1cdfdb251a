/-
The text of a written page.

Extracting text drops the tags of a page, with a line feed for those that break the
line, and reads references last.  Of a page made of escaped characters and complete
tags nothing else remains but the characters, as they were before they were escaped.
-/
import Paperwork.Proofs.Html.Tag
import Paperwork.Proofs.Text.Lines

namespace Paperwork.Html

open Paperwork.Text

/-! ### Replacing tags -/

/-- What replacing tags of a kind makes of a part. -/
def Token.replacedBy (kind : List Char → Bool) (filling : List Char) : Token → List Char
  | char c => escapeChar c
  | tag inner => if kind inner then filling else (tag inner).write

theorem ReadsTags.replaced_writeTokens {p : Pattern Unit} {kind : List Char → Bool}
    (hp : ReadsTags p (wholeTag kind) fun length _ => ((), length)) (filling : List Char)
    {ts : List Token} (hts : Sound ts) :
    replaced p (fun _ => filling) (writeTokens ts)
      = ts.flatMap (Token.replacedBy kind filling) := by
  rw [replaced, hp.pieces_writeTokens hts, List.flatMap_assoc]
  congr 1
  funext t
  cases t with
  | char c => simp [Token.pieces, Token.replacedBy, List.flatMap_map]
  | tag inner =>
      by_cases hkind : kind inner = true
      · simp [Token.pieces, Token.replacedBy, hkind]
      · simp [Token.pieces, Token.replacedBy, hkind, List.flatMap_map]

/-! ### Tags that break the line, and all tags -/

/-- Whether a tag breaks the line. -/
def breaksLine (inner : List Char) : Bool :=
  (opens [breakName] inner).isSome || blockNames.any fun name => closes caseFree name inner

private theorem findSome?_closing {key : Char → Char} {names : List (List Char)}
    (h : ∀ n ∈ names, IsName key n) {inner : List Char} (hinner : '>' ∉ inner)
    (rest : List Char) :
    names.findSome? (fun name => closingLength? key name ('<' :: (inner ++ '>' :: rest)))
      = wholeTag (fun i => names.any fun name => closes key name i) inner := by
  induction names with
  | nil => rfl
  | cons n names ih =>
      rw [List.findSome?_cons, (readsTags_closing (h n (by simp))).atTag inner rest hinner,
        ih fun m hm => h m (by simp [hm])]
      by_cases hn : closes key n inner = true
      · simp [wholeTag, hn]
      · simp [wholeTag, hn]

theorem readsTags_lineBreak :
    ReadsTags lineBreak (wholeTag breaksLine) fun length _ => ((), length) where
  onlyAtTags cs hcs := by
    have hbreak : opening? [breakName] cs = none :=
      (readsTags_opening (by decide)).onlyAtTags cs hcs
    have hblocks : blockNames.findSome? (fun name => closingLength? caseFree name cs) = none := by
      rw [List.findSome?_eq_none_iff]
      intro name hname
      have hbracket : '>' ∉ name := by
        revert name
        decide
      exact (readsTags_closing (isName_caseFree hbracket)).onlyAtTags cs hcs
    simp [lineBreak, hbreak, hblocks]
  atTag inner rest hinner := by
    unfold lineBreak
    have hbreaks : ∀ n ∈ [breakName], '>' ∉ n := by decide
    rw [(readsTags_opening hbreaks).atTag inner rest hinner]
    have hnames : ∀ n ∈ blockNames, IsName caseFree n := by
      intro n hn
      have hbracket : '>' ∉ n := by
        revert n
        decide
      exact isName_caseFree hbracket
    cases hbreak : opens [breakName] inner with
    | some na =>
        simp [wholeTag, breaksLine, hbreak, Opening.length_of_opens hbreak]
    | none =>
        simp [findSome?_closing hnames hinner, wholeTag, breaksLine, hbreak]

theorem readsTags_anyTag :
    ReadsTags anyTag (wholeTag fun inner => !inner.isEmpty) fun length _ => ((), length) where
  onlyAtTags cs hcs := by
    unfold anyTag
    split
    · simp at hcs
    · rfl
  atTag inner rest hinner := by
    simp only [anyTag, upTo?_append hinner]
    cases inner <;> simp [wholeTag, Token.write]

/-- A tag leaves nothing when all tags are dropped. -/
theorem replaced_anyTag_tag {inner : List Char} (h : (Token.tag inner).Sound) (rest : List Char) :
    replaced anyTag (fun _ => []) ((Token.tag inner).write ++ rest)
      = replaced anyTag (fun _ => []) rest := by
  have hne : (!inner.isEmpty) = true := by simpa using h.1
  rw [replaced, readsTags_anyTag.pieces_write h, Token.pieces, if_pos hne]
  rfl

/-! ### What remains -/

theorem withoutTags_plain {cs : List Char} (h : '<' ∉ cs) : withoutTags cs = cs := by
  rw [withoutTags, readsTags_lineBreak.onlyAtTags.replaced_plain _ h,
    readsTags_anyTag.onlyAtTags.replaced_plain _ h]


/-- The text that a part leaves. -/
def Token.text : Token → List Char
  | char c => [c]
  | tag inner => if breaksLine inner then ['\n'] else []

/-- The text that the parts of a page leave. -/
def textOf (ts : List Token) : List Char := ts.flatMap Token.text

@[simp] theorem textOf_nil : textOf [] = [] := rfl

@[simp] theorem textOf_cons (t : Token) (ts : List Token) :
    textOf (t :: ts) = t.text ++ textOf ts := rfl

@[simp] theorem textOf_append (a b : List Token) : textOf (a ++ b) = textOf a ++ textOf b :=
  List.flatMap_append

@[simp] theorem textOf_chars (cs : List Char) : textOf (cs.map .char) = cs := by
  simp [textOf, List.flatMap_map, Token.text]

/-- A part in which a tag that breaks the line has become a line feed. -/
private def Token.broken : Token → Token
  | char c => char c
  | tag inner => if breaksLine inner then char '\n' else tag inner

private theorem replaced_lineBreak {ts : List Token} (hts : Sound ts) :
    replaced lineBreak (fun _ => ['\n']) (writeTokens ts)
      = writeTokens (ts.map Token.broken) := by
  rw [readsTags_lineBreak.replaced_writeTokens _ hts, writeTokens, List.flatMap_map]
  refine List.flatMap_congr fun t _ => ?_
  cases t with
  | char c => rfl
  | tag inner =>
      by_cases h : breaksLine inner = true
      · simp [Token.replacedBy, Token.broken, Token.write, h, escapeChar]
      · simp [Token.replacedBy, Token.broken, h]

private theorem sound_broken {ts : List Token} (hts : Sound ts) :
    Sound (ts.map Token.broken) := by
  intro t ht
  obtain ⟨s, hs, rfl⟩ := List.mem_map.mp ht
  cases s with
  | char c => trivial
  | tag inner =>
      by_cases h : breaksLine inner = true
      · simp [Token.broken, h, Token.Sound]
      · simpa [Token.broken, h] using hts _ hs

theorem withoutTags_writeTokens {ts : List Token} (hts : Sound ts) :
    withoutTags (writeTokens ts) = escapeChars (textOf ts) := by
  rw [withoutTags, replaced_lineBreak hts,
    readsTags_anyTag.replaced_writeTokens _ (sound_broken hts), List.flatMap_map]
  unfold textOf escapeChars
  rw [List.flatMap_assoc]
  refine List.flatMap_congr fun t ht => ?_
  cases t with
  | char c => simp [Token.broken, Token.replacedBy, Token.text]
  | tag inner =>
      have hne : inner ≠ [] := (hts _ ht).1
      by_cases h : breaksLine inner = true
      · simp [Token.broken, Token.replacedBy, Token.text, h]
      · simp [Token.broken, Token.replacedBy, Token.text, h, hne]

/-- **The text of a written page is the text of its parts.** -/
theorem content_writeTokens {ts : List Token} (hts : Sound ts) :
    content (writeTokens ts) = .ok (textOf ts) := by
  rw [content, withoutTags_writeTokens hts, unescape_escapeChars]

/-- Text written for HTML is read back, whatever it is. -/
theorem content_escapeChars (cs : List Char) : content (escapeChars cs) = .ok cs := by
  rw [← writeTokens_chars, content_writeTokens (sound_chars cs), textOf_chars]

end Paperwork.Html
