/-
The scaffold of a page.

What a page is divided into is told by the tags of its regions and of what stands in these.
Text says nothing of it, and neither do the tags that wrap text: none of them passes for a tag
of a region, a row, a cell or an item.  So two pages in which the same tags are left when all
that is taken away are divided alike: the same tags open and close the same things, and only
what is written in these may differ.
-/
import Paperwork.Proofs.Document.Conservation
import Paperwork.Proofs.Html.Names

namespace Paperwork

open Paperwork.Text
open Paperwork.Html

/-! ### Tags that wrap text -/

/-- Whether a tag opens or closes a paragraph or a division, or breaks the line. -/
def isWrapping (inner : List Char) : Bool :=
  (opens stopNames inner).isSome || wrapperNames.any fun name => closes caseFree name inner

theorem tagOf_of_isWrapping {inner : List Char} (h : isWrapping inner = true) :
    TagOf stopNames inner := by
  rw [isWrapping, Bool.or_eq_true, List.any_eq_true] at h
  rcases h with hopens | ⟨name, hname, hcloses⟩
  · exact .opening hopens
  · exact .of_closes (fun _ _ h => h) (List.mem_append_left _ hname) rfl hcloses

/-- Names that are apart from those of wrappers are not opened by a tag that wraps text. -/
theorem not_opens_of_isWrapping {names : List (List Char)} (happart : NamesApart stopNames names)
    (hnames : ∀ n ∈ names, n ≠ [] ∧ '/' ∉ n) {inner : List Char} (h : isWrapping inner = true) :
    opens names inner = none := (tagOf_of_isWrapping h).not_opens happart hnames

theorem not_closes_of_isWrapping {key : Char → Char}
    (hkey : ∀ c d, key c = key d → caseFree c = caseFree d) {name : List Char}
    (happart : NamesApart stopNames [name]) {inner : List Char} (h : isWrapping inner = true) :
    wholeTag (closes key name) inner = none := by
  rw [wholeTag, (tagOf_of_isWrapping h).not_closes happart (by decide) hkey]
  rfl

/-- Names are apart whatever the case of their letters. -/
theorem Html.NamesApart.congr {names : List (List Char)} {n name : List Char}
    (h : NamesApart names [n]) (hname : name.map caseFree = n.map caseFree) :
    NamesApart names [name] := by
  intro m hm other hother
  obtain rfl := List.mem_singleton.mp hother
  obtain ⟨hmn, hnm⟩ := h m hm n (List.mem_singleton.mpr rfl)
  unfold BeginsWith at *
  rw [hname]
  exact ⟨hmn, hnm⟩

/-! ### Scaffolds -/

/-- A part that says nothing of how a page is divided: text, or a tag that wraps text. -/
def Html.Token.isFill : Token → Bool
  | .char _ => true
  | .tag inner => isWrapping inner

/-- The tags of a page that do not wrap text. -/
def scaffold (ts : List Token) : List Token := ts.filter fun t => !t.isFill

theorem scaffold_char (c : Char) (ts : List Token) : scaffold (.char c :: ts) = scaffold ts := rfl

theorem scaffold_append (a b : List Token) : scaffold (a ++ b) = scaffold a ++ scaffold b :=
  List.filter_append a b

/-- The blanks around a page are no part of its scaffold. -/
theorem scaffold_trimmedTokens (ts : List Token) : scaffold (trimmedTokens ts) = scaffold ts := by
  have hfill : ∀ blanks : List Token, (∀ t ∈ blanks, t.isBlank = true) → scaffold blanks = [] := by
    intro blanks hblanks
    rw [scaffold, List.filter_eq_nil_iff]
    intro t ht
    cases t with
    | char c => simp [Token.isFill]
    | tag inner => exact absurd (hblanks _ ht) (by simp [Token.isBlank])
  conv_rhs => rw [← List.takeWhile_append_dropWhile (p := Token.isBlank) (l := ts),
    ← List.rdropWhile_append_rtakeWhile (p := Token.isBlank) (l := ts.dropWhile Token.isBlank)]
  rw [scaffold_append, scaffold_append, hfill _ fun t ht => List.mem_takeWhile_imp ht,
    hfill _ fun t ht => List.mem_rtakeWhile_imp ht, List.nil_append, List.append_nil, trimmedTokens]

theorem scaffold_tag {inner : List Char} (h : isWrapping inner = false) (ts : List Token) :
    scaffold (.tag inner :: ts) = .tag inner :: scaffold ts :=
  List.filter_cons_of_pos (by simp [Token.isFill, h])

theorem scaffold_wrapping {inner : List Char} (h : isWrapping inner = true) (ts : List Token) :
    scaffold (.tag inner :: ts) = scaffold ts :=
  List.filter_cons_of_neg (by simp [Token.isFill, h])

/-- Whatever is not asked of tags that wrap text is found in the scaffold of a page. -/
theorem firstTag_scaffold {β : Type} {inside : List Char → Option β}
    (hinside : ∀ inner, isWrapping inner = true → inside inner = none) (ts : List Token) :
    firstTag inside (scaffold ts) = (firstTag inside ts).map
      fun (before, b, after) => (scaffold before, b, scaffold after) := by
  induction ts with
  | nil => rfl
  | cons t ts ih =>
      cases t with
      | char c =>
          rw [scaffold_char, firstTag, ih, Option.map_map]
          rfl
      | tag inner =>
          by_cases hwrapping : isWrapping inner = true
          · rw [scaffold_wrapping hwrapping, firstTag, hinside inner hwrapping, ih]
            simp only [Option.map_map]
            congr 1
            funext found
            simp [scaffold_wrapping hwrapping]
          · rw [Bool.not_eq_true] at hwrapping
            rw [scaffold_tag hwrapping, firstTag, firstTag, ih]
            cases inside inner with
            | some b => rfl
            | none =>
                simp only [Option.map_map]
                congr 1
                funext found
                simp [scaffold_tag hwrapping]

/-- Two pages of sound parts have one scaffold. -/
structure SameScaffold (ts others : List Token) : Prop where
  left : Sound ts
  right : Sound others
  same : scaffold ts = scaffold others

namespace SameScaffold

variable {ts others : List Token}

/-- What is found in one of the pages is found in the other, with the same scaffolds before it
and behind it. -/
theorem cases_firstTag {β : Type} {inside : List Char → Option β} (h : SameScaffold ts others)
    (hinside : ∀ inner, isWrapping inner = true → inside inner = none) :
    (firstTag inside ts = none ∧ firstTag inside others = none) ∨
      ∃ b before after front back, firstTag inside ts = some (before, b, after) ∧
        firstTag inside others = some (front, b, back) ∧
        SameScaffold before front ∧ SameScaffold after back := by
  have hts := firstTag_scaffold hinside ts
  rw [h.same, firstTag_scaffold hinside others] at hts
  cases hfirst : firstTag inside ts with
  | none =>
      rw [hfirst, Option.map_none, Option.map_eq_none_iff] at hts
      exact .inl ⟨rfl, hts⟩
  | some found =>
      obtain ⟨before, b, after⟩ := found
      rw [hfirst, Option.map_some] at hts
      obtain ⟨⟨front, c, back⟩, hother, heq⟩ := Option.map_eq_some_iff.mp hts
      obtain ⟨hbefore, rfl, hafter⟩ := by simpa using heq
      obtain ⟨inner, rfl, -⟩ := firstTag_eq_some hfirst
      obtain ⟨inner', rfl, -⟩ := firstTag_eq_some hother
      have hleft := h.left
      have hright := h.right
      rw [sound_append, sound_cons] at hleft hright
      exact .inr ⟨c, before, after, front, back, rfl, hother, ⟨hleft.1, hright.1, hbefore.symm⟩,
        ⟨hleft.2.2, hright.2.2, hafter.symm⟩⟩

/-- A tag of some names that opens first in one of the pages opens first in the other. -/
theorem cases_opens {names : List (List Char)} (h : SameScaffold ts others)
    (hnames : ∀ inner, isWrapping inner = true → opens names inner = none) :
    (NoTag (opens names) ts ∧ NoTag (opens names) others) ∨
      ∃ inner name attributes before after front back, ts = before ++ .tag inner :: after ∧
        others = front ++ .tag inner :: back ∧ opens names inner = some (name, attributes) ∧
        NoTag (opens names) before ∧ NoTag (opens names) front ∧ SameScaffold after back := by
  rcases h.cases_firstTag hnames with ⟨hleft, hright⟩ | hfound
  · exact .inl ⟨firstTag_eq_none.mp hleft, firstTag_eq_none.mp hright⟩
  · obtain ⟨⟨name, attributes⟩, before, after, front, back, hfirst, hother, -, hbehind⟩ := hfound
    have hbefore := firstTag_before hfirst
    have hfront := firstTag_before hother
    obtain ⟨inner, rfl, hopens⟩ := firstTag_eq_some hfirst
    obtain ⟨inner', rfl, hopens'⟩ := firstTag_eq_some hother
    -- the tag is the same in both pages, as it is its name and its attributes
    obtain rfl : inner = inner' := (opens_eq_some hopens).trans (opens_eq_some hopens').symm
    exact .inr ⟨inner, name, attributes, before, after, front, back, rfl, rfl, hopens, hbefore,
      hfront, hbehind⟩

end SameScaffold

/-! ### What is built alike -/

/-- Two texts are written with one scaffold. -/
def BuiltAlike (cs ds : List Char) : Prop :=
  ∃ ts others, cs = writeTokens ts ∧ ds = writeTokens others ∧ SameScaffold ts others

/-- Two elements have one name, and their contents are built alike. -/
structure ElementsAlike (e f : Element) : Prop where
  name : e.opening.name = f.opening.name
  content : BuiltAlike e.content f.content

/-- Elements of some names, each ended as `closed` tells, that tags which wrap text neither
open nor close. -/
structure Unwrapping (key : Char → Char) (names : List (List Char))
    (closed : Opening → List Char) : Prop where
  noBracket : ∀ n ∈ names, '>' ∉ n
  opens : ∀ inner, isWrapping inner = true → Html.opens names inner = none
  closes : ∀ inner name attributes, '>' ∉ inner →
    Html.opens names inner = some (name, attributes) → ∃ n, IsName key n ∧
      (∀ rest, closed ⟨name, attributes, rest⟩ = n) ∧
      ∀ other, isWrapping other = true → wholeTag (Html.closes key n) other = none

section Elements

variable {key : Char → Char} {names : List (List Char)} {closed : Opening → List Char}
  {inner name attributes n : List Char}

/-- A tag that is not closed is passed over. -/
theorem matchesIn_of_unclosed (hnames : ∀ n ∈ names, '>' ∉ n) (hinner : (Token.tag inner).Sound)
    (hopens : opens names inner = some (name, attributes)) (hname : IsName key n)
    (hclosed : ∀ rest, closed ⟨name, attributes, rest⟩ = n) {ts : List Token} (hts : Sound ts)
    (hnone : firstTag (wholeTag (closes key n)) ts = none) :
    matchesIn (elements key names closed) (writeTokens (.tag inner :: ts))
      = matchesIn (elements key names closed) (writeTokens ts) := by
  have hat : elements key names closed (writeTokens (.tag inner :: ts)) = none := by
    rw [elements_of_opens hnames hinner hopens hts (by rwa [hclosed]), hclosed, hnone]
    rfl
  exact matchesIn_elements_of_none hnames hinner hat

/-- A tag that is closed begins an element. -/
theorem exists_match_of_closed (hnames : ∀ n ∈ names, '>' ∉ n) (hinner : (Token.tag inner).Sound)
    (hopens : opens names inner = some (name, attributes)) (hname : IsName key n)
    (hclosed : ∀ rest, closed ⟨name, attributes, rest⟩ = n) {ts body rest : List Token}
    (hts : Sound ts) {length : Nat}
    (hfirst : firstTag (wholeTag (closes key n)) ts = some (body, length, rest)) :
    ∃ e : Element, e.opening.name = name ∧ e.content = writeTokens body ∧
      matchesIn (elements key names closed) (writeTokens (.tag inner :: ts))
        = e :: matchesIn (elements key names closed) (writeTokens rest) := by
  obtain ⟨close, rfl, -, rfl⟩ := firstTag_wholeTag hfirst
  rw [← hclosed (writeTokens (body ++ .tag close :: rest))] at hname hfirst
  obtain ⟨e, hopening, hcontent, hmatches⟩ :=
    matchesIn_elements_of_opens hnames hinner hopens hts hname hfirst
  exact ⟨e, by rw [hopening], hcontent, hmatches⟩

/-- **The same elements are found in pages of one scaffold.** -/
theorem SameScaffold.elements_alike (hnames : Unwrapping key names closed) {ts others : List Token}
    (h : SameScaffold ts others) :
    List.Forall₂ ElementsAlike (matchesIn (elements key names closed) (writeTokens ts))
      (matchesIn (elements key names closed) (writeTokens others)) := by
  induction hn : ts.length using Nat.strong_induction_on generalizing ts others with
  | _ n ih =>
      subst hn
      have hbrackets := hnames.noBracket
      rcases h.cases_opens hnames.opens with ⟨hleft, hright⟩ | hfound
      · rw [← List.append_nil ts, ← List.append_nil others,
          matchesIn_elements_append hbrackets h.left hleft,
          matchesIn_elements_append hbrackets h.right hright]
        exact .nil
      · obtain ⟨inner, name, attributes, before, after, front, back, rfl, rfl, hopens, hnone,
          hnone', hbehind⟩ := hfound
        obtain ⟨hbefore, hinner, -⟩ := by simpa using h.left
        obtain ⟨hfront, -, -⟩ := by simpa using h.right
        obtain ⟨n, hname, hclosed, hwrapping⟩ :=
          hnames.closes inner name attributes hinner.2.2 hopens
        rw [matchesIn_elements_append hbrackets hbefore hnone,
          matchesIn_elements_append hbrackets hfront hnone']
        rcases hbehind.cases_firstTag hwrapping with ⟨hleft, hright⟩ | hfound
        · rw [matchesIn_of_unclosed hbrackets hinner hopens hname hclosed hbehind.left hleft,
            matchesIn_of_unclosed hbrackets hinner hopens hname hclosed hbehind.right hright]
          exact ih after.length (by simp; omega) hbehind rfl
        · obtain ⟨length, body, rest, body', rest', hbody, hbody', hcontent, hrest⟩ := hfound
          obtain ⟨e, hename, hecontent, hematches⟩ :=
            exists_match_of_closed hbrackets hinner hopens hname hclosed hbehind.left hbody
          obtain ⟨f, hfname, hfcontent, hfmatches⟩ :=
            exists_match_of_closed hbrackets hinner hopens hname hclosed hbehind.right hbody'
          obtain ⟨close, rfl, -, -⟩ := firstTag_wholeTag hbody
          rw [hematches, hfmatches]
          refine .cons ⟨hename.trans hfname.symm, body, body', hecontent, hfcontent, hcontent⟩ ?_
          exact ih rest.length (by simp; omega) hrest rfl

end Elements

/-- Elements of a name that is apart from those of wrappers. -/
theorem unwrapping_named {name : List Char} (happart : NamesApart stopNames [name])
    (hname : name ≠ [] ∧ '/' ∉ name ∧ '>' ∉ name) :
    Unwrapping caseFree [name] fun _ => name where
  noBracket _ hn := List.mem_singleton.mp hn ▸ hname.2.2
  opens _ := not_opens_of_isWrapping happart fun _ hn =>
    List.mem_singleton.mp hn ▸ ⟨hname.1, hname.2.1⟩
  closes _ _ _ _ _ := ⟨name, isName_caseFree hname.2.2, fun _ => rfl,
    fun _ => not_closes_of_isWrapping (fun _ _ h => h) happart⟩

/-- Cells, which are closed by the name that opens them. -/
theorem unwrapping_cells : Unwrapping fold cellNames Opening.name where
  noBracket := by decide
  opens _ := not_opens_of_isWrapping (by decide) (by decide)
  closes inner name attributes hinner hopens := by
    have hbracket : '>' ∉ name := fun hmem => hinner (by simp [opens_eq_some hopens, hmem])
    obtain ⟨n, hn, hkeys⟩ := opens_name hopens
    have happart : ∀ n ∈ cellNames, NamesApart stopNames [n] := by decide
    exact ⟨name, isName_fold hbracket, fun _ => rfl, fun _ =>
      not_closes_of_isWrapping (fun _ _ => caseFree_of_fold) ((happart n hn).congr hkeys)⟩

/-! ### Rows and items -/

/-- The same thing stands in two documents, its text aside. -/
def Node.Alike : Node → Node → Prop
  | .heading _ level, .heading _ level' => level = level'
  | .paragraph _ _, .paragraph _ _ => True
  | .listItem _ ordered index, .listItem _ ordered' index' => ordered = ordered' ∧ index = index'
  | .table rows, .table rows' =>
    List.Forall₂ (List.Forall₂ fun cell cell' : Cell => cell.header = cell'.header) rows rows'
  | .image data mimeType, .image data' mimeType' => data = data' ∧ mimeType = mimeType'
  | _, _ => False

theorem Node.Alike.refl (node : Node) : node.Alike node := by
  cases node with
  | table rows =>
      exact List.forall₂_same.mpr fun row _ => List.forall₂_same.mpr fun cell _ => rfl
  | paragraph text bold => trivial
  | heading text level => rfl
  | listItem text ordered index => exact ⟨rfl, rfl⟩
  | image data mimeType => exact ⟨rfl, rfl⟩

namespace BuiltAlike

variable {cs ds : List Char}

/-- The text of what is written is always found. -/
theorem agree_inlineText (h : BuiltAlike cs ds) :
    Agree (fun _ _ => True) (inlineText cs) (inlineText ds) := by
  obtain ⟨ts, others, rfl, rfl, hsame⟩ := h
  rw [inlineText_writeTokens hsame.left, inlineText_writeTokens hsame.right]
  exact .answers trivial

theorem agree_rowCells (h : BuiltAlike cs ds) :
    Agree (List.Forall₂ fun cell cell' : Cell => cell.header = cell'.header) (rowCells cs)
      (rowCells ds) := by
  obtain ⟨ts, others, rfl, rfl, hsame⟩ := h
  refine Agree.mapM (fun e f hef => ?_) (hsame.elements_alike unwrapping_cells)
  refine hef.content.agree_inlineText.bind fun _ _ _ => .answers ?_
  show isHeader e = isHeader f
  rw [isHeader, isHeader, hef.name]

/-- **Tables that are built alike have the same rows of the same cells.** -/
theorem agree_tableNode (h : BuiltAlike cs ds) :
    Agree Node.Alike (tableNode cs) (tableNode ds) := by
  obtain ⟨ts, others, rfl, rfl, hsame⟩ := h
  have hnames : Unwrapping caseFree [['t', 'r']] fun _ => ['t', 'r'] :=
    unwrapping_named (by decide) (by decide)
  refine (Agree.mapM (fun e f hef => hef.content.agree_rowCells) (hsame.elements_alike hnames)).bind
    fun rows rows' hrows => .answers ?_
  refine List.rel_filter ?_ hrows
  intro row row' hrow
  cases hrow with
  | nil => exact Iff.rfl
  | cons _ _ => exact Iff.rfl

end BuiltAlike

/-- Whether a part is a tag of a kind. -/
def Html.Token.isTagOf (kind : List Char → Bool) : Token → Bool
  | .char _ => false
  | .tag inner => kind inner

/-- A pattern that takes single tags takes each tag of its kind. -/
theorem Html.ReadsTags.length_matchesIn {p : Pattern Unit} {kind : List Char → Bool}
    (hp : ReadsTags p (wholeTag kind) fun length _ => ((), length)) {ts : List Token}
    (hts : Sound ts) :
    (matchesIn p (writeTokens ts)).length = ts.countP (Token.isTagOf kind) := by
  rw [matchesIn, hp.pieces_writeTokens hts]
  clear hts
  induction ts with
  | nil => rfl
  | cons t ts ih =>
      rw [List.flatMap_cons, List.filterMap_append, List.length_append, ih, List.countP_cons]
      cases t with
      | char c => simp [Token.pieces, Token.isTagOf, List.filterMap_map]
      | tag inner =>
          by_cases hkind : kind inner = true
          · simp [Token.pieces, Token.isTagOf, hkind, Nat.add_comm]
          · simp [Token.pieces, Token.isTagOf, hkind, List.filterMap_map]

theorem countP_scaffold {kind : List Char → Bool}
    (hkind : ∀ inner, isWrapping inner = true → kind inner = false) (ts : List Token) :
    (scaffold ts).countP (Token.isTagOf kind) = ts.countP (Token.isTagOf kind) := by
  rw [scaffold, List.countP_filter]
  refine List.countP_congr fun t _ => ?_
  cases t with
  | char c => simp [Token.isTagOf]
  | tag inner =>
      have hfill : kind inner = true → isWrapping inner = false := by
        intro h
        by_contra hwrapping
        rw [Bool.not_eq_false] at hwrapping
        exact absurd h (by simp [hkind inner hwrapping])
      simpa [Token.isTagOf, Token.isFill] using hfill

/-- Lists of one scaffold have as many items, closed or not. -/
theorem SameScaffold.length_itemBodies {ts others : List Token} (h : SameScaffold ts others) :
    (itemBodies (writeTokens ts)).length = (itemBodies (writeTokens others)).length := by
  have hnames : Unwrapping caseFree [itemName] fun _ => itemName :=
    unwrapping_named (by decide) (by decide)
  have hopenings : (matchesIn itemOpening (writeTokens ts)).length
      = (matchesIn itemOpening (writeTokens others)).length := by
    have hkind : ∀ inner, isWrapping inner = true → (opens [itemName] inner).isSome = false := by
      intro inner hwrapping
      rw [hnames.opens inner hwrapping]
      rfl
    rw [readsTags_itemOpening.length_matchesIn h.left,
      readsTags_itemOpening.length_matchesIn h.right,
      ← countP_scaffold hkind ts, h.same, countP_scaffold hkind others]
  have hitems := h.elements_alike hnames
  unfold itemBodies
  rw [elementNamed_eq]
  revert hitems
  generalize matchesIn (elements caseFree [itemName] fun _ => itemName) (writeTokens ts) = items
  generalize matchesIn (elements caseFree [itemName] fun _ => itemName) (writeTokens others)
    = items'
  intro hitems
  cases hitems with
  | nil => simp only [List.length_drop, length_between, hopenings]
  | cons _ hmore => simp [hmore.length_eq]

/-- The items of a list, numbered from one, are told apart by their number only. -/
theorem items_alike (ordered : Bool) {texts others : List String}
    (h : List.Forall₂ (fun _ _ => True) texts others) (start : Nat) :
    List.Forall₂ Node.Alike
      ((texts.zipIdx start).map fun (text, i) => .listItem text ordered (i + 1))
      ((others.zipIdx start).map fun (text, i) => .listItem text ordered (i + 1)) := by
  induction h generalizing start with
  | nil => exact .nil
  | cons _ _ ih => exact .cons ⟨rfl, rfl⟩ (ih (start + 1))

/-- **Lists that are built alike have as many items.** -/
theorem BuiltAlike.agree_listNodes {cs ds : List Char} (h : BuiltAlike cs ds) (ordered : Bool) :
    Agree (List.Forall₂ Node.Alike) (listNodes ordered cs) (listNodes ordered ds) := by
  obtain ⟨ts, others, rfl, rfl, hsame⟩ := h
  have hread : ∀ {ts : List Token}, Sound ts → ∀ body ∈ itemBodies (writeTokens ts),
      ∃ text, inlineText body = .ok text := by
    intro ts hts body hbody
    obtain ⟨bodies, hbodies, hsub⟩ := exists_itemBodies hts
    rw [hbodies] at hbody
    obtain ⟨part, hpart, rfl⟩ := List.mem_map.mp hbody
    have hsound : Sound part :=
      hts.sublist ((List.sublist_flatten_of_mem hpart).trans hsub)
    exact ⟨_, inlineText_writeTokens hsound⟩
  have hbodies : List.Forall₂ (fun c d => (∃ text, inlineText c = .ok text) ∧
      ∃ text, inlineText d = .ok text) (itemBodies (writeTokens ts))
      (itemBodies (writeTokens others)) := by
    rw [List.forall₂_iff_get]
    exact ⟨hsame.length_itemBodies, fun i hi hi' => ⟨hread hsame.left _ (List.get_mem _ _),
      hread hsame.right _ (List.get_mem _ _)⟩⟩
  have htexts : Agree (List.Forall₂ fun _ _ => True) ((itemBodies (writeTokens ts)).mapM inlineText)
      ((itemBodies (writeTokens others)).mapM inlineText) := by
    refine Agree.mapM ?_ hbodies
    rintro c d ⟨⟨text, hc⟩, text', hd⟩
    rw [hc, hd]
    exact .answers trivial
  exact htexts.bind fun texts texts' h => .answers (items_alike ordered h 0)

end Paperwork
