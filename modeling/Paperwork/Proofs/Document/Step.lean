/-
What one step of reading a page does.

There are five things a step can do with the front of a text: take a line break, drop
the opening tag of a wrapper, take a wrapper up to its closing tag, take a region, or
take plain text.  Each is given here with the nodes it makes and the number of
characters it reads.  Whatever holds of every step is a case analysis on these.
-/
import Paperwork.Proofs.Document.Front
import Paperwork.Proofs.Html.Extent

namespace Paperwork

open Paperwork.Text
open Paperwork.Html

/-! ### What reading answers -/

theorem Noted.andThen_assoc {α β γ : Type} (x : Noted α) (f : α → Noted β) (g : β → Noted γ) :
    (x.andThen f).andThen g = x.andThen fun a => (f a).andThen g := by
  simp only [andThen, List.append_assoc]

namespace Reading

variable {α β γ : Type}

theorem pure_bind (a : α) (f : α → Reading β) : pure a >>= f = f a := rfl

theorem bind_assoc (x : Reading α) (f : α → Reading β) (g : β → Reading γ) :
    x >>= f >>= g = x >>= fun a => f a >>= g := by
  show (Noted.andThen (Noted.andThen x _) _ : Noted _) = Noted.andThen x _
  rw [Noted.andThen_assoc]
  congr 1
  funext result
  cases result <;> rfl

theorem answer_ofText {x : Except ReferenceTooLong α} {a : α} :
    (ofText x).answer = .ok a ↔ x = .ok a := by
  cases x with
  | error cause => exact iff_of_false nofun nofun
  | ok b =>
      rw [answer_ofText_ok, Except.ok.injEq, Except.ok.injEq]

end Reading

/-! ### Images -/

/-- The address that an image tag names. -/
def imageAddress (tag : List Char) : Reading (List Char) :=
  match source? false tag with
  | some value => Reading.ofText (unescape value)
  | none => pure []

/-- The image at an address. -/
def imageAt (address : List Char) : Reading Node :=
  match embedded? (trimmed isBlank address) with
  | some (format, letters) =>
    match Base64.decode (words letters).flatten with
    | .ok data => return .image data (String.ofList (lowerText format))
    | .error _ => do
      Reading.note .imageUndecodable
      return .paragraph imagePlaceholder false
  | none => return .paragraph imagePlaceholder false

theorem imageNode_eq (tag : List Char) : imageNode tag = imageAddress tag >>= imageAt := by
  unfold imageNode imageAddress
  cases source? false tag <;> rfl

/-! ### Regions -/

/-- A region that is found begins with an opening tag of its kind, and what it holds and
its closing tag lie in the text behind that. -/
theorem RegionKind.find_eq_some {kind : RegionKind} {cs : List Char} {region : Region}
    (h : (kind.find 0 cs).region = some region) :
    ∃ (tag : Opening) (before rest inner : List Char) (length : Nat),
      cs = before ++ rest ∧ opening? kind.tagNames rest = some tag ∧
      inner.length + length ≤ tag.rest.length ∧
      region = ⟨kind, before.length, before.length + tag.length + inner.length + length,
        tag.name, tag.text, inner⟩ := by
  unfold find at h
  cases hfound : search (opening? kind.tagNames) cs with
  | none => simp [hfound] at h
  | some found =>
      obtain ⟨before, tag⟩ := found
      obtain ⟨rest, rfl, hopening⟩ := search_eq_some hfound
      simp only [hfound, Nat.zero_add] at h
      by_cases himage : kind = .image
      · -- An image ends with its tag, as if nothing closed it right behind.
        subst himage
        refine ⟨tag, before, rest, [], 0, rfl, hopening, Nat.zero_le _, ?_⟩
        exact (Option.some.inj h).symm
      · cases hclosing : upToOwnClosing? tag tag.rest with
        | none => cases kind <;> simp [hclosing] at h himage
        | some closing =>
            obtain ⟨inner, length⟩ := closing
            refine ⟨tag, before, rest, inner, length, rfl, hopening, upToClosing?_le hclosing, ?_⟩
            cases kind <;> simp only [hclosing, Option.some.injEq] at h himage
            case image => exact absurd trivial himage
            all_goals exact h.symm

theorem nextRegion_eq_some {cs : List Char} {region : Region}
    (h : nextRegion cs = some region) :
    ∃ (tag : Opening) (before rest inner : List Char) (length : Nat),
      cs = before ++ rest ∧ opening? region.kind.tagNames rest = some tag ∧
      inner.length + length ≤ tag.rest.length ∧
      region = ⟨region.kind, before.length, before.length + tag.length + inner.length + length,
        tag.name, tag.text, inner⟩ := by
  obtain ⟨kind, -, hfound⟩ := List.mem_filterMap.mp (earliest_mem h)
  obtain ⟨tag, before, rest, inner, length, hcs, hopening, hle, rfl⟩ :=
    RegionKind.find_eq_some hfound
  exact ⟨tag, before, rest, inner, length, hcs, hopening, hle, rfl⟩

/-- The nodes that a region of each kind becomes. -/
inductive Region.Becomes (region : Region) : List Node → Prop
  | table {node : Node} (hkind : region.kind = .table)
      (hnode : tableNode region.inner = .ok node) : region.Becomes [node]
  | heading {text : String} (hkind : region.kind = .heading)
      (htext : inlineText region.inner = .ok text) :
      region.Becomes [.heading text (headingLevelOf region.name)]
  | list {nodes : List Node} (hkind : region.kind = .list)
      (hnodes : listNodes (lowerText region.name == ['o', 'l']) region.inner = .ok nodes) :
      region.Becomes nodes
  | image {address : List Char} {node : Node} (hkind : region.kind = .image)
      (hnode : (imageAt address).answer = .ok node) : region.Becomes [node]

theorem Region.nodes_eq_ok {region : Region} {nodes : List Node}
    (h : region.nodes.answer = .ok nodes) : region.Becomes nodes := by
  unfold Region.nodes at h
  cases hkind : region.kind with
  | table =>
      simp only [hkind, Reading.answer_bind] at h
      obtain ⟨node, hnode, hnodes⟩ := bind_eq_ok.mp h
      obtain rfl := Except.ok.inj hnodes
      exact .table hkind (Reading.answer_ofText.mp hnode)
  | heading =>
      simp only [hkind, Reading.answer_bind] at h
      obtain ⟨text, htext, hnodes⟩ := bind_eq_ok.mp h
      obtain rfl := Except.ok.inj hnodes
      exact .heading hkind (Reading.answer_ofText.mp htext)
  | list =>
      simp only [hkind] at h
      exact .list hkind (Reading.answer_ofText.mp h)
  | image =>
      simp only [hkind, Reading.answer_bind, imageNode_eq] at h
      obtain ⟨node, hnode, hnodes⟩ := bind_eq_ok.mp h
      obtain ⟨address, -, hmade⟩ := bind_eq_ok.mp hnode
      obtain rfl := Except.ok.inj hnodes
      exact .image hkind hmade

/-! ### The steps -/

/-- How far away the next region is, or the end of the text. -/
def distance (cs : List Char) (next : Option Region) : Nat :=
  match next with
  | some region => region.start
  | none => cs.length

/-- The nodes made of what stands at the front of the text `cs`, and the number of
characters read; `next` is the next region. -/
inductive ReadsAs (cs : List Char) (next : Option Region) : List Node → Nat → Prop
  | lineBreak {tag : Opening} (hopening : opening? [breakName] cs = some tag) :
      ReadsAs cs next [.paragraph "" false] tag.length
  | dropped {tag : Opening} (hopening : opening? wrapperNames cs = some tag) :
      ReadsAs cs next [] tag.length
  | wrapped {tag : Opening} {inner : List Char} {length : Nat} {node : Node}
      (hopening : opening? wrapperNames cs = some tag)
      (hclosing : upToOwnClosing? tag (tag.rest.take (distance cs next - tag.length))
        = some (inner, length))
      (hnode : wrapperNode tag inner = .ok node) :
      ReadsAs cs next [node] (tag.length + inner.length + length)
  | region {region : Region} {nodes : List Node} (hnext : next = some region)
      (hfront : region.start = 0) (hnodes : region.nodes.answer = .ok nodes) :
      ReadsAs cs next nodes region.stop
  | plain {nodes : List Node} (hahead : ∀ region, next = some region → 0 < region.start)
      (hnodes : paragraphNodes (cs.take (plainLength (distance cs next) cs)) = .ok nodes) :
      ReadsAs cs next nodes (plainLength (distance cs next) cs)

/-- What is unwrapped is a line break or a wrapper, whole or its opening tag only. -/
theorem ReadsAs.of_unwrap? {cs : List Char} {next : Option Region} {nodes : List Node}
    {length : Nat} (h : unwrap? (distance cs next) cs = .ok (some (nodes, length))) :
    ReadsAs cs next nodes length := by
  unfold unwrap? at h
  cases hbreak : opening? [breakName] cs with
  | some tag =>
      simp only [hbreak, Except.ok.injEq, Option.some.injEq, Prod.mk.injEq] at h
      obtain ⟨rfl, rfl⟩ := h
      exact .lineBreak hbreak
  | none =>
      cases hopening : opening? wrapperNames cs with
      | none => simp [hbreak, hopening] at h
      | some tag =>
          simp only [hbreak, hopening] at h
          cases hwrapped : wrapped? tag (distance cs next - tag.length) with
          | none =>
              simp only [hwrapped, Except.ok.injEq, Option.some.injEq, Prod.mk.injEq] at h
              obtain ⟨rfl, rfl⟩ := h
              exact .dropped hopening
          | some found =>
              obtain ⟨inner, n⟩ := found
              simp only [hwrapped] at h
              obtain ⟨node, hnode, hread⟩ := bind_eq_ok.mp h
              obtain ⟨rfl, rfl⟩ := Prod.mk.inj (Option.some.inj (Except.ok.inj hread))
              obtain ⟨⟨content, m⟩, hclosing, hkept⟩ := Option.bind_eq_some_iff.mp hwrapped
              by_cases hnested : hasWrapper content = true
              · simp [hnested] at hkept
              · simp only [hnested, Bool.false_eq_true, if_false, Option.some.injEq,
                  Prod.mk.injEq] at hkept
                obtain ⟨rfl, rfl⟩ := hkept
                exact .wrapped hopening hclosing hnode

/-- **A step does one of five things.** -/
theorem readFront_eq_ok {cs : List Char} {next : Option Region} {nodes : List Node}
    {length : Nat} (h : (readFront 0 cs next).answer = .ok (nodes, length)) :
    ReadsAs cs next nodes length := by
  have hplain : (∀ region, next = some region → 0 < region.start) →
      (do return (← Reading.ofText (paragraphNodes (cs.take (plainLength (distance cs next) cs))),
        plainLength (distance cs next) cs) : Reading (List Node × Nat)).answer
          = .ok (nodes, length) →
      ReadsAs cs next nodes length := by
    intro hahead hread
    obtain ⟨made, hmade, hread⟩ := bind_eq_ok.mp ((Reading.answer_bind _ _).symm.trans hread)
    obtain ⟨rfl, rfl⟩ := Prod.mk.inj (Except.ok.inj hread)
    exact .plain hahead (Reading.answer_ofText.mp hmade)
  unfold readFront at h
  rw [Reading.answer_bind] at h
  obtain ⟨front, hfront, hread⟩ := bind_eq_ok.mp h
  have hunwrapped : unwrap? (distance cs next) cs = .ok front := by
    cases next <;> exact Reading.answer_ofText.mp hfront
  cases front with
  | some front =>
      obtain rfl := Except.ok.inj hread
      exact .of_unwrap? hunwrapped
  | none =>
      cases next with
      | none => exact hplain (fun region hregion => absurd hregion (by simp)) hread
      | some region =>
          simp only at hread
          by_cases hstart : region.start = 0
          · rw [if_pos hstart, Reading.answer_bind] at hread
            obtain ⟨made, hmade, hread⟩ := bind_eq_ok.mp hread
            obtain ⟨rfl, rfl⟩ := Prod.mk.inj (Except.ok.inj hread)
            exact .region rfl hstart hmade
          · rw [if_neg hstart] at hread
            refine hplain ?_ hread
            intro other hother
            obtain rfl := Option.some.inj hother
            omega

end Paperwork
