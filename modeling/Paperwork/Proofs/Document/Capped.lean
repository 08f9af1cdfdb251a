/-
Reading a page up to a cap.

The steps of reading a text do not depend on how many may be taken: the places they come
to and the nodes they make are the same under every cap.  So a cap cuts what is left off
and changes nothing in front of it.  The first steps under a cap are those that `Reached`
knows; either they have come to the end of the text, and then a larger cap is of no use,
or the place they have come to tells what is kept as plain paragraphs.
-/
import Paperwork.Proofs.Document.Advance

namespace Paperwork

open Paperwork.Text
open Paperwork.Html

/-! ### The places that reading comes to -/

/-- Reading a text has come to its end after some steps at most. -/
def EndsWithin (text : List Char) (steps : Nat) : Prop :=
  ∃ n ≤ steps, ∃ nodes place, Reached text n nodes place ∧ text.length ≤ place.position

namespace Reached

variable {text : List Char} {n : Nat} {nodes others : List Node} {place other : Place}

/-- After as many steps there is one place, and one row of nodes made so far. -/
theorem unique (h : Reached text n nodes place) (hother : Reached text n others other) :
    others = nodes ∧ other = place := by
  induction h generalizing others other with
  | start =>
      cases hother with
      | start => exact ⟨rfl, rfl⟩
  | step before left next ih =>
      cases hother with
      | step before' left' next' =>
          obtain ⟨rfl, rfl⟩ := ih before'
          obtain ⟨rfl, rfl⟩ := Prod.mk.inj (Except.ok.inj (next'.symm.trans next))
          exact ⟨rfl, rfl⟩

/-- Where the end of a text is reached, more steps make nothing more. -/
theorem scan_of_ended (h : Reached text n nodes place) (hended : text.length ≤ place.position)
    (cap : Int) {steps : Nat} (hn : n ≤ steps) :
    (scan cap steps 0 text Candidates.none).answer = .ok nodes := by
  obtain ⟨more, rfl⟩ := Nat.exists_eq_add_of_le hn
  have hnothing : scan cap more place.position (text.drop place.position) place.candidates
      = pure [] := by
    rw [List.drop_eq_nil_of_le hended]
    cases more <;> rfl
  rw [h.scan_eq, hnothing, Reading.answer_pure, Except.map, List.append_nil]

/-- Where it is not, and no more steps may be taken, what is left becomes paragraphs. -/
theorem scan_of_left (h : Reached text n nodes place) (hleft : place.position < text.length)
    {cap : Int} {made : List Node}
    (hscan : (scan cap n 0 text Candidates.none).answer = .ok made) :
    ∃ rest, paragraphNodes (text.drop place.position) = .ok rest ∧ made = nodes ++ rest := by
  obtain ⟨c, cs, hcs⟩ :=
    List.exists_cons_of_ne_nil (mt List.drop_eq_nil_iff.mp (Nat.not_le.mpr hleft))
  have hcut : (scan cap 0 place.position (text.drop place.position) place.candidates).answer
      = (Reading.ofText (paragraphNodes (text.drop place.position))).answer := by
    rw [hcs]
    rfl
  have hmade := h.scan_eq cap 0
  rw [Nat.add_zero, hscan, hcut] at hmade
  cases hrest : paragraphNodes (text.drop place.position) with
  | error cause =>
      rw [hrest] at hmade
      exact absurd hmade nofun
  | ok rest =>
      rw [hrest] at hmade
      exact ⟨rest, rfl, Except.ok.inj hmade⟩

/-- What is read with more steps begins with what the first steps have made. -/
theorem prefix_of_scan (h : Reached text n nodes place) {cap : Int} {steps : Nat} (hn : n ≤ steps)
    {made : List Node} (hscan : (scan cap steps 0 text Candidates.none).answer = .ok made) :
    nodes <+: made := by
  obtain ⟨more, rfl⟩ := Nat.exists_eq_add_of_le hn
  rw [h.scan_eq] at hscan
  obtain ⟨rest, -, hmade⟩ := map_eq_ok.mp hscan
  exact ⟨rest, hmade⟩

end Reached

/-- **A step answers as long as reading does**: the first steps come to a place, or they have
come to the end of the text before. -/
theorem reached_of_scan {text : List Char} {cap : Int} {steps : Nat} {made : List Node}
    (hscan : (scan cap steps 0 text Candidates.none).answer = .ok made) {n : Nat}
    (hn : n ≤ steps) :
    EndsWithin text n ∨
      ∃ nodes place, Reached text n nodes place ∧ place.position < text.length := by
  induction n with
  | zero =>
      by_cases hleft : Place.first.position < text.length
      · exact .inr ⟨[], .first, .start, hleft⟩
      · exact .inl ⟨0, Nat.le_refl 0, [], .first, .start, Nat.not_lt.mp hleft⟩
  | succ n ih =>
      rcases ih (by omega) with ⟨m, hm, hends⟩ | ⟨nodes, place, hreached, hleft⟩
      · exact .inl ⟨m, by omega, hends⟩
      · obtain ⟨more, rfl⟩ := Nat.exists_eq_add_of_le' hn
        rw [show more + (n + 1) = n + (more + 1) by omega, hreached.scan_eq] at hscan
        obtain ⟨rest, hrest, -⟩ := map_eq_ok.mp hscan
        rw [scan_succ cap more hleft, Reading.answer_bind] at hrest
        obtain ⟨⟨own, after⟩, hnext, -⟩ := bind_eq_ok.mp hrest
        have hafter := hreached.step hleft hnext
        by_cases hmore : after.position < text.length
        · exact .inr ⟨_, after, hafter, hmore⟩
        · exact .inl ⟨n + 1, Nat.le_refl _, _, after, hafter, Nat.not_lt.mp hmore⟩

/-! ### Pages -/

theorem scanned_of_convert_atMost {page : List Char} {steps : Nat} {nodes : List Node}
    (h : (convert (.atMost steps) page).run.value = .ok ⟨nodes, false⟩) :
    (scan steps steps 0 (readText page) Candidates.none).answer = .ok nodes :=
  scanned_of_convert h

/--
**A cap cuts off what is left, and nothing else.**  Take any page and two caps, the second
no less than the first, and let both conversions read the page.  If reading ends within
the first cap, both give the same.  Otherwise the steps that the first cap allows come to
one place, and that is not the end of the text.  Then the first conversion gives the
nodes that these steps have made and behind them the plain paragraphs of exactly the text
from that place on; and the second gives these nodes too, with others behind them.
-/
theorem convert_capped (page : List Char) {k m : Nat} (hkm : k ≤ m) {nodes others : List Node}
    (hk : (convert (.atMost k) page).run.value = .ok ⟨nodes, false⟩)
    (hm : (convert (.atMost m) page).run.value = .ok ⟨others, false⟩) :
    (EndsWithin (readText page) k →
      (convert (.atMost k) page).run.value = (convert (.atMost m) page).run.value) ∧
    (¬ EndsWithin (readText page) k →
      ∃ made place rest, Reached (readText page) k made place ∧
        (∀ madeToo placeToo, Reached (readText page) k madeToo placeToo →
          madeToo = made ∧ placeToo = place) ∧
        place.position < (readText page).length ∧
        paragraphNodes ((readText page).drop place.position) = .ok rest ∧
        nodes = made ++ rest ∧ made <+: others) := by
  have hscanned := scanned_of_convert_atMost hk
  have hmore := scanned_of_convert_atMost hm
  refine ⟨?_, ?_⟩
  · rintro ⟨n, hn, made, place, hreached, hended⟩
    have hnodes : nodes = made :=
      Except.ok.inj (hscanned.symm.trans (hreached.scan_of_ended hended k hn))
    have hothers : others = made :=
      Except.ok.inj (hmore.symm.trans (hreached.scan_of_ended hended m (hn.trans hkm)))
    rw [hk, hm, hnodes, hothers]
  · intro hnot
    obtain ⟨made, place, hreached, hleft⟩ :=
      (reached_of_scan hscanned (Nat.le_refl k)).resolve_left hnot
    obtain ⟨rest, hrest, hnodes⟩ := hreached.scan_of_left hleft hscanned
    exact ⟨made, place, rest, hreached, fun _ _ hother => hreached.unique hother, hleft, hrest,
      hnodes, hreached.prefix_of_scan hkm hmore⟩

/-- A page with a line break behind a heading, in which a paragraph opens. -/
def cutPage : List Char := "<p>a</p><h2>b<p></h2> c<br>d".toList

/-- Two steps read its paragraph and its heading; what is left becomes one paragraph. -/
theorem cutPage_capped :
    (convert (.atMost (2 : Nat)) cutPage).run.value
        = .ok ⟨[.paragraph "a" false, .heading "b" 2, .paragraph "c\nd" false], false⟩ ∧
      (convert (.atMost (9 : Nat)) cutPage).run.value
        = .ok ⟨[.paragraph "a" false, .heading "b" 2, .paragraph "c" false, .paragraph "" false,
          .paragraph "d" false], false⟩ ∧
      ∃ made place rest, Reached (readText cutPage) 2 made place ∧
        place.position < (readText cutPage).length ∧
        paragraphNodes ((readText cutPage).drop place.position) = .ok rest ∧
        [.paragraph "a" false, .heading "b" 2, .paragraph "c\nd" false] = made ++ rest ∧
        made <+: [.paragraph "a" false, .heading "b" 2, .paragraph "c" false,
          .paragraph "" false, .paragraph "d" false] := by
  have htwo : (convert (.atMost (2 : Nat)) cutPage).run.value
      = .ok ⟨[.paragraph "a" false, .heading "b" 2, .paragraph "c\nd" false], false⟩ := by rfl
  have hnine : (convert (.atMost (9 : Nat)) cutPage).run.value
      = .ok ⟨[.paragraph "a" false, .heading "b" 2, .paragraph "c" false, .paragraph "" false,
        .paragraph "d" false], false⟩ := by rfl
  obtain ⟨hsame, hcut⟩ := convert_capped cutPage (by decide) htwo hnine
  have hnot : ¬ EndsWithin (readText cutPage) 2 := by
    intro hends
    have hequal := hsame hends
    rw [htwo, hnine] at hequal
    exact absurd (Conversion.mk.inj (Except.ok.inj hequal)).1 (by decide)
  obtain ⟨made, place, rest, hreached, -, hleft, hrest, hnodes, hprefix⟩ := hcut hnot
  exact ⟨htwo, hnine, made, place, rest, hreached, hleft, hrest, hnodes, hprefix⟩

end Paperwork
