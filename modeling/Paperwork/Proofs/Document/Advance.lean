/-
Reading a page always goes forward.

A step reads at least one character and nothing behind the end of the text: what stands
at its front is a tag, a region that lies in the text, or text up to the next of these.
So a step never has to drop a character to get on, and as many steps as a text has
characters are enough.  None of this asks anything of the page.

The searches are begun where the last step has stopped, and what they have found before
is kept.  That a kept region still lies ahead is `Candidates.Current`; it is what makes a
step depend on the rest of the text only.
-/
import Paperwork.Proofs.Document.Convert
import Paperwork.Proofs.Document.Step

namespace Paperwork

open Paperwork.Text
open Paperwork.Html

/-! ### Regions lie in the text -/

/-- A region of a text takes at least one character and ends in the text. -/
structure Region.Inside (cs : List Char) (region : Region) : Prop where
  forward : region.start < region.stop
  inside : region.stop ≤ cs.length

theorem nextRegion_inside {cs : List Char} {region : Region}
    (h : nextRegion cs = some region) : region.Inside cs := by
  obtain ⟨tag, before, rest, inner, length, rfl, hopening, hle, hregion⟩ := nextRegion_eq_some h
  have hpos := tag.length_pos
  have hrest := length_of_opening hopening
  rw [hregion]
  refine ⟨?_, ?_⟩
  · show before.length < before.length + tag.length + inner.length + length
    omega
  · show before.length + tag.length + inner.length + length ≤ (before ++ rest).length
    rw [List.length_append]
    omega

/-! ### A step reads something -/

/-- Plain text goes no further than it may. -/
theorem plainLength_bounds {limit : Nat} (hpos : 0 < limit) (cs : List Char) :
    0 < plainLength limit cs ∧ plainLength limit cs ≤ limit := by
  unfold plainLength
  split
  · rename_i before stop hfound
    obtain ⟨rest, hrest, -⟩ := search_eq_some hfound
    have hlength := congrArg List.length hrest
    rw [List.length_drop, List.length_take, List.length_append] at hlength
    omega
  · exact ⟨hpos, Nat.le_refl limit⟩

/-- Whatever stands at the front of a text, at least one character of it is read. -/
theorem ReadsAs.reads {cs : List Char} (hcs : cs ≠ []) {nodes : List Node} {length : Nat}
    (h : ReadsAs cs (nextRegion cs) nodes length) : 0 < length ∧ length ≤ cs.length := by
  cases h with
  | lineBreak hopening =>
      have hlength := length_of_opening hopening
      exact ⟨Opening.length_pos _, by omega⟩
  | dropped hopening =>
      have hlength := length_of_opening hopening
      exact ⟨Opening.length_pos _, by omega⟩
  | @wrapped tag inner closing node hopening hclosing hnode =>
      have hlength := length_of_opening hopening
      have hle := upToClosing?_le hclosing
      have hpos := tag.length_pos
      rw [List.length_take] at hle
      omega
  | region hnext hfront hnodes =>
      have hinside := nextRegion_inside hnext
      have hforward := hinside.forward
      exact ⟨by omega, hinside.inside⟩
  | plain hahead hnodes =>
      cases hnext : nextRegion cs with
      | none => exact plainLength_bounds (List.length_pos_iff.mpr hcs) cs
      | some region =>
          have hinside := nextRegion_inside hnext
          have hforward := hinside.forward
          have hstop := hinside.inside
          obtain ⟨hpos, hle⟩ := plainLength_bounds (hahead region hnext) cs
          rw [distance]
          exact ⟨hpos, by omega⟩

/-! ### Notices -/

namespace Reading

variable {α β : Type} {p : Notice → Prop}

/-- Every notice that reading gives is of some kind. -/
def Notes (p : Notice → Prop) (x : Reading α) : Prop := ∀ notice ∈ x.run.notices, p notice

theorem notes_pure (a : α) : Notes p (pure a : Reading α) := by
  intro notice h
  exact absurd h List.not_mem_nil

theorem notes_ofText (x : Except ReferenceTooLong α) : Notes p (ofText x) := by
  intro notice h
  cases x <;> exact absurd h List.not_mem_nil

theorem notes_note {notice : Notice} (h : p notice) : Notes p (note notice) := by
  intro other hother
  rw [List.mem_singleton.mp hother]
  exact h

theorem Notes.mono {q : Notice → Prop} {x : Reading α} (h : Notes p x)
    (hpq : ∀ notice, p notice → q notice) : Notes q x := by
  intro notice hnotice
  exact hpq notice (h notice hnotice)

/-- What follows on an answer matters at that answer only. -/
theorem Notes.bind {x : Reading α} {f : α → Reading β} (hx : Notes p x)
    (hf : ∀ a, x.answer = .ok a → Notes p (f a)) : Notes p (x >>= f) := by
  intro notice h
  rw [ExceptT.run_bind] at h
  change notice ∈ (Noted.andThen _ _).notices at h
  rw [Noted.andThen, List.mem_append] at h
  rcases h with h | h
  · exact hx notice h
  · unfold answer at hf
    cases hvalue : x.run.value with
    | error cause =>
        rw [hvalue] at h
        exact absurd h List.not_mem_nil
    | ok a =>
        rw [hvalue] at h
        exact hf a hvalue notice h

end Reading

/-- A notice that says how far reading has come, or that it does not go on. -/
def Notice.OnProgress : Notice → Prop
  | .noProgress => True
  | .capReached _ => True
  | _ => False

theorem imageNode_notes (tag : List Char) :
    Reading.Notes (fun notice => ¬ notice.OnProgress) (imageNode tag) := by
  rw [imageNode_eq]
  refine Reading.Notes.bind ?_ ?_
  · unfold imageAddress
    split
    · exact Reading.notes_ofText _
    · exact Reading.notes_pure _
  · intro address _
    unfold imageAt
    split
    · split
      · exact Reading.notes_pure _
      · have hundecodable : ¬ Notice.imageUndecodable.OnProgress := id
        exact (Reading.notes_note hundecodable).bind fun _ _ => Reading.notes_pure _
    · exact Reading.notes_pure _

theorem Region.nodes_notes (region : Region) :
    Reading.Notes (fun notice => ¬ notice.OnProgress) region.nodes := by
  unfold Region.nodes
  cases region.kind with
  | table => exact (Reading.notes_ofText _).bind fun _ _ => Reading.notes_pure _
  | heading => exact (Reading.notes_ofText _).bind fun _ _ => Reading.notes_pure _
  | list => exact Reading.notes_ofText _
  | image => exact (imageNode_notes _).bind fun _ _ => Reading.notes_pure _

theorem readFront_notes (position : Nat) (cs : List Char) (next : Option Region) :
    Reading.Notes (fun notice => ¬ notice.OnProgress) (readFront position cs next) := by
  unfold readFront
  refine (Reading.notes_ofText _).bind ?_
  intro front _
  split
  · exact Reading.notes_pure _
  · split
    · split
      · exact (Region.nodes_notes _).bind fun _ _ => Reading.notes_pure _
      · exact (Reading.notes_ofText _).bind fun _ _ => Reading.notes_pure _
    · exact (Reading.notes_ofText _).bind fun _ _ => Reading.notes_pure _

/-! ### One step -/

/-- Where the reading of a text stands: how far it has come, and what the searches have
found. -/
structure Place where
  position : Nat
  candidates : Candidates

namespace Place

/-- Where the reading of a text begins. -/
def first : Place := ⟨0, Candidates.none⟩

/-- One step of reading a text: the nodes it makes, and the place behind it. -/
def next (text : List Char) (place : Place) : Reading (List Node × Place) := do
  let cs := text.drop place.position
  let (region, candidates) := place.candidates.first place.position cs
  let (nodes, length) ← readFront place.position cs region
  let length ← passed length cs
  return (nodes, ⟨place.position + length, candidates⟩)

/-- What the searches have found is up to date, and the place is not past the end. -/
structure Sane (text : List Char) (place : Place) : Prop where
  current : place.candidates.Current text place.position
  inside : place.position ≤ text.length

theorem sane_first (text : List Char) : first.Sane text :=
  ⟨Candidates.current_none text 0, Nat.zero_le _⟩

end Place

/-- Nothing is read where no text is left. -/
theorem scan_ended (cap : Int) (steps : Nat) {text : List Char} {place : Place}
    (h : text.length ≤ place.position) :
    scan cap steps place.position (text.drop place.position) place.candidates = pure [] := by
  rw [List.drop_eq_nil_of_le h, scan]

/-- With no step to take, what is left is taken for paragraphs. -/
theorem scan_zero (cap : Int) {text : List Char} {place : Place}
    (h : place.position < text.length) :
    scan cap 0 place.position (text.drop place.position) place.candidates = (do
      Reading.note (.capReached cap)
      Reading.ofText (paragraphNodes (text.drop place.position))) := by
  obtain ⟨c, cs, hcs⟩ := List.exists_cons_of_ne_nil (mt List.drop_eq_nil_iff.mp (Nat.not_le.mpr h))
  rw [hcs, scan]
  exact List.cons_ne_nil c cs

/-- Reading goes on from a place by taking the step there. -/
theorem scan_succ (cap : Int) (steps : Nat) {text : List Char} {place : Place}
    (h : place.position < text.length) :
    scan cap (steps + 1) place.position (text.drop place.position) place.candidates = do
      let (nodes, after) ← place.next text
      let more ← scan cap steps after.position (text.drop after.position) after.candidates
      return nodes ++ more := by
  obtain ⟨c, cs, hcs⟩ := List.exists_cons_of_ne_nil (mt List.drop_eq_nil_iff.mp (Nat.not_le.mpr h))
  simp only [Place.next, Reading.bind_assoc, Reading.pure_bind]
  simp only [← List.drop_drop, hcs, scan]

/-- A step from one place to another has made `nodes`.  It has passed what it has read
and the blanks behind that, which is forward in the text and not past its end. -/
structure Advances (text : List Char) (place : Place) (nodes : List Node) (after : Place) :
    Prop where
  forward : place.position < after.position
  inside : after.position ≤ text.length
  passes : ∃ read, ReadsAs (text.drop place.position) (nextRegion (text.drop place.position))
      nodes read ∧ 0 < read ∧
    after.position = place.position + read
      + ((text.drop (place.position + read)).takeWhile isBlank).length

/-- No character is dropped where one is read. -/
theorem passed_of_pos {length : Nat} (h : 0 < length) (cs : List Char) :
    passed length cs = pure (length + ((cs.drop length).takeWhile isBlank).length) := by
  have hpos : ¬ length + ((cs.drop length).takeWhile isBlank).length = 0 := by omega
  rw [passed, if_neg hpos]

namespace Place.Sane

variable {text : List Char} {place after : Place} {nodes : List Node}

/-- A step reads what stands at the front of the text that is left, and then goes on. -/
theorem next_eq (hplace : place.Sane text) :
    place.next text = do
      let (nodes, length) ← readFront 0 (text.drop place.position)
        (nextRegion (text.drop place.position))
      let length ← passed length (text.drop place.position)
      return (nodes, ⟨place.position + length, RegionKind.all.map fun kind =>
        (kind, some (kind.find place.position (text.drop place.position)))⟩) := by
  simp only [next, Candidates.first_eq hplace.current, readFront_shifted]

/-- **Every step that answers advances**, and what the searches have found is up to date
behind it. -/
theorem advances (hplace : place.Sane text) (hleft : place.position < text.length)
    (h : (place.next text).answer = .ok (nodes, after)) :
    Advances text place nodes after ∧ after.Sane text := by
  have hcs : text.drop place.position ≠ [] := mt List.drop_eq_nil_iff.mp (Nat.not_le.mpr hleft)
  rw [hplace.next_eq, Reading.answer_bind] at h
  obtain ⟨⟨made, read⟩, hfront, hnext⟩ := bind_eq_ok.mp h
  have hreads := readFront_eq_ok hfront
  obtain ⟨hpos, hread⟩ := hreads.reads hcs
  simp only [passed_of_pos hpos, Reading.pure_bind, Reading.answer_pure, Except.ok.injEq,
    Prod.mk.injEq] at hnext
  obtain ⟨rfl, rfl⟩ := hnext
  have hblanks := (List.takeWhile_sublist isBlank
    (l := (text.drop place.position).drop read)).length_le
  rw [List.length_drop, List.length_drop] at hblanks
  rw [List.length_drop] at hread
  have hforward : place.position < place.position
      + (read + (((text.drop place.position).drop read).takeWhile isBlank).length) := by omega
  have hinside : place.position
      + (read + (((text.drop place.position).drop read).takeWhile isBlank).length)
        ≤ text.length := by omega
  refine ⟨⟨hforward, hinside, read, hreads, hpos, ?_⟩,
    ⟨Candidates.current_fresh text hforward.le, hinside⟩⟩
  rw [List.drop_drop, Nat.add_assoc]

/-- A step never says that it has not got on. -/
theorem next_notes (hplace : place.Sane text) (hleft : place.position < text.length) :
    (place.next text).Notes fun notice => ¬ notice.OnProgress := by
  have hcs : text.drop place.position ≠ [] := mt List.drop_eq_nil_iff.mp (Nat.not_le.mpr hleft)
  rw [hplace.next_eq]
  refine (readFront_notes _ _ _).bind ?_
  rintro ⟨made, read⟩ hfront
  obtain ⟨hpos, -⟩ := (readFront_eq_ok hfront).reads hcs
  simp only [passed_of_pos hpos, Reading.pure_bind]
  exact Reading.notes_pure _

end Place.Sane

/-! ### All steps -/

/-- The places that the steps of reading a text come to, with the number of steps taken
and the nodes made so far. -/
inductive Reached (text : List Char) : Nat → List Node → Place → Prop
  | start : Reached text 0 [] Place.first
  | step {n : Nat} {nodes more : List Node} {place after : Place}
      (before : Reached text n nodes place) (left : place.position < text.length)
      (next : (place.next text).answer = .ok (more, after)) :
      Reached text (n + 1) (nodes ++ more) after

namespace Reached

variable {text : List Char} {n : Nat} {nodes : List Node} {place : Place}

/-- Every step has passed a character. -/
theorem sane (h : Reached text n nodes place) : place.Sane text ∧ n ≤ place.position := by
  induction h with
  | start => exact ⟨Place.sane_first text, Nat.le_refl 0⟩
  | step before left next ih =>
      obtain ⟨hplace, hsteps⟩ := ih
      obtain ⟨hadvances, hafter⟩ := hplace.advances left next
      have hforward := hadvances.forward
      exact ⟨hafter, by omega⟩

/-- **Reading a text comes to these places**: with more steps than it has taken there it
goes on from there. -/
theorem scan_eq (h : Reached text n nodes place) (cap : Int) (steps : Nat) :
    (scan cap (n + steps) 0 text Candidates.none).answer
      = (scan cap steps place.position (text.drop place.position) place.candidates).answer.map
          (nodes ++ ·) := by
  induction h generalizing steps with
  | start =>
      rw [Nat.zero_add, Place.first, List.drop_zero]
      cases (scan cap steps 0 text Candidates.none).answer <;> rfl
  | @step n nodes more place after before left next ih =>
      rw [Nat.add_assoc, Nat.add_comm 1 steps, ih, scan_succ cap steps left]
      simp only [Reading.answer_bind, next, ok_bind, Reading.answer_pure]
      cases (scan cap steps after.position (text.drop after.position) after.candidates).answer with
      | error cause => rfl
      | ok rest => simp [bind, Except.bind, Except.map]

end Reached

/-- The only notice on progress is that the steps have run out, and then there was not
one for each character that was left. -/
theorem scan_notes {text : List Char} (cap : Int) (steps : Nat) {place : Place}
    (hplace : place.Sane text) :
    (scan cap steps place.position (text.drop place.position) place.candidates).Notes
      fun notice => notice.OnProgress →
        notice = .capReached cap ∧ place.position + steps < text.length := by
  induction steps generalizing place with
  | zero =>
      by_cases hleft : place.position < text.length
      · rw [scan_zero cap hleft]
        refine Reading.Notes.bind (Reading.notes_note ?_) fun _ _ => Reading.notes_ofText _
        exact fun _ => ⟨rfl, hleft⟩
      · rw [scan_ended cap 0 (Nat.not_lt.mp hleft)]
        exact Reading.notes_pure _
  | succ steps ih =>
      by_cases hleft : place.position < text.length
      · rw [scan_succ cap steps hleft]
        refine ((hplace.next_notes hleft).mono fun notice hn hon => absurd hon hn).bind ?_
        rintro ⟨nodes, after⟩ hnext
        obtain ⟨hadvances, hafter⟩ := hplace.advances hleft hnext
        have hforward := hadvances.forward
        refine Reading.Notes.bind ?_ fun _ _ => Reading.notes_pure _
        refine (ih hafter).mono fun notice hn hon => ?_
        obtain ⟨hreached, hsteps⟩ := hn hon
        exact ⟨hreached, by omega⟩
      · rw [scan_ended cap (steps + 1) (Nat.not_lt.mp hleft)]
        exact Reading.notes_pure _

/-! ### Pages -/

/-- The text of a page that is read from front to end. -/
def readText (page : List Char) : List Char := trimmed isBlank (visible page)

theorem scanPage_notes (cap : Cap) (page : List Char) :
    (scanPage cap page).Notes fun notice => notice.OnProgress →
      notice ≠ .noProgress ∧ ¬ cap.Allows (readText page).length := by
  have hscan : ∀ limit steps, (cap.Allows (readText page).length →
        (readText page).length ≤ steps) →
      (scan limit steps 0 (readText page) Candidates.none).Notes fun notice =>
        notice.OnProgress → notice ≠ .noProgress ∧ ¬ cap.Allows (readText page).length := by
    intro limit steps hallows
    refine (scan_notes limit steps (Place.sane_first (readText page))).mono ?_
    intro notice hn hon
    obtain ⟨rfl, hsteps⟩ := hn hon
    refine ⟨nofun, fun hallowed => ?_⟩
    have hle := hallows hallowed
    have hzero : Place.first.position = 0 := rfl
    omega
  cases cap with
  | atMost steps =>
      refine hscan _ _ fun hallowed => ?_
      have hle : ((readText page).length : Int) ≤ steps := hallowed
      omega
  | unlimited => exact hscan _ _ fun _ => Nat.le_refl _
  | unusable =>
      show Reading.Notes _ (if (readText page).isEmpty then pure [] else throw .unusableCap)
      intro notice h
      split at h <;> exact absurd h List.not_mem_nil

/--
**Reading a page always goes forward.**  Whatever the page, at every place that reading
comes to it has taken no more steps than it has passed characters and is not past the
end of the text.  A step from there passes what it has read, at least one character, and
the blanks behind it, and never says that it has not got on.  So no cap makes reading
drop a character, and a cap of as many steps as the text has characters is never reached.
-/
theorem reading_advances (page : List Char) :
    (∀ n nodes place, Reached (readText page) n nodes place →
      n ≤ place.position ∧ place.position ≤ (readText page).length ∧
      (∀ cap steps, (scan cap (n + steps) 0 (readText page) Candidates.none).answer
        = (scan cap steps place.position ((readText page).drop place.position)
            place.candidates).answer.map (nodes ++ ·)) ∧
      (place.position < (readText page).length →
        ((place.next (readText page)).Notes fun notice => ¬ notice.OnProgress) ∧
        ∀ more after, (place.next (readText page)).answer = .ok (more, after) →
          Advances (readText page) place more after)) ∧
    ∀ cap : Cap, ((scanPage cap page).Notes fun notice => notice ≠ .noProgress) ∧
      (cap.Allows (readText page).length →
        (scanPage cap page).Notes fun notice => ¬ notice.OnProgress) := by
  refine ⟨?_, ?_⟩
  · intro n nodes place hreached
    obtain ⟨hplace, hsteps⟩ := hreached.sane
    refine ⟨hsteps, hplace.inside, hreached.scan_eq, fun hleft => ?_⟩
    exact ⟨hplace.next_notes hleft, fun more after hnext => (hplace.advances hleft hnext).1⟩
  · intro cap
    refine ⟨(scanPage_notes cap page).mono ?_, fun hallowed => (scanPage_notes cap page).mono ?_⟩
    · rintro notice hn rfl
      exact (hn trivial).1 rfl
    · intro notice hn hon
      exact (hn hon).2 hallowed

/-- A page whose tags are left open: of a paragraph, of a heading, and one that is cut
off. -/
def brokenPage : List Char := "<p>a<h1>b<br".toList

/-- The place behind the first tag of that page.  The search for headings has to begin
anew behind the open one. -/
def brokenPlace : Place where
  position := 3
  candidates := [(.table, some ⟨none, 12⟩), (.heading, some ⟨none, 4⟩), (.list, some ⟨none, 12⟩),
    (.image, some ⟨none, 12⟩)]

theorem brokenPage_advances :
    Reached (readText brokenPage) 1 [] brokenPlace ∧
      (∀ more after, (brokenPlace.next (readText brokenPage)).answer = .ok (more, after) →
        Advances (readText brokenPage) brokenPlace more after) ∧
      (scanPage (.atMost 12) brokenPage).Notes fun notice => ¬ notice.OnProgress := by
  have hreached : Reached (readText brokenPage) 1 [] brokenPlace :=
    .step .start (by decide +kernel) rfl
  have hallowed : (Cap.atMost 12).Allows (readText brokenPage).length := by
    show ((readText brokenPage).length : Int) ≤ 12
    decide +kernel
  obtain ⟨hplaces, hcaps⟩ := reading_advances brokenPage
  obtain ⟨-, -, -, hstep⟩ := hplaces 1 [] brokenPlace hreached
  exact ⟨hreached, (hstep (by decide +kernel)).2, (hcaps _).2 hallowed⟩

end Paperwork
