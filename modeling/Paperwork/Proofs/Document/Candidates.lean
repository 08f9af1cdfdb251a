/-
Keeping what a search has found.

The searches for regions are expensive, so a page is not searched anew at every step:
what a search has found is kept until its place has been passed.  This changes nothing.
A search begun later, but not behind what it finds, finds the same, so what is kept is
what a fresh search would answer; `Current` is the invariant.

Nor does it matter where in the page a text stands.  So a page is read as `scanAnew`
reads it, which keeps nothing and knows no positions, and that is the form in which
everything else is proved.
-/
import Paperwork.Document.Scan
import Paperwork.Proofs.Text.Search

namespace Paperwork

open Paperwork.Text
open Paperwork.Html

/-! ### Positions -/

/-- A region of a text that stands `n` characters further on. -/
def Region.shifted (n : Nat) (region : Region) : Region :=
  { region with start := n + region.start, stop := n + region.stop }

/-- What a search finds in a text that stands `n` characters further on. -/
def Found.shifted (n : Nat) (found : Found) : Found :=
  ⟨found.region.map (Region.shifted n), n + found.validTo⟩

theorem RegionKind.find_eq_shifted (kind : RegionKind) (position : Nat) (cs : List Char) :
    kind.find position cs = (kind.find 0 cs).shifted position := by
  unfold find
  cases search (opening? kind.tagNames) cs with
  | none => simp [Found.shifted]
  | some found =>
      obtain ⟨before, tag⟩ := found
      cases kind <;> simp only [Found.shifted]
      case image => simp [Region.shifted, Nat.add_assoc]
      all_goals cases upToOwnClosing? tag tag.rest <;> simp [Region.shifted, Nat.add_assoc]

theorem earliest_shifted (n : Nat) (regions : List Region) :
    earliest (regions.map (Region.shifted n)) = (earliest regions).map (Region.shifted n) := by
  induction regions with
  | nil => rfl
  | cons region regions ih =>
      rw [List.map_cons, earliest, earliest, ih]
      cases earliest regions with
      | none => rfl
      | some other =>
          have hlt : (other.shifted n).start < (region.shifted n).start
              ↔ other.start < region.start := Nat.add_lt_add_iff_left
          by_cases h : other.start < region.start
          · simp only [Option.map_some, if_pos h, if_pos (hlt.mpr h)]
          · simp only [Option.map_some, if_neg h, if_neg (mt hlt.mp h)]

/-- The next region of a text, searched for from its front. -/
def nextRegion (cs : List Char) : Option Region :=
  earliest (RegionKind.all.filterMap fun kind => (kind.find 0 cs).region)

/-! ### What is kept is what would be found -/

/-- A search begun later, as long as what was found has not been passed, finds the same. -/
theorem RegionKind.find_later (kind : RegionKind) {text : List Char} {p q : Nat} (hpq : p ≤ q)
    (hq : q ≤ (kind.find p (text.drop p)).validTo) :
    kind.find q (text.drop q) = kind.find p (text.drop p) := by
  obtain ⟨k, rfl⟩ := Nat.exists_eq_add_of_le hpq
  rw [← List.drop_drop]
  revert hq
  generalize text.drop p = cs
  intro hq
  unfold find at hq ⊢
  cases hs : search (opening? kind.tagNames) cs with
  | none =>
      simp only [hs, Nat.add_le_add_iff_left] at hq
      simp only [search_drop_none hs, List.length_drop, Found.mk.injEq, true_and]
      omega
  | some found =>
      obtain ⟨before, tag⟩ := found
      have hk : k ≤ before.length := by
        simp only [hs] at hq
        split at hq
        · exact Nat.le_of_add_le_add_left hq
        · split at hq <;> exact Nat.le_of_add_le_add_left hq
      have hstart : p + k + (before.drop k).length = p + before.length := by
        rw [List.length_drop]
        omega
      simp only [search_drop hs hk, hstart]

/-- Every search has found, from a place not yet passed, what it would find there. -/
structure Candidates.Current (text : List Char) (position : Nat) (candidates : Candidates) :
    Prop where
  kinds : candidates.map Prod.fst = RegionKind.all
  found : ∀ kind f, (kind, some f) ∈ candidates →
    ∃ p ≤ position, f = kind.find p (text.drop p)

theorem Candidates.current_none (text : List Char) (position : Nat) :
    Candidates.none.Current text position where
  kinds := rfl
  found kind f h := by
    obtain ⟨k, -, hk⟩ := List.mem_map.mp h
    simp at hk

/-- What has been searched for anew is current from then on. -/
theorem Candidates.current_fresh (text : List Char) {p position : Nat} (h : p ≤ position) :
    Candidates.Current text position
      (RegionKind.all.map fun kind => (kind, some (kind.find p (text.drop p)))) where
  kinds := rfl
  found kind f hf := by
    obtain ⟨k, -, hk⟩ := List.mem_map.mp hf
    simp only [Prod.mk.injEq, Option.some.injEq] at hk
    exact ⟨p, h, by rw [← hk.1, hk.2]⟩

theorem Found.renewed_eq {text : List Char} {kind : RegionKind} {position : Nat}
    {kept : Option Found}
    (h : ∀ f, kept = some f → ∃ p ≤ position, f = kind.find p (text.drop p)) :
    Found.renewed kind position (text.drop position) kept
      = kind.find position (text.drop position) := by
  cases kept with
  | none => rfl
  | some f =>
      obtain ⟨p, hp, rfl⟩ := h f rfl
      rw [Found.renewed]
      split
      · rfl
      · rename_i hpassed
        exact (kind.find_later hp (Nat.not_lt.mp hpassed)).symm

/-- **The next region that is found with what is kept is the one a fresh search finds.** -/
theorem Candidates.first_eq {text : List Char} {position : Nat} {candidates : Candidates}
    (h : candidates.Current text position) :
    candidates.first position (text.drop position)
      = ((nextRegion (text.drop position)).map (Region.shifted position),
        RegionKind.all.map fun kind =>
          (kind, some (kind.find position (text.drop position)))) := by
  have hrenewed : candidates.renewed position (text.drop position)
      = RegionKind.all.map fun kind => (kind, kind.find position (text.drop position)) := by
    rw [← h.kinds, List.map_map]
    refine List.map_congr_left fun ⟨kind, kept⟩ hmem => ?_
    simp only [Function.comp_apply, Prod.mk.injEq, true_and]
    exact Found.renewed_eq fun f hf => h.found kind f (hf ▸ hmem)
  have hregions : (RegionKind.all.map fun kind => (kind, kind.find position
        (text.drop position))).filterMap (fun x => x.2.region)
      = (RegionKind.all.filterMap fun kind => (kind.find 0 (text.drop position)).region).map
        (Region.shifted position) := by
    rw [List.filterMap_map, List.map_filterMap]
    refine List.filterMap_congr fun kind _ => ?_
    simp only [Function.comp_apply]
    rw [kind.find_eq_shifted]
    rfl
  simp only [first, hrenewed, List.map_map, nextRegion, ← earliest_shifted, ← hregions]
  rfl

/-! ### Reading without keeping anything -/

/-- The nodes of a text, read in at most `steps` steps, every one of which searches the
rest of the text anew. -/
def scanAnew (cap : Int) : Nat → List Char → Reading (List Node)
  | _, [] => return []
  | 0, cs => do
    Reading.note (.capReached cap)
    Reading.ofText (paragraphNodes cs)
  | steps + 1, cs => do
    let (nodes, length) ← readFront 0 cs (nextRegion cs)
    let length ← passed length cs
    let more ← scanAnew cap steps (cs.drop length)
    return nodes ++ more

theorem readFront_shifted (position : Nat) (cs : List Char) (region : Option Region) :
    readFront position cs (region.map (Region.shifted position)) = readFront 0 cs region := by
  cases region with
  | none => rfl
  | some region =>
      have hstart : position + region.start - position = region.start := by omega
      have hstop : position + region.stop - position = region.stop := by omega
      have hfront : position + region.start = position ↔ region.start = 0 := by omega
      simp only [readFront, Option.map_some, Region.shifted, hstart, hstop, hfront, Nat.sub_zero]
      rfl

/-- **Keeping what was found changes nothing.** -/
theorem scan_eq_scanAnew {text : List Char} (cap : Int) (steps position : Nat)
    {candidates : Candidates} (h : candidates.Current text position) :
    scan cap steps position (text.drop position) candidates
      = scanAnew cap steps (text.drop position) := by
  induction steps generalizing position candidates with
  | zero => cases text.drop position <;> rfl
  | succ steps ih =>
      have hfirst := Candidates.first_eq h
      have hrest : ∀ length,
          scan cap steps (position + length) ((text.drop position).drop length)
              (RegionKind.all.map fun kind =>
                (kind, some (kind.find position (text.drop position))))
            = scanAnew cap steps ((text.drop position).drop length) := by
        intro length
        rw [List.drop_drop]
        exact ih _ (Candidates.current_fresh text (by omega))
      revert hfirst hrest
      generalize text.drop position = cs
      intro hfirst hrest
      cases cs with
      | nil => rfl
      | cons c cs => simp only [scan, scanAnew, hfirst, readFront_shifted, hrest]

theorem scan_none_eq_scanAnew (cap : Int) (steps : Nat) (text : List Char) :
    scan cap steps 0 text Candidates.none = scanAnew cap steps text := by
  simpa using scan_eq_scanAnew cap steps 0 (Candidates.current_none text 0)

end Paperwork
