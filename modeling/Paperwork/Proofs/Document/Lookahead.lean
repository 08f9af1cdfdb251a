/-
Searching for the next region from one place after another.

A search from a place on answers with the region that begins first, and of several that
begin at one place with the kind that takes precedence.  Going through a text, the
answers are the same whether everything is searched for anew at each place or what was
found at the places before is kept: this asks of the places only that none lies before
the one that comes before it.
-/
import Paperwork.Proofs.Document.Candidates

namespace Paperwork

open Paperwork.Text
open Paperwork.Html

/-! ### What a search answers -/

/-- The next region from a place of a text on, nothing having been searched for before. -/
def regionFrom (text : List Char) (place : Nat) : Option Region :=
  earliest (RegionKind.all.filterMap fun kind => (kind.find place (text.drop place)).region)

/-- The regions that are found for some kinds all begin at `start` or behind it. -/
def NoneBefore (text : List Char) (place start : Nat) (kinds : List RegionKind) : Prop :=
  ∀ kind ∈ kinds, ∀ region, (kind.find place (text.drop place)).region = some region →
    start ≤ region.start

/-- The answer of a search for several kinds, each of which takes precedence over those
behind it: nothing if none of them is found, otherwise what begins before all that is
found for the kinds in front of its own, and not behind anything that is found for those
that follow. -/
inductive IsNext (text : List Char) (place : Nat) (kinds : List RegionKind) :
    Option Region → Prop
  | nothing (hnone : ∀ kind ∈ kinds, (kind.find place (text.drop place)).region = none) :
      IsNext text place kinds none
  | found (before after : List RegionKind) {kind : RegionKind} {region : Region}
      (hkinds : kinds = before ++ kind :: after)
      (hfound : (kind.find place (text.drop place)).region = some region)
      (hbefore : NoneBefore text place (region.start + 1) before)
      (hafter : NoneBefore text place region.start after) :
      IsNext text place kinds (some region)

/-- A kind that is not found changes nothing. -/
theorem IsNext.skip {text : List Char} {place : Nat} {kinds : List RegionKind}
    {answer : Option Region} (h : IsNext text place kinds answer) {kind : RegionKind}
    (hnone : (kind.find place (text.drop place)).region = none) :
    IsNext text place (kind :: kinds) answer := by
  cases h with
  | nothing hrest => exact .nothing (by simpa [hnone] using hrest)
  | @found before after first region hkinds hfound hbefore hafter =>
      refine .found (kind :: before) after (by rw [hkinds, List.cons_append]) hfound ?_ hafter
      intro other hother region hregion
      rcases List.mem_cons.mp hother with rfl | hother
      · rw [hnone] at hregion
        exact absurd hregion (by simp)
      · exact hbefore other hother region hregion

/-- A kind that begins before the others are found takes their place, and so does one
that begins where they do. -/
theorem IsNext.here {text : List Char} {place : Nat} {kinds : List RegionKind}
    {answer : Option Region} (h : IsNext text place kinds answer) {kind : RegionKind}
    {region : Region} (hfound : (kind.find place (text.drop place)).region = some region)
    (hfirst : ∀ other, answer = some other → region.start ≤ other.start) :
    IsNext text place (kind :: kinds) (some region) := by
  refine .found [] kinds rfl hfound (fun other hother => absurd hother (by simp)) ?_
  intro other hother later hlater
  cases h with
  | nothing hnone =>
      rw [hnone other hother] at hlater
      exact absurd hlater (by simp)
  | @found before after next first hkinds hnext hbefore hafter =>
      have hle := hfirst first rfl
      rw [hkinds] at hother
      rcases List.mem_append.mp hother with hother | hother
      · have hlt := hbefore other hother later hlater
        omega
      · rcases List.mem_cons.mp hother with rfl | hother
        · rw [hnext, Option.some.injEq] at hlater
          rwa [← hlater]
        · have hge := hafter other hother later hlater
          omega

/-- What begins earlier than everything found for one kind keeps its place before it. -/
theorem IsNext.later {text : List Char} {place : Nat} {kinds : List RegionKind}
    {first : Region} (h : IsNext text place kinds (some first)) {kind : RegionKind}
    {region : Region} (hfound : (kind.find place (text.drop place)).region = some region)
    (hlt : first.start < region.start) : IsNext text place (kind :: kinds) (some first) := by
  cases h with
  | @found before after next first hkinds hnext hbefore hafter =>
      refine .found (kind :: before) after (by rw [hkinds, List.cons_append]) hnext ?_ hafter
      intro other hother later hlater
      rcases List.mem_cons.mp hother with rfl | hother
      · rw [hfound, Option.some.injEq] at hlater
        rw [← hlater]
        exact hlt
      · exact hbefore other hother later hlater

theorem isNext_earliest (text : List Char) (place : Nat) (kinds : List RegionKind) :
    IsNext text place kinds
      (earliest (kinds.filterMap fun kind => (kind.find place (text.drop place)).region)) := by
  induction kinds with
  | nil => exact .nothing (by simp)
  | cons kind kinds ih =>
      rw [List.filterMap_cons]
      cases hfound : (kind.find place (text.drop place)).region with
      | none => exact ih.skip hfound
      | some region =>
          rw [earliest]
          cases hrest : earliest
              (kinds.filterMap fun kind => (kind.find place (text.drop place)).region) with
          | none =>
              rw [hrest] at ih
              exact ih.here hfound fun other hother => absurd hother (by simp)
          | some other =>
              rw [hrest] at ih
              by_cases hlt : other.start < region.start
              · simp only [if_pos hlt]
                exact ih.later hfound hlt
              · simp only [if_neg hlt]
                refine ih.here hfound fun first hfirst => ?_
                rw [← Option.some.inj hfirst]
                exact Nat.not_lt.mp hlt

/-- What is found from a place on does not begin before it. -/
theorem RegionKind.le_start {kind : RegionKind} {place : Nat} {cs : List Char} {region : Region}
    (h : (kind.find place cs).region = some region) : place ≤ region.start := by
  rw [kind.find_eq_shifted] at h
  obtain ⟨shifted, -, rfl⟩ := Option.map_eq_some_iff.mp h
  exact Nat.le_add_right place shifted.start

theorem IsNext.le_start {text : List Char} {place : Nat} {kinds : List RegionKind}
    {region : Region} (h : IsNext text place kinds (some region)) : place ≤ region.start := by
  cases h with
  | found _ _ _ hfound _ _ => exact RegionKind.le_start hfound

/-! ### One search after another -/

/-- The next regions from several places of a text on, searched for one after another,
what has been found being kept. -/
def Candidates.firsts (text : List Char) : Candidates → List Nat → List (Option Region)
  | _, [] => []
  | candidates, place :: places =>
    let (region, candidates) := candidates.first place (text.drop place)
    region :: firsts text candidates places

theorem regionFrom_eq_shifted (text : List Char) (place : Nat) :
    regionFrom text place = (nextRegion (text.drop place)).map (Region.shifted place) := by
  rw [regionFrom, nextRegion, ← earliest_shifted, List.map_filterMap]
  congr 1
  refine List.filterMap_congr fun kind _ => ?_
  rw [kind.find_eq_shifted]
  rfl

/-- What is kept answers as a search anew, and is up to date at every later place. -/
theorem Candidates.Current.first {text : List Char} {place : Nat} {candidates : Candidates}
    (h : candidates.Current text place) :
    (candidates.first place (text.drop place)).1 = regionFrom text place ∧
      ∀ later, place ≤ later →
        (candidates.first place (text.drop place)).2.Current text later := by
  rw [Candidates.first_eq h, regionFrom_eq_shifted]
  exact ⟨rfl, fun later hlater => Candidates.current_fresh text hlater⟩

theorem Candidates.Current.firsts {text : List Char} {candidates : Candidates} {places : List Nat}
    (hcurrent : ∀ place ∈ places, candidates.Current text place)
    (hplaces : places.Pairwise (· ≤ ·)) :
    candidates.firsts text places = places.map (regionFrom text) := by
  induction places generalizing candidates with
  | nil => rfl
  | cons place places ih =>
      obtain ⟨hfirst, hlater⟩ := (hcurrent place List.mem_cons_self).first
      obtain ⟨hle, hrest⟩ := List.pairwise_cons.mp hplaces
      show (candidates.first place (text.drop place)).1
        :: (candidates.first place (text.drop place)).2.firsts text places = _
      rw [List.map_cons, hfirst, ih (fun later hmem => hlater later (hle later hmem)) hrest]

/--
**Keeping what was found changes no answer.**  Whatever the text, searching from places
none of which lies before an earlier one answers at each of them what a search anew
answers there.  That is the region of the least start among those that are found for the
four kinds, the kind that takes precedence where several begin at one place, and nothing
if none is found; and no region begins before the place it is searched for from.
-/
theorem firsts_eq_anew (text : List Char) {places : List Nat}
    (hplaces : places.Pairwise (· ≤ ·)) :
    Candidates.none.firsts text places = places.map (regionFrom text) ∧
      ∀ place, IsNext text place RegionKind.all (regionFrom text place) ∧
        ∀ region, regionFrom text place = some region → place ≤ region.start := by
  refine ⟨Candidates.Current.firsts (fun place _ => Candidates.current_none text place) hplaces,
    fun place => ?_⟩
  have hnext : IsNext text place RegionKind.all (regionFrom text place) :=
    isNext_earliest text place RegionKind.all
  refine ⟨hnext, fun region hregion => ?_⟩
  rw [hregion] at hnext
  exact hnext.le_start

/-- A text with an open heading, an image, a closed heading and a list. -/
def crowdedText : List Char := "<h1>a<img><h2>b</h2><ul></ul>".toList

/-- Searching it from its front finds the image first, as the open heading hides the
closed one; from the image on the closed heading is found as well, and at last the list. -/
theorem crowdedText_firsts :
    (Candidates.none.firsts crowdedText [0, 5, 5, 6, 20, 21]).map
        (fun answer => answer.map fun region => (region.kind, region.start))
      = [some (.image, 5), some (.image, 5), some (.image, 5), some (.heading, 10),
        some (.list, 20), none] := by
  have hplaces : [0, 5, 5, 6, 20, 21].Pairwise (· ≤ ·) := by decide
  rw [(firsts_eq_anew crowdedText hplaces).1]
  decide +kernel

end Paperwork
