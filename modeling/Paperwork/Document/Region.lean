/-
Finding tables, headings, lists and images in a page.

Each of them is found by its first opening tag from a place on; all but images reach to
the first closing tag of the same name, whatever stands in between.  An opening tag
without a closing tag hides what comes behind it, until the search starts anew behind
it.
-/
import Paperwork.Html.Tag

namespace Paperwork

open Paperwork.Text
open Paperwork.Html

/-- The kinds of regions that are looked for, in the order of their precedence. -/
inductive RegionKind
  | table | heading | list | image
  deriving DecidableEq, Repr

namespace RegionKind

/-- All kinds, in the order of their precedence. -/
def all : List RegionKind := [table, heading, list, image]

/-- The names of the tags that open a region. -/
def tagNames : RegionKind → List (List Char)
  | table => [['t', 'a', 'b', 'l', 'e']]
  | heading =>
    [['h', '1'], ['h', '2'], ['h', '3'], ['h', '4'], ['h', '5'], ['h', '6']]
  | list => [['u', 'l'], ['o', 'l']]
  | image => [['i', 'm', 'g']]

end RegionKind

/-- A region of a page: where it begins and ends, its opening tag and its content. -/
structure Region where
  kind : RegionKind
  start : Nat
  stop : Nat
  name : List Char
  tag : List Char
  inner : List Char

/-- What a search has found, and the last place from which it would find the same. -/
structure Found where
  region : Option Region
  validTo : Nat

/-- The text up to the closing tag of an opening tag, with the length of the closing
tag.  The name of the opening tag is taken in lower case. -/
def upToOwnClosing? (tag : Opening) (cs : List Char) : Option (List Char × Nat) :=
  upToClosing? caseFree (lowerText tag.name) cs

/-- The first region of a kind in the text `cs`, which stands at `position`. -/
def RegionKind.find (kind : RegionKind) (position : Nat) (cs : List Char) : Found :=
  match search (opening? kind.tagNames) cs with
  | none => ⟨none, position + cs.length⟩
  | some (before, tag) =>
    let start := position + before.length
    match kind with
    | image => ⟨some ⟨kind, start, start + tag.length, tag.name, tag.text, []⟩, start⟩
    | _ =>
      match upToOwnClosing? tag tag.rest with
      | none => ⟨none, start⟩
      | some (inner, length) =>
        let stop := start + tag.length + inner.length + length
        ⟨some ⟨kind, start, stop, tag.name, tag.text, inner⟩, start⟩

/-! ### The next region of any kind -/

/-- The region that begins first; of several that begin at one place the first. -/
def earliest : List Region → Option Region
  | [] => none
  | region :: rest =>
    match earliest rest with
    | some other => if other.start < region.start then some other else some region
    | none => some region

/-- What the searches for all kinds have found last. -/
abbrev Candidates := List (RegionKind × Option Found)

/-- Nothing has been searched for. -/
def Candidates.none : Candidates := RegionKind.all.map fun kind => (kind, Option.none)

/-- What a search finds from a place on: what it found last, unless that place has been
passed. -/
def Found.renewed (kind : RegionKind) (position : Nat) (cs : List Char) : Option Found → Found
  | some found => if found.validTo < position then kind.find position cs else found
  | none => kind.find position cs

/-- What the searches for all kinds find from a place on. -/
def Candidates.renewed (candidates : Candidates) (position : Nat) (cs : List Char) :
    List (RegionKind × Found) :=
  candidates.map fun (kind, found) => (kind, Found.renewed kind position cs found)

/-- The next region from a place on, and what the searches have found. -/
def Candidates.first (candidates : Candidates) (position : Nat) (cs : List Char) :
    Option Region × Candidates :=
  let found := candidates.renewed position cs
  (earliest (found.filterMap fun (_, f) => f.region), found.map fun (kind, f) => (kind, some f))

end Paperwork
