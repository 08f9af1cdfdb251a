/-
The numbering of lists.

The items of a numbered list are counted by an instance of a numbering scheme.  A list that is
counted on its own needs an instance of its own, which says that it begins at one.  Which
scheme numbered items have, and which ids instances go by, is a matter of the template that a
document is begun from.
-/
import Paperwork.Document.Node
import Paperwork.Word.Outline

namespace Paperwork.Word

/-- What a template has for numbered lists: the ids that are taken, the scheme that the style
of numbered items counts by, if it counts, and the id that is given to a further instance when
some ids are taken. -/
structure ListTemplate where
  taken : List Nat
  scheme : Option Nat
  nextId : List Nat → Nat

/-- The least number from one on that is not taken. -/
def firstFree (taken : List Nat) : Nat :=
  let candidates := (List.range (taken.length + 1)).map (· + 1)
  (candidates.find? fun id => !taken.contains id).getD 0

/-- A template without any instances. -/
def ListTemplate.plain : ListTemplate := ⟨[], some 0, firstFree⟩

/-- How far numbering has come: the instances that were added to those of the template, and
the id of the one that the last numbered item belongs to. -/
structure Numbering where
  added : List ListInstance
  current : Option Nat
  deriving DecidableEq, Repr

namespace Numbering

/-- Nothing is numbered. -/
def none : Numbering := ⟨[], .none⟩

/-- The ids that are taken. -/
def taken (template : ListTemplate) (numbering : Numbering) : List Nat :=
  template.taken ++ numbering.added.map ListInstance.id

/-- A list is begun: it has an instance of its own, unless its style does not count. -/
def beginList (template : ListTemplate) (numbering : Numbering) : Numbering :=
  match template.scheme with
  | some scheme =>
    let id := template.nextId (numbering.taken template)
    ⟨numbering.added ++ [⟨id, scheme, some 1⟩], some id⟩
  | .none => ⟨numbering.added, .none⟩

/-- How far numbering has come when a node is written.  A numbered item begins a list if its
index is one, and if no list has been begun. -/
def upTo (template : ListTemplate) (numbering : Numbering) : Node → Numbering
  | .listItem _ true index =>
    if index = 1 ∨ numbering.current = .none then numbering.beginList template else numbering
  | _ => numbering

end Numbering
end Paperwork.Word
