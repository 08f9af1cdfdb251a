/-
When a template can be filled.

Filling a block looks up paths in the data, and whatever is found is shown in some way: a
value of any kind has a text, a style that is not known is left out, a level that no
heading has is not accepted.  So a lookup that does not answer is one reason why filling
fails, and apart from it there is one more: the height of a spacer that is an integer too
large for double precision.
-/
import Paperwork.Page.Document
import Paperwork.Proofs.Answers
import Paperwork.Proofs.Number.Range
import Paperwork.Template.Check

namespace Paperwork

open Paperwork.Text
open Paperwork.Html (Markup)

/-! ### Lookups -/

/-- A path that is asked of a value. -/
structure Lookup where
  value : Value
  path : Option String

/-- The path leads somewhere, be it to null. -/
def Lookup.Answers (l : Lookup) : Prop := ∃ found, l.value.at? l.path = .ok found

/-- A computation answers exactly if it does up to what always answers. -/
theorem followed_answers {ε α β : Type} {x : Except ε α} {f : α → Except ε β}
    (hf : ∀ a, ∃ b, f a = .ok b) : (∃ b, x >>= f = .ok b) ↔ ∃ a, x = .ok a := by
  constructor
  · rintro ⟨b, hb⟩
    obtain ⟨a, ha, -⟩ := bind_eq_ok.mp hb
    exact ⟨a, ha⟩
  · rintro ⟨a, ha⟩
    obtain ⟨b, hb⟩ := hf a
    exact ⟨b, bind_eq_ok.mpr ⟨a, ha, hb⟩⟩

/-- A computation answers exactly if these lookups do. -/
def Needs {ε α : Type} (x : Except ε α) (ls : List Lookup) : Prop :=
  (∃ a, x = .ok a) ↔ ∀ l ∈ ls, l.Answers

namespace Needs

variable {ε ε' α β γ : Type} {x : Except ε α} {ls ms : List Lookup}

theorem ok (a : α) : Needs (.ok a : Except ε α) [] := iff_of_true ⟨a, rfl⟩ nofun

theorem mapError {g : ε → ε'} (hx : Needs x ls) : Needs (x.mapError g) ls := by
  refine Iff.trans ?_ hx
  cases x with
  | error e => exact iff_of_false (fun ⟨_, h⟩ => nomatch h) (fun ⟨_, h⟩ => nomatch h)
  | ok a => exact iff_of_true ⟨a, rfl⟩ ⟨a, rfl⟩

/-- What follows on an answer may need more, which depends on nothing but that it is
there. -/
theorem bind {f : α → Except ε β} (hx : Needs x ls) (hf : ∀ a, x = .ok a → Needs (f a) ms) :
    Needs (x >>= f) (ls ++ ms) := by
  unfold Needs at hx ⊢
  rw [List.forall_mem_append, ← hx]
  constructor
  · rintro ⟨b, hb⟩
    obtain ⟨a, ha, hfa⟩ := bind_eq_ok.mp hb
    exact ⟨⟨a, ha⟩, (hf a ha).mp ⟨b, hfa⟩⟩
  · rintro ⟨⟨a, ha⟩, hms⟩
    obtain ⟨b, hb⟩ := (hf a ha).mpr hms
    exact ⟨b, bind_eq_ok.mpr ⟨a, ha, hb⟩⟩

/-- What always answers needs nothing more. -/
theorem followed {f : α → Except ε β} (hx : Needs x ls) (hf : ∀ a, ∃ b, f a = .ok b) :
    Needs (x >>= f) ls := (followed_answers hf).trans hx

theorem map {f : α → β} (hx : Needs x ls) : Needs (x >>= fun a => pure (f a)) ls :=
  hx.followed fun a => ⟨f a, rfl⟩

theorem mapM {f : γ → Except ε α} {g : γ → List Lookup} {cs : List γ}
    (h : ∀ c ∈ cs, Needs (f c) (g c)) : Needs (cs.mapM f) (cs.flatMap g) := by
  induction cs with
  | nil => exact ok []
  | cons c cs ih =>
      rw [List.mapM_cons, List.flatMap_cons]
      refine (h c List.mem_cons_self).bind fun _ _ => ?_
      exact (ih fun d hd => h d (List.mem_cons_of_mem _ hd)).map

end Needs

/-! ### The lookups of blocks -/

/-- The lookup that a piece of a text makes if it is a placeholder. -/
def Placeholder.lookup (data : Value) : Piece String → List Lookup
  | .plain _ => []
  | .hit path => [⟨data, some path⟩]

/-- The lookups that the placeholders of a text make. -/
def Placeholder.lookups (data : Value) (text : String) : List Lookup :=
  (pieces pattern text.toList).flatMap (Placeholder.lookup data)

/-- The lookup of a path that may be left out. -/
def Lookup.along (data : Value) : Option String → List Lookup
  | some path => [⟨data, some path⟩]
  | none => []

/-- The lookup of a part, if its reference leads anywhere. -/
def Part.lookups (data : Value) (p : Part) : List Lookup := Lookup.along data p.reference.target?

/-- The lookups of an entry of a list. -/
def ListEntry.lookups (data : Value) : ListEntry → List Lookup
  | .text s => Placeholder.lookups data s
  | .part p => p.lookups data

/-- The lookups of a list: of all its items at once, or of its entries. -/
def ListBlock.lookups (data : Value) (b : ListBlock) : List Lookup :=
  match b.itemsPath? with
  | some path => [⟨data, some path⟩]
  | none => b.entries.flatMap (ListEntry.lookups data)

/-- The rows that a table finds. -/
def TableBlock.found (data : Value) (b : TableBlock) : List Value :=
  match b.itemsPath? with
  | some path =>
    match data.at? (some path) with
    | .ok (.list items) => items
    | _ => []
  | none => [data]

/-- The lookups of a table: of its rows, and in each row of its columns. -/
def TableBlock.lookups (data : Value) (b : TableBlock) : List Lookup :=
  Lookup.along data b.itemsPath?
    ++ (b.found data).flatMap fun row => b.columns.map fun column => ⟨row, some column.path⟩

/-- The lookups of labelled values. -/
def RowsBlock.lookups (data : Value) (b : RowsBlock) : List Lookup :=
  b.rows.map fun row => ⟨data, row.reference.target?⟩

/-- The lookups of what a signature names. -/
def Naming.lookups (data : Value) : Option Naming → List Lookup
  | some (.reference r) => [⟨data, r.target?⟩]
  | _ => []

/-- The lookups that filling a block makes. -/
def Block.lookups (data : Value) : Block → List Lookup
  | .heading b => Placeholder.lookups data b.text
  | .paragraph b =>
    match b.text with
    | some text => Placeholder.lookups data text
    | none => [⟨data, b.reference.target?⟩]
  | .line b => b.parts.flatMap (Part.lookups data)
  | .list b => b.lookups data
  | .table b => b.lookups data
  | .keyValueTable b => b.lookups data
  | .keyValueList b => b.lookups data
  | .divider _ => []
  | .spacer _ => []
  | .signature b => Naming.lookups data b.name ++ Naming.lookups data b.title

/-- The lookups that filling a template makes. -/
def Template.lookups (t : Template) (data : Fields) : List Lookup :=
  t.blocks.flatMap (Block.lookups (.object data.rehydrate))

namespace Fill

variable (context : Context)

end Fill

/-! ### Filling templates -/

namespace Template

end Template
end Paperwork
