/-
Values on a heap.

A container is a list, or an object, which has keys for what stands in it.  Values and cells are
both taken apart in this way, so that lists and objects need not be told apart again.  A heap
holds a value at an item if every container of the value has a cell, in which the items for its
parts stand.  Those cells are listed: what has been put on a heap has cells of its own, and what
is done to other cells does not change the value.
-/
import Mathlib
import Paperwork.Data.Graph

namespace Paperwork

/-- Keys for a number of parts: those of an object, or none for a list. -/
def KeysFor (keys : Option (List String)) (count : Nat) : Prop :=
  ∀ names ∈ keys, names.length = count

theorem keysFor_fields {α : Type} (fields : List (String × α)) :
    KeysFor (some (fields.map Prod.fst)) (fields.map Prod.snd).length := by
  intro names hnames
  rw [← Option.some.inj hnames, List.length_map, List.length_map]

namespace Value

/-- Values gathered in an object under its keys, or in a list. -/
def gathered : Option (List String) → List Value → Value
  | none, values => list values
  | some keys, values => object (keys.zip values)

/-- A value that holds no others. -/
def IsAtom : Value → Prop
  | list _ => False
  | object _ => False
  | _ => True

theorem not_isAtom_gathered (keys : Option (List String)) (values : List Value) :
    ¬(gathered keys values).IsAtom := by
  cases keys <;> exact id

theorem opened_gathered (keys : Option (List String)) (values : List Value) :
    (gathered keys values).opened = gathered keys values := by
  cases keys <;> rfl

/-- A container is opened by opening what stands in it. -/
theorem rehydrateWithin_container {value : Value} {keys : Option (List String)}
    {values : List Value} (h : value.opened = gathered keys values) (levels : Nat) :
    rehydrateWithin (levels + 1) value = gathered keys (values.map (rehydrateWithin levels)) := by
  cases keys with
  | none => rw [rehydrateWithin, h]; rfl
  | some keys =>
      rw [rehydrateWithin, h, gathered, gathered, List.zip_map_right]
      rfl

theorem rehydrateWithin_eq_opened {value : Value} (h : value.opened.IsAtom) (levels : Nat) :
    rehydrateWithin (levels + 1) value = value.opened := by
  rw [rehydrateWithin]
  cases hopened : value.opened with
  | list items => exact (hopened ▸ h).elim
  | object fields => exact (hopened ▸ h).elim
  | _ => rfl

end Value

namespace Graph

/-- Items gathered in an object under its keys, or in a list. -/
def Cell.gathered : Option (List String) → List Item → Cell
  | none, items => list items
  | some keys, items => object (keys.zip items)

/-- The keys of an object, none for a list. -/
def Cell.keys : Cell → Option (List String)
  | list _ => none
  | object fields => some (fields.map Prod.fst)

theorem Cell.items_gathered {keys : Option (List String)} {items : List Item}
    (h : KeysFor keys items.length) : (gathered keys items).items = items := by
  cases keys with
  | none => rfl
  | some keys => exact List.map_snd_zip (h keys rfl).ge

theorem Cell.keys_gathered {keys : Option (List String)} {items : List Item}
    (h : KeysFor keys items.length) : (gathered keys items).keys = keys := by
  cases keys with
  | none => rfl
  | some keys => exact congrArg some (List.map_fst_zip (h keys rfl).le)

/-! ### Heaps that grow -/

/-- The second heap has everything that the first one has. -/
structure Heap.Extends (before after : Heap) : Prop where
  size : before.size ≤ after.size
  kept : ∀ place < before.size, after[place]? = before[place]?

namespace Heap.Extends

theorem refl (heap : Heap) : heap.Extends heap := ⟨le_rfl, fun _ _ => rfl⟩

theorem trans {first second third : Heap} (h : first.Extends second)
    (h' : second.Extends third) : first.Extends third :=
  ⟨h.size.trans h'.size,
    fun place hplace => (h'.kept place (hplace.trans_le h.size)).trans (h.kept place hplace)⟩

theorem push (heap : Heap) (cell : Cell) : heap.Extends (heap.push cell) :=
  ⟨by simp, fun place hplace => by
    rw [Array.getElem?_push_lt hplace, Array.getElem?_eq_getElem hplace]⟩

end Heap.Extends

/-- Cells that are different from each other and lie in a stretch of the heap. -/
structure Region (first last : Nat) (cells : List Nat) : Prop where
  nodup : cells.Nodup
  within : ∀ place ∈ cells, first ≤ place ∧ place < last

namespace Region

theorem nil (first last : Nat) : Region first last [] := ⟨.nil, nofun⟩

theorem append {first mid last : Nat} {cells more : List Nat} (h : Region first mid cells)
    (h' : Region mid last more) (hfirst : first ≤ mid) (hlast : mid ≤ last) :
    Region first last (cells ++ more) := by
  refine ⟨h.nodup.append h'.nodup fun place hcells hmore => ?_, fun place hplace => ?_⟩
  · exact absurd (h.within place hcells).2 (h'.within place hmore).1.not_gt
  · rcases List.mem_append.mp hplace with hcells | hmore
    · exact ⟨(h.within place hcells).1, (h.within place hcells).2.trans_le hlast⟩
    · exact ⟨hfirst.trans (h'.within place hmore).1, (h'.within place hmore).2⟩

theorem perm {first last : Nat} {cells others : List Nat} (h : Region first last cells)
    (hperm : cells.Perm others) : Region first last others :=
  ⟨hperm.nodup_iff.mp h.nodup, fun place hplace => h.within place (hperm.mem_iff.mpr hplace)⟩

end Region

/-! ### Values that a heap holds -/

/-- A part of a container: its value, the item it stands as, and the cells it takes up. -/
structure Part where
  value : Value
  item : Item
  cells : List Nat

/-- A heap holds a value at an item, every container of it in one of the cells. -/
inductive Holds (heap : Heap) : Value → Item → List Nat → Prop
  | atom {value : Value} (plain : value.IsAtom) : Holds heap value (.atom value) []
  | container {keys : Option (List String)} {place : Nat} {parts : List Part}
      (fits : KeysFor keys parts.length)
      (found : heap[place]? = some (.gathered keys (parts.map Part.item)))
      (inside : ∀ part ∈ parts, Holds heap part.value part.item part.cells) :
      Holds heap (.gathered keys (parts.map Part.value)) (.ref place)
        (place :: parts.flatMap Part.cells)

/-- A part stands on a heap. -/
def Part.Stands (heap : Heap) (part : Part) : Prop := Holds heap part.value part.item part.cells

namespace Holds

variable {heap : Heap} {value : Value} {item : Item} {cells : List Nat}

theorem lt_size (h : Holds heap value item cells) : ∀ place ∈ cells, place < heap.size := by
  induction h with
  | atom => exact nofun
  | container fits found _ ih =>
      intro place hplace
      rcases List.mem_cons.mp hplace with rfl | hinside
      · exact (Array.getElem?_eq_some_iff.mp found).1
      · obtain ⟨part, hpart, hcell⟩ := List.mem_flatMap.mp hinside
        exact ih part hpart place hcell

/-- What is held stays held if its cells stay. -/
theorem of_kept (h : Holds heap value item cells) {other : Heap}
    (hkept : ∀ place ∈ cells, other[place]? = heap[place]?) : Holds other value item cells := by
  induction h with
  | atom plain => exact .atom plain
  | container fits found _ ih =>
      refine .container fits ((hkept _ List.mem_cons_self).trans found) fun part hpart => ?_
      exact ih part hpart fun place hplace =>
        hkept place (List.mem_cons_of_mem _ (List.mem_flatMap.mpr ⟨part, hpart, hplace⟩))

theorem extend (h : Holds heap value item cells) {other : Heap} (hextends : heap.Extends other) :
    Holds other value item cells :=
  h.of_kept fun place hplace => hextends.kept place (h.lt_size place hplace)

end Holds

/-! ### Putting values on a heap -/

theorem loadFields_eq (heap : Heap) (fields : List (String × Value)) :
    loadFields heap fields = ((loadItems heap (fields.map Prod.snd)).1,
      (fields.map Prod.fst).zip (loadItems heap (fields.map Prod.snd)).2) := by
  induction fields generalizing heap with
  | nil => rfl
  | cons field rest ih =>
      obtain ⟨key, value⟩ := field
      simp only [loadFields, List.map_cons, loadItems, ih, List.zip_cons_cons]

theorem load_gathered (heap : Heap) {keys : Option (List String)} {values : List Value}
    (h : KeysFor keys values.length) :
    load heap (.gathered keys values)
      = ((loadItems heap values).1.push (.gathered keys (loadItems heap values).2),
        .ref (loadItems heap values).1.size) := by
  cases keys with
  | none => rfl
  | some keys =>
      have hlength : keys.length = values.length := h keys rfl
      simp only [Value.gathered, load, loadFields_eq, List.map_snd_zip hlength.ge,
        List.map_fst_zip hlength.le, Cell.gathered]

/-- What has been put on a heap: everything that was there, and parts in new cells. -/
def Loads (heap after : Heap) (parts : List Part) : Prop :=
  heap.Extends after ∧ (∀ part ∈ parts, part.Stands after)
    ∧ Region heap.size after.size (parts.flatMap Part.cells)

namespace Loads

variable {heap mid after : Heap} {part : Part} {parts : List Part}

theorem nil (heap : Heap) : Loads heap heap [] := ⟨.refl heap, nofun, .nil _ _⟩

theorem cons (h : Loads heap mid [part]) (h' : Loads mid after parts) :
    Loads heap after (part :: parts) := by
  obtain ⟨hextends, hstands, hregion⟩ := h
  obtain ⟨hextends', hstands', hregion'⟩ := h'
  rw [List.flatMap_cons, List.flatMap_nil, List.append_nil] at hregion
  refine ⟨hextends.trans hextends', fun other hother => ?_,
    hregion.append hregion' hextends.size hextends'.size⟩
  rcases List.mem_cons.mp hother with rfl | hmem
  · exact Holds.extend (hstands _ List.mem_cons_self) hextends'
  · exact hstands' other hmem

/-- Parts and the container they stand in. -/
theorem push (h : Loads heap after parts) {keys : Option (List String)}
    (fits : KeysFor keys parts.length) :
    Loads heap (after.push (.gathered keys (parts.map Part.item)))
      [⟨.gathered keys (parts.map Part.value), .ref after.size,
        after.size :: parts.flatMap Part.cells⟩] := by
  obtain ⟨hextends, hstands, hregion⟩ := h
  have hpush := Heap.Extends.push after (.gathered keys (parts.map Part.item))
  refine ⟨hextends.trans hpush, fun part hpart => ?_, ?_⟩
  · obtain rfl := List.mem_singleton.mp hpart
    refine .container fits (by simp) fun part hmem => ?_
    exact Holds.extend (hstands part hmem) hpush
  · have hnew : Region after.size (after.size + 1) [after.size] :=
      ⟨List.nodup_singleton _, fun place hplace => by
        rw [List.mem_singleton.mp hplace]; exact ⟨le_rfl, Nat.lt_succ_self _⟩⟩
    have hall := hregion.append hnew hextends.size (Nat.le_succ _)
    rw [List.flatMap_cons, List.flatMap_nil, List.append_nil, Array.size_push]
    exact hall.perm List.perm_append_comm

theorem atom (value : Value) (plain : value.IsAtom) (heap : Heap) :
    Loads heap heap [⟨value, .atom value, []⟩] :=
  ⟨.refl heap, fun _ hpart => List.mem_singleton.mp hpart ▸ .atom plain, .nil _ _⟩

/-- Values that have been put on a heap, and the container of them. -/
theorem gathered {values : List Value} (h : Loads heap (loadItems heap values).1 parts)
    (hvalues : parts.map Part.value = values)
    (hitems : parts.map Part.item = (loadItems heap values).2) {keys : Option (List String)}
    (fits : KeysFor keys values.length) :
    ∃ cells, Loads heap (load heap (.gathered keys values)).1
      [⟨.gathered keys values, (load heap (.gathered keys values)).2, cells⟩] := by
  have hparts : KeysFor keys parts.length := by rwa [← hvalues, List.length_map] at fits
  have hpush := h.push hparts
  rw [hvalues, hitems] at hpush
  rw [load_gathered heap fits]
  exact ⟨_, hpush⟩

end Loads

mutual

/-- A value that is put on a heap is held there, in new cells. -/
theorem load_loads : ∀ (value : Value) (heap : Heap), ∃ cells,
    Loads heap (load heap value).1 [⟨value, (load heap value).2, cells⟩]
  | .list values, heap => by
      obtain ⟨parts, hloads, hvalues, hitems⟩ := loadItems_loads values heap
      have fits : KeysFor none values.length := nofun
      exact hloads.gathered hvalues hitems fits
  | .object fields, heap => by
      obtain ⟨parts, hloads, hvalues, hitems⟩ := loadFields_loads fields heap
      have hgathered := hloads.gathered hvalues hitems (keysFor_fields fields)
      rwa [Value.gathered, ← List.zip_of_prod rfl rfl] at hgathered
  | .null, heap => ⟨[], .atom .null trivial heap⟩
  | .bool b, heap => ⟨[], .atom (.bool b) trivial heap⟩
  | .int n, heap => ⟨[], .atom (.int n) trivial heap⟩
  | .float x, heap => ⟨[], .atom (.float x) trivial heap⟩
  | .text s, heap => ⟨[], .atom (.text s) trivial heap⟩

theorem loadItems_loads : ∀ (values : List Value) (heap : Heap), ∃ parts : List Part,
    Loads heap (loadItems heap values).1 parts ∧ parts.map Part.value = values
      ∧ parts.map Part.item = (loadItems heap values).2
  | [], heap => ⟨[], .nil heap, rfl, rfl⟩
  | value :: rest, heap => by
      obtain ⟨cells, hvalue⟩ := load_loads value heap
      obtain ⟨parts, hrest, hvalues, hitems⟩ := loadItems_loads rest (load heap value).1
      exact ⟨⟨value, (load heap value).2, cells⟩ :: parts, hvalue.cons hrest,
        congrArg (value :: ·) hvalues, congrArg ((load heap value).2 :: ·) hitems⟩

theorem loadFields_loads : ∀ (fields : List (String × Value)) (heap : Heap),
    ∃ parts : List Part, Loads heap (loadItems heap (fields.map Prod.snd)).1 parts
      ∧ parts.map Part.value = fields.map Prod.snd
      ∧ parts.map Part.item = (loadItems heap (fields.map Prod.snd)).2
  | [], heap => ⟨[], .nil heap, rfl, rfl⟩
  | (_, value) :: rest, heap => by
      obtain ⟨cells, hvalue⟩ := load_loads value heap
      obtain ⟨parts, hrest, hvalues, hitems⟩ := loadFields_loads rest (load heap value).1
      exact ⟨⟨value, (load heap value).2, cells⟩ :: parts, hvalue.cons hrest,
        congrArg (value :: ·) hvalues, congrArg ((load heap value).2 :: ·) hitems⟩

end

theorem load_holds (value : Value) (heap : Heap) : ∃ cells, heap.Extends (load heap value).1
    ∧ Holds (load heap value).1 value (load heap value).2 cells
    ∧ Region heap.size (load heap value).1.size cells := by
  obtain ⟨cells, hextends, hstands, hregion⟩ := load_loads value heap
  rw [List.flatMap_cons, List.flatMap_nil, List.append_nil] at hregion
  exact ⟨cells, hextends, hstands _ List.mem_cons_self, hregion⟩

end Graph

end Paperwork
