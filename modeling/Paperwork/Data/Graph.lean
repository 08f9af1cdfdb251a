/-
Rehydration of data that shares its containers.

Lists and objects may be held by several others, or by themselves.  Such data is a
graph: a heap of cells, each a container whose items are values without items or
references to cells.  Rehydration copies every cell it comes to once, and every later
reference to that cell becomes a reference to its copy.  The copy is known before its
items are walked, so that a cell that holds itself is copied to one that does.
-/
import Paperwork.Data.Rehydrate

namespace Paperwork.Graph

/-- What stands in a container: a value that holds nothing, or a reference to a cell. -/
inductive Item
  | atom (value : Value)
  | ref (place : Nat)
  deriving Inhabited

/-- A container. -/
inductive Cell
  | list (items : List Item)
  | object (fields : List (String × Item))
  deriving Inhabited

/-- The cells of a graph by their places. -/
abbrev Heap := Array Cell

/-- The container of the kind of a cell that holds nothing. -/
def Cell.emptied : Cell → Cell
  | list _ => list []
  | object _ => object []

/-- The items of a cell. -/
def Cell.items : Cell → List Item
  | list items => items
  | object fields => fields.map Prod.snd

/-! ### Values as cells -/

mutual

/-- Puts a value on the heap, every container of it in a cell of its own. -/
def load (heap : Heap) : Value → Heap × Item
  | .list items =>
    let (heap, items) := loadItems heap items
    (heap.push (.list items), .ref heap.size)
  | .object fields =>
    let (heap, fields) := loadFields heap fields
    (heap.push (.object fields), .ref heap.size)
  | value => (heap, .atom value)

/-- Puts items on the heap. -/
def loadItems (heap : Heap) : List Value → Heap × List Item
  | [] => (heap, [])
  | value :: rest =>
    let (heap, item) := load heap value
    let (heap, items) := loadItems heap rest
    (heap, item :: items)

/-- Puts the values of fields on the heap. -/
def loadFields (heap : Heap) : List (String × Value) → Heap × List (String × Item)
  | [] => (heap, [])
  | (key, value) :: rest =>
    let (heap, item) := load heap value
    let (heap, fields) := loadFields heap rest
    (heap, (key, item) :: fields)

end

/-! ### Rehydration -/

/-- A heap that copies are added to, and where the copy of each cell is. -/
structure Copying where
  heap : Heap
  copies : List (Nat × Nat)

/-- Steps of a walk over a heap. -/
abbrev Walk := StateM Copying

/-- Puts a value on the heap. -/
def Walk.load (value : Value) : Walk Item :=
  modifyGet fun s =>
    let (heap, item) := Graph.load s.heap value
    (item, { s with heap })

/-- Reserves the copy of the cell at a place. -/
def Walk.reserve (place : Nat) (cell : Cell) : Walk Nat :=
  modifyGet fun s =>
    (s.heap.size, { heap := s.heap.push cell.emptied, copies := (place, s.heap.size) :: s.copies })

/-- Writes the content of a copy. -/
def Walk.fill (place : Nat) (cell : Cell) : Walk Unit :=
  modify fun s => { s with heap := s.heap.setIfInBounds place cell }

/-- The copy of the cell at a place, its items walked by `item` if it is new. -/
def copyOf (item : Item → Walk Item) (place : Nat) : Walk Item := do
  let s ← get
  match s.copies.lookup place, s.heap[place]? with
  | some copy, _ => return .ref copy
  | none, none => return .ref place
  | none, some cell =>
    let copy ← Walk.reserve place cell
    match cell with
    | .list items => Walk.fill copy (.list (← items.mapM item))
    | .object fields =>
      Walk.fill copy (.object (← fields.mapM fun (key, i) => do return (key, ← item i)))
    return .ref copy

/-- An item with the texts of containers opened on its first `levels` levels, and the
cells there copied. -/
def rehydrateItem : Nat → Item → Walk Item
  | 0, item => return item
  | levels + 1, .ref place => copyOf (rehydrateItem levels) place
  | levels + 1, .atom value => do
    match ← Walk.load value.opened with
    | .ref place => copyOf (rehydrateItem levels) place
    | .atom value => return .atom value

/-! ### Arranging a graph -/

/-- The number of references on a heap. -/
def references (heap : Heap) : Nat := heap.foldl (fun n cell => n + cell.items.length) 0

/-- The places an item refers to. -/
def Item.targets : Item → List Nat
  | atom _ => []
  | ref place => [place]

/-- The places that are reached from those waiting, in the order of the first visit.
Each reference is followed at most once, which bounds the number of steps. -/
def visits (heap : Heap) : Nat → List Nat → List Nat → List Nat
  | 0, _, visited => visited
  | _, [], visited => visited
  | steps + 1, place :: waiting, visited =>
    if visited.contains place then visits heap steps waiting visited
    else
      let targets := (heap.getD place default).items.flatMap Item.targets
      visits heap steps (targets ++ waiting) (visited ++ [place])

/-- The cells that are reached from a place, in the order of the first visit, depth
first, with that order for their places. -/
def arranged (heap : Heap) (root : Nat) : List Cell :=
  let order := visits heap (references heap + 1) [root] []
  let moved : Item → Item
    | .atom value => .atom value
    | .ref place => .ref (order.idxOf place)
  order.map fun place =>
    match heap.getD place default with
    | .list items => .list (items.map moved)
    | .object fields => .object (fields.map fun (key, item) => (key, moved item))

/-- The graph that is reached from a place, with the texts of containers opened. -/
def rehydrated (heap : Heap) (root : Nat) : List Cell :=
  let (item, s) := (rehydrateItem Value.rehydrationLevels (.ref root)).run ⟨heap, []⟩
  match item with
  | .ref place => arranged s.heap place
  | .atom _ => []

end Paperwork.Graph
