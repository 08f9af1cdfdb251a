/-
Walks over values on a heap.

A walk adds cells to the heap and keeps those that are there; it adds copies and keeps those that
are known.  A walk over a value that is held in cells of its own, none of which has been copied,
leaves the value with its texts opened, again in cells of its own.  The proof goes down the levels
that the walk has left.
-/
import Paperwork.Proofs.Data.Fields
import Paperwork.Proofs.Data.Graph.Held

namespace Paperwork.Graph

/-! ### What a walk does not change -/

/-- Nothing is copied twice, and only what is on the heap is copied. -/
structure Copying.Sound (s : Copying) : Prop where
  once : (s.copies.map Prod.fst).Nodup
  placed : ∀ entry ∈ s.copies, entry.1 < s.heap.size

/-- What there was on a heap and what was known of copies is still there. -/
structure Copying.Extends (s s' : Copying) : Prop where
  heap : s.heap.Extends s'.heap
  copies : ∀ place copy, s.copies.lookup place = some copy → s'.copies.lookup place = some copy

/-- What the walk over a value in some cells leaves: the known copies of other cells as they
were, and a state in which nothing is copied twice. -/
structure Passed (s : Copying) (cells : List Nat) (s' : Copying) : Prop extends
    s.Extends s' where
  sound : s'.Sound
  others : ∀ place < s.heap.size, place ∉ cells → s'.copies.lookup place = s.copies.lookup place

namespace Copying

variable {s s' : Copying}

theorem Extends.refl (s : Copying) : s.Extends s := ⟨.refl s.heap, fun _ _ => id⟩

theorem Extends.trans {s'' : Copying} (h : s.Extends s') (h' : s'.Extends s'') :
    s.Extends s'' :=
  ⟨h.heap.trans h'.heap, fun place copy hcopy => h'.copies place copy (h.copies place copy hcopy)⟩

theorem Sound.lookup_eq_none (h : s.Sound) {place : Nat} (hplace : s.heap.size ≤ place) :
    s.copies.lookup place = none := by
  refine lookup_eq_none_iff.mpr fun hmem => ?_
  obtain ⟨entry, hentry, rfl⟩ := List.mem_map.mp hmem
  exact absurd (h.placed entry hentry) hplace.not_gt

/-- A value has been put on the heap. -/
def loaded (s : Copying) (value : Value) : Copying := { s with heap := (load s.heap value).1 }

/-- A cell has been reserved for the copy of another one. -/
def reserved (s : Copying) (place : Nat) (cell : Cell) : Copying :=
  { heap := s.heap.push cell.emptied, copies := (place, s.heap.size) :: s.copies }

/-- A copy has been filled. -/
def filled (s : Copying) (place : Nat) (cell : Cell) : Copying :=
  { s with heap := s.heap.setIfInBounds place cell }

theorem extends_loaded (s : Copying) (value : Value) : s.Extends (s.loaded value) := by
  obtain ⟨cells, hextends, -⟩ := load_holds value s.heap
  exact ⟨hextends, fun _ _ => id⟩

theorem Sound.grown (h : s.Sound) {heap : Heap} (hsize : s.heap.size ≤ heap.size) :
    Sound { s with heap } :=
  ⟨h.once, fun entry hentry => (h.placed entry hentry).trans_le hsize⟩

theorem Sound.reserved (h : s.Sound) {place : Nat} {cell : Cell}
    (hnew : s.copies.lookup place = none) (hplace : place < s.heap.size) :
    (s.reserved place cell).Sound := by
  refine ⟨List.nodup_cons.mpr ⟨lookup_eq_none_iff.mp hnew, h.once⟩, fun entry hentry => ?_⟩
  rw [Copying.reserved, Array.size_push]
  rcases List.mem_cons.mp hentry with rfl | hmem
  · exact Nat.lt_succ_of_lt hplace
  · exact Nat.lt_succ_of_lt (h.placed entry hmem)

theorem lookup_reserved (s : Copying) (place : Nat) (cell : Cell) (other : Nat) :
    (s.reserved place cell).copies.lookup other
      = if other = place then some s.heap.size else s.copies.lookup other := by
  rw [reserved, List.lookup_cons]
  by_cases h : other = place
  · rw [if_pos h, h, beq_self_eq_true]
  · rw [if_neg h, beq_false_of_ne h]

theorem extends_reserved {place : Nat} (hnew : s.copies.lookup place = none) (cell : Cell) :
    s.Extends (s.reserved place cell) := by
  refine ⟨.push s.heap cell.emptied, fun other copy hother => ?_⟩
  rw [lookup_reserved, if_neg, hother]
  rintro rfl
  rw [hnew] at hother
  exact nomatch hother

theorem filled_kept (s : Copying) {place other : Nat} (cell : Cell) (h : other ≠ place) :
    (s.filled place cell).heap[other]? = s.heap[other]? := by
  rw [filled, Array.getElem?_setIfInBounds_ne (Ne.symm h)]

theorem filled_found {s : Copying} {place : Nat} (h : place < s.heap.size) (cell : Cell) :
    (s.filled place cell).heap[place]? = some cell :=
  Array.getElem?_setIfInBounds_self_of_lt h

theorem filled_size (s : Copying) (place : Nat) (cell : Cell) :
    (s.filled place cell).heap.size = s.heap.size := Array.size_setIfInBounds

theorem size_reserved (s : Copying) (place : Nat) (cell : Cell) :
    (s.reserved place cell).heap.size = s.heap.size + 1 := Array.size_push cell.emptied

/-- To fill a copy that has been reserved since changes nothing that there was before. -/
theorem Extends.filled {place : Nat} {cell : Cell} (h : (s.reserved place cell).Extends s')
    (hnew : s.copies.lookup place = none) (content : Cell) :
    s.Extends (s'.filled s.heap.size content) := by
  have hall := (extends_reserved hnew cell).trans h
  refine ⟨⟨(filled_size s' _ content).symm ▸ hall.heap.size, fun other hother => ?_⟩, hall.copies⟩
  rw [filled_kept s' content hother.ne, hall.heap.kept other hother]

theorem Extends.size_lt {place : Nat} {cell : Cell} (h : (s.reserved place cell).Extends s') :
    s.heap.size < s'.heap.size := by
  have hsize := h.heap.size
  rw [size_reserved] at hsize
  exact hsize

end Copying

namespace Passed

variable {s mid s' : Copying} {cells more : List Nat}

theorem refl (h : s.Sound) (cells : List Nat) : Passed s cells s :=
  ⟨.refl s, h, fun _ _ _ => rfl⟩

theorem trans (h : Passed s cells mid) (h' : Passed mid more s') : Passed s (cells ++ more) s' :=
  ⟨h.toExtends.trans h'.toExtends, h'.sound, fun place hplace hnot => by
    rw [List.mem_append, not_or] at hnot
    rw [h'.others place (hplace.trans_le h.heap.size) hnot.2, h.others place hplace hnot.1]⟩

end Passed

/-! ### The steps of a walk -/

theorem run_load (s : Copying) (value : Value) :
    (Walk.load value).run s = ((load s.heap value).2, s.loaded value) := rfl

theorem run_bind {α β : Type} (walk : Walk α) (next : α → Walk β) (s : Copying) :
    (walk >>= next).run s = (next (walk.run s).1).run (walk.run s).2 := rfl

theorem run_get (s : Copying) : (get : Walk Copying).run s = (s, s) := rfl

theorem run_copyOf_known {walk : Item → Walk Item} {s : Copying} {place copy : Nat}
    (h : s.copies.lookup place = some copy) : (copyOf walk place).run s = (.ref copy, s) := by
  rw [copyOf, run_bind, run_get]
  simp only [h]
  rfl

/-- The items of an object are walked as those of a list are, and keep their keys. -/
theorem run_mapM_fields (walk : Item → Walk Item) (fields : List (String × Item)) (s : Copying) :
    (fields.mapM fun (field : String × Item) => do return (field.1, ← walk field.2)).run s
      = ((fields.map Prod.fst).zip (((fields.map Prod.snd).mapM walk).run s).1,
        (((fields.map Prod.snd).mapM walk).run s).2) := by
  induction fields generalizing s with
  | nil => rfl
  | cons field rest ih =>
      rw [List.map_cons, List.map_cons, List.mapM_cons, List.mapM_cons]
      simp only [run_bind, ih]
      rfl

/-- A cell that is new is copied: a copy is reserved, its items are walked, and the copy is
filled with what they have become. -/
theorem run_copyOf_new {walk : Item → Walk Item} {s s' : Copying} {place : Nat} {cell : Cell}
    {items : List Item} (hnew : s.copies.lookup place = none) (hfound : s.heap[place]? = some cell)
    (hrun : (cell.items.mapM walk).run (s.reserved place cell) = (items, s')) :
    (copyOf walk place).run s
      = (.ref s.heap.size, s'.filled s.heap.size (.gathered cell.keys items)) := by
  have hreserve : (Walk.reserve place cell).run s = (s.heap.size, s.reserved place cell) := rfl
  rw [copyOf, run_bind, run_get]
  simp only [hnew, hfound, run_bind, hreserve]
  cases cell with
  | list stored =>
      rw [Cell.items] at hrun
      simp only [run_bind, hrun]
      rfl
  | object stored =>
      rw [Cell.items] at hrun
      simp only [run_bind, run_mapM_fields, hrun]
      rfl

/-! ### Walks over values -/

/-- A walk changes values as they are held: from a value in cells of its own that have not been
copied it makes the changed value, in some of these cells and in new ones. -/
def Changes (walk : Item → Walk Item) (change : Value → Value) : Prop :=
  ∀ ⦃s : Copying⦄ ⦃value : Value⦄ ⦃item : Item⦄ ⦃cells : List Nat⦄, s.Sound →
    Holds s.heap value item cells → cells.Nodup →
    (∀ place ∈ cells, s.copies.lookup place = none) →
    ∃ item' s' cells', (walk item).run s = (item', s') ∧ Passed s cells s'
      ∧ Holds s'.heap (change value) item' cells' ∧ cells'.Nodup
      ∧ ∀ place ∈ cells', place ∈ cells ∨ s.heap.size ≤ place

theorem Changes.mapM {walk : Item → Walk Item} {change : Value → Value}
    (h : Changes walk change) {parts : List Part} {s : Copying} (hsound : s.Sound)
    (hstands : ∀ part ∈ parts, part.Stands s.heap) (hnodup : (parts.flatMap Part.cells).Nodup)
    (hnew : ∀ place ∈ parts.flatMap Part.cells, s.copies.lookup place = none) :
    ∃ (parts' : List Part) (s' : Copying), ((parts.map Part.item).mapM walk).run s = (parts'.map Part.item, s')
      ∧ Passed s (parts.flatMap Part.cells) s'
      ∧ parts'.map Part.value = (parts.map Part.value).map change
      ∧ (∀ part ∈ parts', part.Stands s'.heap) ∧ (parts'.flatMap Part.cells).Nodup
      ∧ ∀ place ∈ parts'.flatMap Part.cells,
        place ∈ parts.flatMap Part.cells ∨ s.heap.size ≤ place := by
  induction parts generalizing s with
  | nil => exact ⟨[], s, rfl, .refl hsound _, rfl, nofun, .nil, nofun⟩
  | cons part rest ih =>
      simp only [List.flatMap_cons, List.nodup_append, List.forall_mem_append,
        List.forall_mem_cons] at hstands hnodup hnew
      obtain ⟨hpart, hrest⟩ := hstands
      obtain ⟨hnodup, hnodups, hapart⟩ := hnodup
      have hold : ∀ place ∈ rest.flatMap Part.cells, place < s.heap.size := by
        intro place hplace
        obtain ⟨other, hother, hcell⟩ := List.mem_flatMap.mp hplace
        exact Holds.lt_size (hrest other hother) place hcell
      -- The walk over the first part leaves the cells of the others as they were.
      obtain ⟨item, mid, cells, hrun, hpassed, hholds, hcells, hfrom⟩ :=
        h hsound hpart hnodup hnew.1
      obtain ⟨parts', s', hruns, hpassed', hvalues, hstands', hnodup', hfrom'⟩ :=
        ih hpassed.sound (fun other hother => Holds.extend (hrest other hother) hpassed.heap)
          hnodups fun place hplace => by
            rw [hpassed.others place (hold place hplace) fun hmem =>
              hapart place hmem place hplace rfl, hnew.2 place hplace]
      refine ⟨⟨change part.value, item, cells⟩ :: parts', s', ?_, hpassed.trans hpassed',
        congrArg (change part.value :: ·) hvalues, ?_, ?_, ?_⟩
      · rw [List.map_cons, List.mapM_cons]
        simp only [run_bind, hrun, hruns]
        rfl
      · exact List.forall_mem_cons.mpr ⟨hholds.extend hpassed'.heap, hstands'⟩
      · refine hcells.append hnodup' fun place hfirst hmore => ?_
        have hlow := hholds.lt_size place hfirst
        rcases hfrom place hfirst with hin | hin <;> rcases hfrom' place hmore with hin' | hin'
        · exact hapart place hin place hin' rfl
        · exact absurd hlow hin'.not_gt
        · exact absurd (hold place hin') hin.not_gt
        · exact absurd hlow hin'.not_gt
      · intro place hplace
        have hsize := hpassed.heap.size
        rcases List.mem_append.mp hplace with hfirst | hmore
        · exact (hfrom place hfirst).imp_left (List.mem_append_left _)
        · exact (hfrom' place hmore).imp (List.mem_append_right _) hsize.trans

/-- The cell of a container that is held is copied to one that holds the container changed. -/
theorem Changes.copyOf {walk : Item → Walk Item} {change : Value → Value}
    (h : Changes walk change) {s : Copying} (hsound : s.Sound) {keys : Option (List String)}
    {place : Nat} {parts : List Part} (fits : KeysFor keys parts.length)
    (found : s.heap[place]? = some (.gathered keys (parts.map Part.item)))
    (inside : ∀ part ∈ parts, part.Stands s.heap)
    (hnodup : (place :: parts.flatMap Part.cells).Nodup)
    (hnew : ∀ other ∈ place :: parts.flatMap Part.cells, s.copies.lookup other = none) :
    ∃ item' s' cells', (Graph.copyOf walk place).run s = (item', s')
      ∧ Passed s (place :: parts.flatMap Part.cells) s'
      ∧ Holds s'.heap (.gathered keys ((parts.map Part.value).map change)) item' cells'
      ∧ cells'.Nodup
      ∧ ∀ other ∈ cells', other ∈ place :: parts.flatMap Part.cells ∨ s.heap.size ≤ other := by
  obtain ⟨hnew, hnews⟩ := List.forall_mem_cons.mp hnew
  obtain ⟨hplace, hnodup⟩ := List.nodup_cons.mp hnodup
  have hlt : place < s.heap.size := (Array.getElem?_eq_some_iff.mp found).1
  have hold : ∀ other ∈ parts.flatMap Part.cells, other < s.heap.size := by
    intro other hother
    obtain ⟨part, hpart, hcell⟩ := List.mem_flatMap.mp hother
    exact Holds.lt_size (inside part hpart) other hcell
  set cell := Cell.gathered keys (parts.map Part.item) with hcell
  have fits' : KeysFor keys (parts.map Part.item).length := by rwa [List.length_map]
  have hreserved := Copying.extends_reserved hnew cell
  have hsize := Copying.size_reserved s place cell
  obtain ⟨parts', s', hrun, hpassed, hvalues, hstands, hnodup', hfrom⟩ :=
    h.mapM (hsound.reserved hnew hlt)
      (fun part hpart => Holds.extend (inside part hpart) hreserved.heap) hnodup
      fun other hother => by
        rw [Copying.lookup_reserved, if_neg, hnews other hother]
        rintro rfl
        exact hplace hother
  -- What has been made inside lies neither at the copy nor was it there before the copy.
  have hapart : ∀ other ∈ parts'.flatMap Part.cells, other ≠ s.heap.size := by
    rintro other hother rfl
    rcases hfrom _ hother with hin | hin
    · exact absurd (hold _ hin) (lt_irrefl _)
    · omega
  have hrun' := run_copyOf_new hnew found (hcell ▸ (Cell.items_gathered fits').symm ▸ hrun)
  rw [hcell, Cell.keys_gathered fits'] at hrun'
  have hlength : parts'.length = parts.length := by
    simpa using congrArg List.length hvalues
  refine ⟨_, _, s.heap.size :: parts'.flatMap Part.cells, hrun',
    ⟨hpassed.toExtends.filled hnew _, hpassed.sound.grown (Copying.filled_size ..).ge, ?_⟩, ?_,
    List.nodup_cons.mpr ⟨fun hmem => hapart _ hmem rfl, hnodup'⟩, ?_⟩
  · intro other hother hnot
    rw [List.mem_cons, not_or] at hnot
    exact (hpassed.others other (by omega) hnot.2).trans
      ((Copying.lookup_reserved ..).trans (if_neg hnot.1))
  · rw [← hvalues]
    refine .container (hlength ▸ fits) (Copying.filled_found hpassed.toExtends.size_lt _)
      fun part hpart => ?_
    refine Holds.of_kept (hstands part hpart) fun other hother => ?_
    exact Copying.filled_kept s' _ (hapart other (List.mem_flatMap.mpr ⟨part, hpart, hother⟩))
  · intro other hother
    rcases List.mem_cons.mp hother with rfl | hmem
    · exact .inr le_rfl
    · exact (hfrom other hmem).imp (List.mem_cons_of_mem _) fun hge => by omega

theorem run_rehydrateItem_atom (levels : Nat) (value : Value) (s : Copying) :
    (rehydrateItem (levels + 1) (.atom value)).run s
      = match (load s.heap value.opened).2 with
        | .ref place => (copyOf (rehydrateItem levels) place).run (s.loaded value.opened)
        | .atom content => (.atom content, s.loaded value.opened) := by
  rw [rehydrateItem, run_bind, run_load]
  cases (load s.heap value.opened).2 <;> rfl

/-- **Values are rehydrated on the heap as they are by themselves.** -/
theorem changes_rehydrateItem (levels : Nat) :
    Changes (rehydrateItem levels) (Value.rehydrateWithin levels) := by
  induction levels with
  | zero =>
      intro s value item cells hsound hholds hnodup _
      exact ⟨item, s, cells, rfl, .refl hsound cells, hholds, hnodup, fun place => .inl⟩
  | succ levels ih =>
      intro s value item cells hsound hholds hnodup hnew
      cases hholds with
      | @container keys place parts fits found inside =>
          have hkeys : KeysFor keys (parts.map Part.value).length := by rwa [List.length_map]
          rw [Value.rehydrateWithin_container (Value.opened_gathered keys _)]
          exact ih.copyOf hsound fits found inside hnodup hnew
      | atom plain =>
          rw [run_rehydrateItem_atom]
          obtain ⟨cells, hextends, hholds, hregion⟩ := load_holds value.opened s.heap
          have hloaded := s.extends_loaded value.opened
          have hsound' : (s.loaded value.opened).Sound := hsound.grown hloaded.heap.size
          have hhere : ∀ other ∈ cells, s.heap.size ≤ other :=
            fun other hother => (hregion.within other hother).1
          generalize hitem : (load s.heap value.opened).2 = item at hholds
          generalize hcontent : value.opened = content at hholds hloaded hsound'
          cases hholds with
          | atom plain =>
              refine ⟨_, _, [], rfl, ⟨hloaded, hsound', fun _ _ _ => rfl⟩, ?_, .nil, nofun⟩
              rw [Value.rehydrateWithin_eq_opened (hcontent ▸ plain), hcontent]
              exact .atom plain
          | @container keys place parts fits found inside =>
              -- The text of a container has been put on the heap and is copied from there.
              obtain ⟨item', s', cells', hrun, hpassed, hholds', hnodup', hfrom⟩ :=
                ih.copyOf hsound' fits found inside hregion.nodup
                  fun other hother => hsound.lookup_eq_none (hhere other hother)
              refine ⟨item', s', cells', hrun, ⟨hloaded.trans hpassed.toExtends, hpassed.sound, ?_⟩,
                ?_, hnodup', fun other hother => .inr ?_⟩
              · intro other hother _
                exact hpassed.others other (hother.trans_le hloaded.heap.size)
                  fun hmem => absurd (hhere other hmem) hother.not_ge
              · rwa [Value.rehydrateWithin_container hcontent]
              · exact (hfrom other hother).elim (hhere other) hloaded.heap.size.trans

end Paperwork.Graph
