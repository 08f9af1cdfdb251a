/-
What is copied of a graph, and what the copies hold.

The cells of a graph are visited depth first, in the order of the items.  Each cell that is
visited within the limit is copied once, and every reference to it in a copy is one to its copy:
the copy is known before the walk goes on inside the cell, so this is so for cycles too.  What a
walk over an item preserves is stated for the cells visited so far, and carried over a row of
items and down the levels.
-/
import Paperwork.Proofs.Data.Graph.Walks
import Paperwork.Proofs.Data.Packed

namespace Paperwork.Graph

theorem forall₂_of_mem {α β : Type} {r r' : α → β → Prop} {xs : List α} {ys : List β}
    (h : List.Forall₂ r xs ys) (himp : ∀ y ∈ ys, ∀ x, r x y → r' x y) :
    List.Forall₂ r' xs ys := by
  induction h with
  | nil => exact .nil
  | cons hfirst _ ih =>
      obtain ⟨himp, himps⟩ := List.forall_mem_cons.mp himp
      exact .cons (himp _ hfirst) (ih himps)

/-! ### Graphs and their visits -/

/-- An item that may stand on a heap: a value that holds nothing, or a reference to a cell. -/
def Item.Within (heap : Heap) : Item → Prop
  | atom value => value.IsAtom
  | ref place => place < heap.size

/-- A heap of which every reference leads to a cell. -/
def Heap.Closed (heap : Heap) : Prop :=
  ∀ (place : Nat) (cell : Cell), heap[place]? = some cell →
    ∀ item ∈ cell.items, item.Within heap

/-- The cells visited depth first, each with the depth of its first visit: those that have been
`seen` and those that are visited from an item at a depth, with so many levels left. -/
def visitedFrom (heap : Heap) : Nat → Nat → List (Nat × Nat) → Item → List (Nat × Nat)
  | 0, _, seen, _ => seen
  | _ + 1, _, seen, .atom _ => seen
  | levels + 1, depth, seen, .ref place =>
    if place ∈ seen.map Prod.fst then seen
    else (heap.getD place default).items.foldl (visitedFrom heap levels (depth + 1))
      (seen ++ [(place, depth)])

/-- The cells visited from a place within the limit, with the depth of the first visit. -/
def firstVisits (heap : Heap) (root : Nat) : List (Nat × Nat) :=
  visitedFrom heap Value.rehydrationLevels 0 [] (.ref root)

/-! ### Copies -/

/-- What an item has become: an item, and the cells of the value that it holds. -/
structure Made where
  item : Item
  cells : List Nat

/-- The copy of a cell: its place, and what the items have become. -/
structure Copy where
  place : Nat
  made : List Made

/-- The cells that a copy takes up. -/
def Copy.cells (copy : Copy) : List Nat := copy.place :: copy.made.flatMap Made.cells

/-- What an item may become with so many levels left.  Without any it is kept.  Otherwise a
reference becomes one to the copy of its cell, a text of a container becomes a container that holds
its content, rehydrated on the levels left, and every other value is kept. -/
inductive Becomes (s : Copying) : Nat → Item → Made → Prop
  | kept (item : Item) : Becomes s 0 item ⟨item, []⟩
  | ref {levels place copy : Nat} (known : s.copies.lookup place = some copy) :
      Becomes s (levels + 1) (.ref place) ⟨.ref copy, []⟩
  | scalar {levels : Nat} {value : Value} (closed : value.opened = value) :
      Becomes s (levels + 1) (.atom value) ⟨.atom value, []⟩
  | content {levels : Nat} {text : String} {content : Value} {made : Made}
      (read : containerOf? text = some content)
      (held : Holds s.heap (content.rehydrateWithin (levels + 1)) made.item made.cells) :
      Becomes s (levels + 1) (.atom (.text text)) made

/-- A cell that was first visited at a depth has a copy: with the same keys, and with what the
items become on the levels that are left. -/
structure Copied (heap : Heap) (s : Copying) (visit : Nat × Nat) (copy : Copy) : Prop where
  shallow : visit.2 < Value.rehydrationLevels
  known : s.copies.lookup visit.1 = some copy.place
  filled : ∃ cell, heap[visit.1]? = some cell
    ∧ s.heap[copy.place]? = some (.gathered cell.keys (copy.made.map Made.item))
    ∧ List.Forall₂ (Becomes s (Value.rehydrationLevels - 1 - visit.2)) cell.items copy.made

variable {heap : Heap} {s s' : Copying}

theorem Becomes.mono {levels : Nat} {item : Item} {made : Made} (h : Becomes s levels item made)
    (hcopies : ∀ place copy, s.copies.lookup place = some copy → s'.copies.lookup place = some copy)
    (hkept : ∀ place ∈ made.cells, s'.heap[place]? = s.heap[place]?) :
    Becomes s' levels item made := by
  cases h with
  | kept => exact .kept item
  | ref known => exact .ref (hcopies _ _ known)
  | scalar closed => exact .scalar closed
  | content read held => exact .content read (held.of_kept hkept)

theorem Becomes.lt_size {levels : Nat} {item : Item} {made : Made}
    (h : Becomes s levels item made) : ∀ place ∈ made.cells, place < s.heap.size := by
  cases h with
  | content read held => exact held.lt_size
  | _ => exact nofun

/-- Copies stay what they are if their cells stay and no copy is forgotten. -/
theorem Copied.mono {visit : Nat × Nat} {copy : Copy} (h : Copied heap s visit copy)
    (hcopies : ∀ place copy, s.copies.lookup place = some copy → s'.copies.lookup place = some copy)
    (hkept : ∀ place ∈ copy.cells, s'.heap[place]? = s.heap[place]?) :
    Copied heap s' visit copy := by
  obtain ⟨cell, hcell, hfound, hitems⟩ := h.filled
  refine ⟨h.shallow, hcopies _ _ h.known, cell, hcell,
    (hkept _ List.mem_cons_self).trans hfound, ?_⟩
  refine forall₂_of_mem hitems fun made hmade item h => h.mono hcopies fun place hplace => ?_
  exact hkept place (List.mem_cons_of_mem _ (List.mem_flatMap.mpr ⟨made, hmade, hplace⟩))

/-! ### What a walk over a graph preserves -/

/-- A walk has come so far: the heap is still there, and the cells that have been copied are
those that have been visited. -/
structure Tracks (heap : Heap) (seen : List (Nat × Nat)) (s : Copying) : Prop where
  sound : s.Sound
  kept : heap.Extends s.heap
  once : (seen.map Prod.fst).Nodup
  known : ∀ place < heap.size,
    (∃ copy, s.copies.lookup place = some copy) ↔ place ∈ seen.map Prod.fst

/-- A walk has gone on from `s` to `s'`: it has visited more cells, each of which has its copy now,
and has made values in some cells; all this stands in new cells, which are all different. -/
structure Walked (heap : Heap) (seen visited : List (Nat × Nat)) (s s' : Copying)
    (copies : List Copy) (cells : List Nat) : Prop where
  grows : s.Extends s'
  tracks : Tracks heap (seen ++ visited) s'
  copied : List.Forall₂ (Copied heap s') visited copies
  region : Region s.heap.size s'.heap.size (cells ++ copies.flatMap Copy.cells)

theorem Tracks.lookup_eq_none {seen : List (Nat × Nat)} (h : Tracks heap seen s) {place : Nat}
    (hplace : place < heap.size) (hnew : place ∉ seen.map Prod.fst) :
    s.copies.lookup place = none := by
  refine Option.eq_none_iff_forall_ne_some.mpr fun copy hcopy => hnew ?_
  exact (h.known place hplace).mp ⟨copy, hcopy⟩

/-- The cell that is visited next has a copy reserved for it. -/
theorem Tracks.reserved {seen : List (Nat × Nat)} (h : Tracks heap seen s) {place : Nat}
    (hplace : place < heap.size) (hnew : place ∉ seen.map Prod.fst) (cell : Cell) (depth : Nat) :
    Tracks heap (seen ++ [(place, depth)]) (s.reserved place cell) := by
  have hnone := h.lookup_eq_none hplace hnew
  refine ⟨h.sound.reserved hnone (hplace.trans_le h.kept.size),
    h.kept.trans (Copying.extends_reserved hnone cell).heap, ?_, fun other hother => ?_⟩
  · rw [List.map_append, List.nodup_append]
    refine ⟨h.once, List.nodup_singleton _, fun other hother more hmore => ?_⟩
    rw [List.mem_singleton.mp hmore]
    rintro rfl
    exact hnew hother
  · rw [Copying.lookup_reserved, List.map_append, List.mem_append, ← h.known other hother]
    by_cases heq : other = place
    · simp [heq]
    · simp [heq]

theorem Walked.refl {seen : List (Nat × Nat)} (h : Tracks heap seen s) :
    Walked heap seen [] s s [] [] :=
  ⟨.refl s, by rwa [List.append_nil], .nil, .nil _ _⟩

theorem Walked.trans {seen visited more : List (Nat × Nat)} {mid : Copying}
    {copies others : List Copy} {cells places : List Nat}
    (h : Walked heap seen visited s mid copies cells)
    (h' : Walked heap (seen ++ visited) more mid s' others places) :
    Walked heap seen (visited ++ more) s s' (copies ++ others) (cells ++ places) := by
  refine ⟨h.grows.trans h'.grows, by simpa using h'.tracks, ?_, ?_⟩
  · refine List.rel_append (forall₂_of_mem h.copied fun copy hcopy visit hcopied => ?_) h'.copied
    refine hcopied.mono h'.grows.copies fun place hplace => h'.grows.heap.kept place ?_
    refine (h.region.within place (List.mem_append_right _ ?_)).2
    exact List.mem_flatMap.mpr ⟨copy, hcopy, hplace⟩
  · refine (h.region.append h'.region h.grows.heap.size h'.grows.heap.size).perm ?_
    rw [List.flatMap_append, List.append_assoc, List.append_assoc]
    refine List.Perm.append_left cells ?_
    rw [← List.append_assoc, ← List.append_assoc]
    exact List.perm_append_comm.append_right _

/-- A walk goes through a graph as its cells are visited with so many levels left. -/
def Visits (heap : Heap) (walk : Item → Walk Item) (levels : Nat)
    (visit : List (Nat × Nat) → Item → List (Nat × Nat)) : Prop :=
  ∀ ⦃s : Copying⦄ ⦃seen : List (Nat × Nat)⦄ ⦃item : Item⦄, Tracks heap seen s →
    item.Within heap → ∃ made s' visited copies, (walk item).run s = (made.item, s')
      ∧ visit seen item = seen ++ visited ∧ Walked heap seen visited s s' copies made.cells
      ∧ Becomes s' levels item made

section Walking

variable {walk : Item → Walk Item} {levels : Nat}
  {visit : List (Nat × Nat) → Item → List (Nat × Nat)} {seen : List (Nat × Nat)}

theorem Visits.mapM (h : Visits heap walk levels visit) {items : List Item}
    (htracks : Tracks heap seen s) (hwithin : ∀ item ∈ items, item.Within heap) :
    ∃ (made : List Made) (s' : Copying) (visited : List (Nat × Nat)) (copies : List Copy),
      (items.mapM walk).run s = (made.map Made.item, s')
      ∧ items.foldl visit seen = seen ++ visited
      ∧ Walked heap seen visited s s' copies (made.flatMap Made.cells)
      ∧ List.Forall₂ (Becomes s' levels) items made := by
  induction items generalizing s seen with
  | nil => exact ⟨[], s, [], [], rfl, by simp, .refl htracks, .nil⟩
  | cons item rest ih =>
      obtain ⟨hitem, hrest⟩ := List.forall_mem_cons.mp hwithin
      obtain ⟨made, mid, visited, copies, hrun, hvisit, hwalked, hbecomes⟩ := h htracks hitem
      obtain ⟨mades, s', more, others, hruns, hvisits, hwalked', hall⟩ := ih hwalked.tracks hrest
      refine ⟨made :: mades, s', visited ++ more, copies ++ others, ?_, ?_,
        hwalked.trans hwalked', .cons ?_ hall⟩
      · rw [List.mapM_cons]
        simp only [run_bind, hrun, hruns]
        rfl
      · rw [List.foldl_cons, hvisit, hvisits, List.append_assoc]
      · exact hbecomes.mono hwalked'.grows.copies fun place hplace =>
          hwalked'.grows.heap.kept place (hbecomes.lt_size place hplace)

/-- A cell that has not been visited is copied, and the walk goes on behind its items. -/
theorem Visits.copyOf (h : Visits heap walk levels visit) (hclosed : heap.Closed)
    {place depth : Nat} (hdepth : levels + 1 + depth = Value.rehydrationLevels)
    (htracks : Tracks heap seen s) (hplace : place < heap.size)
    (hnew : place ∉ seen.map Prod.fst) :
    ∃ (s' : Copying) (visited : List (Nat × Nat)) (copies : List Copy),
      (Graph.copyOf walk place).run s = (.ref s.heap.size, s')
      ∧ (heap.getD place default).items.foldl visit (seen ++ [(place, depth)]) = seen ++ visited
      ∧ Walked heap seen visited s s' copies []
      ∧ s'.copies.lookup place = some s.heap.size := by
  set cell := heap.getD place default with hcell
  have hstored : heap[place]? = some cell := by simp [hcell, hplace]
  have hfound : s.heap[place]? = some cell := (htracks.kept.kept place hplace).trans hstored
  have hnone := htracks.lookup_eq_none hplace hnew
  have hsize := Copying.size_reserved s place cell
  obtain ⟨made, s', visited, copies, hrun, hvisit, hwalked, hall⟩ :=
    h.mapM (htracks.reserved hplace hnew cell depth) (hclosed place cell hstored)
  -- Whatever has been made inside lies behind the place of the copy.
  have hbehind : ∀ other ∈ made.flatMap Made.cells ++ copies.flatMap Copy.cells,
      s.heap.size < other ∧ other < s'.heap.size := by
    intro other hother
    have hwithin := hwalked.region.within other hother
    omega
  set content := Cell.gathered cell.keys (made.map Made.item)
  have hkept : ∀ other ∈ made.flatMap Made.cells ++ copies.flatMap Copy.cells,
      (s'.filled s.heap.size content).heap[other]? = s'.heap[other]? :=
    fun other hother => Copying.filled_kept s' content (hbehind other hother).1.ne'
  have hgrows := hwalked.grows.filled hnone content
  have hknown : s'.copies.lookup place = some s.heap.size :=
    hwalked.grows.copies place _ ((Copying.lookup_reserved ..).trans (if_pos rfl))
  have hcopied : Copied heap (s'.filled s.heap.size content) (place, depth)
      ⟨s.heap.size, made⟩ := by
    refine ⟨by omega, hknown, cell, hstored,
      Copying.filled_found hwalked.grows.size_lt content, ?_⟩
    rw [show Value.rehydrationLevels - 1 - depth = levels by omega]
    refine forall₂_of_mem hall fun one hone item hbecomes => ?_
    exact hbecomes.mono (fun _ _ => id) fun other hother =>
      hkept other (List.mem_append_left _ (List.mem_flatMap.mpr ⟨one, hone, hother⟩))
  have hothers : List.Forall₂ (Copied heap (s'.filled s.heap.size content)) visited copies := by
    refine forall₂_of_mem hwalked.copied fun copy hcopy visit hcopied => ?_
    exact hcopied.mono (fun _ _ => id) fun other hother =>
      hkept other (List.mem_append_right _ (List.mem_flatMap.mpr ⟨copy, hcopy, hother⟩))
  have htracks' := hwalked.tracks
  rw [List.append_assoc, List.singleton_append] at htracks' hvisit
  refine ⟨s'.filled s.heap.size content, (place, depth) :: visited, ⟨s.heap.size, made⟩ :: copies,
    run_copyOf_new hnone hfound hrun, hvisit,
    ⟨hgrows, ⟨htracks'.sound.grown (Copying.filled_size ..).ge, htracks.kept.trans hgrows.heap,
      htracks'.once, htracks'.known⟩, .cons hcopied hothers, ?_⟩, hknown⟩
  rw [List.nil_append, List.flatMap_cons, Copying.filled_size]
  refine ⟨List.nodup_cons.mpr ⟨fun hmem => (hbehind _ hmem).1.false, hwalked.region.nodup⟩,
    fun other hother => ?_⟩
  rcases List.mem_cons.mp hother with rfl | hmem
  · exact ⟨le_rfl, hwalked.grows.size_lt⟩
  · exact ⟨(hbehind other hmem).1.le, (hbehind other hmem).2⟩

end Walking

/-- A value that holds nothing is kept if there is nothing in it to open. -/
theorem becomes_closed {levels : Nat} {value : Value} {item : Item} {cells : List Nat}
    (plain : value.IsAtom) (closed : value.opened = value)
    (held : Holds s.heap (value.rehydrateWithin (levels + 1)) item cells) :
    Becomes s (levels + 1) (.atom value) ⟨item, cells⟩ := by
  rw [Value.rehydrateWithin_eq_opened (closed.symm ▸ plain), closed] at held
  cases held with
  | atom => exact .scalar closed
  | container => exact absurd plain (Value.not_isAtom_gathered _ _)

/-- What is held of a value that holds nothing itself. -/
theorem becomes_atom {levels : Nat} {value : Value} {item : Item} {cells : List Nat}
    (plain : value.IsAtom) (held : Holds s.heap (value.rehydrateWithin (levels + 1)) item cells) :
    Becomes s (levels + 1) (.atom value) ⟨item, cells⟩ := by
  cases value with
  | text text =>
      cases hread : containerOf? text with
      | none => exact becomes_closed plain (by rw [Value.opened, hread]; rfl) held
      | some content =>
          have hcontent : content.opened = content :=
            Value.opened_of_kind (containerOf?_eq_some.mp hread).2.2
          have hopened : (Value.text text).opened = content.opened := by
            rw [hcontent, Value.opened, hread]
            rfl
          exact .content hread (Value.rehydrateWithin_of_opened hopened ▸ held)
  | list items => exact plain.elim
  | object fields => exact plain.elim
  | _ => exact becomes_closed plain rfl held

/-- **The walk of rehydration goes through a graph as its cells are visited.** -/
theorem visits_rehydrateItem (hclosed : heap.Closed) (levels : Nat) {depth : Nat}
    (hdepth : levels + depth = Value.rehydrationLevels) :
    Visits heap (rehydrateItem levels) levels (visitedFrom heap levels depth) := by
  induction levels generalizing depth with
  | zero =>
      intro s seen item htracks _
      exact ⟨⟨item, []⟩, s, [], [], rfl, by simp [visitedFrom], .refl htracks, .kept item⟩
  | succ levels ih =>
      intro s seen item htracks hwithin
      cases item with
      | ref place =>
          by_cases hseen : place ∈ seen.map Prod.fst
          · obtain ⟨copy, hcopy⟩ := (htracks.known place hwithin).mpr hseen
            exact ⟨⟨.ref copy, []⟩, s, [], [], run_copyOf_known hcopy,
              by simp only [visitedFrom, if_pos hseen, List.append_nil], .refl htracks, .ref hcopy⟩
          · obtain ⟨s', visited, copies, hrun, hvisit, hwalked, hknown⟩ :=
              (ih (by omega : levels + (depth + 1) = _)).copyOf hclosed hdepth htracks hwithin hseen
            exact ⟨⟨.ref s.heap.size, []⟩, s', visited, copies, hrun,
              by simp only [visitedFrom, if_neg hseen, hvisit], hwalked, .ref hknown⟩
      | atom value =>
          obtain ⟨item, s', cells, hrun, hpassed, hholds, hnodup, hfrom⟩ :=
            changes_rehydrateItem (levels + 1) htracks.sound (.atom hwithin) .nil nofun
          refine ⟨⟨item, cells⟩, s', [], [], hrun, by simp [visitedFrom],
            ⟨hpassed.toExtends, ⟨hpassed.sound, htracks.kept.trans hpassed.heap, ?_, ?_⟩, .nil, ?_⟩,
            becomes_atom hwithin hholds⟩
          · rw [List.append_nil]
            exact htracks.once
          · intro place hplace
            rw [List.append_nil, hpassed.others place (hplace.trans_le htracks.kept.size) nofun,
              htracks.known place hplace]
          · rw [List.flatMap_nil, List.append_nil]
            exact ⟨hnodup, fun place hplace =>
              ⟨(hfrom place hplace).resolve_left nofun, hholds.lt_size place hplace⟩⟩

/-! ### The copy of a graph -/

/-- The place of the copy of a cell. -/
def Copying.copyAt (s : Copying) (place : Nat) : Nat := (s.copies.lookup place).getD place

theorem Copying.copyAt_eq {place copy : Nat} (h : s.copies.lookup place = some copy) :
    s.copyAt place = copy := by
  rw [copyAt, h, Option.getD_some]

/-- What is known once has one entry. -/
theorem filter_eq_of_lookup {entries : List (Nat × Nat)} (honce : (entries.map Prod.fst).Nodup)
    {place copy : Nat} (h : entries.lookup place = some copy) :
    entries.filter (fun entry => entry.1 = place) = [(place, copy)] := by
  induction entries with
  | nil => exact nomatch h
  | cons entry rest ih =>
      obtain ⟨hentry, hrest⟩ := List.nodup_cons.mp honce
      obtain ⟨key, value⟩ := entry
      by_cases heq : key = place
      · subst heq
        rw [List.lookup_cons_self, Option.some.injEq] at h
        have hnone : rest.filter (fun entry => entry.1 = key) = [] := by
          refine List.filter_eq_nil_iff.mpr fun other hother => ?_
          simp only [decide_eq_true_eq]
          rintro rfl
          exact hentry (List.mem_map.mpr ⟨other, hother, rfl⟩)
        rw [List.filter_cons_of_pos (by simp), hnone, h]
      · rw [List.lookup_cons, beq_false_of_ne (Ne.symm heq)] at h
        rw [List.filter_cons_of_neg (by simpa using heq), ih hrest h]

/-- The cells that are reached from a cell. -/
inductive Reaches (heap : Heap) (root : Nat) : Nat → Prop
  | root : Reaches heap root root
  | item {place next : Nat} {cell : Cell} (before : Reaches heap root place)
      (found : heap[place]? = some cell) (stands : .ref next ∈ cell.items) :
      Reaches heap root next

theorem Reaches.lt_size (hclosed : heap.Closed) {root place : Nat} (h : Reaches heap root place)
    (hroot : root < heap.size) : place < heap.size := by
  induction h with
  | root => exact hroot
  | item _ found stands => exact hclosed _ _ found _ stands

/-- What an item is in the copy of a graph: a reference to a cell is one to its copy, a text of a
container is a container that holds its content, rehydrated on so many levels, and every other
value is itself. -/
inductive Mirrors (s : Copying) (levels : Nat) : Item → Made → Prop
  | ref (place : Nat) : Mirrors s levels (.ref place) ⟨.ref (s.copyAt place), []⟩
  | scalar {value : Value} (closed : value.opened = value) :
      Mirrors s levels (.atom value) ⟨.atom value, []⟩
  | content {text : String} {content : Value} {made : Made}
      (read : containerOf? text = some content)
      (held : Holds s.heap (content.rehydrateWithin levels) made.item made.cells) :
      Mirrors s levels (.atom (.text text)) made

theorem Becomes.mirrors {levels : Nat} {item : Item} {made : Made}
    (h : Becomes s (levels + 1) item made) : Mirrors s (levels + 1) item made := by
  cases h with
  | ref known =>
      rw [← Copying.copyAt_eq known]
      exact .ref _
  | scalar closed => exact .scalar closed
  | content read held => exact .content read held

/-- How a graph is rehydrated from a root. -/
structure Rehydrates (heap : Heap) (root : Nat) (s : Copying) (copies : List Copy) : Prop where
  /-- The walk ends at the copy of the root. -/
  returns : (rehydrateItem Value.rehydrationLevels (.ref root)).run ⟨heap, []⟩
    = (.ref (s.copyAt root), s)
  /-- The graph itself stays as it is. -/
  kept : heap.Extends s.heap
  /-- Every cell that is visited is copied once. -/
  once : ∀ visit ∈ firstVisits heap root,
    s.copies.filter (fun entry => entry.1 = visit.1) = [(visit.1, s.copyAt visit.1)]
  /-- In its copy, references have become references to copies, and texts their containers,
  unless the cell lies at the limit. -/
  copied : List.Forall₂ (Copied heap s) (firstVisits heap root) copies
  /-- All copies and all containers for texts stand in new cells, different from each other. -/
  fresh : Region heap.size s.heap.size (copies.flatMap Copy.cells)
  /-- If every cell that is reached is first visited above the limit, the copies mirror the
  whole graph. -/
  mirrored : (∀ place, Reaches heap root place →
      ∃ depth ≤ 199, (place, depth) ∈ firstVisits heap root) →
    Set.InjOn s.copyAt {place | Reaches heap root place} ∧
      ∀ place, Reaches heap root place → ∃ depth, (place, depth) ∈ firstVisits heap root
        ∧ ∃ cell, heap[place]? = some cell ∧ ∃ copy ∈ copies, copy.place = s.copyAt place
        ∧ s.heap[copy.place]? = some (.gathered cell.keys (copy.made.map Made.item))
        ∧ List.Forall₂ (Mirrors s (200 - depth)) cell.items copy.made

theorem place_sublist_cells (copies : List Copy) :
    (copies.map Copy.place).Sublist (copies.flatMap Copy.cells) := by
  induction copies with
  | nil => exact .slnil
  | cons copy copies ih =>
      rw [List.map_cons, List.flatMap_cons, Copy.cells, List.cons_append]
      exact (ih.trans (List.sublist_append_right _ _)).cons_cons copy.place

theorem map_copyAt {visits : List (Nat × Nat)} {copies : List Copy}
    (h : List.Forall₂ (Copied heap s) visits copies) :
    visits.map (fun visit => s.copyAt visit.1) = copies.map Copy.place := by
  induction h with
  | nil => rfl
  | cons hfirst _ ih =>
      rw [List.map_cons, List.map_cons, ih, Copying.copyAt_eq hfirst.known]

theorem exists_copied {visits : List (Nat × Nat)} {copies : List Copy}
    (h : List.Forall₂ (Copied heap s) visits copies) {visit : Nat × Nat} (hvisit : visit ∈ visits) :
    ∃ copy ∈ copies, Copied heap s visit copy := by
  induction h with
  | nil => exact nomatch hvisit
  | cons hfirst _ ih =>
      rcases List.mem_cons.mp hvisit with rfl | hmem
      · exact ⟨_, List.mem_cons_self, hfirst⟩
      · obtain ⟨copy, hcopy, hcopied⟩ := ih hmem
        exact ⟨copy, List.mem_cons_of_mem _ hcopy, hcopied⟩

/-- The copy of a cell that was first visited above the limit mirrors the cell. -/
theorem Copied.mirrors {visit : Nat × Nat} {copy : Copy} (h : Copied heap s visit copy)
    (habove : visit.2 ≤ 199) : ∃ cell, heap[visit.1]? = some cell
      ∧ s.heap[copy.place]? = some (.gathered cell.keys (copy.made.map Made.item))
      ∧ List.Forall₂ (Mirrors s (200 - visit.2)) cell.items copy.made := by
  obtain ⟨cell, hcell, hfound, hitems⟩ := h.filled
  obtain ⟨levels, hlevels⟩ : ∃ levels, 200 - visit.2 = levels + 1 := ⟨199 - visit.2, by omega⟩
  refine ⟨cell, hcell, hfound, ?_⟩
  rw [hlevels]
  exact hitems.imp fun item made hbecomes => (hlevels ▸ hbecomes : Becomes s (levels + 1) _ _).mirrors

/-- **Rehydration copies a graph with its sharing and its cycles.** -/
theorem exists_rehydrates (hclosed : heap.Closed) {root : Nat} (hroot : root < heap.size) :
    ∃ s copies, Rehydrates heap root s copies := by
  have hstart : Tracks heap [] ⟨heap, []⟩ :=
    ⟨⟨.nil, nofun⟩, .refl heap, .nil, fun place _ => by simp⟩
  obtain ⟨⟨item, cells⟩, s, visited, copies, hrun, hvisit, hwalked, hbecomes⟩ :=
    visits_rehydrateItem hclosed Value.rehydrationLevels (Nat.add_zero _) hstart
      (show (Item.ref root).Within heap from hroot)
  obtain rfl : firstVisits heap root = visited := hvisit
  have hfresh := hwalked.region
  have hknown : ∀ visit ∈ firstVisits heap root,
      s.copies.lookup visit.1 = some (s.copyAt visit.1) := by
    intro visit hmem
    obtain ⟨copy, -, hcopied⟩ := exists_copied hwalked.copied hmem
    rw [hcopied.known, Copying.copyAt_eq hcopied.known]
  have hplaces : ((firstVisits heap root).map fun visit => s.copyAt visit.1).Nodup := by
    rw [map_copyAt hwalked.copied]
    exact (List.nodup_append.mp hfresh.nodup).2.1.sublist (place_sublist_cells copies)
  refine ⟨s, copies, ?_, hwalked.grows.heap,
    fun visit hmem => filter_eq_of_lookup hwalked.tracks.sound.once (hknown visit hmem),
    hwalked.copied, ?_, fun habove => ⟨?_, ?_⟩⟩
  · cases hbecomes with
    | ref known => rw [hrun, Copying.copyAt_eq known]
  · cases hbecomes
    exact hfresh
  · intro first hfirst second hsecond heq
    obtain ⟨depth, -, hfirst⟩ := habove first hfirst
    obtain ⟨depth', -, hsecond⟩ := habove second hsecond
    exact congrArg Prod.fst (List.inj_on_of_nodup_map hplaces hfirst hsecond heq)
  · intro place hplace
    obtain ⟨depth, hdepth, hmem⟩ := habove place hplace
    obtain ⟨copy, hcopy, hcopied⟩ := exists_copied hwalked.copied hmem
    obtain ⟨cell, hcell, hfound, hitems⟩ := hcopied.mirrors hdepth
    exact ⟨depth, hmem, cell, hcell, copy, hcopy, (Copying.copyAt_eq hcopied.known).symm, hfound,
      hitems⟩

/-- An object that holds itself, a list that holds it too and itself, and a text of a container. -/
def loop : Heap :=
  #[.object [("child", .atom (.text "[1]")), ("self", .ref 0), ("rows", .ref 1)],
    .list [.ref 0, .ref 1]]

theorem loop_rehydrates :
    loop.Closed ∧ 0 < loop.size
    ∧ (∀ place, Reaches loop 0 place → ∃ depth ≤ 199, (place, depth) ∈ firstVisits loop 0)
    ∧ ∃ s copies, Rehydrates loop 0 s copies ∧ s.copyAt 0 ≠ s.copyAt 1 := by
  have hfirst : ∀ item ∈ [.atom (.text "[1]"), .ref 0, .ref 1], Item.Within loop item := by
    simp [Item.Within, Value.IsAtom, loop]
  have hsecond : ∀ item ∈ [.ref 0, .ref 1], Item.Within loop item := by
    simp [Item.Within, loop]
  have hclosed : loop.Closed := by
    intro place cell hcell
    match place, hcell with
    | 0, hcell => exact Option.some.inj hcell ▸ hfirst
    | 1, hcell => exact Option.some.inj hcell ▸ hsecond
    | _ + 2, hcell => exact nomatch hcell
  have hvisits : firstVisits loop 0 = [(0, 0), (1, 1)] := by decide
  have habove : ∀ place, Reaches loop 0 place →
      ∃ depth ≤ 199, (place, depth) ∈ firstVisits loop 0 := by
    intro place hplace
    have hlt : place < 2 := hplace.lt_size hclosed (Nat.zero_lt_succ 1)
    rw [hvisits]
    interval_cases place
    · exact ⟨0, by decide, by decide⟩
    · exact ⟨1, by decide, by decide⟩
  obtain ⟨s, copies, hrehydrates⟩ := exists_rehydrates hclosed (Nat.zero_lt_succ 1 : 0 < loop.size)
  have hstands : .ref 1 ∈ [.atom (.text "[1]"), .ref 0, Item.ref 1] := by simp
  have hrows : Reaches loop 0 1 := .item .root rfl hstands
  refine ⟨hclosed, Nat.zero_lt_succ 1, habove, s, copies, hrehydrates, fun heq => ?_⟩
  exact absurd ((hrehydrates.mirrored habove).1 .root hrows heq) Nat.zero_ne_one

end Paperwork.Graph
