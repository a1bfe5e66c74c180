import Fmofp.Rendering.GridQueries

/-! The two dictionaries of the grid and the counts of them.  An id is in the cells of its object's square and in no
others, unless it was inserted again without being removed; the number of cells is counted again by every operation
but `resize`. -/

namespace Fmofp.Rendering

open Python Machine

/-- A dictionary of objects, each id of which is in it once. -/
structure Objects where
  entries : Dict String Object
  nodup : (entries.map Prod.fst).Nodup

/-- The grid with the `stats` of its two dictionaries. -/
structure CountedGrid where
  grid : SpatialGrid
  objectCount : ℕ
  cellCount : ℕ

inductive Change where
  | insert (objId : String) (obj : Object)
  | update (objId : String) (obj : Object)
  | remove (objId : String)
  | clear
  | resize (width height : ℚ)
  | updateAll (objects : Objects)

namespace CountedGrid

def start (width height cellSize : ℚ) : CountedGrid := ⟨.start width height cellSize, 0, 0⟩

/-- The counts are taken from the dictionaries. -/
def counted (g : SpatialGrid) : CountedGrid := ⟨g, g.objects.length, g.grid.length⟩

variable (s : CountedGrid)

def insert (objId : String) (obj : Object) : CountedGrid := counted (s.grid.insert objId obj)

def remove (objId : String) : CountedGrid := counted (s.grid.remove objId)

def update (objId : String) (obj : Object) : CountedGrid := (s.remove objId).insert objId obj

def clear : CountedGrid := ⟨s.grid.clear, 0, 0⟩

/-- The counts stay. -/
def resize (width height : ℚ) : CountedGrid := { s with grid := s.grid.resize width height }

def updateAll (objects : Dict String Object) : CountedGrid :=
  let filled := objects.foldl (fun s e => s.insert e.1 e.2) { s with grid := s.grid.clear }
  (s.grid.objects.map Prod.fst).foldl (fun s objId => if Dict.has objects objId then s else s.remove objId) filled

def step (s : CountedGrid) : Change → Unit × CountedGrid
  | .insert objId obj => ((), s.insert objId obj)
  | .update objId obj => ((), s.update objId obj)
  | .remove objId => ((), s.remove objId)
  | .clear => ((), s.clear)
  | .resize width height => ((), s.resize width height)
  | .updateAll objects => ((), s.updateAll objects.entries)

end CountedGrid

namespace SpatialGrid

/-- An id is in a cell exactly when an object is stored under it whose square has the cell. -/
def InPlace (g : SpatialGrid) : Prop :=
  ∀ id c, InCell g.grid id c ↔ ∃ obj, (id, obj) ∈ g.objects ∧ c ∈ g.getCellsForRect obj.square

/-- The cells of the squares of all objects. -/
def occupiedCells (g : SpatialGrid) : Finset Cell :=
  (g.objects.flatMap fun e => g.getCellsForRect e.2.square).toFinset

/-- The grid with other dimensions, before it is rebuilt. -/
def resized (g : SpatialGrid) (width height : ℚ) : SpatialGrid :=
  { g with width, height, cols := ⌈width / g.cellSize⌉, rows := ⌈height / g.cellSize⌉ }

end SpatialGrid

namespace CountedGrid

/-- No id is out of place, no cell of the dictionary is empty, and the counts are the sizes of the dictionaries. -/
structure Represents (s : CountedGrid) : Prop where
  inPlace : s.grid.InPlace
  nonempty : ∀ e ∈ s.grid.grid, e.2 ≠ []
  objectCount : s.objectCount = s.grid.objects.length
  cellCount : s.cellCount = s.grid.grid.length

/-- An id that is stored is inserted only where its square has all the cells of the old one, and the grid is resized
only to dimensions at which the objects have as many cells as before. -/
def Keeps (s : CountedGrid) : Change → Prop
  | .insert objId obj => ∀ old, (objId, old) ∈ s.grid.objects →
      ∀ c ∈ s.grid.getCellsForRect old.square, c ∈ s.grid.getCellsForRect obj.square
  | .resize width height => (s.grid.resized width height).occupiedCells.card = s.grid.occupiedCells.card
  | _ => True

end CountedGrid

namespace SpatialGrid

/-! ### Dictionaries -/

/-- The cells are distinct, and none is empty. -/
def Tidy (grid : Dict Cell (List String)) : Prop := (grid.map Prod.fst).Nodup ∧ ∀ e ∈ grid, e.2 ≠ []

theorem tidy_foldl_addToCell {grid : Dict Cell (List String)} (h : Tidy grid) (objId : String) (cells : List Cell) :
    Tidy (cells.foldl (addToCell objId) grid) := by
  induction cells generalizing grid with
  | nil => exact h
  | cons cell cells ih =>
    refine ih ⟨Dict.nodup_keys_set h.1 _ _, fun e he => ?_⟩
    rcases Dict.mem_set he with rfl | hold
    · exact List.ne_nil_of_mem List.mem_insert_self
    · exact h.2 e hold

theorem mem_foldl_erase {grid : Dict Cell (List String)} {cells : List Cell} {e : Cell × List String} :
    e ∈ cells.foldl Dict.erase grid ↔ e ∈ grid ∧ e.1 ∉ cells := by
  induction cells generalizing grid with
  | nil => simp
  | cons cell cells ih =>
    rw [List.foldl_cons, ih, Dict.erase, List.mem_filter, decide_eq_true_eq, List.mem_cons, not_or]
    tauto

theorem nodup_foldl_erase {grid : Dict Cell (List String)} (h : (grid.map Prod.fst).Nodup) (cells : List Cell) :
    ((cells.foldl Dict.erase grid).map Prod.fst).Nodup := by
  induction cells generalizing grid with
  | nil => exact h
  | cons cell cells ih => exact ih (Dict.nodup_keys_erase h cell)

theorem tidy_remove {g : SpatialGrid} (h : Tidy g.grid) (objId : String) : Tidy (g.remove objId).grid := by
  have hkeys : ((g.grid.map fun e => (e.1, e.2.filter fun id => decide (id ≠ objId))).map Prod.fst).Nodup := by
    rw [List.map_map]
    exact h.1
  refine ⟨nodup_foldl_erase hkeys _, fun e he hnil => ?_⟩
  obtain ⟨hmem, hnot⟩ := mem_foldl_erase.mp he
  apply hnot
  refine List.mem_filter.mpr ⟨List.mem_map_of_mem hmem, ?_⟩
  rw [Dict.getD, Dict.get?_of_mem hkeys hmem, Option.getD_some, hnil]
  rfl

theorem tidy_insertObject {g : SpatialGrid} (h : Tidy g.grid) (objId : String) (obj : Object) :
    Tidy (g.insertObject objId obj).grid := tidy_foldl_addToCell h objId _

theorem tidy_foldl_insertObject {g : SpatialGrid} (h : Tidy g.grid) (objects : Dict String Object) :
    Tidy (objects.foldl (fun g e => g.insertObject e.1 e.2) g).grid := by
  induction objects generalizing g with
  | nil => exact h
  | cons e objects ih => exact ih (tidy_insertObject h e.1 e.2)

/-! ### Objects -/

theorem mem_set_iff {objects : Dict String Object} (h : (objects.map Prod.fst).Nodup) {objId id : String}
    {obj obj' : Object} : (id, obj') ∈ Dict.set objects objId obj ↔
      id = objId ∧ obj' = obj ∨ id ≠ objId ∧ (id, obj') ∈ objects := by
  have hget {d : Dict String Object} (hd : (d.map Prod.fst).Nodup) {v : Object} :
      (id, v) ∈ d ↔ Dict.get? d id = some v := ⟨Dict.get?_of_mem hd, Dict.mem_of_get?_eq_some⟩
  rw [hget (Dict.nodup_keys_set h objId obj), hget h, Dict.get?_set]
  by_cases hid : objId = id
  · subst hid
    simp [eq_comm]
  · rw [if_neg hid]
    simp [Ne.symm hid]

/-- In place is what the squares of the objects are. -/
theorem inPlace_iff {g : SpatialGrid} : g.InPlace ↔ g.Tracks (squares g.objects) := by
  have hsquares (id : String) (c : Cell) : (∃ obj, (id, obj) ∈ g.objects ∧ c ∈ g.getCellsForRect obj.square) ↔
      ∃ r ∈ squares g.objects id, c ∈ g.getCellsForRect r := by
    constructor
    · rintro ⟨obj, hobj, hc⟩
      exact ⟨obj.square, ⟨(id, obj), hobj, rfl, rfl⟩, hc⟩
    · rintro ⟨r, ⟨⟨id', obj⟩, hobj, rfl, rfl⟩, hc⟩
      exact ⟨obj, hobj, hc⟩
  constructor
  · intro h
    refine ⟨fun id c => (h id c).trans (hsquares id c), fun id obj hobj => ?_⟩
    exact ⟨(id, obj), Dict.mem_of_get?_eq_some hobj, rfl, rfl⟩
  · exact fun h id c => (h.cells id c).trans (hsquares id c).symm

/-- The invariant of the dictionaries. -/
structure Indexed (g : SpatialGrid) : Prop where
  tidy : Tidy g.grid
  objects : (g.objects.map Prod.fst).Nodup
  inPlace : g.InPlace

variable {g : SpatialGrid}

theorem indexed_remove (h : g.Indexed) (objId : String) : (g.remove objId).Indexed := by
  refine ⟨tidy_remove h.tidy objId, Dict.nodup_keys_erase h.objects objId, fun id c => ?_⟩
  rw [inCell_remove, h.inPlace]
  show _ ↔ ∃ obj, (id, obj) ∈ Dict.erase g.objects objId ∧ c ∈ g.getCellsForRect obj.square
  constructor
  · rintro ⟨hid, obj, hobj, hc⟩
    exact ⟨obj, List.mem_filter.mpr ⟨hobj, decide_eq_true hid⟩, hc⟩
  · rintro ⟨obj, hobj, hc⟩
    obtain ⟨hmem, hid⟩ := List.mem_filter.mp hobj
    exact ⟨of_decide_eq_true hid, obj, hmem, hc⟩

/-- An insertion leaves every id in place if and only if the old square has no other cells. -/
theorem inPlace_insert_iff (h : g.Indexed) (objId : String) (obj : Object) :
    (g.insert objId obj).InPlace ↔ ∀ old, (objId, old) ∈ g.objects →
      ∀ c ∈ g.getCellsForRect old.square, c ∈ g.getCellsForRect obj.square := by
  have hin (id : String) (c : Cell) : InCell (g.insert objId obj).grid id c ↔
      (id = objId ∧ c ∈ g.getCellsForRect obj.square) ∨ ∃ old, (id, old) ∈ g.objects ∧ c ∈ g.getCellsForRect old.square := by
    rw [← h.inPlace id c]
    exact inCell_insertObject { g with objects := Dict.set g.objects objId obj } objId id obj c
  have hstored (id : String) (c : Cell) :
      (∃ new, (id, new) ∈ (g.insert objId obj).objects ∧ c ∈ (g.insert objId obj).getCellsForRect new.square) ↔
        (id = objId ∧ c ∈ g.getCellsForRect obj.square) ∨
          id ≠ objId ∧ ∃ old, (id, old) ∈ g.objects ∧ c ∈ g.getCellsForRect old.square := by
    show (∃ new, (id, new) ∈ Dict.set g.objects objId obj ∧ c ∈ g.getCellsForRect new.square) ↔ _
    constructor
    · rintro ⟨new, hnew, hc⟩
      rcases (mem_set_iff h.objects).mp hnew with ⟨hid, rfl⟩ | ⟨hid, hold⟩
      · exact .inl ⟨hid, hc⟩
      · exact .inr ⟨hid, new, hold, hc⟩
    · rintro (⟨hid, hc⟩ | ⟨hid, old, hold, hc⟩)
      · exact ⟨obj, (mem_set_iff h.objects).mpr (.inl ⟨hid, rfl⟩), hc⟩
      · exact ⟨old, (mem_set_iff h.objects).mpr (.inr ⟨hid, hold⟩), hc⟩
  constructor
  · intro hplace old hold c hc
    rcases (hstored objId c).mp ((hplace objId c).mp ((hin objId c).mpr (.inr ⟨old, hold, hc⟩))) with ⟨-, hnew⟩ | ⟨hne, -⟩
    · exact hnew
    · exact absurd rfl hne
  · intro hcovers id c
    rw [hin, hstored]
    by_cases hid : id = objId
    · subst hid
      constructor
      · rintro (hnew | ⟨old, hold, hc⟩)
        · exact .inl hnew
        · exact .inl ⟨rfl, hcovers old hold c hc⟩
      · rintro (hnew | ⟨hne, -⟩)
        · exact .inl hnew
        · exact absurd rfl hne
    · simp [hid]

theorem indexed_insert (h : g.Indexed) {objId : String} {obj : Object} (hplace : (g.insert objId obj).InPlace) :
    (g.insert objId obj).Indexed :=
  ⟨tidy_foldl_addToCell h.tidy objId _, Dict.nodup_keys_set h.objects objId obj, hplace⟩

theorem indexed_insert_of_absent (h : g.Indexed) {objId : String} (habsent : ∀ old, (objId, old) ∉ g.objects)
    (obj : Object) : (g.insert objId obj).Indexed :=
  indexed_insert h ((inPlace_insert_iff h objId obj).mpr fun old hold => absurd hold (habsent old))

theorem indexed_clear (g : SpatialGrid) : g.clear.Indexed := by
  refine ⟨⟨List.nodup_nil, fun e he => absurd he List.not_mem_nil⟩, List.nodup_nil, fun id c => ?_⟩
  exact iff_of_false (inCell_nil id c) fun ⟨_, hobj, _⟩ => List.not_mem_nil hobj

theorem objects_resize (g : SpatialGrid) (width height : ℚ) : (g.resize width height).objects = g.objects := by
  unfold resize
  dsimp only
  split_ifs
  · exact foldl_insertObject _ |>.1
  · rfl

theorem getCellsForRect_resize (g : SpatialGrid) (width height : ℚ) (r : Rect) :
    (g.resize width height).getCellsForRect r = (g.resized width height).getCellsForRect r := by
  unfold resize
  dsimp only
  split_ifs
  · exact (foldl_insertObject _ |>.2.1) r
  · rfl

theorem indexed_resize (h : g.Indexed) (width height : ℚ) : (g.resize width height).Indexed := by
  refine ⟨?_, ?_, ?_⟩
  · unfold resize
    dsimp only
    split_ifs
    · apply tidy_foldl_insertObject
      exact ⟨List.nodup_nil, fun e he => absurd he List.not_mem_nil⟩
    · exact h.tidy
  · rw [objects_resize]
    exact h.objects
  · have hlay : g.lay (squares g.objects) (.resize width height) = squares g.objects := by
      unfold lay
      dsimp only
      split_ifs <;> rfl
    have hstep := tracks_step (inPlace_iff.mp h.inPlace) (.resize width height)
    rw [hlay] at hstep
    rw [inPlace_iff, objects_resize]
    exact hstep

/-- The cells of the dictionary are the cells of the objects. -/
theorem length_grid (h : g.Indexed) : g.grid.length = g.occupiedCells.card := by
  have hkeys : (g.grid.map Prod.fst).toFinset = g.occupiedCells := by
    ext c
    rw [List.mem_toFinset, occupiedCells, List.mem_toFinset, List.mem_flatMap]
    constructor
    · intro hc
      obtain ⟨⟨c', ids⟩, he, rfl⟩ := List.mem_map.mp hc
      obtain ⟨id, hid⟩ := List.exists_mem_of_ne_nil ids (h.tidy.2 _ he)
      have hin : InCell g.grid id c' := by
        rw [InCell, Dict.getD, Dict.get?_of_mem h.tidy.1 he]
        exact hid
      obtain ⟨obj, hobj, hcell⟩ := (h.inPlace id c').mp hin
      exact ⟨(id, obj), hobj, hcell⟩
    · rintro ⟨⟨id, obj⟩, hobj, hcell⟩
      have hin := (h.inPlace id c).mpr ⟨obj, hobj, hcell⟩
      unfold InCell Dict.getD at hin
      cases hget : Dict.get? g.grid c with
      | none =>
        rw [hget] at hin
        exact absurd hin List.not_mem_nil
      | some ids => exact List.mem_map_of_mem (Dict.mem_of_get?_eq_some hget)
  rw [← hkeys, List.toFinset_card_of_nodup h.tidy.1, List.length_map]

end SpatialGrid

namespace CountedGrid

open SpatialGrid

variable {s : CountedGrid}

/-- The counts are the sizes of the dictionaries. -/
def Counts (s : CountedGrid) : Prop :=
  s.objectCount = s.grid.objects.length ∧ s.cellCount = s.grid.grid.length

theorem indexed_foldl_insert (h : s.grid.Indexed) {objects : Dict String Object}
    (hnodup : (objects.map Prod.fst).Nodup) (habsent : ∀ e ∈ objects, ∀ old, (e.1, old) ∉ s.grid.objects) :
    (objects.foldl (fun s e => s.insert e.1 e.2) s).grid.Indexed := by
  induction objects generalizing s with
  | nil => exact h
  | cons e objects ih =>
    rw [List.map_cons, List.nodup_cons] at hnodup
    have hfirst := indexed_insert_of_absent h (habsent e List.mem_cons_self) e.2
    refine @ih (s.insert e.1 e.2) hfirst hnodup.2 fun e' he' old hold => ?_
    rcases (mem_set_iff h.objects).mp hold with ⟨hsame, -⟩ | ⟨-, hbefore⟩
    · exact hnodup.1 (hsame ▸ List.mem_map_of_mem he')
    · exact habsent e' (List.mem_cons_of_mem _ he') old hbefore

theorem counts_foldl_insert (h : s.Counts) (objects : Dict String Object) :
    (objects.foldl (fun s e => s.insert e.1 e.2) s).Counts := by
  induction objects generalizing s with
  | nil => exact h
  | cons e objects ih => exact @ih (s.insert e.1 e.2) ⟨rfl, rfl⟩

theorem indexed_foldl_remove (h : s.grid.Indexed) (objects : Dict String Object) (ids : List String) :
    (ids.foldl (fun s objId => if Dict.has objects objId then s else s.remove objId) s).grid.Indexed := by
  induction ids generalizing s with
  | nil => exact h
  | cons objId ids ih =>
    rw [List.foldl_cons]
    split_ifs with hhas
    · exact ih h
    · exact ih (indexed_remove h objId)

theorem counts_foldl_remove (h : s.Counts) (objects : Dict String Object) (ids : List String) :
    (ids.foldl (fun s objId => if Dict.has objects objId then s else s.remove objId) s).Counts := by
  induction ids generalizing s with
  | nil => exact h
  | cons objId ids ih =>
    rw [List.foldl_cons]
    split_ifs with hhas
    · exact ih h
    · exact @ih (s.remove objId) ⟨rfl, rfl⟩

/-- Where `update_all` neither inserts nor removes, there was nothing before. -/
theorem counts_updateAll (h : s.grid.Indexed) (hcounts : s.Counts) (objects : Dict String Object) :
    (s.updateAll objects).Counts := by
  unfold updateAll
  dsimp only
  cases objects with
  | cons e objects =>
    apply counts_foldl_remove
    exact @counts_foldl_insert (CountedGrid.insert _ e.1 e.2) ⟨rfl, rfl⟩ objects
  | nil =>
    rw [List.foldl_nil]
    cases hold : s.grid.objects with
    | cons e old =>
      exact @counts_foldl_remove (CountedGrid.remove _ e.1) ⟨rfl, rfl⟩ [] _
    | nil =>
      have hcells := length_grid h
      rw [occupiedCells, hold, List.flatMap_nil, List.toFinset_nil, Finset.card_empty] at hcells
      obtain ⟨hobjectCount, hcellCount⟩ := hcounts
      rw [hold] at hobjectCount
      exact ⟨hobjectCount, hcellCount.trans hcells⟩

theorem indexed_updateAll (s : CountedGrid) (objects : Objects) : (s.updateAll objects.entries).grid.Indexed := by
  apply indexed_foldl_remove
  exact @indexed_foldl_insert { s with grid := s.grid.clear } (indexed_clear s.grid) _ objects.nodup
    fun e _ old hold => List.not_mem_nil hold

/-- What runs keep: the invariant of the dictionaries and the counts. -/
def Kept (s : CountedGrid) : Prop := s.grid.Indexed ∧ s.Counts

theorem represents_of_kept (h : s.Kept) : s.Represents :=
  ⟨h.1.inPlace, h.1.tidy.2, h.2.1, h.2.2⟩

theorem kept_step (h : s.Kept) {change : Change} (hkeeps : s.Keeps change) : (s.step change).2.Kept := by
  obtain ⟨hindexed, hcounts⟩ := h
  cases change with
  | insert objId obj =>
    exact ⟨indexed_insert hindexed ((inPlace_insert_iff hindexed objId obj).mpr hkeeps), rfl, rfl⟩
  | update objId obj =>
    refine ⟨indexed_insert_of_absent (indexed_remove hindexed objId) (fun old hold => ?_) obj, rfl, rfl⟩
    exact of_decide_eq_true (List.mem_filter.mp hold).2 rfl
  | remove objId => exact ⟨indexed_remove hindexed objId, rfl, rfl⟩
  | clear => exact ⟨indexed_clear s.grid, rfl, rfl⟩
  | resize width height =>
    have hresized := indexed_resize hindexed width height
    refine ⟨hresized, ?_, ?_⟩
    · show s.objectCount = (s.grid.resize width height).objects.length
      rw [objects_resize]
      exact hcounts.1
    · show s.cellCount = (s.grid.resize width height).grid.length
      rw [hcounts.2, length_grid hindexed, ← hkeeps, length_grid hresized]
      unfold occupiedCells
      rw [objects_resize]
      simp only [getCellsForRect_resize]
      rfl
  | updateAll objects => exact ⟨indexed_updateAll s objects, counts_updateAll hindexed hcounts objects.entries⟩

/-- A change that does not meet the condition spoils the grid. -/
theorem not_represents_step (h : s.Kept) {change : Change} (hkeeps : ¬s.Keeps change) :
    ¬(s.step change).2.Represents := by
  obtain ⟨hindexed, hcounts⟩ := h
  intro hrepresents
  apply hkeeps
  cases change with
  | insert objId obj => exact (inPlace_insert_iff hindexed objId obj).mp hrepresents.inPlace
  | resize width height =>
    have hcount : s.cellCount = (s.grid.resize width height).grid.length := hrepresents.cellCount
    rw [hcounts.2, length_grid hindexed, length_grid (indexed_resize hindexed width height)] at hcount
    show (s.grid.resized width height).occupiedCells.card = _
    rw [hcount]
    unfold occupiedCells
    rw [objects_resize]
    simp only [getCellsForRect_resize]
    rfl
  | _ => trivial

/-- The grid represents its objects throughout a run if and only if no stored id is inserted where its old square has
other cells and no resizing changes the number of cells of the objects. -/
theorem represents_iff (width height cellSize : ℚ) (changes : List Change) :
    (∀ before, before <+: changes → (final step (start width height cellSize) before).Represents) ↔
      Along step Keeps (start width height cellSize) changes := by
  have hstart : (start width height cellSize).Kept := ⟨indexed_clear (.start width height cellSize), rfl, rfl⟩
  have hstep : ∀ (s : CountedGrid) (change : Change), s.Kept → s.Keeps change → (s.step change).2.Kept :=
    fun _ _ h hkeeps => kept_step h hkeeps
  have hexact : ∀ (s : CountedGrid) (change : Change), s.Kept → ¬s.Keeps change → ¬(s.step change).2.Represents :=
    fun _ _ h hkeeps => not_represents_step h hkeeps
  exact (along_iff_of_exact hstep (fun _ => represents_of_kept) hexact hstart changes).symm

/-- The object is inserted a second time elsewhere and stays in the cell that it has left. -/
theorem stale_cell :
    ¬∀ (width height cellSize : ℚ) (changes before : List Change), before <+: changes →
      (final step (start width height cellSize) before).Represents := by
  intro h
  have hrepresents := h 100 100 10 _ _
    (List.prefix_refl [.insert "rain" ⟨some 55, some 5, some 2⟩, .insert "rain" ⟨some 85, some 5, some 2⟩])
  obtain ⟨obj, hobj, hcell⟩ := (hrepresents.inPlace "rain" (5, 0)).mp (by unfold InCell; decide +kernel)
  have hobjects : (final step (start 100 100 10)
      [.insert "rain" ⟨some 55, some 5, some 2⟩, .insert "rain" ⟨some 85, some 5, some 2⟩]).grid.objects =
        [("rain", ⟨some 85, some 5, some 2⟩)] := rfl
  rw [hobjects, List.mem_singleton] at hobj
  rw [(Prod.mk.inj hobj).2] at hcell
  exact absurd hcell (by decide +kernel)

end CountedGrid

end Fmofp.Rendering
