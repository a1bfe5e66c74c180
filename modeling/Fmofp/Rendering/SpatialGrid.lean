import Fmofp.Machine.Run
import Fmofp.Python.Dict
import Fmofp.Python.Quantum

/-! Rectangles and the cells of a grid over the screen.  A coordinate is divided by the cell size,
truncated towards zero and clamped to the grid, which keeps the order of the coordinates. -/

namespace Fmofp.Rendering

open Python

structure Point where
  x : ℚ
  y : ℚ

/-- `QRectF`. -/
structure Rect where
  left : ℚ
  top : ℚ
  width : ℚ
  height : ℚ
  deriving DecidableEq

namespace Rect

def right (r : Rect) : ℚ := r.left + r.width
def bottom (r : Rect) : ℚ := r.top + r.height

/-- The point is in the rectangle, whose edges belong to it. -/
def Contains (r : Rect) (p : Point) : Prop :=
  (r.left ≤ p.x ∧ p.x ≤ r.right) ∧ r.top ≤ p.y ∧ p.y ≤ r.bottom

instance (r : Rect) (p : Point) : Decidable (r.Contains p) :=
  inferInstanceAs (Decidable ((_ ∧ _) ∧ _ ∧ _))

end Rect

/-- A cell: its column and its row. -/
abbrev Cell := ℤ × ℤ

/-- `range(a, b)`. -/
def range (a b : ℤ) : List ℤ := (List.range (b - a).toNat).map fun n : ℕ => a + n

theorem mem_range {a b n : ℤ} : n ∈ range a b ↔ a ≤ n ∧ n < b := by
  unfold range
  rw [List.mem_map]
  constructor
  · rintro ⟨k, hk, rfl⟩
    rw [List.mem_range] at hk
    omega
  · rintro ⟨ha, hb⟩
    refine ⟨(n - a).toNat, ?_, by omega⟩
    rw [List.mem_range]
    omega

/-- `max(0, min(count - 1, int(x / cell_size)))`. -/
def coordinate (cellSize : ℚ) (count : ℤ) (x : ℚ) : ℤ :=
  max 0 (min (count - 1) (truncate (x / cellSize)))

variable {cellSize : ℚ} {count : ℤ}

theorem coordinate_mono (hsize : 0 < cellSize) {x y : ℚ} (h : x ≤ y) :
    coordinate cellSize count x ≤ coordinate cellSize count y := by
  have hle := truncate_mono (div_le_div_of_nonneg_right h hsize.le)
  unfold coordinate
  omega

/-- A coordinate on the screen is in the cell that it is counted to. -/
theorem coordinate_of_screen (hsize : 0 < cellSize) {x width : ℚ} (hx : 0 ≤ x) (hwidth : x < width) :
    coordinate cellSize ⌈width / cellSize⌉ x * cellSize ≤ x ∧
      x < coordinate cellSize ⌈width / cellSize⌉ x * cellSize + cellSize := by
  have hnonneg : 0 ≤ x / cellSize := div_nonneg hx hsize.le
  have hfloor : 0 ≤ ⌊x / cellSize⌋ := Int.floor_nonneg.mpr hnonneg
  have hlt : (⌊x / cellSize⌋ : ℚ) < ⌈width / cellSize⌉ :=
    ((Int.floor_le _).trans_lt (div_lt_div_of_pos_right hwidth hsize)).trans_le (Int.le_ceil _)
  have hlt' : ⌊x / cellSize⌋ < ⌈width / cellSize⌉ := by exact_mod_cast hlt
  have hcoordinate : coordinate cellSize ⌈width / cellSize⌉ x = ⌊x / cellSize⌋ := by
    rw [coordinate, truncate, if_pos hnonneg]
    omega
  rw [hcoordinate]
  constructor
  · exact (le_div_iff₀ hsize).mp (Int.floor_le (x / cellSize))
  · have hadd := (div_lt_iff₀ hsize).mp (Int.lt_floor_add_one (x / cellSize))
    linarith

end Fmofp.Rendering

/-! `SpatialGrid`: the cells of the screen and the objects in each. -/

namespace Fmofp.Rendering

open Python Machine

/-- The entries of an object that the grid reads, where the object has them. -/
structure Object where
  x : Option ℚ
  y : Option ℚ
  size : Option ℚ

def Object.square (obj : Object) : Rect :=
  let x := obj.x.getD 0
  let y := obj.y.getD 0
  let size := obj.size.getD 1
  ⟨x - size / 2, y - size / 2, size, size⟩

structure SpatialGrid where
  width : ℚ
  height : ℚ
  cellSize : ℚ
  cols : ℤ
  rows : ℤ
  grid : Dict Cell (List String)
  objects : Dict String Object

namespace SpatialGrid

/-- `__init__`. -/
def start (width height cellSize : ℚ) : SpatialGrid :=
  ⟨width, height, cellSize, ⌈width / cellSize⌉, ⌈height / cellSize⌉, [], []⟩

variable (g : SpatialGrid)

def getCellCoords (x y : ℚ) : Cell :=
  (coordinate g.cellSize g.cols x, coordinate g.cellSize g.rows y)

/-- `_get_cells_for_rect`, whose rows end at the last column. -/
def getCellsForRect (rect : Rect) : List Cell :=
  let low := g.getCellCoords rect.left rect.top
  let high := g.getCellCoords rect.right rect.bottom
  (range low.2 (high.1 + 1)).flatMap fun row =>
    (range low.1 (high.1 + 1)).map fun col => (col, row)

/-- The object's id in one more cell. -/
def addToCell (objId : String) (grid : Dict Cell (List String)) (cell : Cell) :
    Dict Cell (List String) :=
  Dict.set grid cell (List.insert objId (Dict.getD grid cell []))

def insertObject (objId : String) (obj : Object) : SpatialGrid :=
  { g with grid := (g.getCellsForRect obj.square).foldl (addToCell objId) g.grid }

def insert (objId : String) (obj : Object) : SpatialGrid :=
  { g with objects := Dict.set g.objects objId obj }.insertObject objId obj

/-- The cells that hold nothing are deleted after the id is. -/
def remove (objId : String) : SpatialGrid :=
  let grid := g.grid.map fun e => (e.1, e.2.filter fun id => decide (id ≠ objId))
  let emptyCells := (grid.map Prod.fst).filter fun cell => (Dict.getD grid cell []).isEmpty
  { g with
    grid := emptyCells.foldl Dict.erase grid
    objects := Dict.erase g.objects objId }

def update (objId : String) (obj : Object) : SpatialGrid := (g.remove objId).insert objId obj

def clear : SpatialGrid := { g with grid := [], objects := [] }

def rebuildGrid : SpatialGrid :=
  g.objects.foldl (fun g e => g.insertObject e.1 e.2) { g with grid := [] }

def resize (width height : ℚ) : SpatialGrid :=
  let resized := { g with
    width, height, cols := ⌈width / g.cellSize⌉, rows := ⌈height / g.cellSize⌉ }
  if g.cols ≠ resized.cols ∨ g.rows ≠ resized.rows then resized.rebuildGrid else resized

def updateAll (objects : Dict String Object) : SpatialGrid :=
  let filled := objects.foldl (fun g e => g.insert e.1 e.2) g.clear
  (g.objects.map Prod.fst).foldl (fun g objId => if Dict.has objects objId then g else g.remove objId)
    filled

def queryRect (rect : Rect) : List String :=
  (g.getCellsForRect rect).foldl (fun result cell => Dict.getD g.grid cell [] ∪ result) []

end SpatialGrid

inductive Operation where
  | insert (objId : String) (obj : Object)
  | update (objId : String) (obj : Object)
  | remove (objId : String)
  | clear
  | resize (width height : ℚ)
  | updateAll (objects : Dict String Object)
  | queryRect (rect : Rect)

namespace SpatialGrid

/-- An operation; only a query answers something. -/
def step (g : SpatialGrid) : Operation → List String × SpatialGrid
  | .insert objId obj => ([], g.insert objId obj)
  | .update objId obj => ([], g.update objId obj)
  | .remove objId => ([], g.remove objId)
  | .clear => ([], g.clear)
  | .resize width height => ([], g.resize width height)
  | .updateAll objects => ([], g.updateAll objects)
  | .queryRect rect => (g.queryRect rect, g)

/-- The id is among those of the cell. -/
def InCell (grid : Dict Cell (List String)) (objId : String) (cell : Cell) : Prop :=
  objId ∈ Dict.getD grid cell []

theorem inCell_nil (objId : String) (cell : Cell) : ¬InCell [] objId cell := by
  simp [InCell, Dict.getD]

theorem inCell_addToCell (grid : Dict Cell (List String)) (objId id : String) (cell c : Cell) :
    InCell (addToCell objId grid cell) id c ↔ (id = objId ∧ c = cell) ∨ InCell grid id c := by
  unfold InCell addToCell
  rw [Dict.getD, Dict.get?_set]
  by_cases hcell : cell = c
  · subst hcell
    simp
  · rw [if_neg hcell]
    constructor
    · exact .inr
    · rintro (⟨-, hc⟩ | h)
      · exact absurd hc.symm hcell
      · exact h

theorem inCell_insertObject (g : SpatialGrid) (objId id : String) (obj : Object) (c : Cell) :
    InCell (g.insertObject objId obj).grid id c ↔
      (id = objId ∧ c ∈ g.getCellsForRect obj.square) ∨ InCell g.grid id c := by
  show InCell ((g.getCellsForRect obj.square).foldl (addToCell objId) g.grid) id c ↔ _
  generalize g.getCellsForRect obj.square = cells
  generalize g.grid = grid
  induction cells generalizing grid with
  | nil => simp
  | cons cell cells ih =>
    rw [List.foldl_cons, ih, inCell_addToCell, List.mem_cons]
    tauto

theorem get?_map_filter (grid : Dict Cell (List String)) (p : String → Bool) (c : Cell) :
    Dict.get? (grid.map fun e => (e.1, e.2.filter p)) c =
      (Dict.get? grid c).map fun ids => ids.filter p := by
  induction grid with
  | nil => rfl
  | cons e grid ih =>
    obtain ⟨cell, ids⟩ := e
    rw [List.map_cons, Dict.get?_cons, Dict.get?_cons, ih]
    split <;> rfl

theorem getD_foldl_erase (grid : Dict Cell (List String)) (cells : List Cell)
    (hempty : ∀ cell ∈ cells, Dict.getD grid cell [] = []) (c : Cell) :
    Dict.getD (cells.foldl Dict.erase grid) c [] = Dict.getD grid c [] := by
  induction cells generalizing grid with
  | nil => rfl
  | cons cell cells ih =>
    rw [List.forall_mem_cons] at hempty
    have herase : ∀ d, Dict.getD (Dict.erase grid cell) d [] = Dict.getD grid d [] := by
      intro d
      rw [Dict.getD, Dict.get?_erase]
      split_ifs with hd
      · rw [← hd, hempty.1]
        rfl
      · rfl
    rw [List.foldl_cons, ih _ fun d hd => (herase d).trans (hempty.2 d hd), herase]

theorem inCell_remove (g : SpatialGrid) (objId id : String) (c : Cell) :
    InCell (g.remove objId).grid id c ↔ id ≠ objId ∧ InCell g.grid id c := by
  unfold InCell remove
  rw [getD_foldl_erase _ _ fun cell hcell => by simpa using (List.mem_filter.mp hcell).2]
  rw [Dict.getD, Dict.getD, get?_map_filter]
  cases Dict.get? g.grid c with
  | none => simp
  | some ids => simp [and_comm]

theorem mem_queryRect (g : SpatialGrid) (rect : Rect) (id : String) :
    id ∈ g.queryRect rect ↔ ∃ cell ∈ g.getCellsForRect rect, InCell g.grid id cell := by
  have hfold : ∀ (cells : List Cell) (result : List String),
      id ∈ cells.foldl (fun result cell => Dict.getD g.grid cell [] ∪ result) result ↔
        id ∈ result ∨ ∃ cell ∈ cells, InCell g.grid id cell := by
    intro cells
    induction cells with
    | nil => simp
    | cons cell cells ih =>
      intro result
      rw [List.foldl_cons, ih, List.mem_union_iff]
      simp only [List.mem_cons, exists_eq_or_imp, InCell]
      tauto
  rw [queryRect, hfold]
  simp

end SpatialGrid

end Fmofp.Rendering
