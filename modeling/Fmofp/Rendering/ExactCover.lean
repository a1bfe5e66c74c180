import Fmofp.Rendering.Redraw

/-! The rectangles of `_merge_rects` are blocks of cells: every cell is in one of them, and in one only.  A block grows
by a cell that lies next to its only row or its only column, whatever the order of the cells is. -/

namespace Fmofp.Rendering

/-- Some columns and rows of cells. -/
structure Block where
  col : ℤ
  row : ℤ
  cols : ℕ
  rows : ℕ
  cols_pos : 0 < cols
  rows_pos : 0 < rows

namespace Block

def single (cell : Cell) : Block := ⟨cell.1, cell.2, 1, 1, Nat.one_pos, Nat.one_pos⟩

def addCol (b : Block) : Block := { b with cols := b.cols + 1, cols_pos := Nat.succ_pos _ }

def addRow (b : Block) : Block := { b with rows := b.rows + 1, rows_pos := Nat.succ_pos _ }

/-- The cell is in the block. -/
def Has (b : Block) (cell : Cell) : Prop :=
  (b.col ≤ cell.1 ∧ cell.1 < b.col + b.cols) ∧ b.row ≤ cell.2 ∧ cell.2 < b.row + b.rows

/-- No cell is in both blocks. -/
def Apart (b c : Block) : Prop := ∀ cell, ¬(b.Has cell ∧ c.Has cell)

def rect (cellSize : ℚ) (b : Block) : Rect :=
  ⟨b.col * cellSize, b.row * cellSize, b.cols * cellSize, b.rows * cellSize⟩

/-- The cell continues the only row of the block. -/
def ContinuesRow (b : Block) (cell : Cell) : Prop := b.row = cell.2 ∧ b.rows = 1 ∧ b.col + b.cols = cell.1

/-- The cell continues the only column of the block. -/
def ContinuesCol (b : Block) (cell : Cell) : Prop := b.col = cell.1 ∧ b.cols = 1 ∧ b.row + b.rows = cell.2

instance (b : Block) (cell : Cell) : Decidable (b.ContinuesRow cell) := inferInstanceAs (Decidable (_ ∧ _))
instance (b : Block) (cell : Cell) : Decidable (b.ContinuesCol cell) := inferInstanceAs (Decidable (_ ∧ _))

/-- The merging, of cells. -/
def merge (last : Block) : List Cell → List Block
  | [] => [last]
  | cell :: cells =>
    if last.ContinuesRow cell then merge last.addCol cells
    else if last.ContinuesCol cell then merge last.addRow cells
    else last :: merge (single cell) cells

/-! ### Cells -/

variable {b : Block} {cell c : Cell}

theorem has_single : (single cell).Has c ↔ c = cell := by
  unfold Has single
  dsimp only
  rw [Prod.ext_iff]
  omega

theorem has_addCol (h : b.ContinuesRow cell) : b.addCol.Has c ↔ b.Has c ∨ c = cell := by
  obtain ⟨hrow, hrows, hcol⟩ := h
  have hcols := b.cols_pos
  unfold Has addCol
  dsimp only
  rw [Prod.ext_iff]
  omega

theorem has_addRow (h : b.ContinuesCol cell) : b.addRow.Has c ↔ b.Has c ∨ c = cell := by
  obtain ⟨hcol, hcols, hrow⟩ := h
  have hrows := b.rows_pos
  unfold Has addRow
  dsimp only
  rw [Prod.ext_iff]
  omega

/-- The blocks have the cells of the first block and those of the list. -/
theorem has_merge (last : Block) (cells : List Cell) :
    (∃ b ∈ merge last cells, b.Has c) ↔ last.Has c ∨ c ∈ cells := by
  induction cells generalizing last with
  | nil => simp [merge]
  | cons cell cells ih =>
    rw [merge]
    split_ifs with hrow hcol
    · rw [ih, has_addCol hrow, List.mem_cons, or_assoc]
    · rw [ih, has_addRow hcol, List.mem_cons, or_assoc]
    · rw [List.exists_mem_cons_iff, ih, has_single, List.mem_cons]

/-- Distinct cells that the first block does not have are put into blocks that have no cell in common. -/
theorem pairwise_merge {last : Block} {cells : List Cell} (hnodup : cells.Nodup) (hlast : ∀ c ∈ cells, ¬last.Has c) :
    (merge last cells).Pairwise Apart := by
  induction cells generalizing last with
  | nil => exact List.pairwise_singleton _ _
  | cons cell cells ih =>
    obtain ⟨hcell, hcells⟩ := List.nodup_cons.mp hnodup
    rw [List.forall_mem_cons] at hlast
    have hgrown {grown : Block} (hgrown : ∀ c, grown.Has c ↔ last.Has c ∨ c = cell) : ∀ c ∈ cells, ¬grown.Has c := by
      intro c hc hhas
      rcases (hgrown c).mp hhas with hold | rfl
      · exact hlast.2 c hc hold
      · exact hcell hc
    rw [merge]
    split_ifs with hrow hcol
    · exact ih hcells (hgrown fun c => has_addCol hrow)
    · exact ih hcells (hgrown fun c => has_addRow hcol)
    · refine List.pairwise_cons.mpr ⟨fun b hb c hc => ?_, ih hcells fun c hc hhas => ?_⟩
      · -- the cells of the later blocks are not those of the last one
        rcases (has_merge (single cell) cells).mp ⟨b, hb, hc.2⟩ with hsingle | hmem
        · exact hlast.1 (has_single.mp hsingle ▸ hc.1)
        · exact hlast.2 c hmem hc.1
      · exact hcell (has_single.mp hhas ▸ hc)

/-! ### Points -/

/-- A stretch of cells is the cells one after the other. -/
theorem stretch_iff {cellSize : ℚ} (hsize : 0 < cellSize) {x : ℚ} {first : ℤ} {n : ℕ} (hn : 0 < n) :
    (first * cellSize ≤ x ∧ x ≤ first * cellSize + n * cellSize) ↔
      ∃ k : ℤ, (first ≤ k ∧ k < first + n) ∧ k * cellSize ≤ x ∧ x ≤ k * cellSize + cellSize := by
  induction n with
  | zero => omega
  | succ n ih =>
    have hlast : ((first + n : ℤ) : ℚ) * cellSize = first * cellSize + n * cellSize := by
      push_cast
      ring
    have hnext : ((n + 1 : ℕ) : ℚ) * cellSize = n * cellSize + cellSize := by
      push_cast
      ring
    rw [hnext]
    constructor
    · rintro ⟨hlow, hhigh⟩
      by_cases hpast : first * cellSize + n * cellSize ≤ x
      · refine ⟨first + n, by omega, ?_⟩
        rw [hlast]
        exact ⟨hpast, by linarith⟩
      · rw [not_le] at hpast
        have hpos : 0 < n := by
          by_contra hzero
          have hn0 : n = 0 := by omega
          rw [hn0, Nat.cast_zero, zero_mul] at hpast
          linarith
        obtain ⟨k, hk, hx⟩ := (ih hpos).mp ⟨hlow, hpast.le⟩
        exact ⟨k, by omega, hx⟩
    · rintro ⟨k, ⟨hfirst, hlt⟩, hlow, hhigh⟩
      have hk : (first : ℚ) ≤ k := by exact_mod_cast hfirst
      have hk' : (k : ℚ) ≤ first + n := by
        have hle : k ≤ first + n := by omega
        exact_mod_cast hle
      have hstart := mul_le_mul_of_nonneg_right hk hsize.le
      have hend := mul_le_mul_of_nonneg_right hk' hsize.le
      rw [add_mul] at hend
      constructor
      · linarith
      · linarith

end Block

/-- The point is inside the rectangle and not on its edges. -/
def Rect.Inside (r : Rect) (p : Point) : Prop :=
  (r.left < p.x ∧ p.x < r.right) ∧ r.top < p.y ∧ p.y < r.bottom

namespace Block

variable {cellSize : ℚ} (hsize : 0 < cellSize)
include hsize

/-- The points of a block are those of its cells. -/
theorem contains_rect (b : Block) (p : Point) :
    (b.rect cellSize).Contains p ↔ ∃ c, b.Has c ∧ ((single c).rect cellSize).Contains p := by
  have hcols := @stretch_iff cellSize hsize p.x b.col b.cols b.cols_pos
  have hrows := @stretch_iff cellSize hsize p.y b.row b.rows b.rows_pos
  unfold Rect.Contains Rect.right Rect.bottom rect Has single
  dsimp only
  rw [hcols, hrows]
  simp only [Nat.cast_one, one_mul]
  constructor
  · rintro ⟨⟨col, hcol, hx⟩, row, hrow, hy⟩
    exact ⟨(col, row), ⟨hcol, hrow⟩, hx, hy⟩
  · rintro ⟨⟨col, row⟩, ⟨hcol, hrow⟩, hx, hy⟩
    exact ⟨⟨col, hcol, hx⟩, row, hrow, hy⟩

/-- A coordinate inside of a stretch is in one of its cells. -/
theorem floor_of_inside {x : ℚ} {first : ℤ} {n : ℕ} (hlow : first * cellSize < x)
    (hhigh : x < first * cellSize + n * cellSize) : first ≤ ⌊x / cellSize⌋ ∧ ⌊x / cellSize⌋ < first + n := by
  constructor
  · apply Int.le_floor.mpr
    exact (le_div_iff₀ hsize).mpr hlow.le
  · apply Int.floor_lt.mpr
    apply (div_lt_iff₀ hsize).mpr
    push_cast
    rw [add_mul]
    exact hhigh

/-- Blocks without a common cell have no inner point in common. -/
theorem not_inside_of_apart {b c : Block} (h : b.Apart c) (p : Point) :
    ¬((b.rect cellSize).Inside p ∧ (c.rect cellSize).Inside p) := by
  rintro ⟨⟨⟨hleft, hright⟩, htop, hbottom⟩, ⟨hleft', hright'⟩, htop', hbottom'⟩
  apply h (⌊p.x / cellSize⌋, ⌊p.y / cellSize⌋)
  constructor
  · exact ⟨floor_of_inside hsize hleft hright, floor_of_inside hsize htop hbottom⟩
  · exact ⟨floor_of_inside hsize hleft' hright', floor_of_inside hsize htop' hbottom'⟩

end Block

section Merge

variable {cellSize : ℚ} (hsize : 1 / 1000 ≤ cellSize)
include hsize

theorem close_iff {m n : ℤ} : close (m * cellSize) (n * cellSize) = true ↔ m = n := by
  refine ⟨eq_of_close hsize, ?_⟩
  rintro rfl
  rw [close, sub_self, abs_zero]
  exact decide_eq_true (by norm_num)

theorem continuesRow_iff (b : Block) (cell : Cell) :
    (close (b.rect cellSize).top ((Block.single cell).rect cellSize).top &&
        close (b.rect cellSize).height ((Block.single cell).rect cellSize).height &&
        close (b.rect cellSize).right ((Block.single cell).rect cellSize).left) = true ↔ b.ContinuesRow cell := by
  have htops := @close_iff cellSize hsize b.row cell.2
  have hheights := @close_iff cellSize hsize b.rows 1
  have hedges := @close_iff cellSize hsize (b.col + b.cols) cell.1
  rw [Int.cast_natCast, Int.cast_one] at hheights
  rw [Int.cast_add, Int.cast_natCast, add_mul] at hedges
  unfold Rect.right Block.rect Block.single Block.ContinuesRow
  dsimp only
  rw [Bool.and_eq_true, Bool.and_eq_true, htops, Nat.cast_one, hheights, hedges]
  omega

theorem continuesCol_iff (b : Block) (cell : Cell) :
    (close (b.rect cellSize).left ((Block.single cell).rect cellSize).left &&
        close (b.rect cellSize).width ((Block.single cell).rect cellSize).width &&
        close (b.rect cellSize).bottom ((Block.single cell).rect cellSize).top) = true ↔ b.ContinuesCol cell :=
  continuesRow_iff hsize ⟨b.row, b.col, b.rows, b.cols, b.rows_pos, b.cols_pos⟩ (cell.2, cell.1)

/-- The rectangles are merged as the blocks are. -/
theorem mergeInto_rect (last : Block) (cells : List Cell) :
    mergeInto (last.rect cellSize) (cells.map fun cell => (Block.single cell).rect cellSize) =
      (last.merge cells).map (Block.rect cellSize) := by
  have hgrow (n : ℕ) : (n : ℚ) * cellSize + ((1 : ℕ) : ℚ) * cellSize = ((n + 1 : ℕ) : ℚ) * cellSize := by
    push_cast
    ring
  induction cells generalizing last with
  | nil => rfl
  | cons cell cells ih =>
    rw [List.map_cons, mergeInto, Block.merge]
    simp only [continuesRow_iff hsize, continuesCol_iff hsize]
    split_ifs with hrow hcol
    · have hrect : { last.rect cellSize with
          width := (last.rect cellSize).width + ((Block.single cell).rect cellSize).width } = last.addCol.rect cellSize := by
        unfold Block.rect Block.addCol Block.single
        dsimp only
        rw [hgrow]
      rw [hrect, ih]
    · have hrect : { last.rect cellSize with
          height := (last.rect cellSize).height + ((Block.single cell).rect cellSize).height } =
            last.addRow.rect cellSize := by
        unfold Block.rect Block.addRow Block.single
        dsimp only
        rw [hgrow]
      rw [hrect, ih]
    · rw [List.map_cons, ih]

end Merge

/-! ### Order -/

/-- The order of the cells in which they are merged. -/
def CellBefore (cellSize : ℚ) (c d : Cell) : Prop :=
  ((Block.single c).rect cellSize).Before ((Block.single d).rect cellSize)

instance (cellSize : ℚ) (c d : Cell) : Decidable (CellBefore cellSize c d) :=
  inferInstanceAs (Decidable (Rect.Before _ _))

section Order

variable {cellSize : ℚ} (hsize : 0 < cellSize)
include hsize

theorem cellBefore_iff {c d : Cell} : CellBefore cellSize c d ↔ c.2 < d.2 ∨ c.2 = d.2 ∧ c.1 ≤ d.1 := by
  unfold CellBefore Rect.Before Block.rect Block.single
  dsimp only
  rw [mul_lt_mul_iff_left₀ hsize, mul_left_inj' hsize.ne', mul_le_mul_iff_left₀ hsize, Int.cast_lt, Int.cast_inj,
    Int.cast_le]

/-- Two orders of the same cells are sorted the same way. -/
theorem insertionSort_perm {order cells : List Cell} (hperm : order.Perm cells) :
    order.insertionSort (CellBefore cellSize) = cells.insertionSort (CellBefore cellSize) := by
  have : Std.Total (CellBefore cellSize) := ⟨fun c d => by
    rw [cellBefore_iff hsize, cellBefore_iff hsize]
    omega⟩
  have : IsTrans Cell (CellBefore cellSize) := ⟨fun c d e hcd hde => by
    rw [cellBefore_iff hsize] at hcd hde ⊢
    omega⟩
  have hantisymm : ∀ c d, c ∈ order.insertionSort (CellBefore cellSize) → d ∈ cells.insertionSort (CellBefore cellSize) →
      CellBefore cellSize c d → CellBefore cellSize d c → c = d := by
    intro c d _ _ hcd hdc
    rw [cellBefore_iff hsize] at hcd hdc
    rw [Prod.ext_iff]
    omega
  have hsame := (List.perm_insertionSort (CellBefore cellSize) order).trans
    (hperm.trans (List.perm_insertionSort (CellBefore cellSize) cells).symm)
  exact List.Perm.eq_of_pairwise hantisymm (List.pairwise_insertionSort _ order) (List.pairwise_insertionSort _ cells)
    hsame

end Order

/-- The blocks of cells in any order. -/
def Block.mergeAll (cellSize : ℚ) (cells : List Cell) : List Block :=
  match cells.insertionSort (CellBefore cellSize) with
  | [] => []
  | cell :: cells => (single cell).merge cells

theorem has_mergeAll (cellSize : ℚ) (cells : List Cell) (c : Cell) :
    (∃ b ∈ Block.mergeAll cellSize cells, b.Has c) ↔ c ∈ cells := by
  rw [← List.mem_insertionSort (CellBefore cellSize) (l := cells)]
  unfold Block.mergeAll
  cases cells.insertionSort (CellBefore cellSize) with
  | nil => simp
  | cons cell rest => rw [Block.has_merge, Block.has_single, List.mem_cons]

theorem pairwise_mergeAll (cellSize : ℚ) {cells : List Cell} (hnodup : cells.Nodup) :
    (Block.mergeAll cellSize cells).Pairwise Block.Apart := by
  have hsorted : (cells.insertionSort (CellBefore cellSize)).Nodup :=
    (List.perm_insertionSort _ cells).nodup_iff.mpr hnodup
  unfold Block.mergeAll
  cases hcells : cells.insertionSort (CellBefore cellSize) with
  | nil => exact List.Pairwise.nil
  | cons cell rest =>
    rw [hcells, List.nodup_cons] at hsorted
    exact Block.pairwise_merge hsorted.2 fun c hc hhas => hsorted.1 (Block.has_single.mp hhas ▸ hc)

namespace DirtyRegionTracker

variable {t : DirtyRegionTracker}

theorem cellRect_eq (cell : Cell) : t.cellRect cell = (Block.single cell).rect t.cellSize := by
  unfold cellRect Block.rect Block.single
  rw [Nat.cast_one, one_mul]

/-- The rectangles of a list of cells are blocks. -/
theorem mergeRects_eq (hsize : 1 / 1000 ≤ t.cellSize) (cells : List Cell) :
    mergeRects (cells.map t.cellRect) = (Block.mergeAll t.cellSize cells).map (Block.rect t.cellSize) := by
  have hrects : t.cellRect = fun cell => (Block.single cell).rect t.cellSize := funext cellRect_eq
  have hsorted := List.map_insertionSort (CellBefore t.cellSize) Rect.Before
    (fun cell => (Block.single cell).rect t.cellSize) cells fun _ _ _ _ => Iff.rfl
  rw [mergeRects, hrects, ← hsorted]
  unfold Block.mergeAll
  cases cells.insertionSort (CellBefore t.cellSize) with
  | nil => rfl
  | cons cell cells => exact mergeInto_rect hsize _ cells

/-- The rectangles that the squares of distinct cells are merged into have no inner point in common, have the points of
the squares and no others, and do not depend on the order of the cells. -/
theorem mergeRects_exact_cover (hsize : 1 / 100 ≤ t.cellSize) {cells : List Cell} (hnodup : cells.Nodup) :
    (mergeRects (cells.map t.cellRect)).Pairwise (fun r q => ∀ p, ¬(r.Inside p ∧ q.Inside p)) ∧
      (∀ p, (∃ r ∈ mergeRects (cells.map t.cellRect), r.Contains p) ↔ ∃ c ∈ cells, (t.cellRect c).Contains p) ∧
      ∀ order : List Cell, order.Perm cells → mergeRects (order.map t.cellRect) = mergeRects (cells.map t.cellRect) := by
  have htolerance : 1 / 1000 ≤ t.cellSize := by linarith
  have hpos : 0 < t.cellSize := by linarith
  refine ⟨?_, fun p => ?_, fun order hperm => ?_⟩
  · rw [mergeRects_eq htolerance]
    exact List.pairwise_map.mpr ((pairwise_mergeAll t.cellSize hnodup).imp fun hapart p =>
      Block.not_inside_of_apart hpos hapart p)
  · rw [mergeRects_eq htolerance]
    constructor
    · rintro ⟨r, hr, hp⟩
      obtain ⟨b, hb, rfl⟩ := List.mem_map.mp hr
      obtain ⟨c, hc, hcp⟩ := (Block.contains_rect hpos b p).mp hp
      refine ⟨c, (has_mergeAll t.cellSize cells c).mp ⟨b, hb, hc⟩, ?_⟩
      rw [cellRect_eq]
      exact hcp
    · rintro ⟨c, hc, hcp⟩
      rw [cellRect_eq] at hcp
      obtain ⟨b, hb, hhas⟩ := (has_mergeAll t.cellSize cells c).mpr hc
      exact ⟨_, List.mem_map_of_mem hb, (Block.contains_rect hpos b p).mpr ⟨c, hhas, hcp⟩⟩
  · rw [mergeRects_eq htolerance, mergeRects_eq htolerance]
    unfold Block.mergeAll
    rw [insertionSort_perm hpos hperm]

theorem mergeRects_exact_cover_sample :
    (mergeRects ([(1, 0), (0, 0), (0, 1)].map (start 100 100 10).cellRect)).Pairwise
        (fun r q => ∀ p, ¬(r.Inside p ∧ q.Inside p)) ∧
      (∀ p, (∃ r ∈ mergeRects ([(1, 0), (0, 0), (0, 1)].map (start 100 100 10).cellRect), r.Contains p) ↔
        ∃ c ∈ [((1 : ℤ), (0 : ℤ)), (0, 0), (0, 1)], ((start 100 100 10).cellRect c).Contains p) ∧
      ∀ order : List Cell, order.Perm [(1, 0), (0, 0), (0, 1)] →
        mergeRects (order.map (start 100 100 10).cellRect) =
          mergeRects ([(1, 0), (0, 0), (0, 1)].map (start 100 100 10).cellRect) :=
  mergeRects_exact_cover (by norm_num [start]) (by decide)

end DirtyRegionTracker

end Fmofp.Rendering
