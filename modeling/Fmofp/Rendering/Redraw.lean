import Fmofp.Machine.Run
import Fmofp.Rendering.SpatialGrid

/-! `DirtyRegionTracker`: the cells of the screen that are to be redrawn, and the rectangles that they
are merged into. -/

namespace Fmofp.Rendering

open Python Machine

structure DirtyRegionTracker where
  width : ℚ
  height : ℚ
  cellSize : ℚ
  cols : ℤ
  rows : ℤ
  dirtyCells : List Cell
  fullRedrawNeeded : Bool

namespace DirtyRegionTracker

/-- `__init__`. -/
def start (width height cellSize : ℚ) : DirtyRegionTracker :=
  ⟨width, height, cellSize, ⌈width / cellSize⌉, ⌈height / cellSize⌉, [], true⟩

variable (t : DirtyRegionTracker)

def getCellCoords (x y : ℚ) : Cell :=
  (coordinate t.cellSize t.cols x, coordinate t.cellSize t.rows y)

def getCellsForRect (rect : Rect) : List Cell :=
  let low := t.getCellCoords rect.left rect.top
  let high := t.getCellCoords rect.right rect.bottom
  (range low.2 (high.2 + 1)).flatMap fun row =>
    (range low.1 (high.1 + 1)).map fun col => (col, row)

def markFullRedraw : DirtyRegionTracker := { t with fullRedrawNeeded := true, dirtyCells := [] }

def resize (width height : ℚ) : DirtyRegionTracker :=
  let resized := { t with
    width, height, cols := ⌈width / t.cellSize⌉, rows := ⌈height / t.cellSize⌉ }
  if t.cols ≠ resized.cols ∨ t.rows ≠ resized.rows then resized.markFullRedraw else resized

/-- The cells among those to redraw, unless all of the screen is. -/
def addCells (cells : List Cell) : DirtyRegionTracker :=
  if t.fullRedrawNeeded then t else { t with dirtyCells := cells ∪ t.dirtyCells }

def markDirty (rect : Rect) : DirtyRegionTracker := t.addCells (t.getCellsForRect rect)

/-- The rectangle of a point with a radius. -/
def pointRect (x y radius : ℚ) : Rect := ⟨x - radius, y - radius, radius * 2, radius * 2⟩

def markPointDirty (x y radius : ℚ) : DirtyRegionTracker :=
  if 0 < radius then t.markDirty (pointRect x y radius) else t.addCells [t.getCellCoords x y]

def clear : DirtyRegionTracker := { t with dirtyCells := [], fullRedrawNeeded := false }

def isDirty (rect : Rect) : Bool :=
  t.fullRedrawNeeded || (t.getCellsForRect rect).any fun cell => decide (cell ∈ t.dirtyCells)

end DirtyRegionTracker

/-- `abs(a - b) < 0.001`. -/
def close (a b : ℚ) : Bool := decide (|a - b| < 1 / 1000)

/-- The loop of `_merge_rects`, at a rectangle that is the last of the result so far. -/
def mergeInto (last : Rect) : List Rect → List Rect
  | [] => [last]
  | rect :: rects =>
    if close last.top rect.top && close last.height rect.height && close last.right rect.left then
      mergeInto { last with width := last.width + rect.width } rects
    else if close last.left rect.left && close last.width rect.width &&
        close last.bottom rect.top then
      mergeInto { last with height := last.height + rect.height } rects
    else last :: mergeInto rect rects

/-- The order by top and left edge. -/
def Rect.Before (r q : Rect) : Prop := r.top < q.top ∨ (r.top = q.top ∧ r.left ≤ q.left)

instance (r q : Rect) : Decidable (r.Before q) := inferInstanceAs (Decidable (_ ∨ _))

def mergeRects (rects : List Rect) : List Rect :=
  match rects.insertionSort Rect.Before with
  | [] => []
  | rect :: rects => mergeInto rect rects

namespace DirtyRegionTracker

variable (t : DirtyRegionTracker)

/-- The rectangle of a cell. -/
def cellRect (cell : Cell) : Rect :=
  ⟨cell.1 * t.cellSize, cell.2 * t.cellSize, t.cellSize, t.cellSize⟩

def getDirtyRects : List Rect :=
  if t.fullRedrawNeeded then [⟨0, 0, t.width, t.height⟩]
  else mergeRects (t.dirtyCells.map t.cellRect)

inductive Operation where
  | markDirty (rect : Rect)
  | markPointDirty (x y radius : ℚ)
  | markFullRedraw
  | resize (width height : ℚ)
  | clear

def step (t : DirtyRegionTracker) : Operation → Unit × DirtyRegionTracker
  | .markDirty rect => ((), t.markDirty rect)
  | .markPointDirty x y radius => ((), t.markPointDirty x y radius)
  | .markFullRedraw => ((), t.markFullRedraw)
  | .resize width height => ((), t.resize width height)
  | .clear => ((), t.clear)

/-- The rectangles that have been marked since the last clear, after one more operation. -/
def mark (t : DirtyRegionTracker) (marked : List Rect) : Operation → List Rect
  | .markDirty rect => rect :: marked
  | .markPointDirty x y radius => pointRect x y (max radius 0) :: marked
  | .markFullRedraw => ⟨0, 0, t.width, t.height⟩ :: marked
  | .resize _ _ => marked
  | .clear => []

/-- The marked rectangles after a list of operations. -/
def markedAfter (t : DirtyRegionTracker) (marked : List Rect) : List Operation → List Rect
  | [] => marked
  | op :: ops => markedAfter (t.step op).2 (t.mark marked op) ops

end DirtyRegionTracker

end Fmofp.Rendering

/-! No redraw is missed: what was marked on the screen since the last clear is dirty, and, for cells
that are not smaller than the tolerance of `_merge_rects`, in one of the merged rectangles. -/

namespace Fmofp.Rendering

open Python Machine

/-- The edges and the sides are whole numbers of cells. -/
def Aligned (cellSize : ℚ) (r : Rect) : Prop :=
  ∃ (col row : ℤ) (cols rows : ℕ), r.left = col * cellSize ∧ r.top = row * cellSize ∧
    r.width = cols * cellSize ∧ r.height = rows * cellSize

/-- Whole numbers of cells that are close are equal. -/
theorem eq_of_close {cellSize : ℚ} (hsize : 1 / 1000 ≤ cellSize) {m n : ℤ}
    (h : close (m * cellSize) (n * cellSize) = true) : m = n := by
  have hpos : (0 : ℚ) < cellSize := by linarith
  have hclose : |((m - n : ℤ) : ℚ)| * cellSize < cellSize := by
    have hlt := of_decide_eq_true h
    rw [← sub_mul, abs_mul, abs_of_pos hpos] at hlt
    push_cast
    linarith
  have hlt : |((m - n : ℤ) : ℚ)| < 1 := by
    by_contra hge
    have hmul := mul_le_mul_of_nonneg_right (not_lt.mp hge) hpos.le
    linarith
  have habs : |m - n| < 1 := by exact_mod_cast hlt
  have hzero := Int.abs_lt_one_iff.mp habs
  omega

section Merge

variable {cellSize : ℚ} (hsize : 1 / 1000 ≤ cellSize)
include hsize

/-- Rectangles of cells that are merged horizontally are side by side. -/
theorem merge_horizontal {last rect : Rect} (hlast : Aligned cellSize last)
    (hrect : Aligned cellSize rect)
    (h : (close last.top rect.top && close last.height rect.height &&
      close last.right rect.left) = true) :
    Aligned cellSize { last with width := last.width + rect.width } ∧
      ∀ p, last.Contains p ∨ rect.Contains p →
        Rect.Contains { last with width := last.width + rect.width } p := by
  obtain ⟨col, row, cols, rows, hleft, htop, hwidth, hheight⟩ := hlast
  obtain ⟨col', row', cols', rows', hleft', htop', hwidth', hheight'⟩ := hrect
  simp only [Bool.and_eq_true] at h
  obtain ⟨⟨htops, hheights⟩, hedge⟩ := h
  have hpos : (0 : ℚ) ≤ cellSize := by linarith
  have htop_eq : row = row' := eq_of_close hsize (by rw [← htop, ← htop']; exact htops)
  have hheight_eq : (rows : ℤ) = rows' := by
    refine eq_of_close hsize ?_
    rw [Int.cast_natCast, Int.cast_natCast, ← hheight, ← hheight']
    exact hheights
  have hedge_eq : col + cols = col' := by
    refine eq_of_close hsize ?_
    rw [← hleft']
    push_cast
    rw [add_mul, ← hleft, ← hwidth]
    exact hedge
  have hw : 0 ≤ last.width := hwidth ▸ mul_nonneg (Nat.cast_nonneg cols) hpos
  have hw' : 0 ≤ rect.width := hwidth' ▸ mul_nonneg (Nat.cast_nonneg cols') hpos
  have htop_same : rect.top = last.top := by rw [htop, htop', htop_eq]
  have hheight_same : rect.height = last.height := by
    rw [hheight, hheight', Nat.cast_inj.mp hheight_eq]
  have hleft_same : rect.left = last.left + last.width := by
    rw [hleft', ← hedge_eq, hleft, hwidth]
    push_cast
    ring
  refine ⟨⟨col, row, cols + cols', rows, hleft, htop, ?_, hheight⟩, ?_⟩
  · push_cast
    rw [add_mul, ← hwidth, ← hwidth']
  · rintro p (⟨⟨h1, h2⟩, h3, h4⟩ | ⟨⟨h1, h2⟩, h3, h4⟩)
    all_goals simp only [Rect.Contains, Rect.right, Rect.bottom] at *
    · exact ⟨⟨h1, by linarith⟩, h3, h4⟩
    · exact ⟨⟨by linarith, by linarith⟩, by linarith, by linarith⟩

/-- Rectangles of cells that are merged vertically are one above the other. -/
theorem merge_vertical {last rect : Rect} (hlast : Aligned cellSize last)
    (hrect : Aligned cellSize rect)
    (h : (close last.left rect.left && close last.width rect.width &&
      close last.bottom rect.top) = true) :
    Aligned cellSize { last with height := last.height + rect.height } ∧
      ∀ p, last.Contains p ∨ rect.Contains p →
        Rect.Contains { last with height := last.height + rect.height } p := by
  have hflip : ∀ {r : Rect}, Aligned cellSize r →
      Aligned cellSize ⟨r.top, r.left, r.height, r.width⟩ := by
    rintro r ⟨col, row, cols, rows, hleft, htop, hwidth, hheight⟩
    exact ⟨row, col, rows, cols, htop, hleft, hheight, hwidth⟩
  have hmerge := merge_horizontal hsize (hflip hlast) (hflip hrect) h
  refine ⟨hflip hmerge.1, fun p hp => ?_⟩
  have hcontains := hmerge.2 ⟨p.y, p.x⟩ (hp.imp And.symm And.symm)
  exact hcontains.symm

theorem mergeInto_covers {p : Point} (rects : List Rect) {last : Rect}
    (hlast : Aligned cellSize last) (hrects : ∀ r ∈ rects, Aligned cellSize r)
    (hp : last.Contains p ∨ ∃ r ∈ rects, r.Contains p) :
    ∃ r ∈ mergeInto last rects, r.Contains p := by
  induction rects generalizing last with
  | nil =>
    rcases hp with hp | ⟨r, hr, -⟩
    · exact ⟨last, List.mem_singleton_self last, hp⟩
    · cases hr
  | cons rect rects ih =>
    rw [List.forall_mem_cons] at hrects
    have hsplit : (last.Contains p ∨ rect.Contains p) ∨ ∃ r ∈ rects, r.Contains p := by
      rw [List.exists_mem_cons_iff] at hp
      exact or_assoc.mpr hp
    rw [mergeInto]
    split_ifs with hhorizontal hvertical
    · obtain ⟨haligned, hcontains⟩ := merge_horizontal hsize hlast hrects.1 hhorizontal
      exact ih haligned hrects.2 (hsplit.imp_left (hcontains p))
    · obtain ⟨haligned, hcontains⟩ := merge_vertical hsize hlast hrects.1 hvertical
      exact ih haligned hrects.2 (hsplit.imp_left (hcontains p))
    · rcases hp with hp | hp
      · exact ⟨last, List.mem_cons_self, hp⟩
      · rw [List.exists_mem_cons_iff] at hp
        obtain ⟨r, hr, hcontains⟩ := ih hrects.1 hrects.2 hp
        exact ⟨r, List.mem_cons_of_mem _ hr, hcontains⟩

theorem mergeRects_covers {p : Point} {rects : List Rect} (hrects : ∀ r ∈ rects, Aligned cellSize r)
    (hp : ∃ r ∈ rects, r.Contains p) : ∃ r ∈ mergeRects rects, r.Contains p := by
  have hmem : ∀ r, r ∈ rects.insertionSort Rect.Before ↔ r ∈ rects := fun r =>
    List.mem_insertionSort Rect.Before
  unfold mergeRects
  generalize rects.insertionSort Rect.Before = sorted at hmem
  cases sorted with
  | nil =>
    obtain ⟨r, hr, -⟩ := hp
    cases (hmem r).mpr hr
  | cons rect sorted =>
    have haligned : ∀ r ∈ rect :: sorted, Aligned cellSize r := fun r hr => hrects r ((hmem r).mp hr)
    rw [List.forall_mem_cons] at haligned
    obtain ⟨r, hr, hcontains⟩ := hp
    refine mergeInto_covers hsize sorted haligned.1 haligned.2 ?_
    rcases List.mem_cons.mp ((hmem r).mpr hr) with rfl | hr
    · exact .inl hcontains
    · exact .inr ⟨r, hr, hcontains⟩

end Merge

namespace DirtyRegionTracker

theorem mem_getCellsForRect (t : DirtyRegionTracker) (r : Rect) (c : Cell) :
    c ∈ t.getCellsForRect r ↔
      (coordinate t.cellSize t.cols r.left ≤ c.1 ∧ c.1 ≤ coordinate t.cellSize t.cols r.right) ∧
      coordinate t.cellSize t.rows r.top ≤ c.2 ∧ c.2 ≤ coordinate t.cellSize t.rows r.bottom := by
  obtain ⟨col, row⟩ := c
  unfold getCellsForRect getCellCoords
  simp only [List.mem_flatMap, List.mem_map, mem_range, Prod.mk.injEq]
  constructor
  · rintro ⟨row', hrow, col', hcol, rfl, rfl⟩
    omega
  · rintro ⟨hcol, hrow⟩
    exact ⟨row, by omega, col, by omega, rfl, rfl⟩

/-- The cell of a point is among the cells of each rectangle that contains the point. -/
theorem getCellCoords_mem {t : DirtyRegionTracker} (hsize : 0 < t.cellSize) {r : Rect} {p : Point}
    (h : r.Contains p) : t.getCellCoords p.x p.y ∈ t.getCellsForRect r := by
  rw [mem_getCellsForRect]
  exact ⟨⟨coordinate_mono hsize h.1.1, coordinate_mono hsize h.1.2⟩, coordinate_mono hsize h.2.1,
    coordinate_mono hsize h.2.2⟩

/-- The grid fits the screen, and all cells of the marked rectangles are dirty unless everything is. -/
structure Marked (t : DirtyRegionTracker) (marked : List Rect) : Prop where
  cols : t.cols = ⌈t.width / t.cellSize⌉
  rows : t.rows = ⌈t.height / t.cellSize⌉
  cells : t.fullRedrawNeeded = false → ∀ r ∈ marked, ∀ c ∈ t.getCellsForRect r, c ∈ t.dirtyCells

variable {t : DirtyRegionTracker} {marked : List Rect}

theorem marked_addCells (h : t.Marked marked) {rect : Rect} {cells : List Cell}
    (hcells : ∀ c ∈ t.getCellsForRect rect, c ∈ cells) :
    (t.addCells cells).Marked (rect :: marked) := by
  unfold addCells
  split_ifs with hfull
  · exact ⟨h.cols, h.rows, fun hnot => by rw [hfull] at hnot; cases hnot⟩
  · rw [Bool.not_eq_true] at hfull
    refine ⟨h.cols, h.rows, fun _ r hr c hc => List.mem_union_iff.mpr ?_⟩
    rcases List.mem_cons.mp hr with rfl | hr
    · exact .inl (hcells c hc)
    · exact .inr (h.cells hfull r hr c hc)

theorem marked_step (h : t.Marked marked) (op : Operation) : (t.step op).2.Marked (t.mark marked op) := by
  cases op with
  | markDirty rect => exact marked_addCells h fun c hc => hc
  | markPointDirty x y radius =>
    show (t.markPointDirty x y radius).Marked (pointRect x y (max radius 0) :: marked)
    unfold markPointDirty
    split_ifs with hradius
    · rw [max_eq_left hradius.le]
      exact marked_addCells h fun c hc => hc
    · rw [max_eq_right (not_lt.mp hradius)]
      refine marked_addCells h fun c hc => ?_
      obtain ⟨⟨h1, h2⟩, h3, h4⟩ := (t.mem_getCellsForRect _ c).mp hc
      simp only [pointRect, Rect.right, Rect.bottom, sub_zero, zero_mul, add_zero] at h1 h2 h3 h4
      rw [List.mem_singleton]
      exact Prod.ext (le_antisymm h2 h1) (le_antisymm h4 h3)
  | markFullRedraw => exact ⟨h.cols, h.rows, fun hnot => by cases hnot⟩
  | resize width height =>
    show (t.resize width height).Marked marked
    unfold resize
    dsimp only
    split_ifs with hsame
    · exact ⟨rfl, rfl, fun hnot => by cases hnot⟩
    · push Not at hsame
      refine ⟨rfl, rfl, fun hfull r hr c hc => h.cells hfull r hr c ?_⟩
      rw [mem_getCellsForRect] at hc ⊢
      rwa [hsame.1, hsame.2]
  | clear => exact ⟨h.cols, h.rows, fun _ r hr => by cases hr⟩

theorem marked_after (h : t.Marked marked) (ops : List Operation) :
    (final step t ops).Marked (markedAfter t marked ops) := by
  induction ops generalizing t marked with
  | nil => exact h
  | cons op ops ih => exact ih (marked_step h op)

theorem cellSize_step (t : DirtyRegionTracker) (op : Operation) :
    (t.step op).2.cellSize = t.cellSize := by
  cases op with
  | markDirty rect =>
    show (t.addCells _).cellSize = _
    unfold addCells
    split_ifs <;> rfl
  | markPointDirty x y radius =>
    show (t.markPointDirty x y radius).cellSize = _
    unfold markPointDirty markDirty addCells
    split_ifs <;> rfl
  | markFullRedraw | clear => rfl
  | resize width height =>
    show (t.resize width height).cellSize = _
    unfold resize
    dsimp only
    split_ifs <;> rfl

theorem cellSize_final (t : DirtyRegionTracker) (ops : List Operation) :
    (final step t ops).cellSize = t.cellSize := by
  induction ops generalizing t with
  | nil => rfl
  | cons op ops ih => rw [final_cons, ih, cellSize_step]

def OnScreen (t : DirtyRegionTracker) (p : Point) : Prop :=
  (0 ≤ p.x ∧ p.x < t.width) ∧ 0 ≤ p.y ∧ p.y < t.height

instance (t : DirtyRegionTracker) (p : Point) : Decidable (t.OnScreen p) :=
  inferInstanceAs (Decidable ((_ ∧ _) ∧ _ ∧ _))

theorem cellRect_contains (h : t.Marked marked) (hsize : 0 < t.cellSize) {p : Point}
    (hp : t.OnScreen p) : (t.cellRect (t.getCellCoords p.x p.y)).Contains p := by
  have hcol := coordinate_of_screen hsize hp.1.1 hp.1.2
  have hrow := coordinate_of_screen hsize hp.2.1 hp.2.2
  rw [← h.cols] at hcol
  rw [← h.rows] at hrow
  exact ⟨⟨hcol.1, hcol.2.le⟩, hrow.1, hrow.2.le⟩

theorem aligned_cellRect (t : DirtyRegionTracker) (c : Cell) : Aligned t.cellSize (t.cellRect c) :=
  ⟨c.1, c.2, 1, 1, rfl, rfl, by simp [cellRect], by simp [cellRect]⟩

/-- Each point of the screen that lies in a rectangle marked since the last clear is dirty; and it lies
in one of the rectangles to redraw, if the cells are not smaller than the tolerance of merging. -/
theorem no_missed_redraw {cellSize : ℚ} (hsize : 0 < cellSize) (width height : ℚ)
    (ops : List Operation) {p : Point}
    (hp : (final step (start width height cellSize) ops).OnScreen p)
    (hmarked : ∃ r ∈ markedAfter (start width height cellSize) [] ops, r.Contains p) :
    (∀ r : Rect, r.Contains p → (final step (start width height cellSize) ops).isDirty r = true) ∧
      (1 / 1000 ≤ cellSize →
        ∃ r ∈ (final step (start width height cellSize) ops).getDirtyRects, r.Contains p) := by
  have hstart : (start width height cellSize).Marked [] := ⟨rfl, rfl, fun _ r hr => by cases hr⟩
  have hafter := marked_after hstart ops
  have hcellSize := cellSize_final (start width height cellSize) ops
  generalize markedAfter (start width height cellSize) [] ops = marked at *
  generalize final step (start width height cellSize) ops = t at *
  change t.cellSize = cellSize at hcellSize
  subst hcellSize
  obtain ⟨q, hq, hcontains⟩ := hmarked
  cases hfull : t.fullRedrawNeeded with
  | true =>
    refine ⟨fun r hr => by rw [isDirty, hfull, Bool.true_or], fun _ => ?_⟩
    refine ⟨⟨0, 0, t.width, t.height⟩, by rw [getDirtyRects, if_pos hfull]; simp, ?_⟩
    simp only [Rect.Contains, Rect.right, Rect.bottom, zero_add]
    exact ⟨⟨hp.1.1, hp.1.2.le⟩, hp.2.1, hp.2.2.le⟩
  | false =>
    have hdirty := hafter.cells hfull q hq _ (getCellCoords_mem hsize hcontains)
    constructor
    · intro r hr
      rw [isDirty, hfull, Bool.false_or, List.any_eq_true]
      exact ⟨_, getCellCoords_mem hsize hr, decide_eq_true hdirty⟩
    · intro htolerance
      rw [getDirtyRects, if_neg (by rw [hfull]; decide)]
      refine mergeRects_covers htolerance ?_
        ⟨_, List.mem_map_of_mem hdirty, cellRect_contains hafter hsize hp⟩
      intro r hr
      obtain ⟨c, -, rfl⟩ := List.mem_map.mp hr
      exact aligned_cellRect t c

theorem no_missed_redraw_sample :
    ∃ r ∈ (final step (start 100 100 10) [.clear, .markDirty ⟨12, 3, 20, 5⟩]).getDirtyRects,
      r.Contains ⟨25, 5⟩ :=
  (no_missed_redraw (by norm_num) 100 100 [.clear, .markDirty ⟨12, 3, 20, 5⟩]
    (by decide +kernel)
    ⟨⟨12, 3, 20, 5⟩, by simp [markedAfter, mark], by decide +kernel⟩).2 (by norm_num)

/-- With cells of half the tolerance, two marked cells with one between them are merged into a
rectangle that leaves the second of them out. -/
theorem missed_redraw :
    ¬∀ cellSize : ℚ, 0 < cellSize → ∀ (width height : ℚ) (ops : List Operation) (p : Point),
      (final step (start width height cellSize) ops).OnScreen p →
      (∃ r ∈ markedAfter (start width height cellSize) [] ops,
        (0 ≤ r.width ∧ 0 ≤ r.height) ∧ r.Contains p) →
      (∃ r ∈ (final step (start width height cellSize) ops).getDirtyRects, r.Contains p) ∧
        ∀ r : Rect, r.Contains p → (final step (start width height cellSize) ops).isDirty r = true := by
  intro h
  have hcovered := (h (1 / 2000) (by norm_num) (3 / 2000) (1 / 2000)
    [.clear, .markDirty ⟨1 / 4000, 1 / 4000, 0, 0⟩, .markDirty ⟨5 / 4000, 1 / 4000, 0, 0⟩]
    ⟨5 / 4000, 1 / 4000⟩ (by decide +kernel)
    ⟨⟨5 / 4000, 1 / 4000, 0, 0⟩, by simp [markedAfter, mark], by decide +kernel,
      by decide +kernel⟩).1
  exact absurd hcovered (by decide +kernel)

end DirtyRegionTracker

end Fmofp.Rendering
