import Fmofp.Rendering.SpatialGrid

/-! Which objects a query of the grid finds.  The cells of a rectangle are those of its columns and of
the rows from its first row to its last column, so that a rectangle low on the screen and far to the left
has none, and two rectangles that meet need not share a cell. -/

namespace Fmofp.Rendering

open Python Machine

namespace SpatialGrid

variable (g : SpatialGrid)

/-- The first and the last column of a rectangle, and its first row. -/
def firstCol (r : Rect) : ℤ := coordinate g.cellSize g.cols r.left
def lastCol (r : Rect) : ℤ := coordinate g.cellSize g.cols r.right
def firstRow (r : Rect) : ℤ := coordinate g.cellSize g.rows r.top

/-- Two rectangles have a column in common. -/
def ColumnsMeet (r q : Rect) : Prop :=
  max (g.firstCol r) (g.firstCol q) ≤ min (g.lastCol r) (g.lastCol q)

/-- Neither of the first rows is past one of the last columns. -/
def RowsMeet (r q : Rect) : Prop :=
  max (g.firstRow r) (g.firstRow q) ≤ min (g.lastCol r) (g.lastCol q)

instance (r q : Rect) : Decidable (g.ColumnsMeet r q) := inferInstanceAs (Decidable (_ ≤ _))
instance (r q : Rect) : Decidable (g.RowsMeet r q) := inferInstanceAs (Decidable (_ ≤ _))

theorem mem_getCellsForRect (r : Rect) (c : Cell) : c ∈ g.getCellsForRect r ↔
    (g.firstCol r ≤ c.1 ∧ c.1 ≤ g.lastCol r) ∧ g.firstRow r ≤ c.2 ∧ c.2 ≤ g.lastCol r := by
  obtain ⟨col, row⟩ := c
  unfold getCellsForRect getCellCoords firstCol lastCol firstRow
  simp only [List.mem_flatMap, List.mem_map, mem_range, Prod.mk.injEq]
  constructor
  · rintro ⟨row', hrow, col', hcol, rfl, rfl⟩
    omega
  · rintro ⟨hcol, hrow⟩
    exact ⟨row, by omega, col, by omega, rfl, rfl⟩

theorem exists_cell_iff (r q : Rect) :
    (∃ c ∈ g.getCellsForRect q, c ∈ g.getCellsForRect r) ↔ g.ColumnsMeet r q ∧ g.RowsMeet r q := by
  unfold ColumnsMeet RowsMeet
  simp only [mem_getCellsForRect]
  constructor
  · rintro ⟨c, hq, hr⟩
    omega
  · rintro ⟨hcols, hrows⟩
    refine ⟨(max (g.firstCol r) (g.firstCol q), max (g.firstRow r) (g.firstRow q)), ?_, ?_⟩
    · dsimp only
      omega
    · dsimp only
      omega

/-- Rectangles with a point in common have a column in common. -/
theorem columnsMeet_of_contains (hsize : 0 < g.cellSize) {r q : Rect} {p : Point}
    (hr : r.Contains p) (hq : q.Contains p) : g.ColumnsMeet r q := by
  have hmono : ∀ {x y : ℚ}, x ≤ y →
      coordinate g.cellSize g.cols x ≤ coordinate g.cellSize g.cols y := coordinate_mono hsize
  unfold ColumnsMeet firstCol lastCol
  apply max_le
  · exact le_min (hmono (hr.1.1.trans hr.1.2)) (hmono (hr.1.1.trans hq.1.2))
  · exact le_min (hmono (hq.1.1.trans hr.1.2)) (hmono (hq.1.1.trans hq.1.2))

/-- The squares at which the objects of a dictionary are put, for each id. -/
def squares (objects : Dict String Object) (id : String) : Set Rect :=
  {r | ∃ e ∈ objects, e.1 = id ∧ e.2.square = r}

/-- The squares at which each id has been put into the cells since it was removed last, after one more
operation. -/
def lay (laid : String → Set Rect) : Operation → String → Set Rect
  | .insert objId obj => Function.update laid objId ({obj.square} ∪ laid objId)
  | .update objId obj => Function.update laid objId {obj.square}
  | .remove objId => Function.update laid objId ∅
  | .clear => fun _ => ∅
  | .resize width height =>
    if g.cols ≠ ⌈width / g.cellSize⌉ ∨ g.rows ≠ ⌈height / g.cellSize⌉ then squares g.objects else laid
  | .updateAll objects => squares objects
  | .queryRect _ => laid

/-- The squares after a list of operations. -/
def laidAfter (g : SpatialGrid) (laid : String → Set Rect) : List Operation → String → Set Rect
  | [] => laid
  | op :: ops => laidAfter (g.step op).2 (g.lay laid op) ops

/-- An id is in the cells of the squares at which it was put and in no others, and each object's square
is among them. -/
structure Tracks (laid : String → Set Rect) : Prop where
  cells : ∀ id c, InCell g.grid id c ↔ ∃ r ∈ laid id, c ∈ g.getCellsForRect r
  squares : ∀ id obj, Dict.get? g.objects id = some obj → obj.square ∈ laid id

variable {g} {laid : String → Set Rect}

theorem tracks_insert (h : g.Tracks laid) (objId : String) (obj : Object) :
    (g.insert objId obj).Tracks
      (Function.update laid objId ({obj.square} ∪ laid objId)) := by
  constructor
  · intro id c
    rw [insert, inCell_insertObject]
    show _ ∨ InCell g.grid id c ↔ ∃ r ∈ _, c ∈ g.getCellsForRect r
    rw [h.cells, Function.update_apply]
    by_cases hid : id = objId
    · subst hid
      rw [if_pos rfl]
      constructor
      · rintro (⟨-, hc⟩ | ⟨r, hr, hc⟩)
        · exact ⟨obj.square, .inl rfl, hc⟩
        · exact ⟨r, .inr hr, hc⟩
      · rintro ⟨r, rfl | hr, hc⟩
        · exact .inl ⟨rfl, hc⟩
        · exact .inr ⟨r, hr, hc⟩
    · simp [hid]
  · intro id obj' hobj
    change Dict.get? (Dict.set g.objects objId obj) id = some obj' at hobj
    rw [Dict.get?_set] at hobj
    rw [Function.update_apply]
    split_ifs at hobj with hid
    · obtain rfl := Option.some.inj hobj
      rw [if_pos hid.symm]
      exact .inl rfl
    · rw [if_neg (Ne.symm hid)]
      exact h.squares id obj' hobj

theorem tracks_remove (h : g.Tracks laid) (objId : String) :
    (g.remove objId).Tracks (Function.update laid objId ∅) := by
  constructor
  · intro id c
    rw [inCell_remove, h.cells, Function.update_apply]
    by_cases hid : id = objId
    · simp [hid]
    · rw [if_neg hid]
      exact and_iff_right hid
  · intro id obj hobj
    change Dict.get? (Dict.erase g.objects objId) id = some obj at hobj
    rw [Dict.get?_erase] at hobj
    split_ifs at hobj with hid
    rw [Function.update_of_ne (Ne.symm hid)]
    exact h.squares id obj hobj

theorem tracks_clear : g.clear.Tracks fun _ => ∅ :=
  ⟨fun id c => iff_of_false (inCell_nil id c) (by simp), fun id obj hobj => by cases hobj⟩

theorem squares_cons (objId : String) (obj : Object) (objects : Dict String Object) (id : String) :
    squares ((objId, obj) :: objects) id =
      if id = objId then {obj.square} ∪ squares objects id else squares objects id := by
  ext r
  unfold squares
  simp only [Set.mem_ofPred_eq, List.exists_mem_cons_iff]
  split_ifs with hid
  · subst hid
    exact or_congr_left ⟨fun h => h.2.symm, fun h => ⟨rfl, h.symm⟩⟩
  · exact or_iff_right fun h => hid h.1.symm

theorem tracks_foldl_insert (h : g.Tracks laid) (objects : Dict String Object) :
    (objects.foldl (fun g e => g.insert e.1 e.2) g).Tracks fun id => squares objects id ∪ laid id := by
  induction objects generalizing g laid with
  | nil => simpa [squares] using h
  | cons e objects ih =>
    obtain ⟨objId, obj⟩ := e
    refine (congrArg _ ?_).mp (ih (tracks_insert h objId obj))
    funext id
    rw [squares_cons, Function.update_apply]
    split_ifs with hid
    · subst hid
      exact Set.union_left_comm _ _ _ |>.trans (Set.union_assoc _ _ _).symm
    · rfl

/-- The ids that are not among the objects are removed again, and had no squares. -/
theorem tracks_foldl_remove (objects : Dict String Object) (ids : List String)
    (h : g.Tracks (squares objects)) :
    (ids.foldl (fun g objId => if Dict.has objects objId then g else g.remove objId) g).Tracks
      (squares objects) := by
  induction ids generalizing g with
  | nil => exact h
  | cons objId ids ih =>
    refine ih ?_
    dsimp only
    split_ifs with hhas
    · exact h
    · have hnone : squares objects objId = ∅ := by
        refine Set.eq_empty_iff_forall_notMem.mpr ?_
        rintro r ⟨e, he, rfl, -⟩
        exact hhas (Dict.has_of_mem he)
      have hremove := tracks_remove h objId
      rwa [← hnone, Function.update_eq_self] at hremove

theorem foldl_insertObject (objects : Dict String Object) :
    (objects.foldl (fun g e => g.insertObject e.1 e.2) g).objects = g.objects ∧
      (∀ r, (objects.foldl (fun g e => g.insertObject e.1 e.2) g).getCellsForRect r =
        g.getCellsForRect r) ∧
      ∀ id c, InCell (objects.foldl (fun g e => g.insertObject e.1 e.2) g).grid id c ↔
        (∃ r ∈ squares objects id, c ∈ g.getCellsForRect r) ∨ InCell g.grid id c := by
  induction objects generalizing g with
  | nil => simp [squares]
  | cons e objects ih =>
    obtain ⟨objId, obj⟩ := e
    obtain ⟨hobjects, hcells, hin⟩ := @ih (g.insertObject objId obj)
    refine ⟨hobjects, hcells, fun id c => (hin id c).trans ?_⟩
    rw [inCell_insertObject, squares_cons]
    show (∃ r ∈ squares objects id, c ∈ g.getCellsForRect r) ∨ _ ↔ _
    split_ifs with hid
    · constructor
      · rintro (⟨r, hr, hc⟩ | ⟨-, hc⟩ | hold)
        · exact .inl ⟨r, .inr hr, hc⟩
        · exact .inl ⟨obj.square, .inl rfl, hc⟩
        · exact .inr hold
      · rintro (⟨r, rfl | hr, hc⟩ | hold)
        · exact .inr (.inl ⟨hid, hc⟩)
        · exact .inl ⟨r, hr, hc⟩
        · exact .inr (.inr hold)
    · simp [hid]

theorem tracks_rebuildGrid (g : SpatialGrid) : g.rebuildGrid.Tracks (squares g.objects) := by
  obtain ⟨hobjects, hcells, hin⟩ := @foldl_insertObject { g with grid := [] } g.objects
  constructor
  · intro id c
    refine (hin id c).trans ?_
    rw [or_iff_left (inCell_nil id c)]
    exact exists_congr fun r => and_congr_right fun _ => by rw [← hcells]; rfl
  · intro id obj hobj
    rw [rebuildGrid, hobjects] at hobj
    exact ⟨(id, obj), Dict.mem_of_get?_eq_some hobj, rfl, rfl⟩

/-- Every operation keeps the account of the squares. -/
theorem tracks_step (h : g.Tracks laid) (op : Operation) : (g.step op).2.Tracks (g.lay laid op) := by
  cases op with
  | insert objId obj => exact tracks_insert h objId obj
  | update objId obj =>
    have hupdate := tracks_insert (tracks_remove h objId) objId obj
    rw [Function.update_self, Function.update_idem] at hupdate
    rw [Set.union_empty] at hupdate
    exact hupdate
  | remove objId => exact tracks_remove h objId
  | clear => exact tracks_clear
  | resize width height =>
    show (g.resize width height).Tracks _
    unfold resize lay
    dsimp only
    split_ifs
    · exact tracks_rebuildGrid _
    · rename_i hsame
      push Not at hsame
      obtain ⟨hcols, hrows⟩ := hsame
      have hcells : ∀ r, ({ g with
          width, height, cols := ⌈width / g.cellSize⌉, rows := ⌈height / g.cellSize⌉ } :
          SpatialGrid).getCellsForRect r = g.getCellsForRect r := by
        intro r
        unfold getCellsForRect getCellCoords
        rw [hcols, hrows]
      exact ⟨fun id c => by simp only [hcells]; exact h.cells id c, h.squares⟩
  | updateAll objects =>
    refine tracks_foldl_remove objects _ ?_
    have hfilled := tracks_foldl_insert (@tracks_clear g) objects
    simpa using hfilled
  | queryRect rect => exact h

theorem tracks_after (h : g.Tracks laid) (ops : List Operation) :
    (final step g ops).Tracks (laidAfter g laid ops) := by
  induction ops generalizing g laid with
  | nil => exact h
  | cons op ops ih => exact ih (tracks_step h op)

theorem cellSize_foldl {α : Type} {f : SpatialGrid → α → SpatialGrid}
    (hf : ∀ g a, (f g a).cellSize = g.cellSize) (l : List α) (g : SpatialGrid) :
    (l.foldl f g).cellSize = g.cellSize := by
  induction l generalizing g with
  | nil => rfl
  | cons a l ih => rw [List.foldl_cons, ih, hf]

theorem cellSize_step (g : SpatialGrid) (op : Operation) : (g.step op).2.cellSize = g.cellSize := by
  cases op with
  | insert | update | remove | clear | queryRect => rfl
  | resize width height =>
    show (g.resize width height).cellSize = _
    unfold resize
    have hinsert : ∀ (h : SpatialGrid) (e : String × Object),
        (h.insertObject e.1 e.2).cellSize = h.cellSize := fun _ _ => rfl
    dsimp only
    split_ifs
    · exact cellSize_foldl hinsert _ _
    · rfl
  | updateAll objects =>
    show (g.updateAll objects).cellSize = _
    unfold updateAll
    have hremove : ∀ (h : SpatialGrid) (objId : String),
        (if Dict.has objects objId then h else h.remove objId).cellSize = h.cellSize := by
      intro h objId
      split_ifs <;> rfl
    have hinsert : ∀ (h : SpatialGrid) (e : String × Object),
        (h.insert e.1 e.2).cellSize = h.cellSize := fun _ _ => rfl
    exact (cellSize_foldl hremove _ _).trans (cellSize_foldl hinsert objects g.clear)

theorem cellSize_final (g : SpatialGrid) (ops : List Operation) :
    (final step g ops).cellSize = g.cellSize := by
  induction ops generalizing g with
  | nil => rfl
  | cons op ops ih => rw [final_cons, ih, cellSize_step]

/-- A query finds an id exactly when a square of it shares a column and a row with the rectangle. -/
theorem mem_queryRect_iff (h : g.Tracks laid) (q : Rect) (id : String) :
    id ∈ g.queryRect q ↔ ∃ r ∈ laid id, g.ColumnsMeet r q ∧ g.RowsMeet r q := by
  rw [mem_queryRect]
  constructor
  · rintro ⟨c, hq, hin⟩
    obtain ⟨r, hr, hc⟩ := (h.cells id c).mp hin
    exact ⟨r, hr, (g.exists_cell_iff r q).mp ⟨c, hq, hc⟩⟩
  · rintro ⟨r, hr, hmeet⟩
    obtain ⟨c, hq, hc⟩ := (g.exists_cell_iff r q).mpr hmeet
    exact ⟨c, hq, (h.cells id c).mpr ⟨r, hr, hc⟩⟩

/-- The object is stored under the id, and its square has a point in common with the rectangle. -/
def Overlaps (g : SpatialGrid) (q : Rect) (id : String) (obj : Object) : Prop :=
  Dict.get? g.objects id = some obj ∧ ∃ p, obj.square.Contains p ∧ q.Contains p

/-- A query finds every object that overlaps its rectangle exactly when, of each of them, a square meets
the rectangle in its rows: the square at which it is, or one at which the id was put before and has not
been removed from. -/
theorem query_complete_iff {cellSize : ℚ} (hsize : 0 < cellSize) (width height : ℚ)
    (ops : List Operation) (q : Rect) :
    (∀ id obj, (final step (start width height cellSize) ops).Overlaps q id obj →
      id ∈ (final step (start width height cellSize) ops).queryRect q) ↔
    ∀ id obj, (final step (start width height cellSize) ops).Overlaps q id obj →
      (final step (start width height cellSize) ops).RowsMeet obj.square q ∨
      ∃ r ∈ laidAfter (start width height cellSize) (fun _ => ∅) ops id,
        (final step (start width height cellSize) ops).ColumnsMeet r q ∧
        (final step (start width height cellSize) ops).RowsMeet r q := by
  have htracks : (start width height cellSize).Tracks fun _ => ∅ :=
    @tracks_clear (start width height cellSize)
  have hafter := tracks_after htracks ops
  have hcellSize : 0 < (final step (start width height cellSize) ops).cellSize := by
    rw [cellSize_final]
    exact hsize
  refine forall₂_congr fun id obj => forall_congr' fun hover => ?_
  rw [mem_queryRect_iff hafter]
  constructor
  · exact .inr
  · rintro (hrows | hother)
    · obtain ⟨hobj, p, hsquare, hq⟩ := hover
      exact ⟨obj.square, hafter.squares id obj hobj,
        columnsMeet_of_contains _ hcellSize hsquare hq, hrows⟩
    · exact hother

theorem query_complete_iff_sample :
    "rain" ∈ (final step (start 100 100 10) [.insert "rain" ⟨some 55, some 5, some 2⟩]).queryRect
      ⟨0, 0, 100, 100⟩ := by
  refine (query_complete_iff (by norm_num) 100 100 [.insert "rain" ⟨some 55, some 5, some 2⟩]
    ⟨0, 0, 100, 100⟩).mpr ?_ "rain" ⟨some 55, some 5, some 2⟩
    ⟨rfl, ⟨55, 5⟩, by decide +kernel, by decide +kernel⟩
  rintro id obj ⟨hobj, -⟩
  have hentry := List.mem_singleton.mp (Dict.mem_of_get?_eq_some hobj)
  rw [(Prod.mk.inj hentry).2]
  exact .inl (by decide +kernel)

/-- An object at the left and low on the screen is not found by a query of the whole screen. -/
theorem query_incomplete :
    ¬∀ cellSize : ℚ, 0 < cellSize → ∀ width height ops (q : Rect), 0 ≤ q.width → 0 ≤ q.height →
      ∀ id obj, (final step (start width height cellSize) ops).Overlaps q id obj →
        id ∈ (final step (start width height cellSize) ops).queryRect q := by
  intro h
  have hfound := h 10 (by norm_num) 100 100 [.insert "storm" ⟨some 5, some 55, some 2⟩] ⟨0, 0, 100, 100⟩ (by norm_num)
    (by norm_num) "storm" ⟨some 5, some 55, some 2⟩
    ⟨rfl, ⟨5, 55⟩, by decide +kernel, by decide +kernel⟩
  exact absurd hfound (by decide +kernel)

end SpatialGrid

end Fmofp.Rendering
