import Mathlib.Data.List.SplitLengths
import Fmofp.Python.Value

/-! `batch_insert`: one `INSERT` for all items, with the table and the columns of the first of them.  The parameters are
those of all items in a row, so that a value gets to the place that it has in its own item. -/

namespace Fmofp.Storage

open Python

/-- `INSERT INTO "table" ("column", ...) VALUES (?, ...), ...`, with the number of placeholders of each tuple. -/
structure InsertStatement where
  table : String
  columns : List String
  tuples : List ℕ

/-- The values that a row is inserted with. -/
abbrev Assignment := String → Option Value

/-- The rows that a statement inserts, or nothing where SQLite takes it for no statement or the parameters are not as
many as the placeholders. -/
def InsertStatement.rows (statement : InsertStatement) (params : List Value) : Option (List (String × Assignment)) :=
  if statement.columns ≠ [] ∧ statement.tuples ≠ [] ∧ (∀ n ∈ statement.tuples, n = statement.columns.length) ∧
      params.length = statement.tuples.sum then
    some ((statement.tuples.splitLengths params).map fun values =>
      (statement.table, Dict.get? (statement.columns.zip values)))
  else none

/-- A call of `insert_into_table`, as `add_to_batch` gets it. -/
structure InsertItem where
  table : String
  data : Dict String Value
  nodup : (data.map Prod.fst).Nodup

namespace InsertItem

def columns (item : InsertItem) : List String := item.data.map Prod.fst

def values (item : InsertItem) : List Value := item.data.map Prod.snd

/-- The row of the item: each value under its own column. -/
def row (item : InsertItem) : String × Assignment := (item.table, Dict.get? item.data)

end InsertItem

/-- The statement of `insert_into_table` without batches. -/
def insertIntoTable (item : InsertItem) : InsertStatement × List Value :=
  (⟨item.table, item.columns, [item.data.length]⟩, item.values)

/-- `batch_insert`, which builds no statement of an empty batch. -/
def batchInsert : List InsertItem → Option (InsertStatement × List Value)
  | [] => none
  | first :: rest => some
      (⟨first.table, first.columns, (first :: rest).map fun _ => first.data.length⟩,
        (first :: rest).flatMap InsertItem.values)

def batchRows (batch : List InsertItem) : Option (List (String × Assignment)) :=
  match batchInsert batch with
  | none => some []
  | some (statement, params) => statement.rows params

/-- The batch inserts the row of each item, as the items' own statements do. -/
def PreservesRows (batch : List InsertItem) : Prop :=
  batchRows batch = some (batch.map InsertItem.row) ∧
    ∀ item ∈ batch, (insertIntoTable item).1.rows (insertIntoTable item).2 = some [item.row]

/-- All items name the table of the first one and as many columns, and have their values, in their order, under the
columns of the first one. -/
def SameColumns (batch : List InsertItem) : Prop :=
  ∀ first ∈ batch.head?, first.data ≠ [] ∧ ∀ item ∈ batch, item.table = first.table ∧
    item.data.length = first.data.length ∧ ∀ e ∈ first.columns.zip item.values, e ∈ item.data

section Items

variable {item first : InsertItem} {batch : List InsertItem}

theorem length_columns (item : InsertItem) : item.columns.length = item.data.length := List.length_map _

theorem length_values (item : InsertItem) : item.values.length = item.data.length := List.length_map _

theorem zip_columns_values (item : InsertItem) : item.columns.zip item.values = item.data :=
  (List.zip_of_prod rfl rfl).symm

/-- The statement of an item inserts its row. -/
theorem rows_insertIntoTable (h : item.data ≠ []) :
    (insertIntoTable item).1.rows (insertIntoTable item).2 = some [item.row] := by
  have hcolumns : item.columns ≠ [] := fun hnil => h (List.map_eq_nil_iff.mp hnil)
  unfold insertIntoTable InsertStatement.rows
  dsimp only
  rw [if_pos ⟨hcolumns, List.cons_ne_nil _ _, fun n hn => by
    rw [List.mem_singleton.mp hn, length_columns], by rw [length_values, List.sum_singleton]⟩]
  rw [List.splitLengths_cons, List.splitLengths_nil, ← length_values, List.take_length, List.map_singleton,
    zip_columns_values]
  rfl

/-- Values that stand under the first item's columns give the item's own row. -/
theorem get?_zip_eq (hlength : item.data.length = first.data.length)
    (hplaces : ∀ e ∈ first.columns.zip item.values, e ∈ item.data) :
    Dict.get? (first.columns.zip item.values) = Dict.get? item.data := by
  have hkeys : (first.columns.zip item.values).map Prod.fst = first.columns := by
    apply List.map_fst_zip
    rw [length_columns, length_values, hlength]
  have hnodup : ((first.columns.zip item.values).map Prod.fst).Nodup := by
    rw [hkeys]
    exact first.nodup
  have hle : item.data.length ≤ (first.columns.zip item.values).length := by
    rw [List.length_zip, length_columns, length_values, hlength, min_self]
  have hperm : (first.columns.zip item.values).Perm item.data :=
    ((List.Nodup.of_map _ hnodup).subperm hplaces).perm_of_length_le hle
  funext column
  exact Dict.get?_perm hperm hnodup column

/-- A row with the values of the item under the first item's columns names as many columns. -/
theorem length_eq_of_get? {values : List Value} (hvalues : values.length = first.data.length)
    (h : Dict.get? (first.columns.zip values) = Dict.get? item.data) : item.data.length = first.data.length := by
  have hkeys : (first.columns.zip values).map Prod.fst = first.columns := by
    apply List.map_fst_zip
    rw [length_columns, hvalues]
  have hmem (column : String) : column ∈ first.columns ↔ column ∈ item.columns := by
    have hnone := congrFun h column
    have hleft := @Dict.get?_eq_none_iff _ _ _ (first.columns.zip values) column
    have hright := @Dict.get?_eq_none_iff _ _ _ item.data column
    rw [hkeys, hnone] at hleft
    exact not_iff_not.mp (hleft.symm.trans hright)
  have hperm : first.columns.Perm item.columns := (List.perm_ext_iff_of_nodup first.nodup item.nodup).mpr hmem
  rw [← length_columns, ← length_columns, hperm.length_eq]

/-- The parameters of items of one length, cut up again. -/
theorem splitLengths_flatMap {n : ℕ} (h : ∀ item ∈ batch, item.data.length = n) :
    (batch.map fun _ => n).splitLengths (batch.flatMap InsertItem.values) = batch.map InsertItem.values := by
  induction batch with
  | nil => rfl
  | cons item batch ih =>
    rw [List.forall_mem_cons] at h
    have hlength : item.values.length = n := (length_values item).trans h.1
    rw [List.map_cons, List.flatMap_cons, List.splitLengths_cons, List.take_left' hlength, List.drop_left' hlength,
      ih h.2, List.map_cons]

theorem length_flatMap_values {n : ℕ} (h : ∀ item ∈ batch, item.data.length = n) :
    (batch.flatMap InsertItem.values).length = (batch.map fun _ => n).sum := by
  induction batch with
  | nil => rfl
  | cons item batch ih =>
    rw [List.forall_mem_cons] at h
    rw [List.flatMap_cons, List.length_append, length_values, h.1, ih h.2, List.map_cons, List.sum_cons]

/-- What the batch inserts if the items are as long as the first one. -/
theorem batchRows_of_length {rest : List InsertItem} (hdata : first.data ≠ [])
    (h : ∀ item ∈ first :: rest, item.data.length = first.data.length) :
    batchRows (first :: rest) =
      some ((first :: rest).map fun item => (first.table, Dict.get? (first.columns.zip item.values))) := by
  have hcolumns : first.columns ≠ [] := fun hnil => hdata (List.map_eq_nil_iff.mp hnil)
  have htuples : ∀ n ∈ (first :: rest).map fun _ => first.data.length, n = first.columns.length := by
    intro n hn
    obtain ⟨item, -, rfl⟩ := List.mem_map.mp hn
    exact (length_columns first).symm
  unfold batchRows batchInsert InsertStatement.rows
  dsimp only
  rw [if_pos ⟨hcolumns, List.cons_ne_nil _ _, htuples, length_flatMap_values h⟩, splitLengths_flatMap h, List.map_map]
  rfl

/-- Rows of a batch have as many values as the first item has columns. -/
theorem exists_values_of_batchRows {rest : List InsertItem} {rows : List (String × Assignment)}
    (h : batchRows (first :: rest) = some rows) :
    first.data ≠ [] ∧ ∀ r ∈ rows, r.1 = first.table ∧
      ∃ values : List Value, values.length = first.data.length ∧ r.2 = Dict.get? (first.columns.zip values) := by
  unfold batchRows batchInsert InsertStatement.rows at h
  dsimp only at h
  split_ifs at h with hvalid
  obtain ⟨hcolumns, -, -, hlength⟩ := hvalid
  refine ⟨fun hnil => hcolumns (List.map_eq_nil_iff.mpr hnil), fun r hr => ?_⟩
  rw [← Option.some.inj h] at hr
  obtain ⟨values, hvalues, rfl⟩ := List.mem_map.mp hr
  refine ⟨rfl, values, ?_, rfl⟩
  have hlengths := List.map_splitLengths_length _ _ hlength.ge
  have hmem := List.mem_map_of_mem (f := List.length) hvalues
  rw [hlengths] at hmem
  obtain ⟨item, -, hitem⟩ := List.mem_map.mp hmem
  exact hitem.symm

end Items

/-- A batch inserts what its items do if and only if they all have the table and the columns of the first one. -/
theorem preservesRows_iff (batch : List InsertItem) : PreservesRows batch ↔ SameColumns batch := by
  cases batch with
  | nil => exact ⟨fun _ => nofun, fun _ => ⟨rfl, nofun⟩⟩
  | cons first rest =>
    constructor
    · rintro ⟨hrows, -⟩ _ ⟨⟩
      obtain ⟨hdata, hvalues⟩ := exists_values_of_batchRows hrows
      have hlength : ∀ item ∈ first :: rest, item.data.length = first.data.length := by
        intro item hitem
        obtain ⟨-, values, hlength, hrow⟩ := hvalues item.row (List.mem_map_of_mem hitem)
        exact length_eq_of_get? hlength hrow.symm
      refine ⟨hdata, fun item hitem => ⟨(hvalues item.row (List.mem_map_of_mem hitem)).1, hlength item hitem, ?_⟩⟩
      rw [batchRows_of_length hdata hlength] at hrows
      have hrow := List.map_inj_left.mp (Option.some.inj hrows) item hitem
      rintro ⟨column, value⟩ he
      have hget : Dict.get? (first.columns.zip item.values) = Dict.get? item.data := congrArg Prod.snd hrow
      have hnodup : ((first.columns.zip item.values).map Prod.fst).Nodup := by
        rw [List.map_fst_zip (by rw [length_columns, length_values, hlength item hitem])]
        exact first.nodup
      have hvalue := Dict.get?_of_mem hnodup he
      rw [hget] at hvalue
      exact Dict.mem_of_get?_eq_some hvalue
    · intro hsame
      obtain ⟨hdata, hitems⟩ := hsame first rfl
      have hlength : ∀ item ∈ first :: rest, item.data.length = first.data.length := fun item hitem =>
        (hitems item hitem).2.1
      refine ⟨?_, fun item hitem => rows_insertIntoTable fun hnil => ?_⟩
      · rw [batchRows_of_length hdata hlength]
        refine congrArg some (List.map_congr_left fun item hitem => ?_)
        obtain ⟨htable, hlength, hplaces⟩ := hitems item hitem
        rw [get?_zip_eq hlength hplaces, ← htable]
        rfl
      · have hzero := hlength item hitem
        rw [hnil, List.length_nil] at hzero
        exact hdata (List.length_eq_zero_iff.mp hzero.symm)

/-- Two items with the same columns in another order. -/
theorem rows_swapped : ¬∀ batch : List InsertItem, PreservesRows batch := by
  intro h
  have hrows := (h [⟨"status", [("name", .str "radar"), ("mode", .str "standby")], by decide⟩,
    ⟨"status", [("mode", .str "active"), ("name", .str "fuel")], by decide⟩]).1
  have hvalues := congrArg (Option.map fun rows => rows.map fun r => r.2 "name") hrows
  exact absurd hvalues (by decide +kernel)

end Fmofp.Storage
