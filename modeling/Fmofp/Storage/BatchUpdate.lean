import Fmofp.Python.Value

/-! `batch_update`: one `UPDATE` for all items, whose arms compare the column that they are to assign.  A row that some
item matches gets the outcome of a comparison, 1 or 0, into the first item's column. -/

namespace Fmofp.Storage

open Python

/-- How a table stores a value in a column, and what `"column" = ?` is for a stored value: both depend on the declared
types.  A comparison with `NULL` has no outcome. -/
structure ColumnTypes where
  stored : String → Value → Value
  equal : String → Value → Value → Option Bool

abbrev TableRow := String → Value

/-- The tables of one database. -/
abbrev Tables := String → List TableRow

/-- The outcome of a comparison as a value. -/
def outcome : Option Bool → Value
  | some true => .int 1
  | some false => .int 0
  | none => .none

variable (types : ColumnTypes)

/-- `"column" = ? AND ...`. -/
def holds (conditions : List (String × Value)) (row : TableRow) : Bool :=
  conditions.all fun e => decide (types.equal e.1 (row e.1) e.2 = some true)

/-- `"column" = ?, ...`. -/
def assign (assigned : List (String × Value)) (row : TableRow) : TableRow :=
  assigned.foldl (fun row e => Function.update row e.1 (types.stored e.1 e.2)) row

/-! ### Single updates -/

/-- `UPDATE "table" SET "column" = ?, ... WHERE "column" = ? AND ...`; without conditions there is no `WHERE`. -/
structure UpdateStatement where
  table : String
  columns : List String
  conditions : List String

namespace UpdateStatement

def apply (statement : UpdateStatement) (params : List Value) (row : TableRow) : TableRow :=
  if holds types (statement.conditions.zip (params.drop statement.columns.length)) row then
    assign types (statement.columns.zip params) row
  else row

/-- The tables after the statement, unless SQLite takes it for none or the parameters are not as many as the
placeholders. -/
def run (statement : UpdateStatement) (params : List Value) (tables : Tables) : Option Tables :=
  if statement.columns ≠ [] ∧ params.length = statement.columns.length + statement.conditions.length then
    some (Function.update tables statement.table ((tables statement.table).map (statement.apply types params)))
  else none

end UpdateStatement

/-- A call of `update_table`, as `add_to_batch` gets it. -/
structure UpdateItem where
  table : String
  data : Dict String Value
  condition : Option (Dict String Value)

/-- The conditions of an item, of which there are none without the dictionary. -/
def UpdateItem.conditions (item : UpdateItem) : Dict String Value := item.condition.getD []

/-- The statement of `update_table` without batches. -/
def updateTable (item : UpdateItem) : UpdateStatement × List Value :=
  (⟨item.table, item.data.map Prod.fst, item.conditions.map Prod.fst⟩,
    item.data.map Prod.snd ++ item.conditions.map Prod.snd)

/-- The items' own statements one after another; one that fails changes nothing. -/
def updateEach (batch : List UpdateItem) (tables : Tables) : Tables :=
  batch.foldl (fun tables item => ((updateTable item).1.run types (updateTable item).2 tables).getD tables) tables

/-! ### The batch -/

/-- `WHEN "column" = ? AND ... THEN "column" = ?, ...`. -/
structure CaseArm where
  conditions : List String
  assigned : List String

def CaseArm.placeholders (arm : CaseArm) : ℕ := arm.conditions.length + arm.assigned.length

/-- `UPDATE "table" SET "column" = CASE arms ELSE "column" END, ...`. -/
structure CaseUpdate where
  table : String
  columns : List String
  arms : List CaseArm

/-- The value of the `CASE` for a row, unless it is that of the `ELSE`.  What is after a `THEN` is an expression, a
comparison. -/
def caseValue (row : TableRow) : List CaseArm → List Value → Option Value
  | [], _ => none
  | arm :: arms, params =>
    if holds types (arm.conditions.zip params) row then
      some (match arm.assigned, params.drop arm.conditions.length with
        | column :: _, v :: _ => outcome (types.equal column (row column) v)
        | _, _ => .none)
    else caseValue row arms (params.drop arm.placeholders)

namespace CaseUpdate

/-- The placeholders of the arms, which every column has. -/
def casePlaceholders (statement : CaseUpdate) : ℕ := (statement.arms.map CaseArm.placeholders).sum

def placeholders (statement : CaseUpdate) : ℕ := statement.columns.length * statement.casePlaceholders

/-- SQLite's grammar: there is a column, every arm has a condition, and one expression after its `THEN`. -/
def Grammatical (statement : CaseUpdate) : Prop :=
  statement.columns ≠ [] ∧ statement.arms ≠ [] ∧
    ∀ arm ∈ statement.arms, arm.conditions ≠ [] ∧ arm.assigned.length = 1

instance (statement : CaseUpdate) : Decidable statement.Grammatical :=
  inferInstanceAs (Decidable (_ ∧ _ ∧ ∀ arm ∈ statement.arms, _))

def apply (statement : CaseUpdate) (params : List Value) (row : TableRow) : TableRow :=
  statement.columns.zipIdx.foldl (fun new e =>
    (caseValue types row statement.arms (params.drop (e.2 * statement.casePlaceholders))).elim new fun v =>
      Function.update new e.1 (types.stored e.1 v)) row

def run (statement : CaseUpdate) (params : List Value) (tables : Tables) : Option Tables :=
  if statement.Grammatical ∧ params.length = statement.placeholders then
    some (Function.update tables statement.table ((tables statement.table).map (statement.apply types params)))
  else none

end CaseUpdate

def UpdateItem.arm (item : UpdateItem) : CaseArm := ⟨item.conditions.map Prod.fst, item.data.map Prod.fst⟩

def UpdateItem.params (item : UpdateItem) : List Value := item.conditions.map Prod.snd ++ item.data.map Prod.snd

/-- `batch_update`, which reads the keys of every condition. -/
def batchUpdate : List UpdateItem → Except Exception (Option (CaseUpdate × List Value))
  | [] => .ok none
  | first :: rest =>
    if (first :: rest).all fun item => item.condition.isSome then
      .ok (some (⟨first.table, first.data.map Prod.fst, (first :: rest).map UpdateItem.arm⟩,
        (first :: rest).flatMap UpdateItem.params))
    else .error .attributeError

/-- The batch is one statement with as many parameters as placeholders that does what the items' statements do. -/
def PreservesUpdates (batch : List UpdateItem) (tables : Tables) : Prop :=
  match batchUpdate batch with
  | .ok (some (statement, params)) => params.length = statement.placeholders ∧
      statement.run types params tables = some (updateEach types batch tables)
  | .ok none => updateEach types batch tables = tables
  | .error _ => False

/-- The item's conditions hold of the row. -/
def UpdateItem.meets (item : UpdateItem) (row : TableRow) : Bool := holds types item.conditions row

/-- What the items' statements make of a row, one after another. -/
def assignEach (batch : List UpdateItem) (row : TableRow) : TableRow :=
  batch.foldl (fun row item => if item.meets types row then assign types item.data row else row) row

/-- The comparison of the first item that the row meets, in the column of the first item of all, is what the items
leave the row with. -/
def LeavesComparison (batch : List UpdateItem) (row : TableRow) : Prop :=
  ∀ first item c v d w, batch.head? = some first → (batch.find? fun item => item.meets types row) = some item →
    first.data = [(c, v)] → item.data = [(d, w)] →
      assignEach types batch row = Function.update row c (types.stored c (outcome (types.equal d (row d) w)))

/-- Every item has conditions and one column, and every row of the table that meets one of them is left with its
comparison. -/
def Comparable (batch : List UpdateItem) (rows : List TableRow) : Prop :=
  batch = [] ∨ (∀ item ∈ batch, item.conditions ≠ [] ∧ item.data.length = 1) ∧
    ∀ row ∈ rows, LeavesComparison types batch row

/-- The comparison of the first item that the row meets. -/
def comparison (batch : List UpdateItem) (row : TableRow) : Option Value :=
  (batch.find? fun item => item.meets types row).bind fun item =>
    item.data.head?.map fun e => outcome (types.equal e.1 (row e.1) e.2)

section Rows

variable {types} {batch : List UpdateItem} {tables : Tables} {table : String}

/-- Columns with their own values before others. -/
theorem zip_values_append (d : Dict String Value) (values : List Value) :
    (d.map Prod.fst).zip (d.map Prod.snd ++ values) = d := by
  induction d with
  | nil => rfl
  | cons e d ih => rw [List.map_cons, List.map_cons, List.cons_append, List.zip_cons_cons, ih]

theorem zip_values (d : Dict String Value) : (d.map Prod.fst).zip (d.map Prod.snd) = d :=
  (List.zip_of_prod rfl rfl).symm

theorem length_fst_eq (d : Dict String Value) : (d.map Prod.snd).length = (d.map Prod.fst).length := by
  rw [List.length_map, List.length_map]

theorem apply_updateTable (item : UpdateItem) (row : TableRow) :
    (updateTable item).1.apply types (updateTable item).2 row =
      if item.meets types row then assign types item.data row else row := by
  unfold updateTable UpdateStatement.apply UpdateItem.meets
  dsimp only
  rw [zip_values_append, List.drop_left' (length_fst_eq item.data), zip_values]

/-- An item's own statement, which is one if there is a column. -/
theorem run_updateTable {item : UpdateItem} (hdata : item.data ≠ []) (tables : Tables) :
    (updateTable item).1.run types (updateTable item).2 tables = some (Function.update tables item.table
      ((tables item.table).map fun row => if item.meets types row then assign types item.data row else row)) := by
  have hcolumns : (updateTable item).1.columns ≠ [] := fun hnil => hdata (List.map_eq_nil_iff.mp hnil)
  have hparams : (updateTable item).2.length =
      (updateTable item).1.columns.length + (updateTable item).1.conditions.length := by
    unfold updateTable
    dsimp only
    rw [List.length_append, length_fst_eq, length_fst_eq]
  have happly : (updateTable item).1.apply types (updateTable item).2 =
      fun row => if item.meets types row then assign types item.data row else row := funext (apply_updateTable item)
  unfold UpdateStatement.run
  rw [if_pos ⟨hcolumns, hparams⟩, happly]
  rfl

/-- The items' statements work on each row by itself. -/
theorem updateEach_eq (htable : ∀ item ∈ batch, item.table = table) (hdata : ∀ item ∈ batch, item.data ≠ [])
    (tables : Tables) :
    updateEach types batch tables = Function.update tables table ((tables table).map (assignEach types batch)) := by
  induction batch generalizing tables with
  | nil =>
    have hid : (tables table).map (assignEach types []) = tables table := List.map_id' _
    rw [hid, Function.update_eq_self]
    rfl
  | cons item batch ih =>
    rw [List.forall_mem_cons] at htable hdata
    rw [updateEach, List.foldl_cons, run_updateTable hdata.1, Option.getD_some, ← updateEach, ih htable.2 hdata.2,
      htable.1, Function.update_idem, Function.update_self, List.map_map]
    rfl

/-- A row that no item meets stays. -/
theorem assignEach_of_find?_none {row : TableRow} (h : (batch.find? fun item => item.meets types row) = none) :
    assignEach types batch row = row := by
  induction batch with
  | nil => rfl
  | cons item batch ih =>
    obtain ⟨hitem, hbatch⟩ := List.forall_mem_cons.mp (List.find?_eq_none.mp h)
    rw [assignEach, List.foldl_cons, if_neg hitem, ← assignEach]
    exact ih (List.find?_eq_none.mpr hbatch)

/-! ### The statement of a batch -/

/-- The value of the `CASE` is the comparison of the first item that the row meets. -/
theorem caseValue_arms (hone : ∀ item ∈ batch, item.data.length = 1) (row : TableRow) (after : List Value) :
    caseValue types row (batch.map UpdateItem.arm) (batch.flatMap UpdateItem.params ++ after) =
      comparison types batch row := by
  induction batch with
  | nil => rfl
  | cons item batch ih =>
    rw [List.forall_mem_cons] at hone
    obtain ⟨e, hdata⟩ := List.length_eq_one_iff.mp hone.1
    have hconditions : (item.conditions.map Prod.fst).zip
        (item.conditions.map Prod.snd ++ (item.data.map Prod.snd ++ (batch.flatMap UpdateItem.params ++ after))) =
          item.conditions := zip_values_append _ _
    have hrest : (item.conditions.map Prod.snd ++ (item.data.map Prod.snd ++
        (batch.flatMap UpdateItem.params ++ after))).drop item.arm.placeholders =
          batch.flatMap UpdateItem.params ++ after := by
      rw [← List.append_assoc]
      apply List.drop_left'
      unfold CaseArm.placeholders UpdateItem.arm
      rw [List.length_append, length_fst_eq, length_fst_eq]
    rw [List.map_cons, List.flatMap_cons, caseValue, UpdateItem.params, List.append_assoc, List.append_assoc, hrest,
      ih hone.2]
    unfold UpdateItem.arm
    dsimp only
    rw [hconditions, List.drop_left' (length_fst_eq _)]
    cases hmeets : holds types item.conditions row with
    | true =>
      have hfind : (item :: batch).find? (fun item => item.meets types row) = some item :=
        List.find?_cons_of_pos hmeets
      have hcomparison : comparison types (item :: batch) row =
          item.data.head?.map fun e => outcome (types.equal e.1 (row e.1) e.2) := by
        unfold comparison
        rw [hfind]
        rfl
      rw [hcomparison, if_pos rfl, hdata]
      rfl
    | false =>
      have hfind : (item :: batch).find? (fun item => item.meets types row) =
          batch.find? (fun item => item.meets types row) :=
        List.find?_cons_of_neg (by rw [UpdateItem.meets, hmeets]; exact Bool.false_ne_true)
      have hcomparison : comparison types (item :: batch) row = comparison types batch row := by
        unfold comparison
        rw [hfind]
      rw [hcomparison, if_neg Bool.false_ne_true]

/-- The statement of items with one column each, which has a placeholder for each parameter. -/
theorem length_params (hone : ∀ item ∈ batch, item.data.length = 1) :
    (batch.flatMap UpdateItem.params).length = ((batch.map UpdateItem.arm).map CaseArm.placeholders).sum := by
  induction batch with
  | nil => rfl
  | cons item batch ih =>
    rw [List.forall_mem_cons] at hone
    rw [List.flatMap_cons, List.length_append, ih hone.2, List.map_cons, List.map_cons, List.sum_cons]
    unfold UpdateItem.params CaseArm.placeholders UpdateItem.arm
    rw [List.length_append, length_fst_eq, length_fst_eq]

/-- Where every item has conditions and one column, the statement of the batch sets the first item's column. -/
theorem run_batchUpdate {first : UpdateItem} {rest : List UpdateItem} {c : String} {v : Value}
    (hfirst : first.data = [(c, v)])
    (hitems : ∀ item ∈ first :: rest, item.conditions ≠ [] ∧ item.data.length = 1) (tables : Tables)
    {statement : CaseUpdate}
    (hstatement : statement = ⟨first.table, first.data.map Prod.fst, (first :: rest).map UpdateItem.arm⟩) :
    ((first :: rest).flatMap UpdateItem.params).length = statement.placeholders ∧
      statement.run types ((first :: rest).flatMap UpdateItem.params) tables =
        some (Function.update tables first.table ((tables first.table).map fun row =>
          (comparison types (first :: rest) row).elim row fun v => Function.update row c (types.stored c v))) := by
  have hone : ∀ item ∈ first :: rest, item.data.length = 1 := fun item hitem => (hitems item hitem).2
  have hcolumns : statement.columns = [c] := by
    rw [hstatement, hfirst]
    rfl
  have harms : statement.arms = (first :: rest).map UpdateItem.arm := by rw [hstatement]
  have hlength : ((first :: rest).flatMap UpdateItem.params).length = statement.placeholders := by
    rw [length_params hone, CaseUpdate.placeholders, CaseUpdate.casePlaceholders, hcolumns, harms,
      List.length_singleton, one_mul]
  have hgrammatical : statement.Grammatical := by
    refine ⟨by rw [hcolumns]; exact List.cons_ne_nil _ _, by rw [harms]; exact List.cons_ne_nil _ _, fun arm harm => ?_⟩
    rw [harms] at harm
    obtain ⟨item, hitem, rfl⟩ := List.mem_map.mp harm
    refine ⟨fun hnil => (hitems item hitem).1 (List.map_eq_nil_iff.mp hnil), ?_⟩
    exact (List.length_map _).trans (hone item hitem)
  have happly : statement.apply types ((first :: rest).flatMap UpdateItem.params) = fun row =>
      (comparison types (first :: rest) row).elim row fun v => Function.update row c (types.stored c v) := by
    funext row
    have hvalue := @caseValue_arms types _ hone row []
    rw [List.append_nil] at hvalue
    unfold CaseUpdate.apply
    rw [hcolumns, harms]
    show (caseValue types row ((first :: rest).map UpdateItem.arm)
      (((first :: rest).flatMap UpdateItem.params).drop (0 * _))).elim row _ = _
    rw [zero_mul, List.drop_zero, hvalue]
  have htable : statement.table = first.table := by rw [hstatement]
  refine ⟨hlength, ?_⟩
  unfold CaseUpdate.run
  rw [if_pos ⟨hgrammatical, hlength⟩, happly, htable]

/-- On a row that meets no item both do nothing; on any other the items have to leave the comparison. -/
theorem leavesComparison_iff {first : UpdateItem} {rest : List UpdateItem} {c : String} {v : Value}
    (hfirst : first.data = [(c, v)]) (hone : ∀ item ∈ first :: rest, item.data.length = 1) (row : TableRow) :
    LeavesComparison types (first :: rest) row ↔
      ((comparison types (first :: rest) row).elim row fun v => Function.update row c (types.stored c v)) =
        assignEach types (first :: rest) row := by
  cases hfind : (first :: rest).find? fun item => item.meets types row with
  | none =>
    have hnone : comparison types (first :: rest) row = none := by
      unfold comparison
      rw [hfind]
      rfl
    rw [hnone, assignEach_of_find?_none hfind]
    refine ⟨fun _ => rfl, fun _ _ item _ _ _ _ _ hitem => ?_⟩
    rw [hfind] at hitem
    cases hitem
  | some item =>
    obtain ⟨⟨d, w⟩, hdata⟩ := List.length_eq_one_iff.mp (hone item (List.mem_of_find?_eq_some hfind))
    have hsome : comparison types (first :: rest) row = some (outcome (types.equal d (row d) w)) := by
      unfold comparison
      rw [hfind, Option.bind_some, hdata]
      rfl
    rw [hsome, Option.elim_some]
    constructor
    · intro h
      exact (h first item c v d w rfl hfind hfirst hdata).symm
    · rintro h first' item' c' v' d' w' hhead hitem hfirst' hdata'
      obtain rfl : first = first' := Option.some.inj hhead
      rw [hfind] at hitem
      obtain rfl : item = item' := Option.some.inj hitem
      obtain ⟨rfl, -⟩ := Prod.mk.inj (List.singleton_inj.mp (hfirst.symm.trans hfirst'))
      obtain ⟨rfl, rfl⟩ := Prod.mk.inj (List.singleton_inj.mp (hdata.symm.trans hdata'))
      exact h.symm

theorem batchUpdate_cons (first : UpdateItem) (rest : List UpdateItem) :
    batchUpdate (first :: rest) =
      if (first :: rest).all fun item => item.condition.isSome then
        .ok (some (⟨first.table, first.data.map Prod.fst, (first :: rest).map UpdateItem.arm⟩,
          (first :: rest).flatMap UpdateItem.params))
      else .error .attributeError := rfl

/-- A batch that preserves the updates has conditions and one column in every item. -/
theorem one_column_of_preservesUpdates {first : UpdateItem} {rest : List UpdateItem}
    (h : PreservesUpdates types (first :: rest) tables) :
    ∀ item ∈ first :: rest, item.conditions ≠ [] ∧ item.data.length = 1 := by
  intro item hitem
  unfold PreservesUpdates at h
  rw [batchUpdate_cons] at h
  by_cases hconditions : ((first :: rest).all fun item => item.condition.isSome) = true
  · rw [if_pos hconditions] at h
    obtain ⟨-, hrun⟩ := h
    unfold CaseUpdate.run at hrun
    split_ifs at hrun with hvalid
    obtain ⟨⟨-, -, harms⟩, -⟩ := hvalid
    obtain ⟨hcondition, hassigned⟩ := harms item.arm (List.mem_map_of_mem hitem)
    refine ⟨fun hnil => hcondition (List.map_eq_nil_iff.mpr hnil), ?_⟩
    rw [UpdateItem.arm, List.length_map] at hassigned
    exact hassigned
  · rw [if_neg hconditions] at h
    exact h.elim

end Rows

/-- A batch on one table does what its items do if and only if each has conditions and one column and every row that
meets an item is left with the item's comparison. -/
theorem preservesUpdates_iff {batch : List UpdateItem} {table : String} (htable : ∀ item ∈ batch, item.table = table)
    (tables : Tables) : PreservesUpdates types batch tables ↔ Comparable types batch (tables table) := by
  cases batch with
  | nil => exact ⟨fun _ => .inl rfl, fun _ => rfl⟩
  | cons first rest =>
    have hpreserves (hitems : ∀ item ∈ first :: rest, item.conditions ≠ [] ∧ item.data.length = 1) :
        PreservesUpdates types (first :: rest) tables ↔
          ∀ row ∈ tables table, LeavesComparison types (first :: rest) row := by
      obtain ⟨⟨c, v⟩, hfirst⟩ := List.length_eq_one_iff.mp (hitems first List.mem_cons_self).2
      have hall : ((first :: rest).all fun item => item.condition.isSome) = true := by
        apply List.all_eq_true.mpr
        intro item hitem
        by_contra hnone
        have hempty := (hitems item hitem).1
        unfold UpdateItem.conditions at hempty
        rw [Option.not_isSome_iff_eq_none.mp hnone] at hempty
        exact hempty rfl
      have hdata : ∀ item ∈ first :: rest, item.data ≠ [] := by
        intro item hitem hnil
        have hlength := (hitems item hitem).2
        rw [hnil] at hlength
        cases hlength
      obtain ⟨hlength, hrun⟩ := @run_batchUpdate types _ _ _ _ hfirst hitems tables _ rfl
      unfold PreservesUpdates
      rw [batchUpdate_cons, if_pos hall]
      dsimp only
      rw [and_iff_right hlength, hrun, updateEach_eq htable hdata, htable first List.mem_cons_self, Option.some.injEq]
      have hone : ∀ item ∈ first :: rest, item.data.length = 1 := fun item hitem => (hitems item hitem).2
      have hrows (row : TableRow) := @leavesComparison_iff types _ _ _ _ hfirst hone row
      simp only [hrows]
      constructor
      · intro heq
        have htables := congrFun heq table
        rw [Function.update_self, Function.update_self] at htables
        exact List.map_inj_left.mp htables
      · intro hsame
        rw [List.map_inj_left.mpr hsame]
    constructor
    · intro h
      have hitems := one_column_of_preservesUpdates h
      exact .inr ⟨hitems, (hpreserves hitems).mp h⟩
    · rintro (hnil | ⟨hitems, hrows⟩)
      · cases hnil
      · exact (hpreserves hitems).mpr hrows

/-- Columns without a declared type: a number is equal to a number, and text to text. -/
def untyped : ColumnTypes where
  stored _ v := v
  equal _ stored param := match stored, param with
    | .none, _ => none
    | _, .none => none
    | .str s, .str s' => some (decide (s = s'))
    | v, v' => some (decide (v.number?.isSome ∧ v.number? = v'.number?))

/-- A flag that is cleared where it is set: the comparison is 0 as well. -/
theorem flag_cleared :
    PreservesUpdates untyped [⟨"status", [("active", .int 0)], some [("active", .int 1)]⟩]
      (fun _ => [fun _ => .int 1]) := by
  refine (@preservesUpdates_iff untyped _ "status" (by decide) _).mpr (.inr ⟨by decide, ?_⟩)
  rintro row hrow first item c v d w ⟨⟩ hitem hfirst hdata
  obtain rfl := List.mem_singleton.mp hrow
  obtain rfl := List.mem_singleton.mp (List.mem_of_find?_eq_some hitem)
  obtain ⟨rfl, rfl⟩ := Prod.mk.inj (List.singleton_inj.mp hfirst)
  obtain ⟨rfl, rfl⟩ := Prod.mk.inj (List.singleton_inj.mp hdata)
  have hmeets : UpdateItem.meets untyped ⟨"status", [("active", .int 0)], some [("active", .int 1)]⟩
      (fun _ => .int 1) = true := by decide +kernel
  have hcomparison : outcome (untyped.equal "active" (.int 1) (.int 0)) = .int 0 := by decide +kernel
  rw [hcomparison, assignEach, List.foldl_cons, if_pos hmeets]
  rfl

/-- The text of an item is not stored, but that the row does not have it yet. -/
theorem comparison_stored :
    ¬∀ (types : ColumnTypes) (batch : List UpdateItem) (table : String), (∀ item ∈ batch, item.table = table) →
      ∀ tables : Tables, PreservesUpdates types batch tables := by
  intro h
  have hpreserves := h untyped [⟨"status", [("mode", .str "active")], some [("name", .str "radar")]⟩] "status"
    (by decide)
    fun _ => [fun column => if column = "name" then .str "radar" else .str "standby"]
  have hmodes := congrArg (Option.map fun tables : Tables => (tables "status").map fun row => row "mode") hpreserves.2
  exact absurd hmodes (by decide +kernel)

end Fmofp.Storage
