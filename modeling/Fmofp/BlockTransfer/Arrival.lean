import Fmofp.BlockTransfer.Bookkeeping

/-! Blocks of integers that arrive one after the other: what each slot holds in the end, as a function
of the order of arrival. -/

namespace Fmofp.BlockTransfer

open Python Machine

/-- A block with its number. -/
abbrev Block := ℕ × List ℤ

/-- The call that a block arrives with. -/
structure Arrival where
  block : Block
  isFinal : Value
  now : ℚ

def integers (data : List ℤ) : List Value := data.map Value.int

def Arrival.operation (id : String) (total : ℕ) (x : Arrival) : Operation :=
  .registerBlock x.now (.str id) (.int x.block.1) (.int total) x.isFinal (.list (integers x.block.2))

def strip (data : List ℤ) : List ℤ := if 2 < data.length then data.drop 2 else data

/-- Block 1 with a first word that may be a count of objects. -/
def leads (x : Block) : Bool := decide (x.1 = 1) && x.2.head?.any fun n => decide (0 < n ∧ n < 100)

/-- What the slot of a block keeps, when the kind of data is known from earlier blocks or not. -/
def stored (known : Bool) (x : Block) : List ℤ :=
  if leads x || (known && decide (x.1 ≠ 1)) then x.2 else strip x.2

/-- What the slots of the blocks keep, by the numbers of the blocks. -/
def contents : Bool → List Block → Dict ℕ (List ℤ)
  | _, [] => []
  | known, x :: xs => (x.1, stored known x) :: contents (known || leads x) xs

/-- The slot of a block. -/
def slotOf (zeroBased : Bool) (total number : ℕ) : ℕ :=
  if zeroBased then number else if number = 0 then total - 1 else number - 1

/-- A number that the record does not refuse. -/
def inRange (zeroBased : Bool) (total number : ℕ) : Prop :=
  if zeroBased then number < total else number ≤ total

def numberedSlots (zeroBased : Bool) (total : ℕ) (d : Dict ℕ (List ℤ)) : Dict ℕ (List ℤ) :=
  d.map fun e => (slotOf zeroBased total e.1, e.2)

def fillSlots (slots : List (Option (List Value))) (d : Dict ℕ (List ℤ)) :
    List (Option (List Value)) :=
  d.foldl (fun slots e => slots.set e.1 (some (integers e.2))) slots

theorem stripHeader_integers (data : List ℤ) : stripHeader (integers data) = integers (strip data) := by
  unfold stripHeader strip integers
  rw [List.length_map]
  split_ifs
  · rw [List.map_drop]
  · rfl

theorem detect_integers (py : Runtime) (data : List ℤ) :
    (integers data).findSome? (detectItem py) = none := by
  rw [List.findSome?_eq_none_iff]
  intro item hitem
  obtain ⟨n, -, rfl⟩ := List.mem_map.mp hitem
  rfl

theorem startsWithCount_integers (data : List ℤ) :
    startsWithCount (integers data) = data.head?.any fun n => decide (0 < n ∧ n < 100) := by
  cases data with
  | nil => rfl
  | cons n rest => rfl

/-- A record looks at a block of integers. -/
theorem examine_integers (py : Runtime) (t : Transfer) (x : Block) :
    (t.examine py x.1 (integers x.2)).2 = integers (stored t.dataType.isSome x) ∧
      (t.examine py x.1 (integers x.2)).1.dataType.isSome = (t.dataType.isSome || leads x) := by
  obtain ⟨number, data⟩ := x
  simp only [Transfer.examine, detect_integers, startsWithCount_integers, stored, leads,
    stripHeader_integers]
  by_cases hnumber : number = 1
  · subst hnumber
    cases data with
    | nil => cases hknown : t.dataType <;> simp [integers, strip, hknown]
    | cons n rest =>
      by_cases hcount : 0 < n ∧ n < 100
      · simp [hcount, integers]
      · have hcount' : ¬(0 < n ∧ n < 100) := hcount
        simp [hcount', integers]
  · cases hknown : t.dataType <;> simp [hnumber, hknown]

theorem slotOf_lt {zeroBased : Bool} {total number : ℕ} (htotal : 0 < total)
    (h : inRange zeroBased total number) : slotOf zeroBased total number < total := by
  unfold slotOf
  cases zeroBased with
  | true => exact h
  | false =>
    have hle : number ≤ total := h
    simp only [Bool.false_eq_true, if_false]
    split_ifs <;> omega

theorem position_slotOf {t : Transfer} {total number : ℕ} (htotal : 0 < total)
    (h : inRange t.isZeroBased total number) :
    t.adjustedSequence number < total ∧
      position total (t.adjustedSequence number) = some (slotOf t.isZeroBased total number) := by
  unfold Transfer.adjustedSequence slotOf position
  cases hzero : t.isZeroBased with
  | true =>
    simp only [inRange, hzero, if_true] at h ⊢
    refine ⟨by omega, ?_⟩
    rw [if_pos (by omega), Int.toNat_natCast]
  | false =>
    simp only [inRange, hzero, Bool.false_eq_true, if_false] at h ⊢
    refine ⟨by omega, ?_⟩
    by_cases hnumber : number = 0
    · subst hnumber
      rw [if_neg (by omega), if_pos (by omega), if_pos rfl]
      congr 1
      omega
    · rw [if_pos (by omega), if_neg hnumber]
      congr 1
      omega

/-- The record as long as it has `total` slots and is complete when all blocks were counted. -/
structure Transfer.Counts (t : Transfer) (total : ℕ) : Prop where
  sequences : t.totalSequences = total
  length : t.blocks.length = total
  complete : t.complete = (t.receivedCount == total)

/-- The record after a block of integers. -/
def Transfer.take (t : Transfer) (py : Runtime) (x : Block) : Transfer :=
  t.accept py x.1 (integers x.2) (slotOf t.isZeroBased t.totalSequences x.1)

theorem take_blocks (t : Transfer) (py : Runtime) (x : Block) :
    (t.take py x).blocks = t.blocks.set (slotOf t.isZeroBased t.totalSequences x.1)
      (some (integers (stored t.dataType.isSome x))) := by
  obtain ⟨hblocks, -⟩ := examine_sameSlots t py x.1 (integers x.2)
  simp only [Transfer.take, Transfer.accept, Transfer.fill, hblocks, (examine_integers py t x).1]

theorem take_counts {t : Transfer} {total : ℕ} (h : t.Counts total) (py : Runtime) (x : Block) :
    (t.take py x).Counts total := by
  obtain ⟨-, htotal, -⟩ := examine_sameSlots t py x.1 (integers x.2)
  constructor
  · exact htotal.trans h.sequences
  · rw [take_blocks, List.length_set, h.length]
  · show (_ == _) = (_ == _)
    rw [htotal, h.sequences]
    rfl

theorem take_receivedCount (t : Transfer) (py : Runtime) (x : Block) :
    (t.take py x).receivedCount = t.receivedCount + 1 := by
  obtain ⟨-, -, hcount, -⟩ := examine_sameSlots t py x.1 (integers x.2)
  exact congrArg (· + 1) hcount

theorem take_isZeroBased (t : Transfer) (py : Runtime) (x : Block) :
    (t.take py x).isZeroBased = t.isZeroBased :=
  (examine_sameSlots t py x.1 (integers x.2)).2.2.2

theorem take_dataType (t : Transfer) (py : Runtime) (x : Block) :
    (t.take py x).dataType.isSome = (t.dataType.isSome || leads x) := (examine_integers py t x).2

section Run

variable {py : Runtime} {a : State} {id : String} {total : ℕ} (hid : id ≠ "") (htotal : 0 < total)

include hid htotal

theorem validArguments_arrival (x : Arrival) :
    validArguments (.str id) (.int x.block.1) (.int total) (.list (integers x.block.2)) =
      some (id, x.block.1, total, integers x.block.2) := by
  have hvalid : id ≠ "" ∧ (0 : ℤ) ≤ (x.block.1 : ℤ) ∧ (1 : ℤ) ≤ (total : ℤ) :=
    ⟨hid, by omega, by omega⟩
  simp [validArguments, Value.int?, hvalid]

variable (py) in
/-- A block whose slot is empty is stored. -/
theorem step_arrival {t : Transfer} (ht : Dict.get? a id = some t) (hcounts : t.Counts total)
    {x : Arrival} (hrange : inRange t.isZeroBased total x.block.1)
    (hempty : t.blocks[slotOf t.isZeroBased total x.block.1]? = some none) :
    step py a (x.operation id total) =
      (.ok (.bool (t.receivedCount + 1 == total)), Dict.set a id (t.take py x.block)) := by
  obtain ⟨hlow, hposition⟩ := position_slotOf htotal hrange
  have hopened : a.opened x.now id x.block.1 total = a := by
    rw [State.opened, if_pos (Dict.has_iff.mpr ⟨t, ht⟩)]
  have hcomplete : (t.take py x.block).complete = (t.receivedCount + 1 == total) := by
    rw [(take_counts hcounts py x.block).complete, take_receivedCount]
  have htake : (t.examine py x.block.1 (integers x.block.2)).1.fill
      (slotOf t.isZeroBased total x.block.1) (t.examine py x.block.1 (integers x.block.2)).2 =
      t.take py x.block := by
    rw [Transfer.take, hcounts.sequences]
    rfl
  simp only [Arrival.operation, step, registerBlock, validArguments_arrival hid htotal, ht, hopened,
    Option.getD_some, registerIn, hcounts.sequences, not_le.mpr hlow, if_false, hcounts.length, hposition,
    hempty, htake, hcomplete]

/-- A first block opens a record. -/
theorem step_opened (x : Arrival) :
    step py a (x.operation id total) =
      step py (a.opened x.now id x.block.1 total) (x.operation id total) := by
  simp only [Arrival.operation, step, registerBlock, validArguments_arrival hid htotal]
  cases ht : Dict.get? a id with
  | some t =>
    have hopened : a.opened x.now id x.block.1 total = a := by
      rw [State.opened, if_pos (Dict.has_iff.mpr ⟨t, ht⟩)]
    rw [hopened, ht, hopened]
  | none =>
    have hopened : a.opened x.now id x.block.1 total =
        Dict.set a id (startTransfer x.now x.block.1 total) := by
      rw [State.opened, if_neg (by simp [Dict.has, ht])]
    have hagain : State.opened (Dict.set a id (startTransfer x.now x.block.1 total)) x.now id
        x.block.1 total = Dict.set a id (startTransfer x.now x.block.1 total) := by
      rw [State.opened, if_pos (by simp [Dict.has])]
    rw [hopened, hagain, Dict.get?_set_self]
    rfl

variable (py) in
/-- Blocks for different empty slots are all stored, and the answers count them. -/
theorem run_arrivals {t : Transfer} (ht : Dict.get? a id = some t) (hcounts : t.Counts total)
    (xs : List Arrival) (hrange : ∀ x ∈ xs, inRange t.isZeroBased total x.block.1)
    (hslots : (xs.map fun x => slotOf t.isZeroBased total x.block.1).Nodup)
    (hempty : ∀ x ∈ xs, t.blocks[slotOf t.isZeroBased total x.block.1]? = some none) :
    outputs (step py) a (xs.map (Arrival.operation id total)) =
      (List.range xs.length).map (fun i => .ok (.bool (t.receivedCount + i + 1 == total))) ∧
    ∃ t', Dict.get? (final (step py) a (xs.map (Arrival.operation id total))) id = some t' ∧
      t'.Counts total ∧ t'.receivedCount = t.receivedCount + xs.length ∧
      t'.blocks = fillSlots t.blocks (numberedSlots t.isZeroBased total
        (contents t.dataType.isSome (xs.map Arrival.block))) := by
  induction xs generalizing a t with
  | nil => exact ⟨rfl, t, ht, hcounts, rfl, rfl⟩
  | cons x xs ih =>
    have hstep := step_arrival py hid htotal ht hcounts (hrange x (by simp))
      (hempty x (by simp))
    have hzero := take_isZeroBased t py x.block
    rw [List.map_cons, List.nodup_cons] at hslots
    obtain ⟨hnew, hslots⟩ := hslots
    have hrest := ih (Dict.get?_set_self a id (t.take py x.block)) (take_counts hcounts py x.block)
      (fun y hy => by rw [hzero]; exact hrange y (List.mem_cons_of_mem _ hy))
      (by rw [hzero]; exact hslots) fun y hy => by
        have hother : slotOf t.isZeroBased total x.block.1 ≠ slotOf t.isZeroBased total y.block.1 :=
          fun h => hnew (List.mem_map.mpr ⟨y, hy, h.symm⟩)
        rw [hzero, take_blocks, hcounts.sequences, List.getElem?_set_ne hother]
        exact hempty y (List.mem_cons_of_mem _ hy)
    obtain ⟨houtputs, t', ht', hcounts', hcount, hblocks⟩ := hrest
    rw [List.map_cons, outputs_cons, final_cons, hstep]
    refine ⟨?_, t', ht', hcounts', ?_, ?_⟩
    · rw [houtputs, take_receivedCount, List.length_cons, List.range_succ_eq_map, List.map_cons,
        List.map_map]
      congr 1
      refine List.map_congr_left fun i _ => ?_
      simp only [Function.comp_apply, Nat.succ_eq_add_one, Except.ok.injEq, Value.bool.injEq]
      congr 1
      omega
    · rw [hcount, take_receivedCount, List.length_cons]
      omega
    · rw [hblocks, hzero, take_dataType, take_blocks, hcounts.sequences]
      rfl

end Run

/-- With one entry for each slot, a slot holds what its entry says. -/
theorem fillSlots_getElem? (slots : List (Option (List Value))) {d : Dict ℕ (List ℤ)}
    (hd : (d.map Prod.fst).Nodup) {i : ℕ} (hi : i < slots.length) {data : List ℤ}
    (hdata : Dict.get? d i = some data) : (fillSlots slots d)[i]? = some (some (integers data)) := by
  have hkeep : ∀ (d : Dict ℕ (List ℤ)) (slots : List (Option (List Value))),
      (∀ e ∈ d, e.1 ≠ i) → (fillSlots slots d)[i]? = slots[i]? := by
    intro d
    induction d with
    | nil => exact fun slots _ => rfl
    | cons e rest ih =>
      intro slots hother
      show (fillSlots (slots.set e.1 _) rest)[i]? = _
      rw [ih _ fun e he => hother e (List.mem_cons_of_mem _ he),
        List.getElem?_set_ne (hother e (by simp))]
  induction d generalizing slots with
  | nil => simp at hdata
  | cons e rest ih =>
    obtain ⟨k, v⟩ := e
    rw [List.map_cons, List.nodup_cons] at hd
    show (fillSlots (slots.set k _) rest)[i]? = _
    by_cases hk : k = i
    · subst hk
      rw [Dict.get?_cons, if_pos rfl] at hdata
      rw [hkeep, List.getElem?_set_self hi, Option.some.inj hdata]
      rintro e he rfl
      exact hd.1 (List.mem_map.mpr ⟨e, he, rfl⟩)
    · rw [Dict.get?_cons, if_neg hk] at hdata
      exact ih _ hd.2 (by rwa [List.length_set]) hdata

/-- The data of blocks that arrive in this order, when all slots are filled. -/
def assembly (zeroBased : Bool) (total : ℕ) (xs : List Block) : List ℤ :=
  (List.range total).flatMap fun i =>
    (Dict.get? (numberedSlots zeroBased total (contents false xs)) i).getD []

theorem processItem_integers (py : Runtime) (data : List ℤ) :
    (integers data).mapM (processItem py) = .ok (data.map fun n => [.int n]) := by
  induction data with
  | nil => rfl
  | cons n rest ih =>
    rw [integers, List.map_cons, List.mapM_cons]
    rw [integers] at ih
    simp only [ih, processItem, bind, Except.bind, pure, Except.pure, List.map_cons]

/-- A complete record whose slots hold `data`. -/
theorem getAssembledData_complete (py : Runtime) {a : State} {id : String} {t : Transfer}
    (ht : Dict.get? a id = some t) (hcomplete : t.complete = true) {data : List ℤ}
    (hdata : (t.blocks.flatMap fun b => b.getD []) = integers data) :
    getAssembledData py (.str id) a = (.ok (.list (integers data)), Dict.erase a id) := by
  have hflatten : (data.map fun n => [Value.int n]).flatten = integers data := by
    rw [integers, ← List.flatMap_def, List.map_eq_flatMap]
  simp only [getAssembledData, State.find, ht, Option.map_some, hcomplete, if_true, hdata,
    processItem_integers, hflatten]

/-- Only the last of `total` answers is `True`. -/
theorem answers_count {total : ℕ} (h : 0 < total) :
    (List.range total).map (fun i => (.ok (.bool (0 + i + 1 == total)) : Except Exception Value)) =
      List.replicate (total - 1) (.ok (.bool false)) ++ [.ok (.bool true)] := by
  obtain ⟨n, rfl⟩ := Nat.exists_eq_succ_of_ne_zero h.ne'
  rw [List.range_succ, List.map_append, Nat.succ_sub_one]
  congr 1
  · rw [List.eq_replicate_iff]
    refine ⟨by simp, fun o ho => ?_⟩
    obtain ⟨i, hi, rfl⟩ := List.mem_map.mp ho
    have hlt := List.mem_range.mp hi
    have hne : (0 + i + 1 == n.succ) = false := by
      rw [beq_eq_false_iff_ne]
      omega
    rw [hne]
  · simp

theorem contents_keys (known : Bool) (xs : List Block) :
    (contents known xs).map Prod.fst = xs.map Prod.fst := by
  induction xs generalizing known with
  | nil => rfl
  | cons x xs ih => rw [contents, List.map_cons, List.map_cons, ih]

theorem numberedSlots_keys (zeroBased : Bool) (total : ℕ) (d : Dict ℕ (List ℤ)) :
    (numberedSlots zeroBased total d).map Prod.fst =
      (d.map Prod.fst).map (slotOf zeroBased total) := by
  simp [numberedSlots, Function.comp_def]

/-- Blocks of a new transfer, one for each slot: only the last is answered with `True`, and then the
data is assembled from what the slots keep. -/
theorem arrivals_assembled (py : Runtime) {a : State} {id : String} (hid : id ≠ "")
    (hnew : Dict.get? a id = none) {first : Arrival} {rest : List Arrival} {total : ℕ}
    (hrange : ∀ x ∈ first :: rest, inRange (first.block.1 == 0) total x.block.1)
    (hslots : ((first :: rest).map fun x => slotOf (first.block.1 == 0) total x.block.1).Perm
      (List.range total)) :
    outputs (step py) a ((first :: rest).map (Arrival.operation id total)) =
      List.replicate (total - 1) (.ok (.bool false)) ++ [.ok (.bool true)] ∧
    getAssembledData py (.str id)
        (final (step py) a ((first :: rest).map (Arrival.operation id total))) =
      (.ok (.list (integers (assembly (first.block.1 == 0) total
        ((first :: rest).map Arrival.block)))),
        Dict.erase (final (step py) a ((first :: rest).map (Arrival.operation id total))) id) := by
  have hlength : (first :: rest).length = total := by
    have hlen := hslots.length_eq
    rwa [List.length_map, List.length_range] at hlen
  have htotal : 0 < total := by
    rw [← hlength]
    exact Nat.succ_pos _
  set t := startTransfer first.now first.block.1 total with hstart
  have hopened : a.opened first.now id first.block.1 total = Dict.set a id t := by
    rw [State.opened, if_neg (by simp [Dict.has, hnew])]
  have hcounts : t.Counts total := by
    refine ⟨rfl, List.length_replicate, ?_⟩
    rw [hstart, startTransfer, eq_comm, beq_eq_false_iff_ne]
    exact htotal.ne
  have hempty : ∀ x ∈ first :: rest,
      t.blocks[slotOf t.isZeroBased total x.block.1]? = some none := fun x hx => by
    rw [hstart, startTransfer, List.getElem?_replicate, if_pos]
    exact slotOf_lt htotal (hrange x hx)
  have hsame : outputs (step py) a ((first :: rest).map (Arrival.operation id total)) =
      outputs (step py) (Dict.set a id t) ((first :: rest).map (Arrival.operation id total)) ∧
      final (step py) a ((first :: rest).map (Arrival.operation id total)) =
        final (step py) (Dict.set a id t) ((first :: rest).map (Arrival.operation id total)) := by
    simp only [List.map_cons, outputs_cons, final_cons, step_opened hid htotal first (a := a), hopened,
      and_self]
  obtain ⟨houtputs, t', ht', hcounts', hcount, hblocks⟩ := run_arrivals py hid htotal
    (Dict.get?_set_self a id t) hcounts (first :: rest) hrange
    (hslots.nodup_iff.mpr List.nodup_range) hempty
  have hcomplete : t'.complete = true := by
    rw [hcounts'.complete, hcount, hlength]
    simp [hstart, startTransfer]
  set placed := numberedSlots (first.block.1 == 0) total
    (contents false ((first :: rest).map Arrival.block)) with hplaced
  have hperm : (placed.map Prod.fst).Perm (List.range total) := by
    rw [hplaced, numberedSlots_keys, contents_keys, List.map_map, List.map_map]
    exact hslots
  have hget : ∀ i < total, t'.blocks[i]? = some (some (integers ((Dict.get? placed i).getD []))) := by
    intro i hi
    have hmem : i ∈ placed.map Prod.fst := hperm.mem_iff.mpr (List.mem_range.mpr hi)
    obtain ⟨⟨k, data⟩, he, rfl⟩ := List.mem_map.mp hmem
    have hdata := Dict.get?_of_mem (hperm.nodup_iff.mpr List.nodup_range) he
    rw [hblocks, hdata]
    exact fillSlots_getElem? t.blocks (hperm.nodup_iff.mpr List.nodup_range)
      (by rw [hcounts.length]; exact hi) hdata
  have hall : t'.blocks = (List.range total).map fun i =>
      some (integers ((Dict.get? placed i).getD [])) := by
    refine List.ext_getElem? fun i => ?_
    by_cases hi : i < total
    · rw [hget i hi, List.getElem?_map, List.getElem?_range hi]
      rfl
    · rw [List.getElem?_eq_none (by rw [hcounts'.length]; omega),
        List.getElem?_eq_none (by simp; omega)]
  rw [hsame.1, hsame.2]
  refine ⟨?_, getAssembledData_complete py ht' hcomplete ?_⟩
  · rw [houtputs, hlength, hstart]
    exact answers_count htotal
  · rw [hall, assembly, ← hplaced, List.flatMap_map, integers, List.map_flatMap]
    rfl

end Fmofp.BlockTransfer
