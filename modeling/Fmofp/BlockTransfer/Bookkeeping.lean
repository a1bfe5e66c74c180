import Fmofp.BlockTransfer.Manager

/-! The record of every pending transfer counts its filled slots, and a call that is rejected leaves
the records alone. -/

namespace Fmofp.BlockTransfer

open Python Machine

/-- The counters of a record agree with its slots. -/
structure Transfer.Consistent (t : Transfer) : Prop where
  length : t.blocks.length = t.totalSequences
  count : t.receivedCount = t.blocks.countP Option.isSome
  positive : 0 < t.totalSequences
  le : t.receivedCount ≤ t.totalSequences
  complete : t.complete = true ↔ ∀ b ∈ t.blocks, b.isSome = true

def State.Sound (a : State) : Prop := ∀ e ∈ a, e.2.Consistent

/-- The record `t` with another kind of data. -/
def Transfer.SameSlots (t t' : Transfer) : Prop :=
  t'.blocks = t.blocks ∧ t'.totalSequences = t.totalSequences ∧
    t'.receivedCount = t.receivedCount ∧ t'.isZeroBased = t.isZeroBased

theorem startTransfer_consistent (now : ℚ) (sequence : ℕ) {total : ℕ} (h : 1 ≤ total) :
    (startTransfer now sequence total).Consistent where
  length := List.length_replicate
  count := by simp [startTransfer, List.countP_replicate]
  positive := h
  le := Nat.zero_le _
  complete := by
    have hne : total ≠ 0 := by omega
    simp [startTransfer, hne]

theorem examine_sameSlots (t : Transfer) (py : Runtime) (sequence : ℕ) (data : List Value) :
    t.SameSlots (t.examine py sequence data).1 := by
  simp only [Transfer.examine]
  cases data.findSome? (detectItem py) with
  | some found => split_ifs <;> exact ⟨rfl, rfl, rfl, rfl⟩
  | none => split_ifs <;> exact ⟨rfl, rfl, rfl, rfl⟩

/-- Filling an empty slot adds one to the number of filled slots. -/
theorem countP_set_some {α : Type} {slots : List (Option α)} {slot : ℕ}
    (h : slots[slot]? = some none) (v : α) :
    (slots.set slot (some v)).countP Option.isSome = slots.countP Option.isSome + 1 := by
  obtain ⟨hlt, hget⟩ := List.getElem?_eq_some_iff.mp h
  rw [List.countP_set hlt, hget]
  simp

theorem fill_consistent {t t' : Transfer} (h : t.Consistent) (hsame : t.SameSlots t') {slot : ℕ}
    (hempty : t.blocks[slot]? = some none) (data : List Value) : (t'.fill slot data).Consistent := by
  obtain ⟨hblocks, htotal, hcount, -⟩ := hsame
  have hfilled : (t'.fill slot data).blocks.countP Option.isSome = t.receivedCount + 1 := by
    rw [Transfer.fill, hblocks, countP_set_some hempty, h.count]
  have hlength : (t'.fill slot data).blocks.length = t.totalSequences := by
    rw [Transfer.fill, List.length_set, hblocks, h.length]
  constructor
  · rw [hlength, Transfer.fill, htotal]
  · rw [hfilled, Transfer.fill, hcount]
  · rw [Transfer.fill, htotal]
    exact h.positive
  · show t'.receivedCount + 1 ≤ t'.totalSequences
    rw [hcount, htotal, ← hfilled, ← hlength]
    exact List.countP_le_length
  · show (t'.receivedCount + 1 == t'.totalSequences) = true ↔ _
    rw [beq_iff_eq, hcount, htotal, ← hfilled, ← hlength]
    exact List.countP_eq_length

theorem position_lt {len slot : ℕ} {i : ℤ} (h : position len i = some slot) : slot < len := by
  unfold position at h
  split_ifs at h <;> rw [← Option.some.inj h] <;> omega

theorem position_eq_some (len : ℕ) {i : ℤ} (hlow : -1 ≤ i) (hhigh : i < len) (hlen : 0 < len) :
    ∃ slot, position len i = some slot := by
  unfold position
  split_ifs with h1 h2
  · exact ⟨_, rfl⟩
  · exact ⟨_, rfl⟩
  · omega

theorem adjustedSequence_ge (t : Transfer) (sequence : ℕ) : -1 ≤ t.adjustedSequence sequence := by
  unfold Transfer.adjustedSequence
  split_ifs <;> omega

/-- A number beyond the total, or a slot that is filled. -/
def Transfer.refuses (t : Transfer) (sequence : ℕ) : Bool :=
  decide (t.totalSequences ≤ t.adjustedSequence sequence) ||
    ((position t.blocks.length (t.adjustedSequence sequence)).bind fun slot =>
      t.blocks[slot]?).any Option.isSome

/-- A call that `register_block` turns down: an argument that is not valid, or a refused block. -/
def rejects (a : State) (requestId sequence total data : Value) : Bool :=
  match validArguments requestId sequence total data with
  | none => true
  | some (id, sequence, total, _) =>
    ((Dict.get? a id).getD (startTransfer 0 sequence total)).refuses sequence

/-- The record once the block is in its slot. -/
def Transfer.accept (t : Transfer) (py : Runtime) (sequence : ℕ) (data : List Value) (slot : ℕ) :
    Transfer :=
  (t.examine py sequence data).1.fill slot (t.examine py sequence data).2

theorem registerIn_cases (py : Runtime) (id : String) (sequence : ℕ) (data : List Value) {t : Transfer}
    (h : t.Consistent) (a : State) :
    (t.refuses sequence = true ∧
      ∃ answer, registerIn py id sequence data t a = (.ok (.bool answer), a)) ∨
    (t.refuses sequence = false ∧ ∃ slot,
      position t.blocks.length (t.adjustedSequence sequence) = some slot ∧
      t.blocks[slot]? = some none ∧
      registerIn py id sequence data t a =
        (.ok (.bool (t.accept py sequence data slot).complete),
          Dict.set a id (t.accept py sequence data slot))) := by
  by_cases hhigh : (t.totalSequences : ℤ) ≤ t.adjustedSequence sequence
  · refine .inl ⟨by simp [Transfer.refuses, hhigh], false, ?_⟩
    simp only [registerIn, hhigh, if_true]
  · have hlen := h.length
    have hpositive := h.positive
    obtain ⟨slot, hslot⟩ := position_eq_some t.blocks.length
      (adjustedSequence_ge t sequence) (by omega) (by omega)
    obtain ⟨b, hb⟩ : ∃ b, t.blocks[slot]? = some b :=
      ⟨_, List.getElem?_eq_getElem (position_lt hslot)⟩
    simp only [Transfer.refuses, hhigh, hslot, Option.bind_some, hb, Option.any_some, decide_false,
      Bool.false_or, registerIn, if_false]
    cases b with
    | some items => exact .inl ⟨rfl, t.complete, rfl⟩
    | none => exact .inr ⟨rfl, slot, rfl, hb, rfl⟩

theorem accept_consistent {t : Transfer} (h : t.Consistent) (py : Runtime) (sequence : ℕ)
    (data : List Value) {slot : ℕ} (hempty : t.blocks[slot]? = some none) :
    (t.accept py sequence data slot).Consistent :=
  fill_consistent h (examine_sameSlots t py sequence data) hempty _

theorem validArguments_total {requestId sequence total data : Value} {id : String} {s n : ℕ}
    {items : List Value} (h : validArguments requestId sequence total data = some (id, s, n, items)) :
    1 ≤ n := by
  unfold validArguments at h
  split at h
  · split_ifs at h with hvalid
    obtain ⟨-, -, rfl, -⟩ : _ ∧ _ ∧ _ ∧ _ := by simpa using h
    omega
  · cases h

theorem Sound.record {a : State} (h : a.Sound) (id : String) (now : ℚ) (sequence : ℕ) {total : ℕ}
    (htotal : 1 ≤ total) :
    ((Dict.get? a id).getD (startTransfer now sequence total)).Consistent := by
  cases ht : Dict.get? a id with
  | some t => exact h (id, t) (Dict.mem_of_get?_eq_some ht)
  | none => exact startTransfer_consistent now sequence htotal

theorem set_sound {a : State} (h : a.Sound) (id : String) {t : Transfer} (ht : t.Consistent) :
    State.Sound (Dict.set a id t) := by
  intro e he
  rcases Dict.mem_set he with rfl | he
  · exact ht
  · exact h e he

theorem opened_sound {a : State} (h : a.Sound) (now : ℚ) (id : String) (sequence : ℕ) {total : ℕ}
    (htotal : 1 ≤ total) : (a.opened now id sequence total).Sound := by
  unfold State.opened
  split_ifs
  · exact h
  · exact set_sound h id (startTransfer_consistent now sequence htotal)

theorem refuses_startTransfer (now now' : ℚ) (sequence total : ℕ) :
    (startTransfer now sequence total).refuses sequence =
      (startTransfer now' sequence total).refuses sequence := rfl

/-- What `register_block` does: a rejected call adds an empty record at most, any other call fills an
empty slot of its record. -/
theorem registerBlock_cases (py : Runtime) (now : ℚ) (requestId sequence total isFinal data : Value)
    {a : State} (h : a.Sound) :
    (rejects a requestId sequence total data = true ∧
      ((registerBlock py now requestId sequence total isFinal data a).2 = a ∨
        ∃ id s n, Dict.get? a id = none ∧ 1 ≤ n ∧
          (registerBlock py now requestId sequence total isFinal data a).2 =
            Dict.set a id (startTransfer now s n))) ∨
    (rejects a requestId sequence total data = false ∧ ∃ id s n items slot,
      validArguments requestId sequence total data = some (id, s, n, items) ∧
      ((Dict.get? a id).getD (startTransfer now s n)).blocks[slot]? = some none ∧
      registerBlock py now requestId sequence total isFinal data a =
        (.ok (.bool (((Dict.get? a id).getD (startTransfer now s n)).accept py s items slot).complete),
          Dict.set (a.opened now id s n) id
            (((Dict.get? a id).getD (startTransfer now s n)).accept py s items slot))) := by
  unfold rejects registerBlock
  cases hvalid : validArguments requestId sequence total data with
  | none => exact .inl ⟨rfl, .inl rfl⟩
  | some arguments =>
    obtain ⟨id, s, n, items⟩ := arguments
    have htotal := validArguments_total hvalid
    have hrefuses : ((Dict.get? a id).getD (startTransfer 0 s n)).refuses s =
        ((Dict.get? a id).getD (startTransfer now s n)).refuses s := by
      cases Dict.get? a id with
      | some t => rfl
      | none => exact refuses_startTransfer 0 now s n
    simp only [hrefuses]
    rcases registerIn_cases py id s items (Sound.record h id now s htotal)
        (a.opened now id s n) with ⟨hrefused, answer, hstep⟩ | ⟨haccepted, slot, -, hempty, hstep⟩
    · refine .inl ⟨hrefused, ?_⟩
      rw [hstep]
      unfold State.opened
      cases ht : Dict.get? a id with
      | some t => exact .inl (if_pos (Dict.has_iff.mpr ⟨t, ht⟩))
      | none =>
        refine .inr ⟨id, s, n, ht, htotal, if_neg ?_⟩
        simp [Dict.has, ht]
    · exact .inr ⟨haccepted, id, s, n, items, slot, rfl, hempty, hstep⟩

theorem registerBlock_sound (py : Runtime) (now : ℚ) (requestId sequence total isFinal data : Value)
    {a : State} (h : a.Sound) :
    (registerBlock py now requestId sequence total isFinal data a).2.Sound := by
  rcases registerBlock_cases py now requestId sequence total isFinal data h with
    ⟨-, hsame | ⟨id, s, n, -, hn, hopened⟩⟩ | ⟨-, id, s, n, items, slot, hvalid, hempty, hstep⟩
  · rw [hsame]
    exact h
  · rw [hopened]
    exact set_sound h id (startTransfer_consistent now s hn)
  · rw [hstep]
    have htotal := validArguments_total hvalid
    exact set_sound (opened_sound h now id s htotal) id
      (accept_consistent (Sound.record h id now s htotal) py s items hempty)

/-- Some records are removed and the others are as they were. -/
theorem filter_sound {a : State} (h : a.Sound) (p : String × Transfer → Bool) :
    State.Sound (a.filter p) := fun e he => h e (List.mem_of_mem_filter he)

theorem getAssembledData_state (py : Runtime) (requestId : Value) (a : State) :
    (getAssembledData py requestId a).2 = a ∨
      ∃ id, (getAssembledData py requestId a).2 = Dict.erase a id := by
  unfold getAssembledData
  cases a.find requestId with
  | error e => exact .inl rfl
  | ok found =>
    cases found with
    | none => exact .inl rfl
    | some entry =>
      obtain ⟨id, t⟩ := entry
      simp only
      split_ifs
      · cases (t.blocks.flatMap fun b => b.getD []).mapM (processItem py) with
        | error e => exact .inl rfl
        | ok items => exact .inr ⟨id, rfl⟩
      · exact .inl rfl

theorem clearTransfer_state (requestId : Value) (a : State) :
    (clearTransfer requestId a).2 = a ∨ ∃ id, (clearTransfer requestId a).2 = Dict.erase a id := by
  unfold clearTransfer
  cases a.find requestId with
  | error e => exact .inl rfl
  | ok found =>
    cases found with
    | none => exact .inl rfl
    | some entry => exact .inr ⟨entry.1, rfl⟩

theorem step_sound (py : Runtime) (a : State) (op : Operation) (h : a.Sound) :
    (step py a op).2.Sound := by
  cases op with
  | registerBlock now requestId sequence total isFinal data =>
    exact registerBlock_sound py now requestId sequence total isFinal data h
  | getAssembledData requestId =>
    rcases getAssembledData_state py requestId a with hstate | ⟨id, hstate⟩
    · rw [step, hstate]
      exact h
    · rw [step, hstate]
      exact filter_sound h _
  | clearTransfer requestId =>
    rcases clearTransfer_state requestId a with hstate | ⟨id, hstate⟩
    · rw [step, hstate]
      exact h
    · rw [step, hstate]
      exact filter_sound h _
  | cleanupStaleTransfers now maxAge => exact filter_sound h _

/-- A rejected call keeps every record, and a record that it adds is empty. -/
theorem rejected_keeps_records (py : Runtime) (now : ℚ)
    (requestId sequence total isFinal data : Value) {a : State} (h : a.Sound)
    (hrejected : rejects a requestId sequence total data = true) (id : String) :
    (∀ t, Dict.get? a id = some t →
      Dict.get? (registerBlock py now requestId sequence total isFinal data a).2 id = some t) ∧
    (Dict.get? a id = none → ∀ t,
      Dict.get? (registerBlock py now requestId sequence total isFinal data a).2 id = some t →
        t.receivedCount = 0 ∧ ∀ b ∈ t.blocks, b = none) := by
  rcases registerBlock_cases py now requestId sequence total isFinal data h with
    ⟨-, hsame | ⟨id', s, n, hnew, -, hopened⟩⟩ | ⟨haccepted, -⟩
  · rw [hsame]
    exact ⟨fun t ht => ht, fun hnone t ht => by simp [hnone] at ht⟩
  · rw [hopened, Dict.get?_set]
    split_ifs with hid
    · subst hid
      refine ⟨fun t ht => by simp [hnew] at ht, fun _ t ht => ?_⟩
      rw [← Option.some.inj ht]
      exact ⟨rfl, fun b hb => List.eq_of_mem_replicate hb⟩
    · exact ⟨fun t ht => ht, fun hnone t ht => by simp [hnone] at ht⟩
  · simp [hrejected] at haccepted

/-- In every state that calls of the manager reach, the records are consistent and a rejected call
leaves them alone. -/
theorem bookkeeping (py : Runtime) (operations : List Operation) :
    (∀ e ∈ final (step py) ([] : State) operations, e.2.Consistent) ∧
    ∀ now requestId sequence total isFinal data,
      rejects (final (step py) [] operations) requestId sequence total data = true → ∀ id,
        (∀ t, Dict.get? (final (step py) [] operations) id = some t →
          Dict.get? (registerBlock py now requestId sequence total isFinal data
            (final (step py) [] operations)).2 id = some t) ∧
        (Dict.get? (final (step py) [] operations) id = none → ∀ t,
          Dict.get? (registerBlock py now requestId sequence total isFinal data
            (final (step py) [] operations)).2 id = some t →
            t.receivedCount = 0 ∧ ∀ b ∈ t.blocks, b = none) := by
  have hsound : State.Sound (final (step py) [] operations) :=
    invariant_reachable (step_sound py) (s := []) (fun e he => by simp at he) ⟨operations, rfl⟩
  exact ⟨hsound, fun now requestId sequence total isFinal data hrejected id =>
    rejected_keeps_records py now requestId sequence total isFinal data hsound hrejected id⟩

end Fmofp.BlockTransfer
