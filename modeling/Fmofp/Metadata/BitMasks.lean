import Fmofp.Metadata.Schemas
import Fmofp.Machine.BitRange

/-! `extract_bits` and `set_bits` with the masks that their loops build, on integers of any sign.  A number that is
not negative is put into its range exactly; a negative one passes the check and spoils the bits above. -/

namespace Fmofp.Metadata.BitMasks

open Python Machine

/-- `range(start_bit, end_bit + 1)`. -/
def positions (start stop : ℕ) : List ℕ := List.range' start (stop + 1 - start)

/-- `extract_bits`. -/
def extractBits (value : ℤ) (start stop : ℕ) : ℤ :=
  let mask := (positions start stop).foldl (fun (mask : ℤ) (bit : ℕ) => Int.lor mask ((1 : ℤ) <<< bit)) 0
  Int.land value mask >>> start

/-- The mask of `set_bits`, with zeros at the positions. -/
def holeMask (start stop : ℕ) : ℤ :=
  (positions start stop).foldl (fun (mask : ℤ) (bit : ℕ) => Int.land mask (Int.lnot ((1 : ℤ) <<< bit))) (Int.lnot 0)

/-- `set_bits`. -/
def setBits (value newBits : ℤ) (start stop : ℕ) : Except Exception ℤ :=
  let clearedValue := Int.land value (holeMask start stop)
  let shiftedNewBits := newBits <<< start
  let maxNewValue := (1 : ℤ) <<< (stop - start + 1) - 1
  if maxNewValue < newBits then .error .valueError else .ok (Int.lor clearedValue shiftedNewBits)

/-! ### Bits of integers -/

section Bits

theorem testBit_one_shiftLeft (bit j : ℕ) : ((1 : ℤ) <<< bit).testBit j = decide (bit = j) := by
  have hnat : (1 : ℤ) <<< bit = ((2 ^ bit : ℕ) : ℤ) := by
    rw [Int.shiftLeft_eq, one_mul]
    push_cast
    rfl
  rw [hnat]
  show (2 ^ bit).testBit j = _
  rw [Nat.testBit_two_pow]

theorem testBit_shiftRight (n : ℤ) (start j : ℕ) : (n >>> start).testBit j = n.testBit (start + j) := by
  cases n with
  | ofNat m =>
    show (m >>> start).testBit j = m.testBit (start + j)
    rw [Nat.testBit_shiftRight]
  | negSucc m =>
    show (!(m >>> start).testBit j) = !m.testBit (start + j)
    rw [Nat.testBit_shiftRight]

theorem testBit_shiftLeft (n start j : ℕ) :
    ((n : ℤ) <<< start).testBit j = (decide (start ≤ j) && n.testBit (j - start)) := by
  have hnat : (n : ℤ) <<< start = ((n <<< start : ℕ) : ℤ) := by
    rw [Int.shiftLeft_eq, Nat.shiftLeft_eq]
    push_cast
    rfl
  rw [hnat]
  show (n <<< start).testBit j = _
  rw [Nat.testBit_shiftLeft]

theorem eq_of_testBit_eq {m n : ℤ} (h : ∀ j, m.testBit j = n.testBit j) : m = n := by
  have hmixed : ∀ a b : ℕ, ¬∀ j, (a : ℤ).testBit j = (Int.negSucc b).testBit j := by
    intro a b hsame
    have hlarge := hsame (max a b)
    have ha : a.testBit (max a b) = false :=
      Nat.testBit_lt_two_pow ((le_max_left a b).trans_lt Nat.lt_two_pow_self)
    have hb : b.testBit (max a b) = false :=
      Nat.testBit_lt_two_pow ((le_max_right a b).trans_lt Nat.lt_two_pow_self)
    have hlarge' : a.testBit (max a b) = !b.testBit (max a b) := hlarge
    rw [ha, hb] at hlarge'
    cases hlarge'
  cases m with
  | ofNat a =>
    cases n with
    | ofNat b => exact congrArg Int.ofNat (Nat.eq_of_testBit_eq h)
    | negSucc b => exact absurd h (hmixed a b)
  | negSucc a =>
    cases n with
    | ofNat b => exact absurd (fun j => (h j).symm) (hmixed b a)
    | negSucc b =>
      have hbits : ∀ j, (!a.testBit j) = !b.testBit j := h
      exact congrArg Int.negSucc (Nat.eq_of_testBit_eq fun j => Bool.not_inj (hbits j))

end Bits

/-! ### The masks -/

variable (value : ℤ) (start stop : ℕ)

theorem testBit_foldl_lor (bits : List ℕ) (mask : ℤ) (j : ℕ) :
    (bits.foldl (fun (mask : ℤ) (bit : ℕ) => Int.lor mask ((1 : ℤ) <<< bit)) mask).testBit j =
      (mask.testBit j || decide (j ∈ bits)) := by
  induction bits generalizing mask with
  | nil => simp
  | cons bit bits ih =>
    rw [List.foldl_cons, ih, Int.testBit_lor, testBit_one_shiftLeft, Bool.or_assoc, ← Bool.decide_or]
    congr 1
    rw [decide_eq_decide, List.mem_cons, eq_comm]

theorem testBit_foldl_hole (bits : List ℕ) (mask : ℤ) (j : ℕ) :
    (bits.foldl (fun (mask : ℤ) (bit : ℕ) => Int.land mask (Int.lnot ((1 : ℤ) <<< bit))) mask).testBit j =
      (mask.testBit j && !decide (j ∈ bits)) := by
  induction bits generalizing mask with
  | nil => simp
  | cons bit bits ih =>
    rw [List.foldl_cons, ih, Int.testBit_land, Int.testBit_lnot, testBit_one_shiftLeft, Bool.and_assoc,
      ← Bool.not_or, ← Bool.decide_or]
    congr 2
    rw [decide_eq_decide, List.mem_cons, eq_comm]

theorem mem_positions (j : ℕ) : j ∈ positions start stop ↔ start ≤ j ∧ j ≤ stop := by
  rw [positions, List.mem_range'_1]
  omega

theorem testBit_holeMask (j : ℕ) : (holeMask start stop).testBit j = !decide (start ≤ j ∧ j ≤ stop) := by
  have hones : (Int.lnot 0).testBit j = true := by
    rw [Int.testBit_lnot]
    show (!Nat.testBit 0 j) = true
    rw [Nat.zero_testBit]
    rfl
  rw [holeMask, testBit_foldl_hole, hones, Bool.true_and]
  congr 1
  rw [decide_eq_decide, mem_positions]

theorem testBit_extractBits (j : ℕ) :
    (extractBits value start stop).testBit j = (value.testBit (start + j) && decide (start + j ≤ stop)) := by
  have hzero : (0 : ℤ).testBit (start + j) = false := Nat.zero_testBit _
  rw [extractBits, testBit_shiftRight, Int.testBit_land, testBit_foldl_lor, hzero, Bool.false_or]
  congr 1
  rw [decide_eq_decide, mem_positions]
  omega

theorem extractBits_nonneg : 0 ≤ extractBits value start stop := by
  by_contra hneg
  have hlow : ∀ k, stop < start + k → (extractBits value start stop).testBit k = false := by
    intro k hk
    rw [testBit_extractBits, decide_eq_false (not_le.mpr hk), Bool.and_false]
  cases hn : extractBits value start stop with
  | ofNat m =>
    rw [hn] at hneg
    exact hneg (Int.natCast_nonneg m)
  | negSucc m =>
    -- a negative number has ones above the range
    have hhigh := hlow (max m (stop + 1)) (by omega)
    rw [hn] at hhigh
    have hzero : m.testBit (max m (stop + 1)) = false :=
      Nat.testBit_lt_two_pow ((le_max_left m _).trans_lt Nat.lt_two_pow_self)
    have hhigh' : (!m.testBit (max m (stop + 1))) = false := hhigh
    rw [hzero] at hhigh'
    cases hhigh'

/-! ### What `set_bits` returns -/

variable {value start stop} {newBits r : ℤ}

theorem one_shiftLeft_eq (size : ℕ) : (1 : ℤ) <<< size = 2 ^ size := by rw [Int.shiftLeft_eq, one_mul]

/-- Only the upper end of the range is checked. -/
theorem setBits_eq (hrange : start ≤ stop) :
    setBits value newBits start stop =
      if 2 ^ (stop + 1 - start) ≤ newBits then .error .valueError
      else .ok (Int.lor (Int.land value (holeMask start stop)) (newBits <<< start)) := by
  have hsize : stop - start + 1 = stop + 1 - start := by omega
  have hcheck : (1 : ℤ) <<< (stop - start + 1) - 1 < newBits ↔ 2 ^ (stop + 1 - start) ≤ newBits := by
    rw [one_shiftLeft_eq, hsize]
    omega
  rw [setBits]
  simp only [hcheck]

/-- The bits of the range are the new ones, and the others are as they were. -/
theorem testBit_lor_holeMask (hrange : start ≤ stop) {n : ℕ} (hn : n < 2 ^ (stop + 1 - start)) (j : ℕ) :
    (Int.lor (Int.land value (holeMask start stop)) ((n : ℤ) <<< start)).testBit j =
      if start ≤ j ∧ j ≤ stop then n.testBit (j - start) else value.testBit j := by
  rw [Int.testBit_lor, Int.testBit_land, testBit_holeMask, testBit_shiftLeft]
  split_ifs with hj
  · simp [hj]
  · by_cases hlow : start ≤ j
    · have hhigh : n.testBit (j - start) = false := by
        refine Nat.testBit_lt_two_pow (hn.trans_le (Nat.pow_le_pow_right (by decide) ?_))
        omega
      simp [hj, hhigh]
    · simp [hlow]

theorem extractBits_of_testBit (hrange : start ≤ stop) {n : ℕ} (hn : n < 2 ^ (stop + 1 - start))
    (hr : ∀ j, start ≤ j → j ≤ stop → r.testBit j = n.testBit (j - start)) :
    extractBits r start stop = n := by
  apply eq_of_testBit_eq
  intro j
  rw [testBit_extractBits]
  by_cases hj : start + j ≤ stop
  · rw [hr (start + j) (Nat.le_add_right start j) hj, Nat.add_sub_cancel_left, decide_eq_true hj, Bool.and_true]
    rfl
  · have hhigh : n.testBit j = false := by
      refine Nat.testBit_lt_two_pow (hn.trans_le (Nat.pow_le_pow_right (by decide) ?_))
      omega
    rw [decide_eq_false hj, Bool.and_false]
    exact hhigh.symm

/-- The result has the new bits in the range and the old ones elsewhere. -/
def Exact (value newBits : ℤ) (start stop : ℕ) (r : ℤ) : Prop :=
  extractBits r start stop = newBits ∧ ∀ j, ¬(start ≤ j ∧ j ≤ stop) → r.testBit j = value.testBit j

/-- Bits are set exactly, or refused, unless the new ones are a negative number. -/
theorem setBits_exact_iff (value newBits : ℤ) (hrange : start ≤ stop) :
    (setBits value newBits start stop = .error .valueError ∨
        ∃ r, setBits value newBits start stop = .ok r ∧ Exact value newBits start stop r) ↔
      0 ≤ newBits := by
  rw [setBits_eq hrange]
  constructor
  · rintro (herror | ⟨r, -, hr, -⟩)
    · split_ifs at herror with hcheck
      exact (by positivity : (0 : ℤ) ≤ 2 ^ (stop + 1 - start)).trans hcheck
    · exact hr ▸ extractBits_nonneg r start stop
  · intro hnonneg
    obtain ⟨n, rfl⟩ := Int.eq_ofNat_of_zero_le hnonneg
    by_cases hcheck : (2 : ℤ) ^ (stop + 1 - start) ≤ n
    · exact .inl (if_pos hcheck)
    · have hn : n < 2 ^ (stop + 1 - start) := by exact_mod_cast not_le.mp hcheck
      refine .inr ⟨_, if_neg hcheck, ?_, fun j hj => ?_⟩
      · refine extractBits_of_testBit hrange hn fun j hlow hhigh => ?_
        rw [testBit_lor_holeMask hrange hn, if_pos ⟨hlow, hhigh⟩]
      · rw [testBit_lor_holeMask hrange hn, if_neg hj]

theorem setBits_byte_exact :
    setBits 0xAB00 7 0 3 = .error .valueError ∨
      ∃ r, setBits 0xAB00 7 0 3 = .ok r ∧ Exact 0xAB00 7 0 3 r :=
  (setBits_exact_iff 0xAB00 7 (by decide : 0 ≤ 3)).mpr (by decide)

/-- The value of `INITIALIZING` sets every bit from the range on, in a word without any. -/
theorem initializing_not_exact :
    Dict.get? modeValueMap "INITIALIZING" = some (-1) ∧
      ¬(setBits 0 (-1) 0 7 = .error .valueError ∨
        ∃ r, setBits 0 (-1) 0 7 = .ok r ∧ Exact 0 (-1) 0 7 r) := by
  have hresult : setBits 0 (-1) 0 7 = .ok (-1) := by decide +kernel
  refine ⟨by decide, ?_⟩
  rw [hresult]
  rintro (herror | ⟨r, hr, hexact, -⟩)
  · cases herror
  · exact absurd (hexact ▸ extractBits_nonneg r 0 7) (by decide)

/-! ### The arithmetic of the masks -/

/-- What is read of a negative number is the complement of what is read of its own complement. -/
theorem extractBits_negSucc (m start stop : ℕ) :
    Metadata.extractBits (Int.negSucc m) start stop =
      ((2 ^ (stop + 1 - start) - (bitRange m start (stop + 1 - start) + 1) : ℕ) : ℤ) := by
  have hrange : bitRange m start (stop + 1 - start) < 2 ^ (stop + 1 - start) := Nat.mod_lt _ (Nat.two_pow_pos _)
  have hdiv : Int.negSucc m / 2 ^ start = Int.negSucc (m / 2 ^ start) := by
    rw [Int.negSucc_ediv m (by positivity), Int.negSucc_eq]
    push_cast
    rfl
  rw [Metadata.extractBits, hdiv, Int.negSucc_emod _ (by positivity), Nat.cast_sub hrange, bitRange]
  push_cast
  ring

/-- Reading the range is a quotient and a remainder. -/
theorem extractBits_eq (value : ℤ) (start stop : ℕ) :
    extractBits value start stop = Metadata.extractBits value start stop := by
  apply eq_of_testBit_eq
  intro j
  have hsize : start + j ≤ stop ↔ j < stop + 1 - start := by omega
  rw [testBit_extractBits, decide_eq_decide.mpr hsize, Bool.and_comm]
  cases value with
  | ofNat m => exact (testBit_bitRange m start _ j).symm
  | negSucc m =>
    have hrange : bitRange m start (stop + 1 - start) < 2 ^ (stop + 1 - start) := Nat.mod_lt _ (Nat.two_pow_pos _)
    rw [extractBits_negSucc]
    show (decide (j < stop + 1 - start) && !m.testBit (start + j)) = Nat.testBit _ j
    rw [Nat.testBit_two_pow_sub_succ hrange, testBit_bitRange]
    cases decide (j < stop + 1 - start) <;> rfl

/-- The word with a hole is what is left of it without the range. -/
theorem land_holeMask (hrange : start ≤ stop) (value : ℤ) :
    Int.land value (holeMask start stop) = value - Metadata.extractBits value start stop * 2 ^ start := by
  apply eq_of_testBit_eq
  intro j
  have hin : start ≤ j ∧ j ≤ stop ↔ start ≤ j ∧ j < start + (stop + 1 - start) := by omega
  rw [Int.testBit_land, testBit_holeMask, decide_eq_decide.mpr hin]
  cases value with
  | ofNat m =>
    have hleft : Int.ofNat m - Metadata.extractBits (Int.ofNat m) start stop * 2 ^ start =
        (clearRange m start (stop + 1 - start) : ℕ) := by
      have hle : bitRange m start (stop + 1 - start) * 2 ^ start ≤ m :=
        (Nat.mul_le_mul_right _ (Nat.mod_le _ _)).trans (Nat.div_mul_le_self m _)
      rw [clearRange, Nat.cast_sub hle]
      push_cast
      rfl
    rw [hleft]
    exact (testBit_clearRange m start _ j).symm
  | negSucc m =>
    have hlt : bitRange m start (stop + 1 - start) < 2 ^ (stop + 1 - start) := Nat.mod_lt _ (Nat.two_pow_pos _)
    have hones : 2 ^ (stop + 1 - start) - 1 < 2 ^ (stop + 1 - start) := Nat.sub_lt (Nat.two_pow_pos _) Nat.one_pos
    have hle : bitRange m start (stop + 1 - start) * 2 ^ start ≤ m :=
      (Nat.mul_le_mul_right _ (Nat.mod_le _ _)).trans (Nat.div_mul_le_self m _)
    -- a range of ones in the complement is a range of zeros
    have hleft : Int.negSucc m - Metadata.extractBits (Int.negSucc m) start stop * 2 ^ start =
        Int.negSucc (setRange m (2 ^ (stop + 1 - start) - 1) start (stop + 1 - start)) := by
      rw [extractBits_negSucc, setRange_eq_add _ _ _ hones, clearRange, Int.negSucc_eq, Int.negSucc_eq,
        Nat.cast_sub hlt, Nat.cast_add, Nat.cast_sub hle, Nat.cast_mul, Nat.cast_mul,
        Nat.cast_sub Nat.one_le_two_pow]
      push_cast
      ring
    rw [hleft]
    show ((!m.testBit j) && !decide (start ≤ j ∧ j < start + (stop + 1 - start))) = !Nat.testBit _ j
    rw [testBit_setRange _ _ _ hones]
    split_ifs with hj
    · have hone : (2 ^ (stop + 1 - start) - 1).testBit (j - start) = true := by
        rw [Nat.testBit_two_pow_sub_one, decide_eq_true_eq]
        omega
      rw [hone, decide_eq_true hj, Bool.not_true, Bool.and_false]
    · rw [decide_eq_false hj, Bool.not_false, Bool.and_true]

/-- `set_bits` with the masks is the one of the encoding. -/
theorem setBits_eq_arithmetic (hrange : start ≤ stop) (value newBits : ℤ) :
    setBits value newBits start stop = Metadata.setBits value (.int newBits) start stop := by
  have hcheck : (2 : ℤ) ^ (stop + 1 - start) - 1 < newBits ↔ 2 ^ (stop + 1 - start) ≤ newBits := by omega
  rw [setBits_eq hrange, land_holeMask hrange, Int.shiftLeft_eq]
  show _ = if (2 : ℤ) ^ (stop + 1 - start) - 1 < newBits then Except.error Exception.valueError else _
  simp only [hcheck]

end Fmofp.Metadata.BitMasks
