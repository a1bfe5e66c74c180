import Mathlib

/-! Ranges of bits of a number: reading one, clearing it and putting another value in, with the masks that
do so. -/

namespace Machine

/-- The value of the `size` bits from `start` on. -/
def bitRange (n start size : ℕ) : ℕ := n / 2 ^ start % 2 ^ size

def clearRange (n start size : ℕ) : ℕ := n - bitRange n start size * 2 ^ start

def setRange (n value start size : ℕ) : ℕ := clearRange n start size ||| value * 2 ^ start

variable (n start size : ℕ)

theorem testBit_bitRange (j : ℕ) :
    (bitRange n start size).testBit j = (decide (j < size) && n.testBit (start + j)) := by
  rw [bitRange, Nat.testBit_mod_two_pow, Nat.testBit_div_two_pow, Nat.add_comm]

/-- What is left are the bits above the range and those below it. -/
theorem clearRange_eq : clearRange n start size = 2 ^ (start + size) * (n / 2 ^ (start + size)) + n % 2 ^ start := by
  have hsplit := Nat.div_add_mod n (2 ^ start)
  have hrange := Nat.div_add_mod (n / 2 ^ start) (2 ^ size)
  rw [Nat.div_div_eq_div_mul, ← Nat.pow_add] at hrange
  have hexpand : 2 ^ start * (n / 2 ^ start) =
      2 ^ (start + size) * (n / 2 ^ (start + size)) + n / 2 ^ start % 2 ^ size * 2 ^ start := by
    calc 2 ^ start * (n / 2 ^ start)
        = 2 ^ start * (2 ^ size * (n / 2 ^ (start + size)) + n / 2 ^ start % 2 ^ size) := by rw [hrange]
      _ = _ := by ring
  rw [clearRange, bitRange]
  omega

theorem testBit_clearRange (j : ℕ) :
    (clearRange n start size).testBit j = (n.testBit j && !decide (start ≤ j ∧ j < start + size)) := by
  have hlow : n % 2 ^ start < 2 ^ (start + size) :=
    (Nat.mod_lt n (Nat.two_pow_pos start)).trans_le (Nat.pow_le_pow_right (by norm_num) (Nat.le_add_right start size))
  rw [clearRange_eq, Nat.testBit_two_pow_mul_add _ hlow]
  split_ifs with habove
  · rw [Nat.testBit_mod_two_pow]
    by_cases hbelow : j < start
    · simp [hbelow, not_le.mpr hbelow]
    · simp [hbelow, habove, not_lt.mp hbelow]
  · rw [Nat.testBit_div_two_pow, Nat.sub_add_cancel (not_lt.mp habove)]
    simp [habove]

variable {value : ℕ}

theorem testBit_setRange (hvalue : value < 2 ^ size) (j : ℕ) :
    (setRange n value start size).testBit j =
      if start ≤ j ∧ j < start + size then value.testBit (j - start) else n.testBit j := by
  rw [setRange, Nat.testBit_or, testBit_clearRange, Nat.testBit_mul_two_pow]
  split_ifs with hrange
  · simp [hrange]
  · by_cases hbelow : start ≤ j
    · have hhigh : value.testBit (j - start) = false := by
        apply Nat.testBit_lt_two_pow
        exact hvalue.trans_le (Nat.pow_le_pow_right (by norm_num) (by omega))
      simp [hrange, hhigh]
    · simp [hbelow]

/-- The range holds what was put in. -/
theorem bitRange_setRange (hvalue : value < 2 ^ size) :
    bitRange (setRange n value start size) start size = value := by
  apply Nat.eq_of_testBit_eq
  intro j
  rw [testBit_bitRange, testBit_setRange n start size hvalue]
  by_cases hj : j < size
  · simp [hj]
  · have hhigh : value.testBit j = false :=
      Nat.testBit_lt_two_pow (hvalue.trans_le (Nat.pow_le_pow_right (by norm_num) (not_lt.mp hj)))
    simp [hj, hhigh]

/-- A range depends on its own bits only. -/
theorem bitRange_congr {m n start size : ℕ}
    (h : ∀ j, start ≤ j → j < start + size → m.testBit j = n.testBit j) :
    bitRange m start size = bitRange n start size := by
  apply Nat.eq_of_testBit_eq
  intro j
  rw [testBit_bitRange, testBit_bitRange]
  by_cases hj : j < size
  · rw [h (start + j) (Nat.le_add_right start j) (by omega)]
  · simp [hj]

/-- The value comes beside what is left of the number. -/
theorem setRange_eq_add (hvalue : value < 2 ^ size) :
    setRange n value start size = clearRange n start size + value * 2 ^ start := by
  have hlow : n % 2 ^ start < 2 ^ start := Nat.mod_lt n (Nat.two_pow_pos start)
  have hinner : 2 ^ start * value + n % 2 ^ start < 2 ^ (start + size) := by
    calc 2 ^ start * value + n % 2 ^ start < 2 ^ start * (value + 1) := by rw [Nat.mul_succ]; omega
      _ ≤ 2 ^ start * 2 ^ size := Nat.mul_le_mul_left _ hvalue
      _ = 2 ^ (start + size) := (Nat.pow_add 2 start size).symm
  have hsum : clearRange n start size + value * 2 ^ start =
      2 ^ (start + size) * (n / 2 ^ (start + size)) + (2 ^ start * value + n % 2 ^ start) := by
    rw [clearRange_eq, Nat.mul_comm value]
    omega
  apply Nat.eq_of_testBit_eq
  intro j
  rw [testBit_setRange n start size hvalue, hsum, Nat.testBit_two_pow_mul_add _ hinner,
    Nat.testBit_two_pow_mul_add _ hlow]
  split_ifs with hrange hinside hlower hinside hlower
  · omega
  · rfl
  · omega
  · rw [Nat.testBit_mod_two_pow, decide_eq_true hlower, Bool.true_and]
  · omega
  · rw [Nat.testBit_div_two_pow, Nat.sub_add_cancel (not_lt.mp hinside)]

/-- The lowest bits are replaced by the value. -/
theorem setRange_low (hvalue : value < 2 ^ size) : setRange n value 0 size = n / 2 ^ size * 2 ^ size + value := by
  rw [setRange, clearRange_eq, Nat.zero_add, pow_zero, Nat.mod_one, Nat.add_zero, Nat.mul_one, Nat.mul_comm,
    ← Nat.shiftLeft_eq, Nat.shiftLeft_add_eq_or_of_lt hvalue]

theorem setRange_lt {width : ℕ} (hn : n < 2 ^ width) (hvalue : value < 2 ^ size) (hfits : start + size ≤ width) :
    setRange n value start size < 2 ^ width := by
  apply Nat.or_lt_two_pow
  · exact (Nat.sub_le _ _).trans_lt hn
  · calc value * 2 ^ start < 2 ^ size * 2 ^ start := Nat.mul_lt_mul_of_pos_right hvalue (Nat.two_pow_pos start)
      _ = 2 ^ (start + size) := by rw [← Nat.pow_add, Nat.add_comm]
      _ ≤ 2 ^ width := Nat.pow_le_pow_right (by norm_num) hfits

/-! ### Masks -/

/-- Ones at the bits of the range, put in one after the other. -/
def mask : ℕ := (List.range size).foldl (fun mask bit => mask ||| 1 <<< (start + bit)) 0

theorem testBit_mask (j : ℕ) : (mask start size).testBit j = decide (start ≤ j ∧ j < start + size) := by
  unfold mask
  induction size with
  | zero =>
    rw [List.range_zero, List.foldl_nil, Nat.zero_testBit, eq_comm, decide_eq_false_iff_not]
    omega
  | succ size ih =>
    rw [List.range_succ, List.foldl_append, List.foldl_cons, List.foldl_nil, Nat.testBit_or, ih,
      Nat.one_shiftLeft, Nat.testBit_two_pow, ← Bool.decide_or]
    apply decide_eq_decide.mpr
    omega

theorem and_mask_shiftRight : (n &&& mask start size) >>> start = bitRange n start size := by
  apply Nat.eq_of_testBit_eq
  intro j
  rw [Nat.testBit_shiftRight, Nat.testBit_and, testBit_mask, testBit_bitRange, Bool.and_comm]
  congr 1
  apply decide_eq_decide.mpr
  omega

/-- Clearing is the `and` with the complement of the mask. -/
theorem ldiff_mask : Nat.ldiff n (mask start size) = clearRange n start size := by
  apply Nat.eq_of_testBit_eq
  intro j
  rw [Nat.testBit_ldiff, testBit_mask, testBit_clearRange]

end Machine
