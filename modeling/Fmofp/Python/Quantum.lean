import Mathlib
import Fmofp.Python.Value

/-! Bitwise `or` of integers: its sign and its size, and the parts of a number that it puts together. -/

namespace Python

theorem lor_natCast (m n : ℕ) : Int.lor m n = ((m ||| n : ℕ) : ℤ) := rfl

theorem lor_nonneg_iff (m n : ℤ) : 0 ≤ Int.lor m n ↔ 0 ≤ m ∧ 0 ≤ n := by
  cases m <;> cases n <;> simp [Int.lor]

/-- A number that sixteen binary digits hold. -/
def IsWord (n : ℤ) : Prop := 0 ≤ n ∧ n < 65536

instance (n : ℤ) : Decidable (IsWord n) := inferInstanceAs (Decidable (_ ∧ _))

theorem or_lt_iff (m n k : ℕ) : m ||| n < 2 ^ k ↔ m < 2 ^ k ∧ n < 2 ^ k :=
  ⟨fun h => ⟨Nat.left_le_or.trans_lt h, Nat.right_le_or.trans_lt h⟩,
    fun h => Nat.or_lt_two_pow h.1 h.2⟩

theorem isWord_natCast (n : ℕ) : IsWord n ↔ n < 65536 := by
  unfold IsWord
  omega

/-- What is put together with `or` is a word exactly when every part is. -/
theorem isWord_lor (m n : ℤ) : IsWord (Int.lor m n) ↔ IsWord m ∧ IsWord n := by
  by_cases h : 0 ≤ m ∧ 0 ≤ n
  · obtain ⟨m, rfl⟩ := Int.eq_ofNat_of_zero_le h.1
    obtain ⟨n, rfl⟩ := Int.eq_ofNat_of_zero_le h.2
    rw [lor_natCast, isWord_natCast, isWord_natCast, isWord_natCast]
    exact or_lt_iff m n 16
  · have hneg : ¬0 ≤ Int.lor m n := fun hnonneg => h ((lor_nonneg_iff m n).mp hnonneg)
    exact iff_of_false (fun hword => hneg hword.1) fun hwords => h ⟨hwords.1.1, hwords.2.1⟩

/-- Parts that do not overlap add up. -/
theorem or_eq_add {a n k : ℕ} (h : n < 2 ^ k) : (a * 2 ^ k) ||| n = a * 2 ^ k + n := by
  rw [← Nat.shiftLeft_eq, Nat.shiftLeft_add_eq_or_of_lt h]

end Python

/-! Numbers as 16-bit words: scaled, truncated toward zero and cut off to a word, with what is left of
them after that. -/

namespace Python

/-- `n & 0xFFFF`. -/
def word (n : ℤ) : ℤ := n % 65536

/-- `x % m` of floats. -/
def floatMod (x m : ℚ) : ℚ := x - m * ⌊x / m⌋

/-- `round(q)`: a half goes to the even number. -/
def roundHalfEven (q : ℚ) : ℤ :=
  let low := ⌊q⌋
  if q - low < 1 / 2 then low
  else if 1 / 2 < q - low then low + 1
  else if low % 2 = 0 then low else low + 1

theorem isWord_word (n : ℤ) : IsWord (word n) := by
  unfold IsWord word
  omega

theorem word_of_isWord {n : ℤ} (h : IsWord n) : word n = n := by
  unfold IsWord at h
  unfold word
  omega

@[simp] theorem word_word (n : ℤ) : word (word n) = word n := word_of_isWord (isWord_word n)

/-- A number already in the range of the modulus. -/
theorem floatMod_of_range {x m : ℚ} (h : 0 ≤ x) (hlt : x < m) : floatMod x m = x := by
  have hm : 0 < m := h.trans_lt hlt
  have hfloor : ⌊x / m⌋ = 0 := by
    apply Int.floor_eq_zero_iff.mpr
    exact ⟨div_nonneg h hm.le, (div_lt_one hm).mpr hlt⟩
  rw [floatMod, hfloor, Int.cast_zero, mul_zero, sub_zero]

theorem floatMod_self {m : ℚ} (hm : 0 < m) : floatMod m m = 0 := by
  rw [floatMod, div_self hm.ne', Int.floor_one, Int.cast_one, mul_one, sub_self]

/-- What rounding comes to: a neighbour of the number, half a unit away at most, and even where it is
half a unit away. -/
theorem roundHalfEven_cases (q : ℚ) :
    roundHalfEven q = ⌊q⌋ ∧ q - ⌊q⌋ ≤ 1 / 2 ∧ (q - ⌊q⌋ = 1 / 2 → ⌊q⌋ % 2 = 0) ∨
      roundHalfEven q = ⌊q⌋ + 1 ∧ 1 / 2 ≤ q - ⌊q⌋ ∧ (q - ⌊q⌋ = 1 / 2 → ⌊q⌋ % 2 = 1) := by
  unfold roundHalfEven
  dsimp only
  split_ifs with hlow hhigh heven
  · exact .inl ⟨rfl, hlow.le, fun h => absurd h hlow.ne⟩
  · exact .inr ⟨rfl, hhigh.le, fun h => absurd h hhigh.ne'⟩
  · exact .inl ⟨rfl, not_lt.mp hhigh, fun _ => heven⟩
  · exact .inr ⟨rfl, not_lt.mp hlow, fun _ => by omega⟩

theorem abs_roundHalfEven_sub_le (q : ℚ) : |(roundHalfEven q : ℚ) - q| ≤ 1 / 2 := by
  have hfloor := Int.floor_le q
  have hlt := Int.lt_floor_add_one q
  apply abs_sub_le_iff.mpr
  rcases roundHalfEven_cases q with ⟨hround, hle, -⟩ | ⟨hround, hge, -⟩
  · rw [hround]
    constructor <;> linarith
  · rw [hround]
    push_cast
    constructor <;> linarith

/-- Below an even number, rounding goes as far as half of a unit before it. -/
theorem roundHalfEven_lt_iff {n : ℤ} (hn : n % 2 = 0) (q : ℚ) :
    roundHalfEven q < n ↔ q < n - 1 / 2 := by
  have hfloor := Int.floor_le q
  have hlt := Int.lt_floor_add_one q
  rcases roundHalfEven_cases q with ⟨hround, hle, heven⟩ | ⟨hround, hge, hodd⟩
  · rw [hround]
    constructor
    · intro h
      have hstep : (⌊q⌋ : ℚ) + 1 ≤ n := by exact_mod_cast h
      rcases hle.lt_or_eq with hhalf | hhalf
      · linarith
      · have hne : ⌊q⌋ + 1 ≠ n := by
          have := heven hhalf
          omega
        have hstep' : (⌊q⌋ : ℚ) + 2 ≤ n := by exact_mod_cast (show ⌊q⌋ + 2 ≤ n by omega)
        linarith
    · intro h
      have : (⌊q⌋ : ℚ) < n := by linarith
      exact_mod_cast this
  · rw [hround]
    constructor
    · intro h
      have hstep : (⌊q⌋ : ℚ) + 2 ≤ n := by exact_mod_cast (show ⌊q⌋ + 2 ≤ n by omega)
      linarith
    · intro h
      have hfloorlt : (⌊q⌋ : ℚ) + 1 ≤ n := by
        have : (⌊q⌋ : ℚ) < n := by linarith
        exact_mod_cast this
      have hne : ⌊q⌋ + 1 ≠ n := by
        intro heq
        have heq' : (⌊q⌋ : ℚ) + 1 = n := by exact_mod_cast heq
        have hhalf : q - ⌊q⌋ = 1 / 2 := by linarith
        have := hodd hhalf
        linarith
      have hstep : ⌊q⌋ + 1 ≤ n := by exact_mod_cast hfloorlt
      omega

theorem roundHalfEven_nonneg {q : ℚ} (h : 0 ≤ q) : 0 ≤ roundHalfEven q := by
  have hfloor : 0 ≤ ⌊q⌋ := Int.floor_nonneg.mpr h
  unfold roundHalfEven
  dsimp only
  split_ifs <;> omega

@[simp] theorem truncate_intCast (n : ℤ) : truncate (n : ℚ) = n := by
  unfold truncate
  split_ifs
  · exact Int.floor_intCast n
  · exact Int.ceil_intCast n

theorem truncate_mono {x y : ℚ} (h : x ≤ y) : truncate x ≤ truncate y := by
  unfold truncate
  split_ifs with hx hy hy
  · exact Int.floor_le_floor h
  · exact absurd (hx.trans h) hy
  · have hceil : ⌈x⌉ ≤ 0 := Int.ceil_le.mpr (by exact_mod_cast (not_le.mp hx).le)
    have hfloor : 0 ≤ ⌊y⌋ := Int.floor_nonneg.mpr hy
    omega
  · exact Int.ceil_le_ceil h

theorem truncate_le {q : ℚ} {n : ℤ} (h : q ≤ n) : truncate q ≤ n := by
  have hle := truncate_mono h
  rwa [truncate_intCast] at hle

theorem le_truncate {q : ℚ} {n : ℤ} (h : n ≤ q) : n ≤ truncate q := by
  have hle := truncate_mono h
  rwa [truncate_intCast] at hle

/-- Below a positive bound there is no truncation up to it. -/
theorem truncate_lt {q : ℚ} {n : ℤ} (hn : 0 < n) (h : q < n) : truncate q < n := by
  unfold truncate
  split_ifs with hq
  · exact Int.floor_lt.mpr h
  · have hceil : ⌈q⌉ ≤ 0 := Int.ceil_le.mpr (by exact_mod_cast (not_le.mp hq).le)
    omega

theorem abs_truncate_sub_lt (q : ℚ) : |(truncate q : ℚ) - q| < 1 := by
  unfold truncate
  split_ifs
  · have hle := Int.floor_le q
    have hlt := Int.lt_floor_add_one q
    exact abs_sub_lt_iff.mpr ⟨by linarith, by linarith⟩
  · have hle := Int.le_ceil q
    have hlt := Int.ceil_lt_add_one q
    exact abs_sub_lt_iff.mpr ⟨by linarith, by linarith⟩

/-- What truncation takes off a number in steps of one `k`-th is less than a step. -/
theorem abs_truncate_scaled_sub_lt {k : ℚ} (hk : 0 < k) (q : ℚ) :
    |(truncate (q * k) : ℚ) / k - q| < 1 / k := by
  have hscaled : (truncate (q * k) : ℚ) / k - q = ((truncate (q * k) : ℚ) - q * k) / k := by
    field_simp
  rw [hscaled, abs_div, abs_of_pos hk]
  exact div_lt_div_of_pos_right (abs_truncate_sub_lt (q * k)) hk

/-- A number of whole steps survives the scaling. -/
theorem truncate_scaled_div {k : ℚ} (hk : k ≠ 0) (n : ℤ) : truncate ((n : ℚ) / k * k) = n := by
  rw [div_mul_cancel₀ _ hk, truncate_intCast]

end Python

/-! Numbers cut off to a range and rounded to a multiple of a quantum, and the codes that count the
quanta. -/

namespace Python

/-- A function to the whole numbers that does not carry a number past a whole one. -/
structure IsRounding (round : ℚ → ℤ) : Prop where
  le : ∀ {q : ℚ} {n : ℤ}, q ≤ n → round q ≤ n
  ge : ∀ {q : ℚ} {n : ℤ}, n ≤ q → n ≤ round q

/-- `q` cut off to what is between 0 and `top`. -/
def saturate (top q : ℚ) : ℚ := max 0 (min top q)

/-- `q` in the range up to `top`, in whole quanta. -/
def quantize (round : ℚ → ℤ) (quantum top q : ℚ) : ℚ := round (saturate top q / quantum) * quantum

theorem isRounding_truncate : IsRounding truncate := ⟨truncate_le, le_truncate⟩

theorem isRounding_roundHalfEven : IsRounding roundHalfEven := by
  constructor
  · intro q n h
    rcases roundHalfEven_cases q with ⟨hround, -, -⟩ | ⟨hround, hhalf, -⟩
    · rw [hround]
      exact_mod_cast (Int.floor_le q).trans h
    · have hfloor : (⌊q⌋ : ℚ) < n := by linarith
      rw [hround]
      exact_mod_cast hfloor
  · intro q n h
    have hfloor : n ≤ ⌊q⌋ := Int.le_floor.mpr h
    rcases roundHalfEven_cases q with ⟨hround, -, -⟩ | ⟨hround, -, -⟩
    · exact hfloor.trans hround.ge
    · rw [hround]
      omega

namespace IsRounding

variable {round : ℚ → ℤ} (hround : IsRounding round)

include hround

theorem intCast (n : ℤ) : round (n : ℚ) = n := le_antisymm (hround.le le_rfl) (hround.ge le_rfl)

/-- A code that is cut off at the top and not negative counts the quanta of the number in its range. -/
theorem min_eq_quanta {quantum : ℚ} (hquantum : 0 < quantum) (n : ℕ) {q : ℚ}
    (hnonneg : 0 ≤ round (q / quantum)) :
    min (n : ℤ) (round (q / quantum)) = round (saturate (n * quantum) q / quantum) := by
  rcases le_total (n * quantum) q with htop | htop
  · have hover : ((n : ℤ) : ℚ) ≤ q / quantum := by
      rw [le_div_iff₀ hquantum]
      exact_mod_cast htop
    have hzero : (0 : ℚ) ≤ n * quantum := by positivity
    have hcode : ((n : ℚ) * quantum) / quantum = ((n : ℤ) : ℚ) := by
      rw [mul_div_cancel_right₀ _ hquantum.ne', Int.cast_natCast]
    rw [min_eq_left (hround.ge hover), saturate, min_eq_left htop, max_eq_right hzero, hcode,
      hround.intCast]
  · have hunder : q / quantum ≤ ((n : ℤ) : ℚ) := by
      rw [div_le_iff₀ hquantum]
      exact_mod_cast htop
    rw [min_eq_right (hround.le hunder), saturate, min_eq_right htop]
    rcases le_total 0 q with hq | hq
    · rw [max_eq_right hq]
    · have hlow : round (q / quantum) ≤ ((0 : ℤ)) :=
        hround.le (by rw [Int.cast_zero]; exact div_nonpos_of_nonpos_of_nonneg hq hquantum.le)
      rw [max_eq_left hq, zero_div, ← Int.cast_zero, hround.intCast]
      exact le_antisymm hlow hnonneg

end IsRounding

theorem truncate_nonneg_iff (q : ℚ) : 0 ≤ truncate q ↔ -1 < q := by
  unfold truncate
  split_ifs with hq
  · exact iff_of_true (Int.floor_nonneg.mpr hq) (by linarith)
  · constructor
    · intro h
      have := Int.ceil_lt_add_one q
      have hcast : (0 : ℚ) ≤ ⌈q⌉ := by exact_mod_cast h
      linarith
    · exact Int.ceil_nonneg_of_neg_one_lt

theorem roundHalfEven_nonneg_iff (q : ℚ) : 0 ≤ roundHalfEven q ↔ -(1 / 2) ≤ q := by
  have hlt := roundHalfEven_lt_iff (n := 0) rfl q
  rw [← not_lt, hlt, Int.cast_zero, zero_sub, not_lt]

end Python
