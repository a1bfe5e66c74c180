import Mathlib.Algebra.Order.Round
import Mathlib.Data.Finset.Card
import Mathlib.Tactic.FieldSimp
import Mathlib.Tactic.Linarith
import Mathlib.Tactic.LinearCombination
import Mathlib.Tactic.Ring

/-! Points on a circle that keep a distance from one another: there is room for only so many. -/

namespace Machine

section Circle

variable {K : Type} [Field K] [LinearOrder K] [FloorRing K]

/-- The way between two points on a circle of length `L`, the shorter way round. -/
def circleDistance (L x y : K) : K :=
  min (|x - y| - L * ⌊|x - y| / L⌋) (L - (|x - y| - L * ⌊|x - y| / L⌋))

variable [IsStrictOrderedRing K]

variable {L : K}

/-- In turns, the way is the distance to the nearest whole number of them. -/
theorem circleDistance_eq_round (hL : 0 < L) (x y : K) :
    circleDistance L x y = L * |(x - y) / L - round ((x - y) / L)| := by
  have habs : |x - y| / L = |(x - y) / L| := by rw [abs_div, abs_of_pos hL]
  have hround : |(|x - y| / L) - round (|x - y| / L)| = |(x - y) / L - round ((x - y) / L)| := by
    rw [habs]
    rcases abs_choice ((x - y) / L) with h | h
    · rw [h]
    · rw [h]
      refine le_antisymm ((round_le _ (-round ((x - y) / L))).trans_eq ?_)
        ((round_le _ (-round (-((x - y) / L)))).trans_eq ?_)
      · rw [Int.cast_neg, ← neg_add', abs_neg, ← sub_eq_add_neg]
      · rw [Int.cast_neg, ← abs_neg]
        congr 1
        ring
  rw [← hround, abs_sub_round_eq_min, mul_min_of_nonneg _ _ hL.le, circleDistance, Int.fract]
  congr 1 <;> field_simp

/-- Every way round that ends at the other point is at least as long. -/
theorem circleDistance_le (hL : 0 < L) (x y : K) (n : ℤ) : circleDistance L x y ≤ |x - y - n * L| := by
  have h := mul_le_mul_of_nonneg_left (round_le ((x - y) / L) n) hL.le
  rw [circleDistance_eq_round hL]
  refine h.trans_eq ?_
  rw [← abs_of_pos hL, ← abs_mul, abs_of_pos hL]
  congr 1
  field_simp

/-- How far `x` lies behind `o`, going round. -/
def residue (L o x : K) : K := L * Int.fract ((x - o) / L)

theorem exists_residue_eq (hL : 0 < L) (o x : K) : ∃ n : ℤ, x = o + residue L o x + n * L := by
  refine ⟨⌊(x - o) / L⌋, ?_⟩
  have h : Int.fract ((x - o) / L) + ⌊(x - o) / L⌋ = (x - o) / L := Int.fract_add_floor _
  have hmul : L * ((x - o) / L) = x - o := by field_simp
  rw [residue]
  linear_combination -hmul - L * h

theorem residue_nonneg (hL : 0 < L) (o x : K) : 0 ≤ residue L o x :=
  mul_nonneg hL.le (Int.fract_nonneg _)

theorem residue_lt (hL : 0 < L) (o x : K) : residue L o x < L :=
  mul_lt_of_lt_one_right hL (Int.fract_lt_one _)

theorem residue_self (o : K) : residue L o o = 0 := by simp [residue]

theorem circleDistance_le_residues (hL : 0 < L) (o x y : K) :
    circleDistance L x y ≤ |residue L o x - residue L o y| := by
  obtain ⟨m, hm⟩ := exists_residue_eq hL o x
  obtain ⟨n, hn⟩ := exists_residue_eq hL o y
  refine (circleDistance_le hL x y (m - n)).trans_eq ?_
  congr 1
  push_cast
  linear_combination hm - hn

theorem circleDistance_le_residue (hL : 0 < L) (o x : K) : circleDistance L o x ≤ L - residue L o x := by
  obtain ⟨m, hm⟩ := exists_residue_eq hL o x
  refine (circleDistance_le hL o x (-m - 1)).trans_eq ?_
  rw [← abs_of_nonneg (sub_nonneg.mpr (residue_lt hL o x).le)]
  congr 1
  push_cast
  linear_combination -hm

/-- Points that keep a distance of `gap` from one another on a circle of length `L` are at most `L / gap`
many: counted in steps of `gap` from one of them, no two are at the same step, and the last step of the
circle is empty. -/
theorem length_le_of_separated {gap : K} (hgap : 0 < gap) (hle : gap ≤ L) {xs : List K}
    (h : xs.Pairwise fun x y => gap ≤ circleDistance L x y) : xs.length ≤ ⌊L / gap⌋₊ := by
  have hL : 0 < L := hgap.trans_le hle
  cases xs with
  | nil => simp
  | cons o rest =>
    obtain ⟨hfirst, -⟩ := List.pairwise_cons.mp h
    let slot : K → ℕ := fun x => ⌊residue L o x / gap⌋₊
    have hdistinct : ((o :: rest).map slot).Nodup := by
      rw [List.Nodup, List.pairwise_map]
      refine h.imp fun {x y} hxy heq => ?_
      have hapart := hxy.trans (circleDistance_le_residues hL o x y)
      have hx := residue_nonneg hL o x
      have hy := residue_nonneg hL o y
      have hclose : |residue L o x / gap - residue L o y / gap| < 1 := by
        have hx' := Nat.floor_le (div_nonneg hx hgap.le)
        have hx'' := Nat.lt_floor_add_one (residue L o x / gap)
        have hy' := Nat.floor_le (div_nonneg hy hgap.le)
        have hy'' := Nat.lt_floor_add_one (residue L o y / gap)
        have heq' : (⌊residue L o x / gap⌋₊ : K) = ⌊residue L o y / gap⌋₊ := by exact_mod_cast heq
        rw [abs_lt]
        constructor <;> linarith
      rw [← sub_div, abs_div, abs_of_pos hgap, div_lt_one hgap] at hclose
      exact absurd hapart (not_le.mpr hclose)
    have hslot : ∀ x ∈ o :: rest, slot x < ⌊L / gap⌋₊ := by
      intro x hx
      have hbound : residue L o x + gap ≤ L := by
        rcases List.mem_cons.mp hx with rfl | hmem
        · rw [residue_self]
          linarith
        · have hapart := (hfirst x hmem).trans (circleDistance_le_residue hL o x)
          linarith
      refine Nat.lt_of_succ_le (Nat.le_floor ?_)
      have hfloor := Nat.floor_le (div_nonneg (residue_nonneg hL o x) hgap.le)
      rw [Nat.cast_succ, le_div_iff₀ hgap]
      have hstep := mul_le_mul_of_nonneg_right hfloor hgap.le
      rw [div_mul_cancel₀ _ hgap.ne'] at hstep
      show (slot x + 1) * gap ≤ L
      linarith
    have hcard := List.toFinset_card_of_nodup hdistinct
    rw [List.length_map] at hcard
    rw [← hcard, ← Finset.card_range ⌊L / gap⌋₊]
    refine Finset.card_le_card fun k hk => ?_
    obtain ⟨x, hx, rfl⟩ := List.mem_map.mp (List.mem_toFinset.mp hk)
    exact Finset.mem_range.mpr (hslot x hx)

end Circle

end Machine
