import Mathlib

/-! Estimates that are carried along and blended with measurements: the estimate is a weighted mean of where it
started and of all the measurements, each carried along since it was taken. -/

namespace Machine

/-- The estimate is carried along by `d`, or moves towards the measurement `z` by the part `gain` of the way. -/
inductive Blend (K : Type) where
  | carry (d : K)
  | toward (gain z : K)

namespace Blend

variable {K : Type} [Field K]

def apply (x : K) : Blend K → K
  | carry d => x + d
  | toward gain z => x + gain * (z - x)

/-- The start and the measurements, in order, each where it is by now. -/
def advance (points : List K) : Blend K → List K
  | carry d => points.map (· + d)
  | toward _ z => points ++ [z]

def reweigh (weights : List K) : Blend K → List K
  | carry _ => weights
  | toward gain _ => weights.map ((1 - gain) * ·) ++ [gain]

/-- Gains are at least 0 and at most 1. -/
def Proper [LE K] : Blend K → Prop
  | carry _ => True
  | toward gain _ => 0 ≤ gain ∧ gain ≤ 1

end Blend

open Blend

variable {K : Type} [Field K]

def estimate (x : K) (steps : List (Blend K)) : K := steps.foldl apply x

def points (x : K) (steps : List (Blend K)) : List K := steps.foldl advance [x]

/-- The weights of the points; they depend on the gains only. -/
def weights (steps : List (Blend K)) : List K := steps.foldl reweigh [1]

/-- The sum of the points, each as often as its weight says. -/
def mean (ws ps : List K) : K := (List.zipWith (· * ·) ws ps).sum

theorem mean_append {ws ps : List K} (h : ws.length = ps.length) (w p : K) :
    mean (ws ++ [w]) (ps ++ [p]) = mean ws ps + w * p := by
  rw [mean, List.zipWith_append h, List.sum_append, mean]
  simp

theorem mean_map_mul (c : K) (ws ps : List K) : mean (ws.map (c * ·)) ps = c * mean ws ps := by
  induction ws generalizing ps with
  | nil => simp [mean]
  | cons w ws ih =>
    cases ps with
    | nil => simp [mean]
    | cons p ps =>
      have htail := ih ps
      simp only [mean] at htail ⊢
      rw [List.map_cons, List.zipWith_cons_cons, List.zipWith_cons_cons, List.sum_cons, List.sum_cons, htail]
      ring

/-- To carry every point along moves the mean by the sum of the weights. -/
theorem mean_map_add {ws ps : List K} (h : ws.length = ps.length) (d : K) :
    mean ws (ps.map (· + d)) = mean ws ps + ws.sum * d := by
  induction ws generalizing ps with
  | nil =>
    cases ps with
    | nil => simp [mean]
    | cons p ps => cases h
  | cons w ws ih =>
    cases ps with
    | nil => cases h
    | cons p ps =>
      have htail := ih (Nat.succ_injective h)
      simp only [mean] at htail ⊢
      rw [List.map_cons, List.zipWith_cons_cons, List.zipWith_cons_cons, List.sum_cons, List.sum_cons, List.sum_cons,
        htail]
      ring

/-! ### A run -/

/-- An estimate with its points and their weights. -/
structure Weighed (x : K) (ps ws : List K) : Prop where
  length : ws.length = ps.length
  sum : ws.sum = 1
  mean : x = Machine.mean ws ps

theorem Weighed.step {x : K} {ps ws : List K} (h : Weighed x ps ws) (b : Blend K) :
    Weighed (b.apply x) (b.advance ps) (b.reweigh ws) := by
  cases b with
  | carry d =>
    refine ⟨?_, h.sum, ?_⟩
    · show ws.length = (ps.map (· + d)).length
      rw [List.length_map, h.length]
    · show x + d = Machine.mean ws (ps.map (· + d))
      rw [mean_map_add h.length, h.sum, one_mul, ← h.mean]
  | toward gain z =>
    have hlength : (ws.map ((1 - gain) * ·)).length = ps.length := by rw [List.length_map, h.length]
    refine ⟨?_, ?_, ?_⟩
    · show (ws.map ((1 - gain) * ·) ++ [gain]).length = (ps ++ [z]).length
      rw [List.length_append, List.length_append, hlength, List.length_singleton, List.length_singleton]
    · show (ws.map ((1 - gain) * ·) ++ [gain]).sum = 1
      rw [List.sum_append, List.sum_map_mul_left, List.map_id', h.sum, List.sum_singleton]
      ring
    · show x + gain * (z - x) = Machine.mean (ws.map ((1 - gain) * ·) ++ [gain]) (ps ++ [z])
      rw [mean_append hlength, mean_map_mul, ← h.mean]
      ring

theorem Weighed.run {x : K} {ps ws : List K} (h : Weighed x ps ws) (steps : List (Blend K)) :
    Weighed (steps.foldl apply x) (steps.foldl advance ps) (steps.foldl reweigh ws) := by
  induction steps generalizing x ps ws with
  | nil => exact h
  | cons b steps ih => exact ih (h.step b)

/-- The estimate of a run is the weighted mean of its points. -/
theorem weighed_estimate (x : K) (steps : List (Blend K)) :
    Weighed (estimate x steps) (points x steps) (weights steps) := by
  have hstart : Weighed x [x] [1] := by
    refine ⟨rfl, List.sum_singleton, ?_⟩
    show x = 1 * x + 0
    rw [one_mul, add_zero]
  exact hstart.run steps

variable [LinearOrder K] [IsStrictOrderedRing K]

/-- With gains between 0 and 1 no weight is negative. -/
theorem weights_nonneg {steps : List (Blend K)} (hsteps : ∀ b ∈ steps, b.Proper) : ∀ w ∈ weights steps, 0 ≤ w := by
  have hrun (ws : List K) (hws : ∀ w ∈ ws, 0 ≤ w) : ∀ w ∈ steps.foldl reweigh ws, 0 ≤ w := by
    induction steps generalizing ws with
    | nil => exact hws
    | cons b steps ih =>
      refine ih (fun b hb => hsteps b (List.mem_cons_of_mem _ hb)) _ ?_
      have hb := hsteps b List.mem_cons_self
      cases b with
      | carry d => exact hws
      | toward gain z =>
        obtain ⟨hlow, hhigh⟩ := hb
        intro w hw
        rcases List.mem_append.mp hw with hw | hw
        · obtain ⟨v, hv, rfl⟩ := List.mem_map.mp hw
          exact mul_nonneg (sub_nonneg.mpr hhigh) (hws v hv)
        · rw [List.mem_singleton.mp hw]
          exact hlow
  refine hrun [1] fun w hw => ?_
  rw [List.mem_singleton.mp hw]
  exact zero_le_one

/-- A blended estimate is between the old one and the measurement. -/
theorem toward_mem_uIcc {gain : K} (hgain : 0 ≤ gain ∧ gain ≤ 1) (x z : K) :
    (toward gain z).apply x ∈ Set.uIcc x z := by
  show x + gain * (z - x) ∈ Set.uIcc x z
  rw [Set.mem_uIcc]
  rcases le_total x z with hle | hle
  · refine .inl ⟨?_, ?_⟩
    · nlinarith [mul_nonneg hgain.1 (sub_nonneg.mpr hle)]
    · nlinarith [mul_nonneg (sub_nonneg.mpr hgain.2) (sub_nonneg.mpr hle)]
  · refine .inr ⟨?_, ?_⟩
    · nlinarith [mul_nonneg (sub_nonneg.mpr hgain.2) (sub_nonneg.mpr hle)]
    · nlinarith [mul_nonneg hgain.1 (sub_nonneg.mpr hle)]

end Machine
