import Fmofp.Machine.Insertion
import Fmofp.Python.Dict

/-! `MissionPlanningSystem`: waypoints, targets and threats, and the optimization of the route. -/

namespace Fmofp.Mission.Planning

open Python

structure Waypoint where
  id : ℤ
  lat : ℚ
  lon : ℚ
  alt : ℚ
  deriving DecidableEq

structure Target where
  id : ℤ
  lat : ℚ
  lon : ℚ
  priority : ℤ

structure Threat where
  id : ℤ
  lat : ℚ
  lon : ℚ
  threatLevel : ℤ

structure MissionPlanningSystem where
  waypoints : List Waypoint
  targets : Dict ℤ Target
  threats : Dict ℤ Threat
  currentPosition : ℚ × ℚ × ℚ

namespace MissionPlanningSystem

-- `sqrt` is `math.sqrt`
variable (sqrt : ℚ → ℚ) (s : MissionPlanningSystem)

/-- `_calculate_distance` of a point at `lat` and `lon`. -/
def calculateDistance (lat lon : ℚ) : ℚ :=
  sqrt ((lat - s.currentPosition.1) ^ 2 + (lon - s.currentPosition.2.1) ^ 2)

def distance (w : Waypoint) : ℚ := s.calculateDistance sqrt w.lat w.lon

/-- The `risk_factor` of `assess_threats`. -/
def riskFactor (threat : Threat) : ℚ :=
  threat.threatLevel / max (s.calculateDistance sqrt threat.lat threat.lon) (1 / 1000)

/-- The waypoint that `optimize_route` inserts for a target. -/
def targetWaypoint (target : Target) : Waypoint :=
  ⟨target.id, target.lat, target.lon, s.currentPosition.2.2⟩

/-- The targets in the order of `sorted(..., reverse=True)`, which keeps the order of equal priorities. -/
def targetsByPriority : List Target :=
  (s.targets.map Prod.snd).mergeSort fun t t' => decide (t'.priority ≤ t.priority)

/-- A waypoint is moved away from each threat that is high. -/
def avoidThreats (w : Waypoint) : Waypoint :=
  (s.threats.map Prod.snd).foldl (fun w threat =>
    if 1 / 2 < s.riskFactor sqrt threat then
      { w with
        lat := w.lat + (w.lat - threat.lat) * (1 / 10)
        lon := w.lon + (w.lon - threat.lon) * (1 / 10) }
    else w) w

def optimizeRoute : MissionPlanningSystem :=
  let sorted := Machine.sortByKey (s.distance sqrt) s.waypoints
  let inserted := s.targetsByPriority.foldl (fun waypoints target =>
    waypoints.insertIdx
      (waypoints.findIdx fun w =>
        decide (s.calculateDistance sqrt target.lat target.lon < s.distance sqrt w))
      (s.targetWaypoint target)) sorted
  { s with waypoints := inserted.map (s.avoidThreats sqrt) }

end MissionPlanningSystem

end Fmofp.Mission.Planning

/-! What calls of `optimize_route` in a row make of a route: it stays sorted and loses nothing, but each
call inserts the targets again. -/

namespace Fmofp.Mission.Planning

open Python Machine

namespace MissionPlanningSystem

variable (sqrt : ℚ → ℚ) (s : MissionPlanningSystem)

/-- No threat is so high that the route avoids it. -/
def NoHighRisk : Prop := ∀ e ∈ s.threats, s.riskFactor sqrt e.2 ≤ 1 / 2

instance : Decidable (s.NoHighRisk sqrt) :=
  inferInstanceAs (Decidable (∀ e ∈ s.threats, s.riskFactor sqrt e.2 ≤ 1 / 2))

/-- `n` calls in a row. -/
def optimized (n : ℕ) : MissionPlanningSystem := (optimizeRoute sqrt)^[n] s

/-- The waypoints of all targets. -/
def targetWaypoints : List Waypoint := (s.targets.map Prod.snd).map s.targetWaypoint

/-- After `n` calls the route is sorted, has the waypoints that it had and one for each target, and is the
route after the first call. -/
structure KeepsRoute (n : ℕ) : Prop where
  sorted : SortedBy (s.distance sqrt) (s.optimized sqrt n).waypoints
  waypoints : (s.optimized sqrt n).waypoints.Perm (s.waypoints ++ s.targetWaypoints)
  idempotent : s.optimized sqrt n = s.optimized sqrt 1

variable {sqrt s}

/-! ### One call -/

theorem avoidThreats_of_noHighRisk (h : s.NoHighRisk sqrt) (w : Waypoint) :
    s.avoidThreats sqrt w = w := by
  rw [avoidThreats, List.foldl_map]
  have hstays : ∀ (w : Waypoint), ∀ e ∈ s.threats, (if 1 / 2 < s.riskFactor sqrt e.2 then
      { w with
        lat := w.lat + (w.lat - e.2.lat) * (1 / 10)
        lon := w.lon + (w.lon - e.2.lon) * (1 / 10) }
      else w) = w := fun w e he => if_neg (not_lt.mpr (h e he))
  rw [List.foldl_ext _ (fun w _ => w) w hstays, List.foldl_fixed]

/-- The targets are inserted one by one into the sorted route. -/
theorem optimizeRoute_waypoints (h : s.NoHighRisk sqrt) :
    (s.optimizeRoute sqrt).waypoints =
      (s.targetsByPriority.map s.targetWaypoint).foldl (insertByKey (s.distance sqrt))
        (sortByKey (s.distance sqrt) s.waypoints) := by
  rw [optimizeRoute, List.foldl_map]
  exact (List.map_congr_left fun w _ => avoidThreats_of_noHighRisk h w).trans (List.map_id _)

theorem targetsByPriority_perm : s.targetsByPriority.Perm (s.targets.map Prod.snd) :=
  List.mergeSort_perm _ _

theorem optimizeRoute_sorted (h : s.NoHighRisk sqrt) :
    SortedBy (s.distance sqrt) (s.optimizeRoute sqrt).waypoints := by
  rw [optimizeRoute_waypoints h]
  exact (sortedBy_sortByKey s.waypoints).foldl_insertByKey _

theorem optimizeRoute_perm (h : s.NoHighRisk sqrt) :
    (s.optimizeRoute sqrt).waypoints.Perm (s.waypoints ++ s.targetWaypoints) := by
  rw [optimizeRoute_waypoints h]
  exact (foldl_insertByKey_perm _ _).trans
    ((sortByKey_perm s.waypoints).append (targetsByPriority_perm.map s.targetWaypoint))

/-- Without targets a sorted route stays as it is. -/
theorem optimizeRoute_of_sorted (h : s.NoHighRisk sqrt) (htargets : s.targets = [])
    (hsorted : SortedBy (s.distance sqrt) s.waypoints) : s.optimizeRoute sqrt = s := by
  have hwaypoints : (s.optimizeRoute sqrt).waypoints = s.waypoints := by
    have hnone : s.targetsByPriority = [] := by
      rw [targetsByPriority, htargets, List.map_nil, List.mergeSort_nil]
    rw [optimizeRoute_waypoints h, hnone, hsorted.sortByKey_eq, List.map_nil, List.foldl_nil]
  exact congrArg (fun waypoints => { s with waypoints := waypoints }) hwaypoints

/-! ### Calls in a row -/

variable (sqrt s) in
theorem optimized_succ (n : ℕ) : s.optimized sqrt (n + 1) = (s.optimized sqrt n).optimizeRoute sqrt :=
  Function.iterate_succ_apply' _ _ _

variable (sqrt s) in
/-- Nothing but the waypoints changes. -/
theorem optimized_eq (n : ℕ) :
    s.optimized sqrt n = { s with waypoints := (s.optimized sqrt n).waypoints } := by
  induction n with
  | zero => rfl
  | succ n ih =>
    rw [optimized_succ, optimizeRoute]
    rw [ih]

theorem optimized_noHighRisk (h : s.NoHighRisk sqrt) (n : ℕ) :
    (s.optimized sqrt n).NoHighRisk sqrt := by
  rw [optimized_eq]
  exact h

variable (sqrt s) in
theorem optimized_distance (n : ℕ) : (s.optimized sqrt n).distance sqrt = s.distance sqrt := by
  rw [optimized_eq]
  rfl

variable (sqrt s) in
theorem optimized_targetWaypoints (n : ℕ) :
    (s.optimized sqrt n).targetWaypoints = s.targetWaypoints := by
  rw [optimized_eq]
  rfl

theorem optimized_sorted (h : s.NoHighRisk sqrt) {n : ℕ} (hn : 1 ≤ n) :
    SortedBy (s.distance sqrt) (s.optimized sqrt n).waypoints := by
  obtain ⟨n, rfl⟩ := Nat.exists_eq_add_of_le' hn
  have hsorted := optimizeRoute_sorted (optimized_noHighRisk h n)
  rwa [optimized_distance, ← optimized_succ] at hsorted

/-- Each call adds one waypoint for each target and takes none away. -/
theorem optimized_perm (h : s.NoHighRisk sqrt) (n : ℕ) :
    (s.optimized sqrt n).waypoints.Perm
      (s.waypoints ++ (List.replicate n s.targetWaypoints).flatten) := by
  induction n with
  | zero => exact (List.append_nil _).symm ▸ List.Perm.refl _
  | succ n ih =>
    have hcall := optimizeRoute_perm (optimized_noHighRisk h n)
    rw [← optimized_succ, optimized_targetWaypoints] at hcall
    rw [List.replicate_succ', List.flatten_append, List.flatten_singleton, ← List.append_assoc]
    exact hcall.trans (ih.append_right _)

theorem optimized_length (h : s.NoHighRisk sqrt) (n : ℕ) :
    (s.optimized sqrt n).waypoints.length = s.waypoints.length + n * s.targets.length := by
  rw [(optimized_perm h n).length_eq, List.length_append, List.length_flatten, List.map_replicate,
    List.sum_replicate, smul_eq_mul, targetWaypoints, List.length_map, List.length_map]

/-- Without targets the calls after the first one change nothing. -/
theorem optimized_of_no_targets (h : s.NoHighRisk sqrt) (htargets : s.targets = []) {n : ℕ}
    (hn : 1 ≤ n) : s.optimized sqrt n = s.optimized sqrt 1 := by
  induction n, hn using Nat.le_induction with
  | base => rfl
  | succ n hn ih =>
    have hsorted := optimized_sorted h hn
    rw [← optimized_distance sqrt s n] at hsorted
    have hnone : (s.optimized sqrt n).targets = [] := by
      rw [optimized_eq]
      exact htargets
    rw [optimized_succ, optimizeRoute_of_sorted (optimized_noHighRisk h n) hnone hsorted, ih]

/-- Without high risks the route is kept by one call, and by more of them exactly when there are no
targets. -/
theorem keepsRoute_iff (h : s.NoHighRisk sqrt) {n : ℕ} (hn : 1 ≤ n) :
    s.KeepsRoute sqrt n ↔ n = 1 ∨ s.targets = [] := by
  constructor
  · intro hkeeps
    have hlength := hkeeps.waypoints.length_eq
    rw [optimized_length h, List.length_append, targetWaypoints, List.length_map, List.length_map,
      Nat.add_left_cancel_iff] at hlength
    rcases Nat.eq_zero_or_pos s.targets.length with hzero | hpos
    · exact .inr (List.eq_nil_of_length_eq_zero hzero)
    · exact .inl (Nat.eq_of_mul_eq_mul_right hpos (hlength.trans (Nat.one_mul _).symm))
  · intro hcase
    refine ⟨optimized_sorted h hn, ?_, ?_⟩
    · rcases hcase with rfl | htargets
      · exact optimizeRoute_perm h
      · rw [optimized_of_no_targets h htargets hn]
        exact optimizeRoute_perm h
    · rcases hcase with rfl | htargets
      · rfl
      · exact optimized_of_no_targets h htargets hn

/-- One waypoint and one target, seen from the origin. -/
def shortRoute : MissionPlanningSystem where
  waypoints := [⟨1, 3, 0, 1000⟩]
  targets := [(1, ⟨1, 2, 0, 5⟩)]
  threats := [(1, ⟨1, 4, 0, 1⟩)]
  currentPosition := (0, 0, 500)

/-- The square root of a square, which the distances of the short route are. -/
def rootOfSquare (x : ℚ) : ℚ := if x = 16 then 4 else if x = 9 then 3 else if x = 4 then 2 else 0

theorem shortRoute_kept_once : shortRoute.KeepsRoute rootOfSquare 1 :=
  (keepsRoute_iff (by decide +kernel) le_rfl).mpr (.inl rfl)

/-- The second call inserts the target again. -/
theorem shortRoute_target_twice : ¬ shortRoute.KeepsRoute rootOfSquare 2 := by
  intro h
  have hlength := h.waypoints.length_eq
  rw [optimized_length (by decide +kernel)] at hlength
  revert hlength
  decide +kernel

end MissionPlanningSystem

end Fmofp.Mission.Planning
