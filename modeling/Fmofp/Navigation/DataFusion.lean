import Fmofp.Machine.Blending
import Fmofp.Machine.Run

/-! `NavDataFusion`: three scalar Kalman filters, one for each axis, in exact arithmetic.  Each is a weighted mean of
where it started and of all its fixes. -/

namespace Fmofp.Navigation

open Machine

/-- `_ScalarKalman`. -/
structure ScalarKalman where
  x : ℚ
  P : ℚ
  Q : ℚ
  R : ℚ

namespace ScalarKalman

def initial (initialValue processNoise measurementNoise : ℚ) : ScalarKalman :=
  ⟨initialValue, 1, processNoise, measurementNoise⟩

variable (f : ScalarKalman)

def predict (dt velocity : ℚ) : ScalarKalman := { f with x := f.x + velocity * dt, P := f.P + f.Q * dt }

/-- `K` of an update. -/
def gain : ℚ := f.P / (f.P + f.R)

def update (measurement : ℚ) : ScalarKalman :=
  { f with x := f.x + f.gain * (measurement - f.x), P := (1 - f.gain) * f.P }

end ScalarKalman

structure NavDataFusion where
  kfLat : ScalarKalman
  kfLon : ScalarKalman
  kfAlt : ScalarKalman
  heading : ℚ
  lastGpsTime : Option ℚ
  gpsFixCount : ℕ

namespace NavDataFusion

def gpsRLat : ℚ := (5 / 111000) ^ 2

def gpsRLon : ℚ := (5 / 111000) ^ 2

def gpsRAlt : ℚ := (10 / 0.3048) ^ 2

def qLat : ℚ := (1 / 111000) ^ 2

def qLon : ℚ := (1 / 111000) ^ 2

def qAlt : ℚ := (2 / 0.3048) ^ 2

/-- `__init__`. -/
def initial : NavDataFusion where
  kfLat := .initial 0 qLat gpsRLat
  kfLon := .initial 0 qLon gpsRLon
  kfAlt := .initial 30000 qAlt gpsRAlt
  heading := 0
  lastGpsTime := none
  gpsFixCount := 0

variable (n : NavDataFusion)

def predict (dt latRateDps lonRateDps altRateFps headingDeg : ℚ) : NavDataFusion :=
  { n with
    kfLat := n.kfLat.predict dt latRateDps
    kfLon := n.kfLon.predict dt lonRateDps
    kfAlt := n.kfAlt.predict dt altRateFps
    heading := headingDeg }

def updateGps (latDeg lonDeg altFt now : ℚ) : NavDataFusion :=
  { n with
    kfLat := n.kfLat.update latDeg
    kfLon := n.kfLon.update lonDeg
    kfAlt := n.kfAlt.update altFt
    lastGpsTime := some now
    gpsFixCount := n.gpsFixCount + 1 }

/-- `get_fused_position`. -/
def fusedPosition : ℚ × ℚ × ℚ × ℚ := (n.kfLat.x, n.kfLon.x, n.kfAlt.x, n.heading)

inductive Axis where
  | lat
  | lon
  | alt
  deriving DecidableEq

def kf : Axis → ScalarKalman
  | .lat => n.kfLat
  | .lon => n.kfLon
  | .alt => n.kfAlt

/-- The calls, with the clock at a fix. -/
inductive Call where
  | predict (dt latRateDps lonRateDps altRateFps headingDeg : ℚ)
  | updateGps (latDeg lonDeg altFt now : ℚ)

def step : Call → Unit × NavDataFusion
  | .predict dt latRate lonRate altRate heading => ((), n.predict dt latRate lonRate altRate heading)
  | .updateGps lat lon alt now => ((), n.updateGps lat lon alt now)

def after (calls : List Call) : NavDataFusion := final step initial calls

/-! ### One axis -/

/-- What a call does to an axis. -/
inductive Input where
  | predict (dt velocity : ℚ)
  | update (measurement : ℚ)

def Call.input (axis : Axis) : Call → Input
  | predict dt lat lon alt _ => .predict dt (match axis with
    | .lat => lat
    | .lon => lon
    | .alt => alt)
  | updateGps lat lon alt _ => .update (match axis with
    | .lat => lat
    | .lon => lon
    | .alt => alt)

/-- The calls differ in the fix of the axis only, if at all. -/
def SameBut (axis : Axis) : Call → Call → Prop
  | .updateGps lat lon alt now, .updateGps lat' lon' alt' now' =>
    (axis ≠ .lat → lat = lat') ∧ (axis ≠ .lon → lon = lon') ∧ (axis ≠ .alt → alt = alt') ∧ now = now'
  | c, c' => c = c'

/-- The time does not run backwards. -/
def Call.Forward : Call → Prop
  | predict dt _ _ _ _ => 0 ≤ dt
  | updateGps _ _ _ _ => True

end NavDataFusion

open NavDataFusion (Axis Call Input)

/-! ### One filter -/

namespace ScalarKalman

variable {f : ScalarKalman}

def step (f : ScalarKalman) : Input → ScalarKalman
  | .predict dt velocity => f.predict dt velocity
  | .update measurement => f.update measurement

def run (f : ScalarKalman) (inputs : List Input) : ScalarKalman := inputs.foldl step f

/-- A filter with some uncertainty, and with noise. -/
structure Proper (f : ScalarKalman) : Prop where
  P : 0 < f.P
  Q : 0 < f.Q
  R : 0 < f.R

theorem Proper.gain (h : f.Proper) : 0 < f.gain ∧ f.gain < 1 := by
  have hsum : 0 < f.P + f.R := add_pos h.P h.R
  refine ⟨div_pos h.P hsum, ?_⟩
  rw [ScalarKalman.gain, div_lt_one hsum]
  exact lt_add_of_pos_right f.P h.R

theorem Proper.update_P_pos (h : f.Proper) (z : ℚ) : 0 < (f.update z).P :=
  mul_pos (sub_pos.mpr h.gain.2) h.P

theorem Proper.update_P_lt (h : f.Proper) (z : ℚ) : (f.update z).P < f.P := by
  show (1 - f.gain) * f.P < f.P
  nlinarith [mul_pos h.gain.1 h.P]

/-- What is uncertain after a fix is less than the noise of the fix. -/
theorem Proper.update_P_lt_R (h : f.Proper) (z : ℚ) : (f.update z).P < f.R := by
  have hsum : 0 < f.P + f.R := add_pos h.P h.R
  have hP : (f.update z).P = f.gain * f.R := by
    show (1 - f.gain) * f.P = f.gain * f.R
    rw [ScalarKalman.gain]
    field_simp
    ring
  rw [hP]
  exact mul_lt_of_lt_one_left h.R h.gain.2

theorem Proper.predict (h : f.Proper) {dt : ℚ} (hdt : 0 ≤ dt) (velocity : ℚ) : (f.predict dt velocity).Proper where
  P := add_pos_of_pos_of_nonneg h.P (mul_nonneg h.Q.le hdt)
  Q := h.Q
  R := h.R

theorem Proper.update (h : f.Proper) (z : ℚ) : (f.update z).Proper where
  P := h.update_P_pos z
  Q := h.Q
  R := h.R

/-- An input as a step of the estimate, with the gain that the filter has then. -/
def blend (f : ScalarKalman) : Input → Blend ℚ
  | .predict dt velocity => .carry (velocity * dt)
  | .update measurement => .toward f.gain measurement

theorem step_x (f : ScalarKalman) (i : Input) : (f.step i).x = (f.blend i).apply f.x := by
  cases i <;> rfl

/-- The start and the fixes, in order, each advanced by the displacement since it was taken. -/
def advanced (start : ℚ) (inputs : List Input) : List ℚ :=
  inputs.foldl (fun points i => match i with
    | .predict dt velocity => points.map (· + velocity * dt)
    | .update measurement => points ++ [measurement]) [start]

/-- The estimate is a mean of the advanced points with weights that are not negative and have the sum 1. -/
structure Convex (estimate : ℚ) (points weights : List ℚ) : Prop where
  length : weights.length = points.length
  nonneg : ∀ w ∈ weights, 0 ≤ w
  sum : weights.sum = 1
  estimate : estimate = (List.zipWith (· * ·) weights points).sum

/-- The inputs as steps of the estimate. -/
def blends (f : ScalarKalman) : List Input → List (Blend ℚ)
  | [] => []
  | i :: is => f.blend i :: (f.step i).blends is

theorem run_x (f : ScalarKalman) (inputs : List Input) :
    (f.run inputs).x = Machine.estimate f.x (f.blends inputs) := by
  induction inputs generalizing f with
  | nil => rfl
  | cons i is ih =>
    have htail := ih (f.step i)
    rw [step_x] at htail
    exact htail

theorem points_blends (f : ScalarKalman) (start : ℚ) (inputs : List Input) :
    points start (f.blends inputs) = advanced start inputs := by
  have hrun (f : ScalarKalman) (ps : List ℚ) : (f.blends inputs).foldl Blend.advance ps =
      inputs.foldl (fun points i => match i with
        | .predict dt velocity => points.map (· + velocity * dt)
        | .update measurement => points ++ [measurement]) ps := by
    induction inputs generalizing f ps with
    | nil => rfl
    | cons i is ih =>
      cases i with
      | predict dt velocity => exact ih (f.step (.predict dt velocity)) _
      | update measurement => exact ih (f.step (.update measurement)) _
  exact hrun f [start]

/-- The inputs do not run backwards. -/
def Forward : Input → Prop
  | .predict dt _ => 0 ≤ dt
  | .update _ => True

theorem Proper.step (h : f.Proper) {i : Input} (hi : Forward i) : (f.step i).Proper := by
  cases i with
  | predict dt velocity => exact h.predict hi velocity
  | update measurement => exact h.update measurement

theorem Proper.run (h : f.Proper) {inputs : List Input} (hinputs : ∀ i ∈ inputs, Forward i) :
    (f.run inputs).Proper := by
  induction inputs generalizing f with
  | nil => exact h
  | cons i is ih =>
    exact ih (h.step (hinputs i List.mem_cons_self)) fun j hj => hinputs j (List.mem_cons_of_mem _ hj)

theorem Proper.blends (h : f.Proper) {inputs : List Input} (hinputs : ∀ i ∈ inputs, Forward i) :
    ∀ b ∈ f.blends inputs, b.Proper := by
  induction inputs generalizing f with
  | nil => exact fun b hb => absurd hb List.not_mem_nil
  | cons i is ih =>
    intro b hb
    rcases List.mem_cons.mp hb with rfl | hb
    · cases i with
      | predict dt velocity => trivial
      | update measurement => exact ⟨h.gain.1.le, h.gain.2.le⟩
    · refine ih (h.step (hinputs i List.mem_cons_self)) (fun j hj => ?_) b hb
      exact hinputs j (List.mem_cons_of_mem _ hj)

theorem Proper.convex (h : f.Proper) {inputs : List Input} (hinputs : ∀ i ∈ inputs, Forward i) :
    Convex (f.run inputs).x (advanced f.x inputs) (weights (f.blends inputs)) := by
  have hweighed := weighed_estimate f.x (f.blends inputs)
  rw [points_blends, ← run_x] at hweighed
  exact ⟨hweighed.length, weights_nonneg (h.blends hinputs), hweighed.sum, hweighed.mean⟩

end ScalarKalman

/-! ### The three axes -/

namespace NavDataFusion

open ScalarKalman (Convex advanced)

theorem kf_after (calls : List Call) (axis : Axis) :
    (after calls).kf axis = (initial.kf axis).run (calls.map (Call.input axis)) := by
  have hrun (n : NavDataFusion) :
      (final step n calls).kf axis = (n.kf axis).run (calls.map (Call.input axis)) := by
    induction calls generalizing n with
    | nil => rfl
    | cons c calls ih =>
      rw [final_cons, ih]
      cases c <;> cases axis <;> rfl
  exact hrun initial

theorem proper_initial (axis : Axis) : (initial.kf axis).Proper := by
  cases axis <;> constructor <;> norm_num [initial, kf, ScalarKalman.initial, qLat, qLon, qAlt, gpsRLat, gpsRLon, gpsRAlt]

theorem forward_input {calls : List Call} (h : ∀ c ∈ calls, c.Forward) (axis : Axis) :
    ∀ i ∈ calls.map (Call.input axis), ScalarKalman.Forward i := by
  intro i hi
  obtain ⟨c, hc, rfl⟩ := List.mem_map.mp hi
  have hforward := h c hc
  cases c with
  | predict dt lat lon alt heading => exact hforward
  | updateGps lat lon alt now => trivial

/-- Calls that differ in the fixes of one axis do the same to the others. -/
theorem SameBut.input {axis other : Axis} (hother : other ≠ axis) {c c' : Call} (h : SameBut axis c c') :
    c.input other = c'.input other := by
  cases c with
  | predict dt lat lon alt heading =>
    have heq : Call.predict dt lat lon alt heading = c' := h
    rw [heq]
  | updateGps lat lon alt now =>
    cases c' with
    | predict dt lat' lon' alt' heading => cases (h : Call.updateGps lat lon alt now = _)
    | updateGps lat' lon' alt' now' =>
      obtain ⟨hlat, hlon, halt, -⟩ := h
      cases other with
      | lat => exact congrArg Input.update (hlat hother.symm)
      | lon => exact congrArg Input.update (hlon hother.symm)
      | alt => exact congrArg Input.update (halt hother.symm)

/-- What a state of the fusion says of an axis, and what a fix will do to it. -/
structure TrueEstimate (n : NavDataFusion) (axis : Axis) (inputs : List Input) : Prop where
  covariance : 0 < (n.kf axis).P
  gain : 0 < (n.kf axis).gain ∧ (n.kf axis).gain < 1
  contracts : ∀ lat lon alt now, ((n.updateGps lat lon alt now).kf axis).P < (n.kf axis).P ∧
    ((n.updateGps lat lon alt now).kf axis).P < (n.kf axis).R
  between : ∀ fix : Axis → ℚ, ∀ now,
    ((n.updateGps (fix .lat) (fix .lon) (fix .alt) now).kf axis).x ∈ Set.uIcc (n.kf axis).x (fix axis)
  convex : ∃ weights, Convex (n.kf axis).x (advanced (initial.kf axis).x inputs) weights

theorem kf_updateGps (n : NavDataFusion) (fix : Axis → ℚ) (now : ℚ) (axis : Axis) :
    (n.updateGps (fix .lat) (fix .lon) (fix .alt) now).kf axis = (n.kf axis).update (fix axis) := by
  cases axis <;> rfl

/-- After every run each axis has an estimate that is a weighted mean of its start and its fixes, with all that
keeps it one, and the fixes of another axis have no part in it. -/
theorem fused_estimate_true (calls : List Call) (hforward : ∀ c ∈ calls, c.Forward) :
    (∀ axis, TrueEstimate (after calls) axis (calls.map (Call.input axis))) ∧
      ∀ axis calls', List.Forall₂ (SameBut axis) calls calls' →
        ∀ other, other ≠ axis → (after calls').kf other = (after calls).kf other := by
  constructor
  · intro axis
    have hinputs := forward_input hforward axis
    have hproper : ((after calls).kf axis).Proper := by
      rw [kf_after]
      exact (proper_initial axis).run hinputs
    refine ⟨hproper.P, hproper.gain, fun lat lon alt now => ?_, fun fix now => ?_, ?_⟩
    · have hkf := kf_updateGps (after calls) (fun | .lat => lat | .lon => lon | .alt => alt) now axis
      dsimp only at hkf
      rw [hkf]
      exact ⟨hproper.update_P_lt _, hproper.update_P_lt_R _⟩
    · rw [kf_updateGps]
      exact toward_mem_uIcc ⟨hproper.gain.1.le, hproper.gain.2.le⟩ _ _
    · rw [kf_after]
      exact ⟨_, (proper_initial axis).convex hinputs⟩
  · intro axis calls' hsame other hother
    have hinput : calls'.map (Call.input other) = calls.map (Call.input other) := by
      refine (map_eq_map_iff_forall₂.mpr ?_).symm
      exact hsame.imp fun c c' h => h.input hother
    rw [kf_after, kf_after, hinput]

theorem secondAndFix_estimate_true :
    (∀ axis, TrueEstimate (after [.predict 1 0.001 0 10 90, .updateGps 0.002 0 30005 12]) axis
        (List.map (Call.input axis) [.predict 1 0.001 0 10 90, .updateGps 0.002 0 30005 12])) ∧
      ∀ axis calls', List.Forall₂ (SameBut axis)
          [.predict 1 0.001 0 10 90, .updateGps 0.002 0 30005 12] calls' →
        ∀ other, other ≠ axis → (after calls').kf other =
          (after [.predict 1 0.001 0 10 90, .updateGps 0.002 0 30005 12]).kf other := by
  refine fused_estimate_true [.predict 1 0.001 0 10 90, .updateGps 0.002 0 30005 12] fun c hc => ?_
  rcases List.mem_pair.mp hc with rfl | rfl
  · exact (by norm_num : (0 : ℚ) ≤ 1)
  · trivial

end NavDataFusion

end Fmofp.Navigation
