import Fmofp.FlightControl.ControlSurfaces

/-! Actuator dynamics over whole runs: positions, rates and failed surfaces are always bounded, and a
surface passes its command only in an update that takes longer than its actuator. -/

namespace Fmofp.FlightControl

open Python

/-! ### One actuator -/

/-- The rate before the health factor. -/
def limitedRate (t : SurfaceType) (error : ℚ) : ℚ :=
  if |error| < 1 / 1000 then 0
  else max (-t.normalizedRateLimit) (min t.normalizedRateLimit (error / t.timeConstant))

namespace SurfaceType

theorem normalizedRateLimit_pos (t : SurfaceType) : 0 < t.normalizedRateLimit := by
  cases t <;> norm_num [normalizedRateLimit, rateLimit, maxDeflection]

theorem timeConstant_pos (t : SurfaceType) : 0 < t.timeConstant := by
  cases t <;> norm_num [timeConstant]

end SurfaceType

namespace ControlSurfaceManager

variable (t : SurfaceType)

theorem limitedRate_neg (error : ℚ) : limitedRate t (-error) = -limitedRate t error := by
  have hpos := t.normalizedRateLimit_pos
  unfold limitedRate
  rw [abs_neg]
  split_ifs
  · rw [neg_zero]
  · rw [neg_div, max_min_distrib_left, max_eq_right (by linarith), ← min_neg_neg, ← max_neg_neg,
      neg_neg, min_comm]

theorem abs_limitedRate_le (error : ℚ) : |limitedRate t error| ≤ t.normalizedRateLimit := by
  have hpos := t.normalizedRateLimit_pos
  unfold limitedRate
  split_ifs
  · rw [abs_zero]
    exact hpos.le
  · exact abs_le.mpr ⟨le_max_left _ _, max_le (by linarith) (min_le_left _ _)⟩

theorem limitedRate_of_pos {error : ℚ} (h : 0 < error) (hlarge : ¬ |error| < 1 / 1000) :
    limitedRate t error = min t.normalizedRateLimit (error / t.timeConstant) := by
  have hpos := t.normalizedRateLimit_pos
  have hrate : 0 ≤ error / t.timeConstant := (div_pos h t.timeConstant_pos).le
  rw [limitedRate, if_neg hlarge, max_eq_right (by linarith [le_min hpos.le hrate])]

theorem limitedRate_zero : limitedRate t 0 = 0 := by
  rw [limitedRate, if_pos (by norm_num)]

/-- Where an update of so many seconds leaves an actuator. -/
def moved (health elapsed command position : ℚ) : ℚ :=
  clampUnit (position + limitedRate t (command - position) * health * elapsed)

theorem updateActuator_position (health now : ℚ) (a : Actuator) (h : 0 < now - a.lastUpdate) :
    (updateActuator t health now a).position =
      moved t health (now - a.lastUpdate) a.command a.position := by
  simp only [updateActuator, if_neg h.not_ge]
  rfl

theorem moved_neg (health elapsed command position : ℚ) :
    moved t health elapsed (-command) (-position) = -moved t health elapsed command position := by
  have herror : -command - -position = -(command - position) := by ring
  rw [moved, moved, ← clampUnit_neg, herror, limitedRate_neg]
  congr 1
  ring

/-- Clamping brings nothing further from a position in range. -/
theorem abs_clampUnit_sub_le {position : ℚ} (h : -1 ≤ position ∧ position ≤ 1) (value : ℚ) :
    |clampUnit value - position| ≤ |value - position| := by
  have houter : |max (-1) (min 1 value) - max (-1) (min 1 position)| ≤
      |min 1 value - min 1 position| := by
    simpa using abs_max_sub_max_le_max (-1) (min 1 value) (-1) (min 1 position)
  have hinner : |min 1 value - min 1 position| ≤ |value - position| := by
    simpa using abs_min_sub_min_le_max 1 value 1 position
  calc |clampUnit value - position| = |clampUnit value - clampUnit position| := by
        rw [clampUnit_of_mem h]
    _ ≤ |min 1 value - min 1 position| := houter
    _ ≤ |value - position| := hinner

theorem abs_moved_sub_le {health elapsed position : ℚ} (hhealth : 0 ≤ health) (helapsed : 0 ≤ elapsed)
    (hposition : -1 ≤ position ∧ position ≤ 1) (command : ℚ) :
    |moved t health elapsed command position - position| ≤
      t.normalizedRateLimit * health * elapsed := by
  refine (abs_clampUnit_sub_le hposition _).trans ?_
  rw [add_sub_cancel_left, abs_mul, abs_mul, abs_of_nonneg hhealth, abs_of_nonneg helapsed]
  gcongr
  exact abs_limitedRate_le t _

/-- When an update that takes time leaves the surface short of its command, or on it. -/
def Settles (health elapsed command position : ℚ) : Prop :=
  |command - position| < 1 / 1000 ∨ health * elapsed ≤ t.timeConstant ∨
    t.normalizedRateLimit * health * elapsed ≤ |command - position| ∨ 1 ≤ |command|

instance (health elapsed command position : ℚ) :
    Decidable (Settles t health elapsed command position) :=
  inferInstanceAs (Decidable (_ ∨ _ ∨ _ ∨ _))

theorem settles_neg_iff (health elapsed command position : ℚ) :
    Settles t health elapsed (-command) (-position) ↔ Settles t health elapsed command position := by
  rw [Settles, Settles, abs_neg, neg_sub_neg, abs_sub_comm]

theorem mem_uIcc_neg_iff (a b c : ℚ) : -a ∈ Set.uIcc (-b) (-c) ↔ a ∈ Set.uIcc b c := by
  simp only [Set.mem_uIcc, neg_le_neg_iff]
  tauto

/-- A surface below its command passes it exactly when the update does not settle. -/
theorem moved_mem_iff_of_lt {health elapsed command position : ℚ} (hhealth : 0 ≤ health)
    (helapsed : 0 < elapsed) (hposition : -1 ≤ position ∧ position ≤ 1) (hlt : position < command) :
    moved t health elapsed command position ∈ Set.uIcc position command ↔
      Settles t health elapsed command position := by
  have herror : 0 < command - position := sub_pos.mpr hlt
  rw [Settles]
  by_cases hsmall : |command - position| < 1 / 1000
  · rw [moved, limitedRate, if_pos hsmall, zero_mul, zero_mul, add_zero, clampUnit_of_mem hposition]
    exact ⟨fun _ => .inl hsmall, fun _ => Set.left_mem_uIcc⟩
  have hrate : 0 ≤ limitedRate t (command - position) := by
    rw [limitedRate_of_pos t herror hsmall]
    exact le_min t.normalizedRateLimit_pos.le (div_pos herror t.timeConstant_pos).le
  have hscale : 0 ≤ health * elapsed := mul_nonneg hhealth helapsed.le
  have hup : position ≤ position + limitedRate t (command - position) * health * elapsed := by
    rw [mul_assoc]
    exact le_add_of_nonneg_right (mul_nonneg hrate hscale)
  -- the clamp only cuts off at the top, where it stays below a full command
  have hmoved : moved t health elapsed command position =
      min 1 (position + limitedRate t (command - position) * health * elapsed) :=
    max_eq_right (le_min (by norm_num) (hposition.1.trans hup))
  have hfull : 1 ≤ |command| ↔ 1 ≤ command := by
    rw [le_abs]
    exact or_iff_left fun h => by linarith [hposition.1]
  have hreach : limitedRate t (command - position) * health * elapsed ≤ command - position ↔
      health * elapsed ≤ t.timeConstant ∨
        t.normalizedRateLimit * health * elapsed ≤ command - position := by
    rw [limitedRate_of_pos t herror hsmall, mul_assoc, min_mul_of_nonneg _ _ hscale, min_le_iff,
      ← mul_assoc, or_comm, div_mul_eq_mul_div, div_le_iff₀ t.timeConstant_pos,
      mul_le_mul_iff_right₀ herror]
  rw [Set.uIcc_of_le hlt.le, Set.mem_Icc, hmoved, and_iff_right (le_min hposition.2 hup), min_le_iff,
    ← le_sub_iff_add_le', hreach, hfull, abs_of_pos herror]
  rw [abs_of_pos herror] at hsmall
  rw [or_iff_right hsmall, or_comm, or_assoc]

/-- A surface passes its command exactly when the update does not settle. -/
theorem moved_mem_iff {health elapsed position : ℚ} (hhealth : 0 ≤ health) (helapsed : 0 < elapsed)
    (hposition : -1 ≤ position ∧ position ≤ 1) (command : ℚ) :
    moved t health elapsed command position ∈ Set.uIcc position command ↔
      Settles t health elapsed command position := by
  rcases lt_trichotomy position command with hlt | rfl | hgt
  · exact moved_mem_iff_of_lt t hhealth helapsed hposition hlt
  · rw [moved, sub_self, limitedRate_zero, zero_mul, zero_mul, add_zero, clampUnit_of_mem hposition]
    exact iff_of_true Set.left_mem_uIcc (.inl (by norm_num))
  · rw [← mem_uIcc_neg_iff, ← moved_neg, ← settles_neg_iff]
    exact moved_mem_iff_of_lt t hhealth helapsed ⟨by linarith [hposition.2], by linarith [hposition.1]⟩
      (neg_lt_neg hgt)

/-! ### Whole runs -/

/-- What every state keeps: positions and health in range, and the positions of the actuators shown as
the positions of the surfaces. -/
structure Sound (m : ControlSurfaceManager) : Prop where
  position : ∀ surface, -1 ≤ m.surfacePositions surface ∧ m.surfacePositions surface ≤ 1
  health : ∀ surface, 0 ≤ m.surfaceHealth surface ∧ m.surfaceHealth surface ≤ 1
  shown : ∀ surface, m.surfacePositions surface = (m.actuatorState surface).position

/-- What a call does to a surface when it takes so much time: nothing but for an update, and with health
0 not in an update either. -/
structure Moves (m : ControlSurfaceManager) (elapsed : ℚ) (after : Surface → ℚ) (surface : Surface) :
    Prop where
  within : -1 ≤ after surface ∧ after surface ≤ 1
  rate : |after surface - m.surfacePositions surface| ≤
    surface.type.normalizedRateLimit * m.surfaceHealth surface * elapsed
  failed : m.surfaceHealth surface = 0 → after surface = m.surfacePositions surface

/-- The time since the last update of a surface, when the call is an update. -/
def elapsed (m : ControlSurfaceManager) (surface : Surface) : SurfaceCall → ℚ
  | .updateActuators _ now _ => max 0 (now - (m.actuatorState surface).lastUpdate)
  | _ => 0

/-- Every surface moves within its range and its rate. -/
def Bounded (m : ControlSurfaceManager) (call : SurfaceCall) : Prop :=
  ∀ surface, Moves m (elapsed m surface call) (m.step call).2.surfacePositions surface

/-- No surface passes its command. -/
def Approaches (m : ControlSurfaceManager) (call : SurfaceCall) : Prop :=
  ∀ surface, (m.step call).2.surfacePositions surface ∈
    Set.uIcc (m.surfacePositions surface) (m.actuatorState surface).command

/-- Every surface that an update moves settles. -/
def AllSettle (m : ControlSurfaceManager) (call : SurfaceCall) : Prop :=
  ∀ surface, elapsed m surface call = 0 ∨
    Settles surface.type (m.surfaceHealth surface) (elapsed m surface call)
      (m.actuatorState surface).command (m.surfacePositions surface)

theorem moved_of_still {health elapsed position : ℚ} (hstill : health = 0 ∨ elapsed = 0)
    (hposition : -1 ≤ position ∧ position ≤ 1) (command : ℚ) :
    moved t health elapsed command position = position := by
  have hzero : limitedRate t (command - position) * health * elapsed = 0 := by
    rcases hstill with rfl | rfl
    · rw [mul_zero, zero_mul]
    · rw [mul_zero]
  rw [moved, hzero, add_zero, clampUnit_of_mem hposition]

theorem Sound.new (config : SurfaceConfig) (clock : Surface → ℚ) :
    Sound (ControlSurfaceManager.new config clock) where
  position _ := ⟨by norm_num [ControlSurfaceManager.new], by norm_num [ControlSurfaceManager.new]⟩
  health _ := ⟨by norm_num [ControlSurfaceManager.new], by norm_num [ControlSurfaceManager.new]⟩
  shown _ := rfl

theorem elapsed_nonneg (m : ControlSurfaceManager) (surface : Surface) (call : SurfaceCall) :
    0 ≤ elapsed m surface call := by
  cases call with
  | updateActuators dt now draws => exact le_max_left _ _
  | _ => exact le_rfl

/-- Trim moves nothing by itself. -/
theorem setTrim_frame (m : ControlSurfaceManager) (trimType : String) (value : ℚ) :
    (m.setTrim trimType value).2.surfacePositions = m.surfacePositions ∧
      (m.setTrim trimType value).2.surfaceHealth = m.surfaceHealth ∧
      (m.setTrim trimType value).2.actuatorState = m.actuatorState := by
  unfold setTrim
  split <;> exact ⟨rfl, rfl, rfl⟩

theorem setSurfaceHealth_frame (m : ControlSurfaceManager) (name : String) (health : ℚ) :
    (m.setSurfaceHealth name health).2.surfacePositions = m.surfacePositions ∧
      (m.setSurfaceHealth name health).2.actuatorState = m.actuatorState := by
  unfold setSurfaceHealth
  split <;> exact ⟨rfl, rfl⟩

section Step

variable {m : ControlSurfaceManager} (h : Sound m)

include h

/-- Where a call leaves a surface. -/
theorem surfacePositions_step (call : SurfaceCall) (surface : Surface) :
    (m.step call).2.surfacePositions surface =
      moved surface.type (m.surfaceHealth surface) (elapsed m surface call)
        (m.actuatorState surface).command (m.surfacePositions surface) := by
  have hstill : moved surface.type (m.surfaceHealth surface) 0 (m.actuatorState surface).command
      (m.surfacePositions surface) = m.surfacePositions surface :=
    moved_of_still _ (.inr rfl) (h.position surface) _
  cases call with
  | setControlPositions controlInputs aircraftState => exact hstill.symm
  | setTrim trimType value =>
    rw [step, (setTrim_frame m trimType value).1]
    exact hstill.symm
  | setSurfaceHealth name health =>
    rw [step, (setSurfaceHealth_frame m name health).1]
    exact hstill.symm
  | updateActuators dt now draws =>
    simp only [step, updateActuators, elapsed]
    split_ifs with hpast
    · rw [max_eq_left hpast, hstill]
    · have hforward := not_le.mp hpast
      rw [max_eq_right hforward.le, updateActuator_position _ _ _ _ hforward, h.shown]

theorem checkForFailures_mem (dt : ℚ) (draws : Surface → FailureDraw) (surface : Surface) :
    0 ≤ m.checkForFailures dt draws surface ∧ m.checkForFailures dt draws surface ≤ 1 := by
  obtain ⟨hlow, hhigh⟩ := h.health surface
  obtain ⟨hd, hd'⟩ := (draws surface).degradation.2
  simp only [checkForFailures]
  split_ifs
  · exact ⟨le_rfl, zero_le_one⟩
  · have hkept : 3 / 10 + (draws surface).degradation.1 * (6 / 10) ≤ 1 := by linarith
    exact ⟨mul_nonneg hlow (by linarith), mul_le_one₀ hhigh (by linarith) hkept⟩
  · exact ⟨hlow, hhigh⟩

theorem Sound.step (call : SurfaceCall) : Sound (m.step call).2 where
  position surface := by
    rw [surfacePositions_step h]
    exact clampUnit_mem _
  health surface := by
    cases call with
    | setControlPositions controlInputs aircraftState => exact h.health surface
    | setTrim trimType value =>
      rw [ControlSurfaceManager.step, (setTrim_frame m trimType value).2.1]
      exact h.health surface
    | setSurfaceHealth name health =>
      simp only [ControlSurfaceManager.step, setSurfaceHealth]
      split
      · simp only [Function.update_apply]
        split_ifs
        · exact ⟨le_max_left _ _, max_le zero_le_one (min_le_left _ _)⟩
        · exact h.health surface
      · exact h.health surface
    | updateActuators dt now draws =>
      simp only [ControlSurfaceManager.step, updateActuators]
      split_ifs
      · exact checkForFailures_mem h dt draws surface
      · exact h.health surface
  shown surface := by
    cases call with
    | setControlPositions controlInputs aircraftState => exact h.shown surface
    | setTrim trimType value =>
      obtain ⟨hpositions, -, hstate⟩ := setTrim_frame m trimType value
      rw [ControlSurfaceManager.step, hpositions, hstate]
      exact h.shown surface
    | setSurfaceHealth name health =>
      obtain ⟨hpositions, hstate⟩ := setSurfaceHealth_frame m name health
      rw [ControlSurfaceManager.step, hpositions, hstate]
      exact h.shown surface
    | updateActuators dt now draws =>
      simp only [ControlSurfaceManager.step, updateActuators]
      split_ifs with hpast
      · simp only [updateActuator, if_pos hpast]
        exact h.shown surface
      · rfl

theorem bounded_step (call : SurfaceCall) : Bounded m call := by
  intro surface
  have hmoved := surfacePositions_step h call surface
  refine ⟨(h.step call).position surface, ?_, fun hfailed => ?_⟩
  · rw [hmoved]
    exact abs_moved_sub_le _ (h.health surface).1 (elapsed_nonneg m surface call)
      (h.position surface) _
  · rw [hmoved, moved_of_still _ (.inl hfailed) (h.position surface)]

theorem approaches_iff (call : SurfaceCall) : Approaches m call ↔ AllSettle m call := by
  refine forall_congr' fun surface => ?_
  rw [surfacePositions_step h]
  rcases (elapsed_nonneg m surface call).eq_or_lt with hzero | hforward
  · rw [← hzero, moved_of_still _ (.inr rfl) (h.position surface)]
    exact iff_of_true Set.left_mem_uIcc (.inl rfl)
  · rw [moved_mem_iff _ (h.health surface).1 hforward (h.position surface), or_iff_right hforward.ne']

end Step

/-- In every run every surface stays in its range and within its rate, and failed surfaces do not move;
no surface ever passes its command exactly when every update settles. -/
theorem actuators_along (config : SurfaceConfig) (clock : Surface → ℚ) (calls : List SurfaceCall) :
    Machine.Along step Bounded (new config clock) calls ∧
      (Machine.Along step (fun m call => Bounded m call ∧ Approaches m call) (new config clock) calls ↔
        Machine.Along step AllSettle (new config clock) calls) := by
  have hkeep : ∀ m call, Sound m → Sound (m.step call).2 := fun m call h => h.step call
  constructor
  · refine (Machine.along_congr (Q := fun _ _ => True) hkeep (fun m call h => ?_)
      (Sound.new config clock) calls).mpr ?_
    · exact iff_of_true (bounded_step h call) trivial
    · exact Machine.along_iff.mpr fun _ _ _ _ => trivial
  · refine Machine.along_congr hkeep (fun m call h => ?_) (Sound.new config clock) calls
    rw [and_iff_right (bounded_step h call), approaches_iff h call]

/-- A second after a small input the aileron is past its command, at its limit. -/
theorem slowUpdate_passes :
    ¬ Machine.Along step (fun m call => Bounded m call ∧ Approaches m call)
      (new .default fun _ => 0)
      [.setControlPositions [("aileron", 1 / 10)] [],
        .updateActuators 1 1 fun _ => ⟨⟨0, by norm_num⟩, ⟨0, by norm_num⟩, ⟨0, by norm_num⟩⟩] := by
  intro h
  have hpast := h.2.1.2 .leftAileron
  have hbetween := (Set.mem_uIcc.mp hpast).imp And.right And.right
  revert hbetween
  decide +kernel

end ControlSurfaceManager

end Fmofp.FlightControl
