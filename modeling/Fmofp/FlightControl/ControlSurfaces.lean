import Mathlib
import Fmofp.Machine.Run
import Fmofp.Python.Dict

/-! `ControlSurfaceManager`: the commands that inputs, trim and envelope protection make, and the actuators
that follow them. -/

namespace Fmofp.FlightControl

open Python

inductive Surface
  | leftAileron | rightAileron | elevator | rudder | leftFlap | rightFlap | leftSlat | rightSlat
  | leftSpoiler | rightSpoiler | airbrake
  deriving DecidableEq

inductive SurfaceType
  | aileron | elevator | rudder | flap | slat | spoiler | airbrake
  deriving DecidableEq

namespace Surface

def names : Dict String Surface :=
  [("left_aileron", .leftAileron), ("right_aileron", .rightAileron), ("elevator", .elevator),
    ("rudder", .rudder), ("left_flap", .leftFlap), ("right_flap", .rightFlap),
    ("left_slat", .leftSlat), ("right_slat", .rightSlat), ("left_spoiler", .leftSpoiler),
    ("right_spoiler", .rightSpoiler), ("airbrake", .airbrake)]

/-- `_get_surface_type`. -/
def type : Surface → SurfaceType
  | .leftAileron | .rightAileron => .aileron
  | .elevator => .elevator
  | .rudder => .rudder
  | .leftFlap | .rightFlap => .flap
  | .leftSlat | .rightSlat => .slat
  | .leftSpoiler | .rightSpoiler => .spoiler
  | .airbrake => .airbrake

end Surface

namespace SurfaceType

/-- Degrees per second. -/
def rateLimit : SurfaceType → ℚ
  | .aileron => 80
  | .elevator => 60
  | .rudder => 40
  | .flap => 5
  | .slat => 3
  | .spoiler => 20
  | .airbrake => 10

/-- Seconds. -/
def timeConstant : SurfaceType → ℚ
  | .aileron | .elevator | .rudder => 1 / 20
  | .flap | .slat => 1 / 2
  | .spoiler => 1 / 10
  | .airbrake => 1 / 5

/-- Degrees. -/
def maxDeflection : SurfaceType → ℚ
  | .aileron => 30
  | .elevator => 25
  | .rudder | .slat => 20
  | .flap => 45
  | .spoiler | .airbrake => 60

/-- Positions per second. -/
def normalizedRateLimit (t : SurfaceType) : ℚ := t.rateLimit / t.maxDeflection

end SurfaceType

inductive Trim
  | aileron | elevator | rudder
  deriving DecidableEq

def Trim.names : Dict String Trim :=
  [("aileron_trim", .aileron), ("elevator_trim", .elevator), ("rudder_trim", .rudder)]

structure Actuator where
  command : ℚ
  position : ℚ
  rate : ℚ
  lastUpdate : ℚ

structure SurfaceConfig where
  enforceLimits : Bool
  applyEnvelopeProtection : Bool
  differentialAileron : Bool
  enableFailures : Bool
  failureProbability : ℚ

/-- `_get_default_config`. -/
def SurfaceConfig.default : SurfaceConfig := ⟨true, true, true, false, 1 / 10000⟩

structure ControlSurfaceManager where
  config : SurfaceConfig
  surfacePositions : Surface → ℚ
  trimPositions : Trim → ℚ
  surfaceHealth : Surface → ℚ
  actuatorState : Surface → Actuator

/-- `__init__`; the clock is read for each actuator. -/
def ControlSurfaceManager.new (config : SurfaceConfig) (clock : Surface → ℚ) :
    ControlSurfaceManager where
  config := config
  surfacePositions _ := 0
  trimPositions _ := 0
  surfaceHealth _ := 1
  actuatorState surface := ⟨0, 0, 0, clock surface⟩

/-- `max(-1.0, min(1.0, value))`. -/
def clampUnit (value : ℚ) : ℚ := max (-1) (min 1 value)

theorem clampUnit_mem (value : ℚ) : -1 ≤ clampUnit value ∧ clampUnit value ≤ 1 :=
  ⟨le_max_left _ _, max_le (by norm_num) (min_le_left _ _)⟩

theorem clampUnit_of_mem {value : ℚ} (h : -1 ≤ value ∧ value ≤ 1) : clampUnit value = value := by
  rw [clampUnit, min_eq_right h.2, max_eq_right h.1]

theorem clampUnit_neg (value : ℚ) : clampUnit (-value) = -clampUnit value := by
  rw [clampUnit, clampUnit, max_min_distrib_left, ← min_neg_neg, ← max_neg_neg, neg_neg,
    max_eq_right (by norm_num : (-1 : ℚ) ≤ 1), min_comm]

theorem clampUnit_nonneg {value : ℚ} (h : 0 ≤ value) : clampUnit value = min 1 value :=
  max_eq_right (by linarith [le_min zero_le_one h])

theorem clampUnit_nonpos {value : ℚ} (h : value ≤ 0) : clampUnit value = max (-1) value := by
  rw [clampUnit, min_eq_right (by linarith)]

theorem abs_clampUnit (value : ℚ) : |clampUnit value| = min 1 |value| := by
  rcases le_total 0 value with h | h
  · rw [clampUnit_nonneg h, abs_of_nonneg h, abs_of_nonneg (le_min zero_le_one h)]
  · rw [clampUnit_nonpos h, abs_of_nonpos h, abs_of_nonpos (max_le (by norm_num) h), ← min_neg_neg,
      neg_neg]

/-! ### Envelope protection -/

structure Commands where
  aileron : ℚ
  elevator : ℚ
  rudder : ℚ

/-- The part of an aircraft state that the protection reads, in degrees and in g. -/
structure Attitude where
  roll : ℚ
  pitch : ℚ
  alpha : ℚ
  beta : ℚ
  gForce : ℚ

def attitude (aircraftState : Dict String ℚ) : Attitude where
  roll := Dict.getD aircraftState "roll" 0
  pitch := Dict.getD aircraftState "pitch" 0
  alpha := Dict.getD aircraftState "alpha" 0
  beta := Dict.getD aircraftState "beta" 0
  gForce := Dict.getD aircraftState "g_force" 1

/-- The part of the band by which a value is over its limit. -/
def above (value limit band : ℚ) : ℚ := if limit < value then (value - limit) / band else 0

/-- The part of the band by which a value is under its limit. -/
def below (value limit band : ℚ) : ℚ := if value < limit then (limit - value) / band else 0

/-- What is left of a command so far over the limit. -/
def factor (excess : ℚ) : ℚ := 1 - min 1 excess

namespace Attitude

variable (a : Attitude)

/-- How far the upper limits of the elevator are exceeded, at most. -/
def overElevator : ℚ := max (max (above a.pitch 30 10) (above a.alpha 15 5)) (above a.gForce 9 2)

/-- How far the lower limits of the elevator are exceeded, at most. -/
def underElevator : ℚ := max (max (below a.pitch (-15) 10) (below a.alpha (-5) 5)) (below a.gForce (-3) 2)

/-- An input in the direction of an angle that is over its limit is reduced. -/
def protect (angle limit band command : ℚ) : ℚ :=
  if limit < |angle| ∧ ((0 < angle ∧ 0 < command) ∨ (angle < 0 ∧ command < 0)) then
    command * factor ((|angle| - limit) / band)
  else command

/-- Pulling up is reduced over the upper limits, pushing down under the lower ones. -/
def protectElevator (command : ℚ) : ℚ :=
  let pulled :=
    if (30 < a.pitch ∨ 15 < a.alpha ∨ 9 < a.gForce) ∧ command < 0 then
      command * factor a.overElevator
    else command
  if (a.pitch < -15 ∨ a.alpha < -5 ∨ a.gForce < -3) ∧ 0 < pulled then
    pulled * factor a.underElevator
  else pulled

end Attitude

/-- `_apply_envelope_protection`. -/
def applyEnvelopeProtection (c : Commands) (aircraftState : Dict String ℚ) : Commands where
  aileron := Attitude.protect (attitude aircraftState).roll 60 10 c.aileron
  elevator := (attitude aircraftState).protectElevator c.elevator
  rudder := Attitude.protect (attitude aircraftState).beta 10 5 c.rudder

namespace ControlSurfaceManager

variable (m : ControlSurfaceManager)

/-- Inputs and trim. -/
def trimmed (controlInputs : Dict String ℚ) : Commands where
  aileron := Dict.getD controlInputs "aileron" 0 + m.trimPositions .aileron
  elevator := Dict.getD controlInputs "elevator" 0 + m.trimPositions .elevator
  rudder := Dict.getD controlInputs "rudder" 0 + m.trimPositions .rudder

/-- The commands after protection and limits. -/
def commands (controlInputs aircraftState : Dict String ℚ) : Commands :=
  let shielded :=
    if m.config.applyEnvelopeProtection then
      applyEnvelopeProtection (m.trimmed controlInputs) aircraftState
    else m.trimmed controlInputs
  if m.config.enforceLimits then
    ⟨clampUnit shielded.aileron, clampUnit shielded.elevator, clampUnit shielded.rudder⟩
  else shielded

/-- The left and the right aileron; with differential ailerons the one that goes down goes less far. -/
def ailerons (differential : Bool) (command : ℚ) : ℚ × ℚ :=
  if differential then
    if 0 < command then (command, -command * (7 / 10)) else (command * (7 / 10), -command)
  else (command, -command)

/-- The surfaces that a control input commands; the others keep their commands. -/
def commanded (differential : Bool) (c : Commands) : Surface → Option ℚ
  | .leftAileron => some (ailerons differential c.aileron).1
  | .rightAileron => some (ailerons differential c.aileron).2
  | .elevator => some c.elevator
  | .rudder => some c.rudder
  | _ => none

/-- `set_control_positions`. -/
def setControlPositions (controlInputs aircraftState : Dict String ℚ) : ControlSurfaceManager :=
  let wanted := commanded m.config.differentialAileron (m.commands controlInputs aircraftState)
  { m with
    actuatorState := fun surface =>
      { m.actuatorState surface with
        command := (wanted surface).getD (m.actuatorState surface).command } }

/-- `set_trim`. -/
def setTrim (trimType : String) (value : ℚ) : Bool × ControlSurfaceManager :=
  match Dict.get? Trim.names trimType with
  | some trim =>
    (true, { m with trimPositions := Function.update m.trimPositions trim (clampUnit value) })
  | none => (false, m)

/-- `set_surface_health`. -/
def setSurfaceHealth (surface : String) (health : ℚ) : Bool × ControlSurfaceManager :=
  match Dict.get? Surface.names surface with
  | some surface =>
    (true, { m with
      surfaceHealth := Function.update m.surfaceHealth surface (max 0 (min 1 health)) })
  | none => (false, m)

/-! ### Actuators -/

/-- One actuator at the time `now`. -/
def updateActuator (t : SurfaceType) (health now : ℚ) (a : Actuator) : Actuator :=
  let elapsed := now - a.lastUpdate
  if elapsed ≤ 0 then a
  else
    let error := a.command - a.position
    let limited :=
      if |error| < 1 / 1000 then 0
      else max (-t.normalizedRateLimit) (min t.normalizedRateLimit (error / t.timeConstant))
    let rate := limited * health
    { a with
      rate := rate
      position := clampUnit (a.position + rate * elapsed)
      lastUpdate := now }

/-- A result of `random.random()`. -/
abbrev Chance : Type := {q : ℚ // 0 ≤ q ∧ q < 1}

/-- What is drawn for a surface: whether it fails, how badly, and how far it degrades. -/
structure FailureDraw where
  failure : Chance
  severity : Chance
  degradation : Chance

/-- `_check_for_failures`. -/
def checkForFailures (dt : ℚ) (draws : Surface → FailureDraw) (surface : Surface) : ℚ :=
  let health := m.surfaceHealth surface
  if 0 < health ∧ (draws surface).failure.1 < m.config.failureProbability * dt / 3600 then
    if (draws surface).severity.1 < 3 / 10 then 0
    else health * (3 / 10 + (draws surface).degradation.1 * (6 / 10))
  else health

/-- `update_actuators`, with the clock at `now`. -/
def updateActuators (dt now : ℚ) (draws : Surface → FailureDraw) : ControlSurfaceManager :=
  let updated := fun surface =>
    updateActuator surface.type (m.surfaceHealth surface) now (m.actuatorState surface)
  { m with
    actuatorState := updated
    surfacePositions := fun surface =>
      if now - (m.actuatorState surface).lastUpdate ≤ 0 then m.surfacePositions surface
      else (updated surface).position
    surfaceHealth :=
      if m.config.enableFailures then m.checkForFailures dt draws else m.surfaceHealth }

end ControlSurfaceManager

/-- A call of the manager; an update has the clock and what it draws. -/
inductive SurfaceCall
  | setControlPositions (controlInputs aircraftState : Dict String ℚ)
  | setTrim (trimType : String) (value : ℚ)
  | setSurfaceHealth (surface : String) (health : ℚ)
  | updateActuators (dt now : ℚ) (draws : Surface → ControlSurfaceManager.FailureDraw)

/-- What a call returns: the positions, or whether it was successful. -/
inductive SurfaceAnswer
  | positions (surfacePositions : Surface → ℚ)
  | done (successful : Bool)

namespace ControlSurfaceManager

def step (m : ControlSurfaceManager) : SurfaceCall → SurfaceAnswer × ControlSurfaceManager
  | .setControlPositions controlInputs aircraftState =>
    (.positions m.surfacePositions, m.setControlPositions controlInputs aircraftState)
  | .setTrim trimType value =>
    (.done (m.setTrim trimType value).1, (m.setTrim trimType value).2)
  | .setSurfaceHealth surface health =>
    (.done (m.setSurfaceHealth surface health).1, (m.setSurfaceHealth surface health).2)
  | .updateActuators dt now draws =>
    (.positions (m.updateActuators dt now draws).surfacePositions, m.updateActuators dt now draws)

end ControlSurfaceManager

end Fmofp.FlightControl
