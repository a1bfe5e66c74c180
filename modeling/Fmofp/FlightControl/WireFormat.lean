import Fmofp.Python.Quantum
import Fmofp.Python.Text

/-! The data words of the flight control system: the codes of its control surfaces and modes, and the
scale of a control value. -/

namespace Fmofp.FlightControl

open Python

def controlSurfaceToCode : Dict String ℤ :=
  [("aileron", 1), ("elevator", 2), ("rudder", 3), ("throttle", 4), ("flaps", 5), ("speedbrake", 6),
    ("gear", 7)]

def codeToControlSurface : Dict ℤ String := controlSurfaceToCode.map fun e => (e.2, e.1)

/-- The surfaces that the flight control system can apply. -/
def applicableControlSurfaces : List String := ["aileron", "elevator", "rudder", "throttle"]

def controlValueSpan : ℚ := 500

def controlValueMax : ℤ := 1000

def encodeControlValue (value : ℚ) : ℤ :=
  max 0 (min controlValueMax (roundHalfEven ((value + 1) * controlValueSpan)))

def decodeControlValue (scaled : ℤ) : ℚ := max (-1) (min 1 (scaled / controlValueSpan - 1))

/-- `control_input_data_words`; a rate is only logged. -/
def controlInputDataWords (py : Runtime) (surfaceName value : Value) :
    Except Exception (List String) := do
  if surfaceName = .none then throw .valueError
  match Dict.get? controlSurfaceToCode (py.lower (py.str surfaceName)) with
  | none => throw .valueError
  | some code => return [formatBin 16 code, formatBin 16 (encodeControlValue (← toFloat py value))]

def modeNameToValue : Dict String ℤ :=
  [("NORMAL", 0), ("COMBAT", 1), ("PRECISION", 2), ("AUTOPILOT", 3), ("TERRAIN", 4),
    ("EMERGENCY", 5), ("STANDBY", 0)]

def modeValueToName : Dict ℤ String :=
  [(0, "NORMAL"), (1, "COMBAT"), (2, "PRECISION"), (3, "AUTOPILOT"), (4, "TERRAIN"),
    (5, "EMERGENCY")]

/-- The values of a control: a throttle is not negative. -/
def InControlRange (surface : String) (value : ℚ) : Prop :=
  (if surface = "throttle" then 0 else -1) ≤ value ∧ value ≤ 1

theorem InControlRange.le {surface : String} {value : ℚ} (h : InControlRange surface value) :
    -1 ≤ value := by
  apply le_trans _ h.1
  split <;> norm_num

theorem encodeControlValue_range (value : ℚ) :
    0 ≤ encodeControlValue value ∧ encodeControlValue value ≤ 1000 := by
  unfold encodeControlValue controlValueMax
  omega

section

variable {value : ℚ} (hlow : -1 ≤ value) (hhigh : value ≤ 1)

include hlow hhigh

/-- No value of a control is cut off. -/
theorem encodeControlValue_eq : encodeControlValue value = roundHalfEven ((value + 1) * 500) := by
  have hround := abs_sub_le_iff.mp (abs_roundHalfEven_sub_le ((value + 1) * 500))
  have hnonneg : 0 ≤ roundHalfEven ((value + 1) * 500) := roundHalfEven_nonneg (by linarith)
  have hle : roundHalfEven ((value + 1) * 500) ≤ 1000 := by
    have hlt : (roundHalfEven ((value + 1) * 500) : ℚ) < 1001 := by linarith
    have : roundHalfEven ((value + 1) * 500) < 1001 := by exact_mod_cast hlt
    omega
  unfold encodeControlValue controlValueMax controlValueSpan
  omega

/-- A count is a five-hundredth, so a value is half a count away from its code. -/
theorem abs_encodeControlValue_sub_le :
    |(encodeControlValue value : ℚ) / 500 - (value + 1)| ≤ 1 / 1000 := by
  have hround := abs_sub_le_iff.mp (abs_roundHalfEven_sub_le ((value + 1) * 500))
  rw [encodeControlValue_eq hlow hhigh]
  apply abs_sub_le_iff.mpr
  constructor <;> linarith

/-- What is decoded of a code is within half a quantum of what was encoded. -/
theorem abs_decodeControlValue_sub_le :
    |decodeControlValue (encodeControlValue value) - value| ≤ 1 / 1000 := by
  have hcode := abs_sub_le_iff.mp (abs_encodeControlValue_sub_le hlow hhigh)
  have hrange := encodeControlValue_range value
  have hnonneg : (0 : ℚ) ≤ encodeControlValue value := by exact_mod_cast hrange.1
  have hle : (encodeControlValue value : ℚ) ≤ 1000 := by exact_mod_cast hrange.2
  have hdecode : decodeControlValue (encodeControlValue value) =
      (encodeControlValue value : ℚ) / 500 - 1 := by
    unfold decodeControlValue controlValueSpan
    rw [min_eq_right (by linarith), max_eq_right (by linarith)]
  rw [hdecode]
  apply abs_sub_le_iff.mpr
  constructor <;> linarith

end

theorem controlInputDataWords_eq {py : Runtime} {surface : String} {code : ℤ}
    (h : Dict.get? controlSurfaceToCode (py.lower surface) = some code) (value : ℚ) :
    controlInputDataWords py (.str surface) (.float value) =
      .ok [formatBin 16 code, formatBin 16 (encodeControlValue value)] := by
  have hstr : py.str (.str surface) = surface := rfl
  simp only [controlInputDataWords, reduceCtorEq, if_false, hstr, h]
  rfl

/-- The surfaces that can be applied have the codes from one to four. -/
theorem applicable_cases (py : Runtime) {surface : String}
    (h : surface ∈ applicableControlSurfaces) :
    ∃ code : ℕ, (code = 1 ∧ surface = "aileron" ∨ code = 2 ∧ surface = "elevator" ∨
      code = 3 ∧ surface = "rudder" ∨ code = 4 ∧ surface = "throttle") ∧
      Dict.get? controlSurfaceToCode (py.lower surface) = some (code : ℤ) := by
  simp only [applicableControlSurfaces, List.mem_cons, List.not_mem_nil, or_false] at h
  rcases h with rfl | rfl | rfl | rfl
  · exact ⟨1, .inl ⟨rfl, rfl⟩, rfl⟩
  · exact ⟨2, .inr (.inl ⟨rfl, rfl⟩), rfl⟩
  · exact ⟨3, .inr (.inr (.inl ⟨rfl, rfl⟩)), rfl⟩
  · exact ⟨4, .inr (.inr (.inr ⟨rfl, rfl⟩)), rfl⟩

end Fmofp.FlightControl
