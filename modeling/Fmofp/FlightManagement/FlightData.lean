import Fmofp.Python.Quantum
import Fmofp.Python.Dict

/-! The data words of the flight management system: the encoders and decoders of its attitude,
navigation, velocity and tactical messages. -/

namespace Fmofp.FlightManagement

open Python

/-- A message of the flight management system, as `create_fms_..._data_message` builds it. -/
structure DataMessage (δ : Type) where
  messageType : String
  commandWord : Option ℤ
  timestamp : ℚ
  data : δ

structure Attitude where
  roll : ℚ
  pitch : ℚ
  yaw : ℚ
  rollRate : ℚ
  pitchRate : ℚ
  yawRate : ℚ

structure Navigation where
  latitude : ℚ
  longitude : ℚ
  altitude : ℚ
  heading : ℚ
  track : ℚ
  activeWaypoint : ℤ

structure Velocity where
  airspeed : ℚ
  groundSpeed : ℚ
  verticalSpeed : ℚ
  mach : ℚ

structure Tactical where
  gForce : ℚ
  aoa : ℚ
  sideslip : ℚ
  energyState : ℚ
  mode : String

def fmsModeNameToValue : Dict String ℤ :=
  [("NORMAL", 0), ("COMBAT", 1), ("STEALTH", 2), ("TRAINING", 3), ("EMERGENCY", 4)]

def fmsModeValueToName : Dict ℤ String :=
  fmsModeNameToValue.map fun e => (e.2, e.1)

section

-- `get_fms_command_word`, which reads a registry, and the time of the call
variable (commandWord : String → Option ℤ) (now : ℚ)

def createFmsAttitudeDataMessage (data : Attitude) : DataMessage Attitude where
  messageType := "FMS_UPDATE_ATTITUDE"
  commandWord := commandWord "FMS_UPDATE_ATTITUDE"
  timestamp := now
  data := data

def createFmsNavigationDataMessage (data : Navigation) : DataMessage Navigation where
  messageType := "FMS_UPDATE_NAVIGATION"
  commandWord := commandWord "FMS_UPDATE_NAVIGATION"
  timestamp := now
  data := data

def createFmsVelocityDataMessage (data : Velocity) : DataMessage Velocity where
  messageType := "FMS_FLIGHT_DATA"
  commandWord := commandWord "FMS_FLIGHT_DATA"
  timestamp := now
  data := data

def validModes : List String := ["NORMAL", "COMBAT", "STEALTH", "TRAINING", "EMERGENCY"]

def createFmsTacticalDataMessage (data : Tactical) : DataMessage Tactical where
  messageType := "FMS_TACTICAL_STATUS"
  commandWord := commandWord "FMS_TACTICAL_STATUS"
  timestamp := now
  data := { data with mode := if data.mode ∈ validModes then data.mode else "NORMAL" }

/-- `int(x * k) & 0xFFFF`. -/
def scaledWord (k x : ℚ) : ℤ := word (truncate (x * k))

/-- `min(high, max(0, n)) & 0xFFFF`. -/
def clampedWord (high n : ℤ) : ℤ := word (min high (max 0 n))

/-- The decoder of the attitude takes what is above `0x7FFF` for negative. -/
def signExtend (x : ℚ) : ℚ := if x > 327.67 then x - 655.36 else x

def encodeFmsAttitudeData (message : DataMessage Attitude) : List ℤ :=
  let data := message.data
  [0x0501, scaledWord 100 data.roll, scaledWord 100 data.pitch, scaledWord 100 data.yaw,
    scaledWord 100 data.rollRate, scaledWord 100 data.pitchRate, scaledWord 100 data.yawRate]

def decodeFmsAttitudeData : List ℤ → Except Exception (DataMessage Attitude)
  | identifier :: roll :: pitch :: yaw :: rollRate :: pitchRate :: yawRate :: _ =>
    if identifier ≠ 0x0501 then .error .valueError
    else .ok (createFmsAttitudeDataMessage commandWord now {
      roll := signExtend (word roll / 100)
      pitch := signExtend (word pitch / 100)
      yaw := signExtend (word yaw / 100)
      rollRate := signExtend (word rollRate / 100)
      pitchRate := signExtend (word pitchRate / 100)
      yawRate := signExtend (word yawRate / 100) })
  | _ => .error .valueError

def encodeFmsNavigationData (message : DataMessage Navigation) : List ℤ :=
  let data := message.data
  [0x0502, scaledWord 100 (floatMod (data.latitude + 90) 180),
    scaledWord 100 (floatMod (data.longitude + 180) 360),
    clampedWord 65535 (truncate data.altitude), scaledWord 100 (floatMod data.heading 360),
    scaledWord 100 (floatMod data.track 360), clampedWord 65535 data.activeWaypoint]

def decodeFmsNavigationData : List ℤ → Except Exception (DataMessage Navigation)
  | identifier :: latitude :: longitude :: altitude :: heading :: track :: activeWaypoint :: _ =>
    if identifier ≠ 0x0502 then .error .valueError
    else .ok (createFmsNavigationDataMessage commandWord now {
      latitude := word latitude / 100 - 90
      longitude := word longitude / 100 - 180
      altitude := word altitude
      heading := word heading / 100
      track := word track / 100
      activeWaypoint := word activeWaypoint })
  | _ => .error .valueError

def encodeFmsVelocityData (message : DataMessage Velocity) : List ℤ :=
  let data := message.data
  [0x0505, 0x0001, clampedWord 9999 (truncate (data.airspeed * 10)),
    clampedWord 9999 (truncate (data.groundSpeed * 10)),
    clampedWord 65535 (truncate data.verticalSpeed + 32768),
    clampedWord 5999 (truncate (data.mach * 1000))]

def decodeFmsVelocityData : List ℤ → Except Exception (DataMessage Velocity)
  | identifier :: subtype :: airspeed :: groundSpeed :: verticalSpeed :: mach :: _ =>
    if identifier ≠ 0x0505 ∨ subtype ≠ 0x0001 then .error .valueError
    else .ok (createFmsVelocityDataMessage commandWord now {
      airspeed := word airspeed / 10
      groundSpeed := word groundSpeed / 10
      verticalSpeed := ((word verticalSpeed - 32768 : ℤ) : ℚ)
      mach := word mach / 1000 })
  | _ => .error .valueError

def encodeFmsTacticalData (message : DataMessage Tactical) : List ℤ :=
  let data := message.data
  [0x050D, clampedWord 999 (truncate (data.gForce * 100)),
    clampedWord 8000 (truncate (data.aoa * 100) + 4000),
    clampedWord 4000 (truncate (data.sideslip * 100) + 2000),
    clampedWord 100 (truncate data.energyState), word (Dict.getD fmsModeNameToValue data.mode 0)]

def decodeFmsTacticalData : List ℤ → Except Exception (DataMessage Tactical)
  | identifier :: gForce :: aoa :: sideslip :: energyState :: mode :: _ =>
    if identifier ≠ 0x050D then .error .valueError
    else .ok (createFmsTacticalDataMessage commandWord now {
      gForce := word gForce / 100
      aoa := ((word aoa - 4000 : ℤ) : ℚ) / 100
      sideslip := ((word sideslip - 2000 : ℤ) : ℚ) / 100
      energyState := word energyState
      mode := Dict.getD fmsModeValueToName (word mode) "NORMAL" })
  | _ => .error .valueError

end

end Fmofp.FlightManagement
