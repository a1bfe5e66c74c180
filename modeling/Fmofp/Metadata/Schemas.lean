import Fmofp.Python.Value

/-! `message_schemas`: the schema of each message type, and the bits of a word that a field has. -/

namespace Fmofp.Metadata

open Python

/-- The `bits` of a field definition; a single number is no range. -/
inductive BitsInfo where
  | all
  | range (start stop : ℕ)
  | single (bit : ℕ)
  deriving DecidableEq

structure FieldDef where
  field : String
  wordIndex : ℤ
  bits : BitsInfo
  deriving DecidableEq

structure Schema where
  dataStructure : List FieldDef
  metadataFields : List String
  deriving DecidableEq

/-- A schema: all of them have the words of the two type codes and the same first metadata fields. -/
def schema (fields : List FieldDef) (metadataFields : List String) : Schema where
  dataStructure := ⟨"message_type_code", 1, .all⟩ :: ⟨"command_type_code", 2, .all⟩ :: fields
  metadataFields := ["message_type", "command_type", "command_name", "request_id"] ++ metadataFields

/-- `MESSAGE_SCHEMAS`. -/
def messageSchemas : Dict String Schema :=
  [("tfr_radarCommand", schema [⟨"mode_value", -1, .range 0 3⟩] ["mode"]),
    ("tfr_radarModeChangeRequest", schema [⟨"mode_value", -1, .range 0 2⟩] ["mode"]),
    ("tfr_radarModeChangeResponse", schema
      [⟨"mode_value", -1, .range 0 2⟩, ⟨"old_mode_value", -2, .range 0 2⟩]
      ["mode", "old_mode", "new_mode"]),
    ("tfr_radarStatusRequest", schema [] []),
    ("tfr_radarStatusResponse", schema
      [⟨"health_status", -2, .single 0⟩, ⟨"mode_value", -1, .range 0 2⟩] ["health_status", "mode"]),
    ("tfr_radarElevationDataRequest", schema [⟨"scan_type", 3, .all⟩] ["scan_type"]),
    ("tfr_radarElevationDataResponse", schema [⟨"data_count", 3, .all⟩, ⟨"scan_type", 4, .all⟩]
      ["data_count", "scan_type"]),
    ("tfr_radarData", schema [⟨"data_type", 3, .all⟩] ["data_type"]),
    ("sar_radarCommand", schema [⟨"mode_value", -1, .range 0 3⟩] ["mode"]),
    ("sar_radarModeChangeRequest", schema [⟨"mode_value", -1, .range 0 2⟩] ["mode"]),
    ("sar_radarModeChangeResponse", schema
      [⟨"mode_value", -1, .range 0 2⟩, ⟨"old_mode_value", -2, .range 0 2⟩]
      ["mode", "old_mode", "new_mode"]),
    ("sar_radarStatusRequest", schema [] []),
    ("sar_radarStatusResponse", schema
      [⟨"health_status", -2, .single 0⟩, ⟨"mode_value", -1, .range 0 2⟩] ["health_status", "mode"]),
    ("sar_radarImageRequest", schema [⟨"image_type", 3, .all⟩, ⟨"resolution", 4, .all⟩]
      ["image_type", "resolution"]),
    ("sar_radarImageResponse", schema
      [⟨"data_count", 3, .all⟩, ⟨"image_type", 4, .all⟩, ⟨"resolution", 5, .all⟩]
      ["data_count", "image_type", "resolution"]),
    ("sar_radarData", schema [⟨"data_type", 3, .all⟩, ⟨"resolution", 4, .all⟩]
      ["data_type", "resolution"]),
    ("targeting_radarCommand", schema [⟨"mode_value", -1, .range 0 3⟩] ["mode"]),
    ("targeting_radarModeChangeRequest", schema [⟨"mode_value", -1, .range 0 2⟩] ["mode"]),
    ("targeting_radarModeChangeResponse", schema
      [⟨"mode_value", -1, .range 0 2⟩, ⟨"old_mode_value", -2, .range 0 2⟩]
      ["mode", "old_mode", "new_mode"]),
    ("targeting_radarStatusRequest", schema [] []),
    ("targeting_radarStatusResponse", schema
      [⟨"health_status", -2, .single 0⟩, ⟨"mode_value", -1, .range 0 2⟩] ["health_status", "mode"]),
    ("targeting_radarTrackRequest", schema [⟨"track_type", 3, .all⟩] ["track_type"]),
    ("targeting_radarTrackResponse", schema [⟨"track_type", 3, .all⟩, ⟨"track_count", 4, .all⟩]
      ["track_type", "track_count"]),
    ("targeting_radarData", schema [⟨"data_type", 3, .all⟩, ⟨"target_count", 4, .all⟩]
      ["data_type", "target_count"]),
    ("aewc_radarCommand", schema [⟨"mode_value", -1, .range 0 3⟩] ["mode"]),
    ("aewc_radarModeChangeRequest", schema [⟨"mode_value", -1, .range 0 2⟩] ["mode"]),
    ("aewc_radarModeChangeResponse", schema
      [⟨"mode_value", -1, .range 0 2⟩, ⟨"old_mode_value", -2, .range 0 2⟩]
      ["mode", "old_mode", "new_mode"]),
    ("aewc_radarStatusRequest", schema [] []),
    ("aewc_radarStatusResponse", schema
      [⟨"health_status", -2, .single 0⟩, ⟨"mode_value", -1, .range 0 2⟩] ["health_status", "mode"]),
    ("aewc_radarSectorScanRequest", schema [⟨"sector_type", 3, .all⟩, ⟨"sector_parameters", 4, .all⟩]
      ["sector_type", "sector_parameters"]),
    ("aewc_radarSectorScanResponse", schema [⟨"sector_type", 3, .all⟩, ⟨"status_code", 4, .all⟩]
      ["sector_type", "status_code"]),
    ("aewc_radarData", schema [⟨"data_type", 3, .all⟩, ⟨"sector_id", 4, .all⟩]
      ["data_type", "sector_id"]),
    ("flightManagementSystemStatus", schema
      [⟨"health_status", 3, .single 0⟩, ⟨"mode_value", 4, .range 0 3⟩] ["health_status", "mode"]),
    ("DISPLAY_VIL_DATA", schema [⟨"display_id", 3, .all⟩, ⟨"data_type", 4, .all⟩]
      ["display_id", "data_type", "vil_message", "vil_data_available"]),
    ("flight_control_systemCommand", schema [⟨"mode_value", -1, .range 0 3⟩] ["mode"]),
    ("flight_control_systemStatusRequest", schema [] []),
    ("flight_control_systemStatusResponse", schema
      [⟨"health_status", 3, .single 0⟩, ⟨"mode_value", 4, .range 0 3⟩] ["health_status", "mode"]),
    ("flight_control_systemModeChangeRequest", schema [⟨"mode_value", -1, .range 0 3⟩] ["mode"]),
    ("flight_control_systemModeChangeResponse", schema
      [⟨"old_mode_value", -2, .range 0 3⟩, ⟨"new_mode_value", -1, .range 0 3⟩]
      ["old_mode", "new_mode"]),
    ("flight_control_systemControlInputRequest", schema
      [⟨"control_surface_id", 3, .all⟩, ⟨"control_value", 4, .all⟩]
      ["control_surface_id", "control_value"]),
    ("flight_control_systemControlInputResponse", schema
      [⟨"control_surface_id", 3, .all⟩, ⟨"status_code", 4, .all⟩, ⟨"actual_value", 5, .all⟩]
      ["control_surface_id", "status_code", "actual_value"]),
    ("flight_control_systemOrientationDataRequest", schema [] []),
    ("flight_control_systemOrientationDataResponse", schema
      [⟨"roll", 3, .all⟩, ⟨"pitch", 4, .all⟩, ⟨"yaw", 5, .all⟩] ["roll", "pitch", "yaw"]),
    ("fms_modeChangeRequest", schema [⟨"mode_value", -1, .range 0 3⟩] ["mode"]),
    ("fms_modeChangeResponse", schema
      [⟨"old_mode_value", -2, .range 0 3⟩, ⟨"new_mode_value", -1, .range 0 3⟩]
      ["old_mode", "new_mode"]),
    ("fms_attitudeUpdateRequest", schema [⟨"roll", 3, .all⟩, ⟨"pitch", 4, .all⟩, ⟨"yaw", 5, .all⟩]
      ["roll", "pitch", "yaw"]),
    ("fms_attitudeUpdateResponse", schema
      [⟨"status_code", 3, .all⟩, ⟨"roll", 4, .all⟩, ⟨"pitch", 5, .all⟩, ⟨"yaw", 6, .all⟩]
      ["status_code", "roll", "pitch", "yaw"]),
    ("fms_navigationUpdateRequest", schema [⟨"update_type", 3, .all⟩, ⟨"parameter_count", 4, .all⟩]
      ["update_type", "parameter_count"]),
    ("fms_navigationUpdateResponse", schema [⟨"status_code", 3, .all⟩, ⟨"update_type", 4, .all⟩]
      ["status_code", "update_type"]),
    ("fms_maneuverRequest", schema [⟨"maneuver_type", 3, .all⟩, ⟨"parameter_count", 4, .all⟩]
      ["maneuver_type", "parameter_count"]),
    ("fms_maneuverResponse", schema [⟨"status_code", 3, .all⟩, ⟨"maneuver_type", 4, .all⟩]
      ["status_code", "maneuver_type"]),
    ("weather_radarCommand", schema [⟨"mode_value", -1, .range 0 2⟩] []),
    ("weather_radarModeChangeRequest", schema [⟨"mode_value", -1, .range 0 2⟩] ["mode"]),
    ("weather_radarModeChangeResponse", schema
      [⟨"mode_value", -1, .range 0 2⟩, ⟨"old_mode_value", -2, .range 0 2⟩]
      ["mode", "old_mode", "new_mode"]),
    ("weather_radarStatusRequest", schema [] []),
    ("weather_radarStatusResponse", schema
      [⟨"health_status", -2, .single 0⟩, ⟨"mode_value", -1, .range 0 2⟩] ["health_status", "mode"]),
    ("weather_radarVILRequest", schema [⟨"scan_type", -1, .range 0 3⟩] ["scan_parameters"]),
    ("weather_radarVILResponse", schema
      [⟨"data_count", 3, .all⟩, ⟨"scan_type", 4, .range 0 3⟩, ⟨"mode_value", 5, .range 0 2⟩]
      ["data_count", "scan_type", "mode"]),
    ("weather_radarPrecipitationRequest", schema [⟨"scan_type", -1, .range 0 3⟩] ["scan_parameters"]),
    ("weather_radarPrecipitationResponse", schema
      [⟨"data_count", 3, .all⟩, ⟨"scan_type", 4, .range 0 3⟩, ⟨"mode_value", 5, .range 0 2⟩]
      ["data_count", "scan_type", "mode"]),
    ("weather_radarData", schema [⟨"data_type", 3, .all⟩] ["data_type"]),
    ("radarCommand", schema [⟨"radar_type", 3, .range 0 3⟩, ⟨"mode_value", -1, .range 0 2⟩]
      ["radar_type", "mode"]),
    ("radarStatusRequest", schema [⟨"radar_type", 3, .range 0 3⟩] ["radar_type"]),
    ("radarStatusResponse", schema
      [⟨"radar_type", 3, .range 0 3⟩, ⟨"health_status", 4, .single 0⟩, ⟨"mode_value", 5, .range 0 2⟩]
      ["radar_type", "health_status", "mode"]),
    ("radarDataRequest", schema [⟨"radar_type", 3, .range 0 3⟩, ⟨"data_type", 4, .all⟩]
      ["radar_type", "data_type"]),
    ("radarDataResponse", schema
      [⟨"radar_type", 3, .range 0 3⟩, ⟨"data_type", 4, .all⟩, ⟨"data_count", 5, .all⟩]
      ["radar_type", "data_type", "data_count"]),
    ("flightManagementSystemCommand", schema [⟨"mode_value", -1, .range 0 3⟩] []),
    ("fmsCommand", schema [⟨"command_parameter", -1, .all⟩] ["command_parameter"]),
    ("fmsDataRequest", schema [⟨"data_type", 3, .all⟩] ["data_type"]),
    ("fmsDataResponse", schema [⟨"data_type", 3, .all⟩, ⟨"data_count", 4, .all⟩]
      ["data_type", "data_count"]),
    ("fmsStatusRequest", schema [] []),
    ("fmsStatusResponse", schema [⟨"health_status", 3, .single 0⟩, ⟨"mode", 4, .range 0 3⟩]
      ["health_status", "mode"]),
    ("displayCommand", schema [⟨"display_id", 3, .all⟩, ⟨"command_parameter", -1, .all⟩]
      ["display_id", "command_parameter"]),
    ("display_mode_request", schema [⟨"display_id", 3, .all⟩, ⟨"mode_value", -1, .range 0 3⟩]
      ["display_id", "mode"]),
    ("display_mode_response", schema
      [⟨"display_id", 3, .all⟩, ⟨"old_mode", 4, .range 0 3⟩, ⟨"new_mode", 5, .range 0 3⟩]
      ["display_id", "old_mode", "new_mode"]),
    ("display_mode_change", schema [⟨"display_id", 3, .all⟩, ⟨"mode_value", -1, .range 0 7⟩]
      ["display_id", "mode"]),
    ("displayDataUpdate", schema
      [⟨"display_id", 3, .all⟩, ⟨"data_type", 4, .all⟩, ⟨"data_count", 5, .all⟩]
      ["display_id", "data_type", "data_count"]),
    ("display_data", schema [⟨"display_id", 3, .all⟩, ⟨"data_type", 4, .all⟩]
      ["display_id", "data_type"]),
    ("displayStatusRequest", schema [⟨"display_id", 3, .all⟩] ["display_id"]),
    ("displayStatusResponse", schema
      [⟨"display_id", 3, .all⟩, ⟨"health_status", 4, .single 0⟩, ⟨"mode", 5, .range 0 3⟩]
      ["display_id", "health_status", "mode"]),
    ("bitCommand", schema [⟨"system_id", 3, .all⟩, ⟨"bit_type", 4, .all⟩] ["system_id", "bit_type"]),
    ("bitStatusRequest", schema [⟨"system_id", 3, .all⟩] ["system_id"]),
    ("bitStatusResponse", schema [⟨"system_id", 3, .all⟩, ⟨"status_code", 4, .all⟩]
      ["system_id", "status_code"]),
    ("bitDataResponse", schema
      [⟨"system_id", 3, .all⟩, ⟨"bit_type", 4, .all⟩, ⟨"data_count", 5, .all⟩]
      ["system_id", "bit_type", "data_count"]),
    ("systemCommand", schema [⟨"system_id", 3, .all⟩, ⟨"command_parameter", -1, .all⟩]
      ["system_id", "command_parameter"]),
    ("systemStatusRequest", schema [⟨"system_id", 3, .all⟩] ["system_id"]),
    ("systemStatusResponse", schema
      [⟨"system_id", 3, .all⟩, ⟨"health_status", 4, .single 0⟩, ⟨"mode", 5, .range 0 3⟩]
      ["system_id", "health_status", "mode"]),
    ("systemDataRequest", schema [⟨"system_id", 3, .all⟩, ⟨"data_type", 4, .all⟩]
      ["system_id", "data_type"]),
    ("systemDataResponse", schema
      [⟨"system_id", 3, .all⟩, ⟨"data_type", 4, .all⟩, ⟨"data_count", 5, .all⟩]
      ["system_id", "data_type", "data_count"])]

/-- `MODE_VALUE_MAP`, which the codec repeats twice as `mode_map`. -/
def modeValueMap : Dict String ℤ :=
  [("INITIALIZING", -1), ("STANDBY", 0), ("NORMAL", 1), ("DEGRADED", 2), ("TEST", 3),
    ("MAINTENANCE", 4), ("EMERGENCY", 5), ("FAILURE", 6), ("RECOVERY", 7), ("CALIBRATION", 8),
    ("SURVEILLANCE", 10), ("MAPPING", 11), ("TURBULENCE", 12), ("WINDSHEAR", 13),
    ("PRECIPITATION", 14), ("WEATHER", 6), ("SEARCH", 20), ("TRACK", 21), ("ACTIVE", 22),
    ("TERRAIN_FOLLOWING", 23), ("OBSTACLE_AVOIDANCE", 24), ("GROUND_MAPPING", 25), ("STRIPMAP", 30),
    ("SPOTLIGHT", 31), ("SCANSAR", 32), ("INTERFEROMETRIC", 33), ("DOPPLER_BEAM", 34),
    ("TARGET_SEARCH", 40), ("TARGET_TRACK", 41), ("LOCK", 42), ("TERRAIN_AVOIDANCE", 43),
    ("AEWC_SEARCH", 50), ("AEWC_SURVEILLANCE", 51), ("SECTOR_SCAN", 52), ("STEALTH_DETECTION", 53),
    ("ELECTRONIC_PROTECTION", 54)]

/-- `MODE_NAME_MAP`: of two modes with one value the later one names it. -/
def modeNameMap : Dict ℤ String := modeValueMap.foldl (fun d e => Dict.set d e.2 e.1) []

/-- `get_field_position`, for a schema that exists. -/
def Schema.fieldPosition (schema : Schema) (field : String) : Option FieldDef :=
  schema.dataStructure.find? fun d => d.field == field

/-- `extract_bit_range`. -/
def extractBitRange : BitsInfo → Except Exception (ℕ × ℕ)
  | .all => .ok (0, 15)
  | .range start stop => if 15 < stop ∨ stop < start then .error .valueError else .ok (start, stop)
  | .single _ => .error .valueError

/-- `extract_bits`. -/
def extractBits (value : ℤ) (start stop : ℕ) : ℤ := value / 2 ^ start % 2 ^ (stop + 1 - start)

/-- `set_bits`: the bits of the range are cleared and the new ones put in with `or`, so that a negative
number spoils the word. -/
def setBits (value : ℤ) (newBits : Value) (start stop : ℕ) : Except Exception ℤ :=
  match newBits.int? with
  | none => .error .typeError
  | some n =>
    if 2 ^ (stop + 1 - start) - 1 < n then .error .valueError
    else .ok (Int.lor (value - extractBits value start stop * 2 ^ start) (n * 2 ^ start))

/-- The place that a word index means; negative ones count from the end. -/
def actualIndex (length : ℕ) (wordIndex : ℤ) : Option ℕ :=
  let i := if 0 ≤ wordIndex then wordIndex else length + wordIndex
  if 0 ≤ i ∧ i < length then some i.toNat else none

/-- A field of `apply_schema_to_data_words`. -/
def applyField (schema : Schema) (words : List ℤ) (field : String × Value) :
    Except Exception (List ℤ) :=
  match schema.fieldPosition field.1 with
  | none => .ok words
  | some position => match actualIndex words.length position.wordIndex with
    | none => .ok words
    | some i => do
      let (start, stop) ← extractBitRange position.bits
      let word ← setBits (words.getD i 0) field.2 start stop
      return words.set i word

/-- `apply_schema_to_data_words`, on the numbers that the words are the binary digits of. -/
def applySchema (schema : Schema) (words : List ℤ) (fields : Message) : Except Exception (List ℤ) :=
  fields.foldlM (applyField schema) words

end Fmofp.Metadata
