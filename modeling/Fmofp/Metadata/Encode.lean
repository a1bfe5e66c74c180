import Fmofp.Metadata.Schemas
import Fmofp.Python.Text

/-! `MetadataCodec.encode_metadata`: the header, the two type codes, the extended flags with the mode,
the block transfer word, the command name, the request id, the data points and the checksum.  A word is
the number that it is the sixteen binary digits of, until the last step. -/

namespace Fmofp.Metadata

open Python

/-- `METADATA_VERSION`. -/
def metadataVersion : ℕ := 1

/-- `known_types`. -/
def knownTypes : Dict String ℕ :=
  [("weather_radarCommand", 1), ("weather_radarModeChangeRequest", 2),
    ("weather_radarModeChangeResponse", 3), ("weather_radarStatusRequest", 4),
    ("weather_radarStatusResponse", 5), ("weather_radarVILRequest", 6),
    ("weather_radarVILResponse", 7), ("weather_radarPrecipitationRequest", 8),
    ("weather_radarPrecipitationResponse", 9), ("weather_radarEchoTopRequest", 10),
    ("weather_radarEchoTopResponse", 11), ("weather_radarStormCellRequest", 12),
    ("weather_radarStormCellResponse", 13), ("tfr_radarModeChangeRequest", 14),
    ("tfr_radarModeChangeResponse", 15), ("sar_radarModeChangeRequest", 16),
    ("sar_radarModeChangeResponse", 17), ("targeting_radarModeChangeRequest", 18),
    ("targeting_radarModeChangeResponse", 19), ("aewc_radarModeChangeRequest", 20),
    ("aewc_radarModeChangeResponse", 21), ("display_show_request", 22), ("display_mode_request", 23),
    ("display_data_request", 24), ("display_mode_response", 25), ("displayCommand", 26),
    ("fmsCommand", 27), ("display_mode_change", 28), ("display_status_word", 29),
    ("flightManagementSystemCommand", 30), ("flight_control_systemCommand", 31),
    ("flight_control_systemStatusRequest", 32), ("flight_control_systemStatusResponse", 33),
    ("flight_control_systemModeChangeRequest", 34), ("flight_control_systemModeChangeResponse", 35),
    ("flight_control_systemControlInputRequest", 36),
    ("flight_control_systemControlInputResponse", 37),
    ("flight_control_systemOrientationDataRequest", 38),
    ("flight_control_systemOrientationDataResponse", 39), ("display_data", 40),
    ("display_vil_data", 41), ("targeting_radarCommand", 42), ("targeting_radarStatusRequest", 43),
    ("targeting_radarStatusResponse", 44), ("targeting_radarTrackRequest", 45),
    ("targeting_radarTrackResponse", 46), ("aewc_radarCommand", 47), ("aewc_radarStatusRequest", 48),
    ("aewc_radarStatusResponse", 49), ("aewc_radarSectorScanRequest", 50),
    ("aewc_radarSectorScanResponse", 51), ("sar_radarCommand", 52), ("sar_radarStatusRequest", 53),
    ("sar_radarStatusResponse", 54), ("sar_radarStripmapRequest", 55),
    ("sar_radarStripmapResponse", 56), ("tfr_radarCommand", 57), ("tfr_radarStatusRequest", 58),
    ("tfr_radarStatusResponse", 59), ("tfr_radarData", 60), ("tfr_radarElevationDataRequest", 61),
    ("tfr_radarElevationDataResponse", 62), ("flightManagementSystemStatus", 90),
    ("fms_attitudeUpdateRequest", 91), ("fms_attitudeUpdateResponse", 92),
    ("fms_navigationUpdateRequest", 93), ("fms_navigationUpdateResponse", 94), ("raw_text", 127)]

/-- `known_command_types`. -/
def knownCommandTypes : Dict String ℕ :=
  [("mode_change", 3), ("mode_change_complete", 4), ("data_request", 5), ("data_response", 6),
    ("status_request", 7), ("status_response", 8), ("vil_data", 9), ("precipitation_data", 10),
    ("system_command", 11), ("display_command", 12), ("mode_response", 13), ("data", 5),
    ("precipitation", 10)]

/-- The code of a type that the metadata name: 0 for none, and 127 for one that the table does not have,
as for all that is not text. -/
def codeOf (table : Dict String ℕ) (m : Message) (k : String) : ℕ :=
  match Dict.getD m k .none with
  | .str s => if s = "" then 0 else Dict.getD table s 127
  | v => if v.truthy then 127 else 0

def messageTypeCode (m : Message) : ℕ := codeOf knownTypes m "message_type"

def commandTypeCode (m : Message) : ℕ := codeOf knownCommandTypes m "command_type"

def typeWord (m : Message) : ℕ := (commandTypeCode m * 256) ||| messageTypeCode m

/-- The schema that encoding needs. -/
def schemaOf (m : Message) : Except Exception Schema :=
  match Dict.getD m "message_type" .none with
  | .str s => match Dict.get? messageSchemas s with
    | some schema => .ok schema
    | none => .error .valueError
  | v => if v.truthy && v.key?.isNone then .error .typeError else .error .valueError

/-- A field goes to `schema_fields`; a mode is turned from its name to its value, and left out if it has
none. -/
def schemaField (py : Runtime) (m fields : Message) (k : String) : Message :=
  match Dict.get? m k with
  | none => fields
  | some v => match decide (k = "mode"), v with
    | true, .str s => match Dict.get? modeValueMap (py.upper s) with
      | some n => Dict.set fields "mode_value" (.int n)
      | none => fields
    | _, v => Dict.set fields k v

def schemaFields (py : Runtime) (schema : Schema) (m : Message) : Message :=
  schema.metadataFields.foldl (schemaField py m) []

def transferKeys : List String := ["is_transfer_init", "is_transfer_data", "is_transfer_complete"]

def isTransfer (m : Message) : Bool := transferKeys.any (Dict.has m)

def transferType (m : Message) : ℕ :=
  if m.flag "is_transfer_init" then 1
  else if m.flag "is_transfer_data" then 2
  else if m.flag "is_transfer_complete" then 3
  else 0

/-- `min(metadata.get(k, 0), bound)`, of which only an integer can be shifted. -/
def total (m : Message) (k : String) (bound : ℤ) : Except Exception ℤ :=
  let v := Dict.getD m k (.int 0)
  match v.number? with
  | none => .error .typeError
  | some q =>
    if bound < q then .ok bound
    else match v.int? with
      | some n => .ok n
      | none => .error .typeError

def transferWord (m : Message) : Except Exception ℤ := do
  let messages ← total m "total_messages" 63
  let frames ← total m "total_frames" 255
  return Int.lor (Int.lor (transferType m) (messages * 4)) (frames * 256)

/-- The word that only a message with a transfer key has. -/
def transferWords (m : Message) : Except Exception (List ℤ) :=
  if isTransfer m then (transferWord m).map fun w => [w] else .ok []

/-- `mode_word`; what no mode is called and no number is raises. -/
def modeWord (py : Runtime) (m : Message) : Except Exception ℤ :=
  match Dict.getD m "mode" .none with
  | .none => .ok 0
  | .str s => match Dict.get? modeValueMap (py.upper s) with
    | some n => .ok n
    | none => if py.isdigit s then (py.intBase10 s).map (· % 256) else .error .valueError
  | v => match v.number? with
    | some q => .ok (truncate q % 256)
    | none => .error .valueError

/-- `s.encode('utf-8')`. -/
def utf8 (s : String) : List ℕ :=
  s.toList.flatMap fun c => (String.utf8EncodeChar c).map UInt8.toNat

/-- The words of two codes each. -/
def pairWords : List ℕ → List ℤ
  | a :: b :: rest => ((a * 256 ||| b : ℕ) : ℤ) :: pairWords rest
  | _ => []

def commandNameWords (name : String) : List ℤ :=
  let bytes := utf8 (ljust (slice name 0 12) 12 (Char.ofNat 0))
  pairWords (bytes.take 6) ++ pairWords ((bytes.drop 6).take 6)

/-- A request id of which the first and last four characters are encoded. -/
def isUuid (s : String) : Bool := decide (36 ≤ s.length) && contains s "-"

def requestIdWords (id : String) : List ℤ :=
  if isUuid id then
    let codes := id.toList.map Char.toNat
    pairWords (codes.take 4) ++ pairWords (codes.drop (id.length - 4))
  else pairWords ((utf8 (ljust (slice id 0 8) 8 (Char.ofNat 0))).take 8)

/-- The words for the text of a field that is there and true. -/
def textWords (py : Runtime) (words : String → List ℤ) (m : Message) (k : String) : List ℤ :=
  match Dict.get? m k with
  | some v => if v.truthy then words (py.str v) else []
  | none => []

/-- `_encode_position_word`; of a position with a third coordinate no two can be unpacked. -/
def positionWord (py : Runtime) (point : Message) : Except Exception ℤ :=
  match Dict.get? point "position" with
  | some (.tuple (x :: y :: rest)) | some (.list (x :: y :: rest)) =>
    if rest = [] then do
      let x ← toFloat py x
      let y ← toFloat py y
      return Int.lor (truncate (x * 10) % 256 * 256) (truncate (y * 10) % 256)
    else .error .valueError
  | _ => .ok 0

/-- `min(bound, int(float(point.get(k, 0)) * scale))`. -/
def scaled (py : Runtime) (point : Message) (k : String) (scale : ℚ) (bound : ℤ) :
    Except Exception ℤ :=
  (toFloat py (Dict.getD point k (.int 0))).map fun q => min bound (truncate (q * scale))

def precipitationTypes : Dict String ℤ := [("rain", 0), ("snow", 1), ("sleet", 2), ("hail", 3)]

/-- The code of the type of a point; `str` of what is no text names no type. -/
def precipitationTypeCode (py : Runtime) (point : Message) : ℤ :=
  match Dict.get? point "type" with
  | some (.str s) => Dict.getD precipitationTypes (py.lower s) 0
  | _ => 0

def precipitationWord (py : Runtime) (point : Message) : Except Exception ℤ := do
  let rate ← scaled py point "rate" (1 / 2) 63
  let intensity ← scaled py point "intensity" 63 63
  return Int.lor (Int.lor (precipitationTypeCode py point * 4096) (rate * 64)) intensity

def vilWord (py : Runtime) (point : Message) : Except Exception ℤ := do
  let value ← scaled py point "value" 10 1023
  let intensity ← scaled py point "intensity" 63 63
  return Int.lor (value * 64) intensity

/-- The array of data points: under `data` and `weather`, under `weather`, under a key of its own, or
`data` itself. -/
def dataArray (m : Message) (name : String) (direct : List String) : Value :=
  match (Dict.get? m "data").bind Value.dict? with
  | some data =>
    (((Dict.get? data "weather").bind Value.dict?).bind fun d => Dict.get? d name).getD (.list [])
  | none =>
    match ((Dict.get? m "weather").bind Value.dict?).bind fun d => Dict.get? d name with
    | some v => v
    | none => match direct.findSome? (Dict.get? m) with
      | some v => v
      | none => Dict.getD m "data" (.list [])

/-- The points among the items of an array; what is no list is one item. -/
def dataPoints (array : Value) : List Message :=
  match array with
  | .list items => items.filterMap Value.dict?
  | v => [v].filterMap Value.dict?

def pointWords (py : Runtime) (value : Message → Except Exception ℤ) :
    List Message → Except Exception (List ℤ)
  | [] => .ok []
  | point :: rest => do
    let position ← positionWord py point
    let value' ← value point
    let words ← pointWords py value rest
    return position :: value' :: words

def isCommandType (m : Message) (s : String) : Bool := decide (Dict.getD m "command_type" .none = .str s)

def precipitationPoints (m : Message) : List Message :=
  if isCommandType m "precipitation_data" then dataPoints (dataArray m "precipitation" ["precipitation"])
  else []

def vilPoints (m : Message) : List Message :=
  if isCommandType m "vil_data" then dataPoints (dataArray m "vil" ["vil_data", "vil"]) else []

/-- Without any of its keys the variable of the VIL data is never set, but logged. -/
def vilUnset (m : Message) : Bool :=
  isCommandType m "vil_data" &&
    !(["data", "weather", "vil_data", "vil"].any (Dict.has m))

def precipitationWords (py : Runtime) (m : Message) : Except Exception (List ℤ) :=
  pointWords py (precipitationWord py) (precipitationPoints m)

def vilWords (py : Runtime) (m : Message) : Except Exception (List ℤ) :=
  if vilUnset m then .error .unboundLocalError else pointWords py (vilWord py) (vilPoints m)

def checksumKeys : List String := ["command_name", "message_type", "command_type", "request_id"]

def checksum (py : Runtime) (m : Message) : ℕ :=
  checksumKeys.foldl (fun acc k =>
    match Dict.get? m k with
    | some v => if v.truthy then acc ^^^ (py.hash (py.str v) % 65536).toNat else acc
    | none => acc) 0

def flagBit (b : Bool) (bit : ℕ) : ℕ := if b then bit else 0

/-- `field_flags & 0xFF`: the flags of the data points lie above. -/
def fieldFlags (schema : Schema) (m : Message) : ℕ :=
  flagBit (schema.metadataFields.contains "message_type" || m.flag "message_type") 1 |||
    flagBit (schema.metadataFields.contains "command_type" || m.flag "command_type") 2 |||
    flagBit (schema.metadataFields.contains "command_name" || m.flag "command_name") 4

def hasMode (m : Message) : Bool := decide (Dict.getD m "mode" .none ≠ .none)

def extendedFlags (schema : Schema) (m : Message) : ℕ :=
  flagBit (schema.metadataFields.contains "mode" || hasMode m) 1 |||
    flagBit (schema.metadataFields.contains "request_id" || m.flag "request_id") 8 |||
    flagBit (m.flag "command_name") 16 ||| flagBit (m.flag "request_id") 32

/-- The words from the type word on, as numbers. -/
def payload (py : Runtime) (m : Message) : Except Exception (List ℤ) := do
  let schema ← schemaOf m
  let typeWords ← applySchema schema [(typeWord m : ℤ)] (schemaFields py schema m)
  let transfer ← transferWords m
  let mode ← modeWord py m
  let words := typeWords ++ transfer ++ textWords py commandNameWords m "command_name" ++
    textWords py requestIdWords m "request_id"
  let flags := extendedFlags schema m
  let words := if 0 < flags then words.insertIdx 1 (Int.lor (flags * 256) mode) else words
  let precipitation ← precipitationWords py m
  let vil ← vilWords py m
  return words ++ precipitation ++ vil ++ [(checksum py m : ℤ)]

/-- The header: the number of words after it is put in with `or` and without a mask. -/
def header (count flags : ℕ) : ℕ := (metadataVersion * 4096) ||| (count * 256) ||| flags

def encodeMetadata (py : Runtime) (m : Message) : Except Exception (List String) := do
  let words ← payload py m
  let schema ← schemaOf m
  return ((header words.length (fieldFlags schema m) : ℤ) :: words).map (formatBin 16)

end Fmofp.Metadata
