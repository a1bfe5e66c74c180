import Fmofp.Precipitation.RoundTrip

/-! The two data words of a `PrecipitationData` object in `weather_radar_data.py`, with a type code of
two bits and a rate code of seven, and `BaseMessage.validate`, which a response goes through before
the radar handler hands it on. -/

namespace Fmofp.RadarHandler

open Python Precipitation

structure PrecipitationData where
  position : ℚ × ℚ
  type : String
  rate : ℚ
  intensity : ℚ
  showValues : Bool
  requestId : Value
  timestamp : ℚ
  deriving DecidableEq

/-- `(word >> shift) & (2 ** width - 1)`. -/
def bitField (word : ℤ) (shift width : ℕ) : ℕ := (word / 2 ^ shift % 2 ^ width).toNat

def typeBits : Dict String ℤ := [("rain", 0), ("snow", 1), ("hail", 2), ("mixed", 3)]

def typeMap : Dict ℕ String := [(0, "rain"), (1, "snow"), (2, "hail"), (3, "mixed")]

namespace PrecipitationData

def positionWord (p : PrecipitationData) : ℤ :=
  Int.lor (min 255 (truncate (p.position.1 * 10)) * 256) (min 255 (truncate (p.position.2 * 10)))

def rateCode (p : PrecipitationData) : ℤ := min 127 (roundHalfEven (p.rate / 2))

def intensityCode (p : PrecipitationData) : ℤ := min 63 (roundHalfEven (p.intensity * 63))

def dataWord (p : PrecipitationData) : ℤ :=
  Int.lor (Int.lor (Int.lor (Dict.getD typeBits p.type 0 * 16384) (p.rateCode * 128))
    (p.intensityCode * 2)) (if p.showValues then 1 else 0)

def toDataWords (p : PrecipitationData) : List String :=
  [formatBin 16 p.positionWord, formatBin 16 p.dataWord]

/-- `from_data_words`; the identifier and the time of the new object are fresh ones. -/
def fromDataWords (py : Runtime) (freshId : String) (now : ℚ) :
    List String → Except Exception PrecipitationData
  | [first, second] => do
    let word1 ← py.intBase2 first
    let word2 ← py.intBase2 second
    match Dict.get? typeMap (bitField word2 14 2) with
    | none => throw .keyError
    | some type =>
      return {
        position := (bitField word1 8 8 / 10, bitField word1 0 8 / 10)
        type := type
        rate := bitField word2 7 7 * 2
        intensity := bitField word2 1 6 / 63
        showValues := decide (bitField word2 0 1 ≠ 0)
        requestId := .str freshId
        timestamp := now }
  | _ => throw .valueError

/-- Every field that travels: the fresh identifier and time are left aside. -/
def SameReading (a b : PrecipitationData) : Prop :=
  a.position = b.position ∧ a.type = b.type ∧ a.rate = b.rate ∧ a.intensity = b.intensity ∧
    a.showValues = b.showValues

instance (a b : PrecipitationData) : Decidable (SameReading a b) :=
  inferInstanceAs (Decidable (_ ∧ _))

/-- The objects that the two words have room for. -/
structure InWireRange (p : PrecipitationData) : Prop where
  x_nonneg : 0 ≤ p.position.1
  x_le : p.position.1 ≤ 51 / 2
  y_nonneg : 0 ≤ p.position.2
  y_le : p.position.2 ≤ 51 / 2
  rate_nonneg : 0 ≤ p.rate
  rate_le : p.rate ≤ 254
  intensity_nonneg : 0 ≤ p.intensity
  intensity_le : p.intensity ≤ 1
  known : Dict.has typeBits p.type = true

end PrecipitationData

/-! ### Validation of a response -/

/-- What `BaseMessage.validate` finds in the modules it uses: the functions that
`command_word_map` has to offer, and the names of `COMMAND_NAMES`. -/
structure Registry where
  commandWordMap : List String
  commandNames : List String

/-- The functions that `command_word_map.py` defines or imports (its other names are constants and
loop variables), and the names that `command_name_registry.py` lists. -/
def sourceRegistry : Registry where
  commandWordMap := ["get_logger", "parse_address_book", "parse_command_registry",
    "track_operation", "get_rt_address", "get_subaddress", "is_vil_message",
    "is_precipitation_message", "is_mode_change_message", "_initialize_module",
    "validate_command_word", "extract_command_word", "register_message_handler",
    "_get_command_type", "register_command_word", "_fcs_map_entry"]
  commandNames := ["WEATHER_RADAR_VIL_DATA", "WEATHER_RADAR_PRECIPITATION_DATA",
    "WEATHER_RADAR_MODE_CHANGE", "WEATHER_RADAR_MODE_CHANGE_COMPLETE", "WEATHER_RADAR_COMMAND",
    "PRECIPITATION_DATA_COMMAND", "VIL_DATA_COMMAND", "DISPLAY_ECHO_TOP_DATA",
    "WEATHER_RADAR_ECHO_TOP_DATA", "WEATHER_RADAR_STORM_CELL_DATA",
    "WEATHER_RADAR_STORM_CELL_DATA_RESPONSE", "DISPLAY_VIL_DATA", "DISPLAY_PRECIPITATION_DATA",
    "DISPLAY_DATA_REQUEST", "TFR_RADAR_MODE_CHANGE", "TFR_RADAR_MODE_CHANGE_COMPLETE",
    "SAR_RADAR_MODE_CHANGE", "SAR_RADAR_MODE_CHANGE_COMPLETE", "TARGETING_RADAR_MODE_CHANGE",
    "TARGETING_RADAR_MODE_CHANGE_COMPLETE", "AEWC_RADAR_MODE_CHANGE",
    "AEWC_RADAR_MODE_CHANGE_COMPLETE", "DISPLAY_MODE_CHANGE", "DISPLAY_MODE_RESPONSE",
    "DISPLAY_SHOW", "FMS_MODE_CHANGE", "FMS_MODE_CHANGE_COMPLETE", "FMS_STATUS_REQUEST",
    "FMS_STATUS_RESPONSE", "FMS_ATTITUDE_UPDATE", "FMS_ATTITUDE_UPDATE_RESPONSE",
    "FMS_NAVIGATION_UPDATE", "FMS_NAVIGATION_UPDATE_RESPONSE", "FMS_MANEUVER_REQUEST",
    "FMS_MANEUVER_RESPONSE"]

/-- What `validate` raises: a `ValueError` for the message, or the `ImportError` of its own import. -/
inductive Invalid where
  | valueError
  | importError
  deriving DecidableEq

/-- The fields of a message that `BaseMessage.validate` looks at. -/
structure BaseMessage where
  messageHeader : String
  messageType : String
  sendingSystem : String
  destination : String
  commandName : Option String

def BaseMessage.validate (registry : Registry) (m : BaseMessage) : Except Invalid Unit :=
  if m.messageHeader = "" ∨ m.messageType = "" ∨ m.sendingSystem = "" ∨ m.destination = "" ∨
      m.commandName = some "" then .error .valueError
  else match m.commandName with
    | none => .ok ()
    | some name =>
      -- `from command_word_map import validate_command_name`, only now
      if "validate_command_name" ∈ registry.commandWordMap then
        if name ∈ registry.commandNames then .ok () else .error .valueError
      else .error .importError

/-- `weather_radarPrecipitationResponse`. -/
structure PrecipitationResponse where
  base : BaseMessage
  requestUuid : Value
  responseUuid : String
  precipitationData : List PrecipitationData

/-- `validate` of a response, whose list and whose objects have their types. -/
def PrecipitationResponse.validate (registry : Registry) (r : PrecipitationResponse) :
    Except Invalid Unit := do
  r.base.validate registry
  if r.requestUuid.truthy = false ∨ r.responseUuid = "" then throw .valueError

end Fmofp.RadarHandler

/-! `RadarMessageHandler._handle_precipitation_data` reads the two words of an object with code of its
own, checks the values and the response, and hands the response to the precipitation service.  What
the sender writes is read right as far as the handler lets it through: the upper half of the rate
codes is refused, and so is every response, whose validation imports a function from a module that
has none of that name. -/

namespace Fmofp.RadarHandler

open Python Precipitation

/-- `str(uuid.uuid4())`. -/
abbrev Uuid := { s : String // s ≠ "" }

/-- What one call takes from outside: two identifiers and the time. -/
structure Fresh where
  requestId : Uuid
  responseUuid : Uuid
  now : ℚ

/-- The dictionary that the precipitation service is given. -/
structure ServiceMessage where
  requestId : Value
  messageType : String
  commandWord : String
  data : PrecipitationResponse

/-- `int(v, 2)`. -/
def binaryWord (py : Runtime) : Value → Except Exception ℤ
  | .str s => py.intBase2 s
  | _ => .error .typeError

/-- The object that the handler makes of two data words. -/
def parseDataWords (py : Runtime) (requestId : Value) (now : ℚ) (first second : Value) :
    Except Exception PrecipitationData := do
  let positionWord ← binaryWord py first
  let x : ℚ := bitField positionWord 8 8 / 10
  let y : ℚ := bitField positionWord 0 8 / 10
  let dataWord ← binaryWord py second
  let rate : ℚ := bitField dataWord 7 7 * 2
  let intensity : ℚ := bitField dataWord 1 6 / 63
  if rate > 127 then throw .valueError
  else if intensity < 0 ∨ intensity > 1 then throw .valueError
  else if x > 255 ∨ y > 255 then throw .valueError
  else return {
    position := (x, y)
    type := Dict.getD typeMap (bitField dataWord 14 2) "rain"
    rate := rate
    intensity := intensity
    showValues := decide (bitField dataWord 0 1 ≠ 0)
    requestId := requestId
    timestamp := now }

def precipitationResponse (fresh : Fresh) (requestId : Value) : PrecipitationResponse where
  base := {
    messageHeader := "precipitation_data"
    messageType := "weather_radarPrecipitationResponse"
    sendingSystem := "radar_handler"
    destination := "weather_radar"
    commandName := some "WEATHER_RADAR_PRECIP_DATA" }
  requestUuid := requestId
  responseUuid := fresh.responseUuid
  precipitationData := []

/-- The identifier and the data of a message: a list is the data itself. -/
def requestOf (fresh : Fresh) : Value → Option (Value × Option Value)
  | .list words => some (.str fresh.requestId, some (.list words))
  | .dict message =>
    let requestId := Dict.getD message "request_id" .none
    some (if requestId.truthy then requestId else .str fresh.requestId, Dict.get? message "data")
  | _ => none

/-- The second half of the handler: the response with the object is validated and handed on. -/
def respond (registry : Registry) (fresh : Fresh) (service : Bool) (requestId : Value)
    (object : PrecipitationData) : Option ServiceMessage :=
  let response := { precipitationResponse fresh requestId with precipitationData := [object] }
  match response.validate registry with
  | .error _ => none
  | .ok () =>
    if service then some {
      requestId := requestId
      messageType := "weather_radarPrecipitationResponse"
      commandWord := "weather_radarPrecipitationDataResponse"
      data := response }
    else none

/-- `_handle_precipitation_data`, down to what the service is given.  Whatever is raised on the way
ends the call. -/
def handlePrecipitationData (registry : Registry) (py : Runtime) (fresh : Fresh)
    (service : Bool) (message : Value) : Option ServiceMessage :=
  match requestOf fresh message with
  | some (requestId, some (.list [first, second])) =>
    match parseDataWords py requestId fresh.now first second with
    | .error _ => none
    | .ok object => respond registry fresh service requestId object
  | _ => none

end Fmofp.RadarHandler
