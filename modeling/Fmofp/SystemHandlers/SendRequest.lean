import Fmofp.Python.Quantum
import Fmofp.Python.Text

/-! `send_request` of the message handlers of the flight control system, the flight management system
and the radars, with what it does to the table of pending requests.  How packing, the creation of a
request and the transmission end is given by functions that may return nothing or raise. -/

namespace Fmofp.SystemHandlers

open Python

abbrev RequestId := String

/-- What `uuid4` draws: no identifier of a pending request. -/
structure FreshId {ε : Type} (pending : Dict RequestId ε) where
  id : RequestId
  fresh : Dict.get? pending id = none

/-- The requests that responses and cleaning passes leave in the table, before and after the entry is
stored. -/
structure Others where
  keepBefore : RequestId → Bool
  keepAfter : RequestId → Bool

def kept {ε : Type} (keep : RequestId → Bool) (pending : Dict RequestId ε) : Dict RequestId ε :=
  pending.filter fun e => keep e.1

/-- The objects that a payload can be. -/
structure Objects (δ : Type) where
  truthy : δ → Bool
  upper : δ → Except Exception String
  toDataWords : δ → Option (Except Exception (List String))

inductive Payload (δ : Type)
  | plain (v : Value)
  | object (o : δ)

namespace Payload

variable {δ : Type}

/-- `isinstance(data, dict)`, with the dictionary. -/
def dict? : Payload δ → Option Message
  | .plain v => v.dict?
  | .object _ => none

def truthy (objects : Objects δ) : Payload δ → Bool
  | .plain v => v.truthy
  | .object o => objects.truthy o

/-- `data.upper()`. -/
def upper (objects : Objects δ) (py : Runtime) : Payload δ → Except Exception String
  | .plain (.str s) => .ok (py.upper s)
  | .plain _ => .error .attributeError
  | .object o => objects.upper o

/-- `data.to_data_words()`, where the data has the method. -/
def toDataWords (objects : Objects δ) : Payload δ → Option (Except Exception (List String))
  | .plain _ => none
  | .object o => objects.toDataWords o

end Payload

/-- What is given to `sendMsg.send_message` beside the identifier. -/
structure Outgoing where
  commandWord : String
  dataWords : List String
  metadata : Message

/-- The branch of a request type: its command word, or none that is registered; the data words, or none
where the data is refused; and the type of the message. -/
structure Branch where
  commandWord : Except Exception (Option String)
  dataWords : Except Exception (Option (List String))
  messageType : String

/-- The message that is sent for a request type, which need not be known. -/
def prepared (branch : Option Branch)
    (finish : String → List String → String → Except Exception (Option Outgoing)) :
    Except Exception (Option Outgoing) :=
  match branch with
  | none => .ok none
  | some b =>
    match b.commandWord with
    | .error e => .error e
    | .ok none => .ok none
    | .ok (some commandWord) =>
      match b.dataWords with
      | .error e => .error e
      | .ok none => .ok none
      | .ok (some dataWords) => finish commandWord dataWords b.messageType

/-- How `sendMsg.send_message` ends. -/
abbrev Transmission := RequestId → Outgoing → Except Exception (Option Value)

section Table

variable {ε : Type} (pending : Dict RequestId ε) (others : Others) (id : RequestId) (entry : ε)
  (outgoing : Except Exception (Option Outgoing)) (transmit : Transmission)

/-- The entry is stored first; a failed transmission and an exception take it out again. -/
def storeFirst : Option RequestId × Dict RequestId ε :=
  let stored := kept others.keepAfter (Dict.set (kept others.keepBefore pending) id entry)
  match outgoing with
  | .error _ => (none, Dict.erase stored id)
  | .ok none => (none, stored)
  | .ok (some message) =>
    match transmit id message with
    | .ok (some _) => (some id, stored)
    | .ok none | .error _ => (none, Dict.erase stored id)

/-- The entry is stored in front of the transmission; only a failed one takes it out again. -/
def storeLast : Option RequestId × Dict RequestId ε :=
  match outgoing with
  | .error _ | .ok none => (none, kept others.keepAfter (kept others.keepBefore pending))
  | .ok (some message) =>
    let stored := kept others.keepAfter (Dict.set (kept others.keepBefore pending) id entry)
    match transmit id message with
    | .ok (some _) => (some id, stored)
    | .ok none => (none, Dict.erase stored id)
    | .error _ => (none, stored)

end Table

/-- `metadata` with the identifier and the time; it may be left out. -/
def tracedMetadata (metadata : Option Message) (id : RequestId) (now : ℚ) : Message :=
  Dict.set (Dict.set (metadata.getD []) "request_id" (.str id)) "timestamp" (.float now)

/-- `PendingRequest` of the flight systems; it is not completed. -/
structure FlightRequest (δ : Type) where
  requestId : RequestId
  commandType : String
  timestamp : ℚ
  timeout : ℚ
  systemName : String
  data : Payload δ
  retryCount : ℤ

/-- The arguments of `send_request`, and the time. -/
structure Request (δ : Type) where
  systemName : String
  requestType : String
  data : Payload δ
  metadata : Option Message
  inheritedRetries : ℤ
  now : ℚ

namespace Request

variable {δ : Type} (r : Request δ)

def entry (id : RequestId) : FlightRequest δ where
  requestId := id
  commandType := r.requestType
  timestamp := r.now
  timeout := 5
  systemName := r.systemName
  data := r.data
  retryCount := r.inheritedRetries

end Request

/-! ### The flight control system -/

/-- `fcsCommandWord` is `get_fcs_command_word`, with the value of the word. -/
structure FCSMessageHandler (δ : Type) where
  fcsCommandWord : String → Option ℤ
  packModeData : Payload δ → Except Exception (List String)
  packControlInputData : Payload δ → Except Exception (List String)

namespace FCSMessageHandler

variable {δ : Type} (h : FCSMessageHandler δ) (py : Runtime)

def commandWord (name : String) : Except Exception (Option String) :=
  .ok ((h.fcsCommandWord name).map (formatBin 16))

def branch (requestType : String) (data : Payload δ) : Option Branch :=
  if requestType = "mode_change" then
    some ⟨h.commandWord "FCS_MODE_CHANGE_REQUEST", (h.packModeData data).map some,
      "flight_control_systemCommand"⟩
  else if requestType = "status" then
    some ⟨h.commandWord "FCS_STATUS_REQUEST", .ok (some []), "flight_control_systemStatusRequest"⟩
  else if requestType = "control_input" then
    some ⟨h.commandWord "FCS_CONTROL_INPUT_REQUEST", (h.packControlInputData data).map some,
      "flight_control_systemControlInputRequest"⟩
  else if requestType = "orientation_data" then
    some ⟨h.commandWord "FCS_ORIENTATION_DATA_REQUEST", .ok (some []),
      "flight_control_systemOrientationDataRequest"⟩
  else none

def messageMetadata (r : Request δ) (id : RequestId) (messageType : String) : Message :=
  Dict.update
    [("message_header", .str r.requestType), ("command_name", .str ("FCS_" ++ py.upper r.requestType)),
      ("command_type", .str r.requestType), ("message_type", .str messageType),
      ("sending_system", .str "FCSMessageHandler"), ("destination", .str r.systemName),
      ("request_id", .str id)]
    (tracedMetadata r.metadata id r.now)

def outgoing (r : Request δ) (id : RequestId) : Except Exception (Option Outgoing) :=
  prepared (h.branch r.requestType r.data) fun commandWord dataWords messageType =>
    .ok (some ⟨commandWord, dataWords, messageMetadata py r id messageType⟩)

/-- `send_request`. -/
def sendRequest (r : Request δ) (transmit : Transmission) (others : Others)
    (pending : Dict RequestId (FlightRequest δ)) (fresh : FreshId pending) :
    Option RequestId × Dict RequestId (FlightRequest δ) :=
  storeFirst pending others fresh.id (r.entry fresh.id) (h.outgoing py r fresh.id) transmit

end FCSMessageHandler

/-! ### The flight management system -/

structure FMSMessageHandler (δ : Type) where
  modeRequestMap : Dict String String
  statusRequestMap : Dict String String
  fmsCommandWords : Dict String ℤ
  fcsCommandWord : String → Option ℤ
  packData : Payload δ → Except Exception (List String)
  packControlInputData : Payload δ → Except Exception (List String)
  /-- `_create_request`, of the system, the type, the data, the command word and the message type. -/
  createRequest : String → String → Payload δ → String → String → Except Exception (Option Message)

def maneuverMap : Dict String ℤ :=
  [("TAKEOFF", 1), ("LANDING", 2), ("CLIMB", 3), ("DESCENT", 4), ("TURN", 5)]

/-- Three numbers of the data, as words. -/
def packFields (py : Runtime) (fields : List String) (data : Message) :
    Except Exception (List String) :=
  fields.mapM fun field => (toInt py (Dict.getD data field (.int 0))).map (formatBin 16)

/-- The maneuver that the data asks for. -/
def maneuverType {δ : Type} (data : Payload δ) : Payload δ :=
  match data.dict? with
  | some fields => .plain (Dict.getD fields "maneuver_type" .none)
  | none => data

namespace FMSMessageHandler

variable {δ : Type} (h : FMSMessageHandler δ) (objects : Objects δ) (py : Runtime)

/-- The command word of the system, where there is one that is not empty. -/
def registered (words : Dict String String) (systemName : String) : Except Exception (Option String) :=
  .ok ((Dict.get? words systemName).filter (· ≠ ""))

/-- `format(FMS_COMMAND_WORDS[name], '016b')`. -/
def commandWord (name : String) : Except Exception (Option String) :=
  match Dict.get? h.fmsCommandWords name with
  | some n => .ok (some (formatBin 16 n))
  | none => .error .keyError

/-- The fields of a dictionary; other data is refused. -/
def fieldWords (fields : List String) (data : Payload δ) : Except Exception (Option (List String)) :=
  match data.dict? with
  | some d => (packFields py fields d).map some
  | none => .ok none

def maneuverWords (data : Payload δ) : Except Exception (Option (List String)) :=
  if (maneuverType data).truthy objects then
    ((maneuverType data).upper objects py).map fun name =>
      some [formatBin 16 (Dict.getD maneuverMap name 0)]
  else .ok none

def branch (r : Request δ) : Option Branch :=
  if r.requestType = "mode_change" then
    some ⟨registered h.modeRequestMap r.systemName, (h.packData r.data).map some,
      r.systemName ++ "Command"⟩
  else if r.requestType = "status" then
    some ⟨registered h.statusRequestMap r.systemName, .ok (some []), r.systemName ++ "Status"⟩
  else if r.requestType = "attitude_update" then
    some ⟨h.commandWord "FMS_UPDATE_ATTITUDE", fieldWords py ["roll", "pitch", "yaw"] r.data,
      r.systemName ++ "Data"⟩
  else if r.requestType = "navigation_update" then
    some ⟨h.commandWord "FMS_UPDATE_NAVIGATION", fieldWords py ["altitude", "heading", "speed"] r.data,
      r.systemName ++ "Data"⟩
  else if r.requestType = "execute_maneuver" then
    some ⟨h.commandWord "FMS_EXECUTE_MANEUVER", maneuverWords objects py r.data, r.systemName ++ "Data"⟩
  else if r.requestType = "control_input" then
    some ⟨.ok ((h.fcsCommandWord "FCS_CONTROL_INPUT_REQUEST").map (formatBin 16)),
      (h.packControlInputData r.data).map some, "flight_control_systemControlInputRequest"⟩
  else none

def messageMetadata (r : Request δ) (id : RequestId) (request : Message) (messageType : String) :
    Message :=
  Dict.update
    [("message_header", Dict.getD request "message_header" .none),
      ("command_name", Dict.getD request "command_name" .none), ("command_type", .str r.requestType),
      ("message_type", .str messageType), ("sending_system", .str "FMSMessageHandler"),
      ("destination", .str r.systemName), ("command", Dict.getD request "command" .none),
      ("request_id", .str id)]
    (tracedMetadata r.metadata id r.now)

/-- A request that is not created, or is empty, is not sent. -/
def finish (r : Request δ) (id : RequestId) (commandWord : String) (dataWords : List String)
    (messageType : String) : Except Exception (Option Outgoing) :=
  (h.createRequest r.systemName r.requestType r.data commandWord messageType).map fun created =>
    (created.filter (· ≠ [])).map fun request =>
      ⟨commandWord, dataWords, messageMetadata r id request messageType⟩

def outgoing (r : Request δ) (id : RequestId) : Except Exception (Option Outgoing) :=
  prepared (h.branch objects py r) (h.finish r id)

/-- `send_request`. -/
def sendRequest (r : Request δ) (transmit : Transmission) (others : Others)
    (pending : Dict RequestId (FlightRequest δ)) (fresh : FreshId pending) :
    Option RequestId × Dict RequestId (FlightRequest δ) :=
  storeFirst pending others fresh.id (r.entry fresh.id) (h.outgoing objects py r fresh.id) transmit

end FMSMessageHandler

/-! ### The radars -/

/-- `PendingRequest` of the radars. -/
structure RadarRequest (δ : Type) where
  requestType : String
  radarName : String
  timestamp : ℚ
  data : Payload δ
  retries : ℕ
  timeout : ℚ

structure RadarMessageHandler (δ : Type) where
  statusRequestMap : Dict String String
  modeRequestMap : Dict String String
  dataRequestMap : Dict String String
  weatherDataRequestMap : Dict String String
  /-- `_snake`. -/
  snake : String → String
  packData : String → Payload δ → Except Exception (List String)
  /-- `_extract_data_type`: the type of the data and of the message. -/
  extractDataType : Payload δ → Except Exception (String × Option String)
  hash : Value → Except Exception ℤ
  /-- `_create_request`, of the radar, the type, the data, the command word and the message type. -/
  createRequest : String → String → Payload δ → String → String → Except Exception (Option Message)

/-- The arguments of `send_request`, and the time. -/
structure RadarCall (δ : Type) where
  radarName : String
  requestType : String
  data : Payload δ
  now : ℚ

/-- A mode is asked for by two names. -/
def requestTypeOf (requestType : String) : String :=
  if requestType = "mode" then "mode_change" else requestType

namespace RadarMessageHandler

variable {δ : Type} (h : RadarMessageHandler δ) (objects : Objects δ) (py : Runtime)

/-- `target.replace('_', '')`. -/
def withoutUnderscores (s : String) : String := String.ofList (s.toList.filter (· ≠ '_'))

/-- `resolve_command_word`, without the key that matched. -/
def resolveCommandWord (words : Dict String String) (target : String) : Option String :=
  [target, h.snake target, py.lower target, py.lower (withoutUnderscores target)].firstM
    (Dict.get? words)

/-- `int(value) & 0xFFFF`, as a word. -/
def lowWord (n : ℤ) : String := formatBin 16 (word n)

/-- The words of data that has no words of its own. -/
def defaultWords (data : Payload δ) : Except Exception (List String) :=
  match data.dict? with
  | some fields => do
    let code ← h.hash (Dict.getD fields "request_type" (.str ""))
    return lowWord code :: fields.filterMap fun e =>
      if e.1 = "request_type" then none else e.2.number?.map fun q => lowWord (truncate q)
  | none => .ok [formatBin 16 0]

/-- `DATA_REQUEST_MAP[name]`. -/
def dataWord (name : String) : Except Exception String :=
  match Dict.get? h.dataRequestMap name with
  | some w => .ok w
  | none => .error .keyError

def dataBranch (c : RadarCall δ) : Branch :=
  let dataWords := ((c.data.toDataWords objects).getD (h.defaultWords c.data)).map some
  if c.radarName = "weather_radar" then
    match h.extractDataType c.data with
    | .error e => ⟨.error e, dataWords, ""⟩
    | .ok (dataType, some messageType) =>
      if messageType = "" then ⟨.ok none, dataWords, ""⟩
      else
        ⟨(h.dataWord c.radarName).map fun w => some (Dict.getD h.weatherDataRequestMap dataType w),
          dataWords, messageType⟩
    | .ok (_, none) => ⟨.ok none, dataWords, ""⟩
  else if c.radarName ∈ ["tfr_radar", "sar_radar", "targeting_radar", "aewc_radar"] then
    ⟨(h.dataWord c.radarName).map some, dataWords, c.radarName ++ "Data"⟩
  else
    ⟨.ok (h.resolveCommandWord py h.dataRequestMap c.radarName), dataWords, c.radarName ++ "Data"⟩

def branch (c : RadarCall δ) : Option Branch :=
  if c.requestType = "status" then
    some ⟨.ok (h.resolveCommandWord py h.statusRequestMap c.radarName), .ok (some []),
      c.radarName ++ "Status"⟩
  else if c.requestType = "mode_change" ∨ c.requestType = "mode" then
    some ⟨.ok (h.resolveCommandWord py h.modeRequestMap c.radarName),
      ((c.data.toDataWords objects).getD (h.packData c.radarName c.data)).map some,
      c.radarName ++ "Command"⟩
  else if c.requestType = "data" then some (h.dataBranch objects py c)
  else none

/-- The metadata, without the values that are missing. -/
def messageMetadata (c : RadarCall δ) (id : RequestId) (request : Message) (messageType : String) :
    Message :=
  [("message_header", Dict.getD request "message_header" .none),
    ("command_name", Dict.getD request "command_name" .none),
    ("command_type", .str (requestTypeOf c.requestType)), ("message_type", .str messageType),
    ("sending_system", Dict.getD request "sending_system" .none),
    ("destination", Dict.getD request "destination" .none),
    ("command", Dict.getD request "command" .none), ("request_id", .str id)].filter
      fun e => e.2 ≠ .none

def finish (c : RadarCall δ) (id : RequestId) (commandWord : String) (dataWords : List String)
    (messageType : String) : Except Exception (Option Outgoing) :=
  (h.createRequest c.radarName (requestTypeOf c.requestType) c.data commandWord messageType).map
    fun created => (created.filter (· ≠ [])).map fun request =>
      ⟨commandWord, dataWords, messageMetadata c id request messageType⟩

def outgoing (c : RadarCall δ) (id : RequestId) : Except Exception (Option Outgoing) :=
  prepared (h.branch objects py c) (h.finish c id)

def entry (c : RadarCall δ) : RadarRequest δ where
  requestType := requestTypeOf c.requestType
  radarName := c.radarName
  timestamp := c.now
  data := c.data
  retries := 0
  timeout := if requestTypeOf c.requestType = "mode_change" then 10 else 5

/-- `send_request`; a handler that cannot send gives no slot. -/
def sendRequest (c : RadarCall δ) (slot : Bool) (transmit : Transmission) (others : Others)
    (pending : Dict RequestId (RadarRequest δ)) (fresh : FreshId pending) :
    Option RequestId × Dict RequestId (RadarRequest δ) :=
  if slot then
    storeLast pending others fresh.id (entry c) (h.outgoing objects py c fresh.id) transmit
  else (none, kept others.keepAfter (kept others.keepBefore pending))

end RadarMessageHandler

end Fmofp.SystemHandlers
