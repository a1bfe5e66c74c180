import Fmofp.Python.Text

/-! `MessageFormatAdapter.normalize_message` for messages that are dictionaries and for messages that are
objects, up to its `except`: an error here is the generic result there. -/

namespace Fmofp.Adapter

open Python

/-- The standard message structure that a normalization starts from. -/
def standardFields (now : ℚ) : Message :=
  [("message_header", .none), ("command_type", .none), ("command_name", .none),
    ("message_type", .none), ("data", .none), ("timestamp", .float now),
    ("message_uuid", .none), ("request_uuid", .none), ("query_uuid", .none),
    ("status_uuid", .none), ("command_uuid", .none), ("sending_system", .none),
    ("destination", .none), ("source", .none), ("source_system", .none), ("rt_address", .none),
    ("sub_address", .none), ("priority", .str "normal"), ("status", .str "pending"),
    ("metadata", .dict [])]

/-- A message that is an object, with its attributes. -/
structure Object where
  className : String
  attributes : Message

/-! ### Steps that both branches have -/

/-- `normalized['metadata'].update(info)` for a field that is a dictionary. -/
def updateMetadata (normalized : Message) (field : Option Value) : Except Exception Message :=
  match field with
  | some (.dict info) =>
    match Dict.get? normalized "metadata" with
    | some (.dict metadata) =>
      .ok (Dict.set normalized "metadata" (.dict (Dict.update metadata info)))
    | _ => .error .attributeError
  | _ => .ok normalized

/-- The metadata fields in turn.  A dictionary under `metadata` is the one that is normalized, and its
update with itself changes nothing. -/
def extractMetadata (normalized fields : Message) : Except Exception Message := do
  let normalized ← updateMetadata normalized (Dict.get? fields "additional_info")
  updateMetadata normalized (Dict.get? fields "info")

/-- The first of some fields that is there is written under `field`. -/
def setFirst (normalized fields : Message) (field : String) (alternates : List String) : Message :=
  match alternates.findSome? (Dict.get? fields) with
  | some v => Dict.set normalized field v
  | none => normalized

/-- The known alternate names of the message type. -/
def typeFields : List String := ["messageType", "type", "msg_type"]

/-! ### Identifiers -/

def uuidFields : List String :=
  ["message_uuid", "request_uuid", "query_uuid", "status_uuid", "command_uuid"]

def uuidFieldAlternates : List (String × List String) :=
  [("message_uuid", ["message_id", "messageid", "msg_uuid", "msg_id"]),
    ("request_uuid", ["request_id", "requestid", "req_uuid", "req_id"]),
    ("query_uuid", ["query_id", "queryid"]),
    ("status_uuid", ["status_id", "statusid"]),
    ("command_uuid", ["command_id", "commandid", "cmd_uuid", "cmd_id"])]

/-- The identifier that a text of a type speaks of. -/
def purposeField (text : String) : Option String :=
  if contains text "request" then some "request_uuid"
  else if contains text "query" then some "query_uuid"
  else if contains text "status" || contains text "response" then some "status_uuid"
  else if contains text "command" || contains text "mode" then some "command_uuid"
  else none

/-- `_determine_message_purpose`, as the field of the identifier. -/
def primaryUuidField (py : Runtime) (normalized : Message) : String :=
  let ofField := fun field =>
    if Message.flag normalized field then
      purposeField (py.lower (py.str (Dict.getD normalized field .none)))
    else none
  ((ofField "message_type").or (ofField "command_type")).getD "request_uuid"

/-- An identifier that is set becomes text. -/
def stringify (py : Runtime) (normalized : Message) (field : String) : Message :=
  match Dict.get? normalized field with
  | none | some .none => normalized
  | some v => Dict.set normalized field (.str (py.str v))

/-- An identifier that is set is written into the metadata. -/
def storeUuid (normalized : Message) (field : String) : Except Exception Message :=
  if Message.flag normalized field then
    match Dict.get? normalized "metadata" with
    | some (.dict metadata) =>
      .ok (Dict.set normalized "metadata"
        (.dict (Dict.set metadata field (Dict.getD normalized field .none))))
    | _ => .error .typeError
  else .ok normalized

/-- The identifiers before they are written into the metadata. -/
def findUuids (py : Runtime) (normalized message : Message) : Message :=
  let normalized :=
    if !Message.flag normalized "request_uuid" && Message.flag normalized "request_id" then
      Dict.set normalized "request_uuid" (Dict.getD normalized "request_id" .none)
    else normalized
  let normalized := uuidFieldAlternates.foldl (fun normalized e =>
    if Message.flag normalized e.1 then normalized else setFirst normalized message e.1 e.2) normalized
  let primary := primaryUuidField py normalized
  let normalized :=
    if !Message.flag normalized "message_uuid" && Message.flag normalized primary then
      Dict.set normalized "message_uuid" (Dict.getD normalized primary .none)
    else normalized
  uuidFields.foldl (stringify py) normalized

/-- `_ensure_uuid_fields`. -/
def ensureUuidFields (py : Runtime) (normalized message : Message) : Except Exception Message :=
  uuidFields.foldlM storeUuid (findUuids py normalized message)

/-! ### Message types -/

/-- The message types of `MESSAGE_TYPE_TO_COMMAND_NAME`, read backwards. -/
def commandToMessageType : List (String × String) :=
  [("WEATHER_RADAR_MODE_CHANGE", "weather_radarModeChangeRequest"),
    ("DISPLAY_PRECIPITATION_DATA", "weather_radarPrecipitationRequest"),
    ("DISPLAY_VIL_DATA", "weather_radarVILRequest"),
    ("DISPLAY_ECHO_TOP_DATA", "weather_radarEchoTopRequest"),
    ("WEATHER_RADAR_PRECIPITATION_DATA", "weather_radarPrecipitationResponse"),
    ("WEATHER_RADAR_VIL_DATA", "weather_radarVILResponse"),
    ("WEATHER_RADAR_ECHO_TOP_DATA", "weather_radarEchoTopResponse")]

/-- The patterns after those of the weather radar commands. -/
def displayPatterns : List (String × String) :=
  [("DISPLAY_SHOW", "display_show_request"), ("DISPLAY_MODE_CHANGE", "display_mode_request"),
    ("DISPLAY_DATA_REQUEST", "display_data_request")]

/-- `_infer_message_type_from_command_name`, for a name that is not empty. -/
def inferFromCommandName (py : Runtime) (commandName : Value) : Value :=
  let registered := match commandName with
    | .str name => commandToMessageType.lookup name
    | _ => none
  match registered with
  | some messageType => .str messageType
  | none =>
    let name := py.upper (py.str commandName)
    match (commandToMessageType ++ displayPatterns).find? fun e => contains name e.1 with
    | some e => .str e.2
    | none =>
      if contains name "REQUEST" then .str (py.lower name ++ "_request")
      else if contains name "RESPONSE" then .str (py.lower name ++ "_response")
      else .none

/-- The words of `_infer_message_type`, and what they stand for. -/
def typeWords : List (List String × String) :=
  [(["vil", "vertically", "liquid"], "vil_data"),
    (["precip", "precipitation", "rain"], "precipitation_data"),
    (["mode", "surveillance", "mapping", "standby"], "mode_change")]

/-- The type for the first word that is among some names. -/
def inferFromNames (py : Runtime) (names : List String) : Option String :=
  (typeWords.find? fun e => names.any fun name => decide (py.lower name ∈ e.1)).map Prod.snd

/-- `_infer_message_type` of an object; the names that every object has are none of the words. -/
def inferFromObject (py : Runtime) (message : Object) : Value :=
  let className := py.lower message.className
  match inferFromNames py (message.attributes.map Prod.fst) with
  | some messageType => .str messageType
  | none =>
    if contains className "vil" then .str "vil_data"
    else if contains className "precip" then .str "precipitation_data"
    else if contains className "mode" then .str "mode_change"
    else .none

/-- The message type of a dictionary, after its identifiers. -/
def findMessageType (py : Runtime) (normalized message : Message) : Message :=
  if Message.flag normalized "message_type" then normalized
  else
    let normalized := setFirst normalized message "message_type" typeFields
    let normalized :=
      if Message.flag normalized "message_type" then normalized
      else setFirst normalized message "message_type" ["message_header"]
    if !Message.flag normalized "message_type" && Message.flag normalized "command_name" then
      Dict.set normalized "message_type"
        (inferFromCommandName py (Dict.getD normalized "command_name" .none))
    else normalized

/-! ### The two branches -/

/-- The normalization of a dictionary. -/
def normalizeDictionary (py : Runtime) (now : ℚ) (message : Message) : Except Exception Message := do
  let normalized ← extractMetadata (Dict.update (standardFields now) message) message
  let normalized :=
    if Dict.has message "data" then normalized else setFirst normalized message "data" ["payload"]
  let normalized ← ensureUuidFields py normalized message
  let normalized := findMessageType py normalized message
  return if Message.flag normalized "message_type" then normalized
    else Dict.set normalized "message_type"
      (((inferFromNames py (message.map Prod.fst)).map Value.str).getD .none)

/-- The caller's dictionary afterwards: its metadata are the ones that were written to. -/
def messageAfter (py : Runtime) (now : ℚ) (message : Message) : Message :=
  match normalizeDictionary py now message, Dict.get? message "metadata" with
  | .ok normalized, some (.dict _) =>
    Dict.set message "metadata" (Dict.getD normalized "metadata" .none)
  | _, _ => message

/-- The normalization of an object. -/
def normalizeObject (py : Runtime) (now : ℚ) (message : Object) : Except Exception Message := do
  let fields := message.attributes
  let normalized ← extractMetadata
    ((standardFields now).map fun e => (e.1, Dict.getD fields e.1 e.2)) fields
  let normalized :=
    if Dict.getD normalized "data" .none = .none then setFirst normalized fields "data" ["payload"]
    else normalized
  match Dict.get? normalized "request_id" with
  | none => .error .keyError
  | some requestId =>
    let normalized :=
      if requestId = .none then
        setFirst normalized fields "request_id" ["requestId", "request_uuid", "id", "uuid"]
      else normalized
    let normalized :=
      if Dict.getD normalized "message_type" .none = .none then
        let normalized := setFirst normalized fields "message_type" typeFields
        if Message.flag normalized "message_type" then normalized
        else setFirst normalized fields "message_type" ["message_header"]
      else normalized
    let normalized :=
      if Message.flag normalized "message_type" then normalized
      else Dict.set normalized "message_type" (.str message.className)
    return if Message.flag normalized "message_type" then normalized
      else Dict.set normalized "message_type" (inferFromObject py message)

end Fmofp.Adapter
