import Fmofp.Extractor.Universal

/-! `BC_MessageExtractor`: the processing of critical fields that the bus controller adds, and what its
`extract_all_fields` restores and mirrors, for messages that are dictionaries. -/

namespace Fmofp.Extractor

open Python

variable (py : Runtime)

/-! ### Mirroring -/

/-- `critical_fields`. -/
def criticalFields : List String :=
  ["message_uuid", "request_uuid", "query_uuid", "status_uuid", "command_uuid", "request_id",
    "command_name", "message_type", "command_type",
    "destination", "source_system", "rt_address", "sub_address"]

/-- A field of the result and its metadata: the result's own goes into the metadata, and one that it
lacks comes from there. -/
def mirrorField (s : Message × Message) (field : String) : Message × Message :=
  match Dict.get? s.1 field with
  | none | some .none =>
    match Dict.get? s.2 field with
    | none | some .none => s
    | some w => (Dict.set s.1 field w, s.2)
  | some v => (s.1, Dict.set s.2 field v)

/-- The legacy `request_id` stands in for a `request_uuid` that is missing. -/
def mirrorRequestId (s : Message × Message) : Message × Message :=
  if Message.flag s.1 "request_id" && !Message.flag s.1 "request_uuid" then
    let requestId := Dict.getD s.1 "request_id" .none
    (Dict.set s.1 "request_uuid" requestId, Dict.set s.2 "request_uuid" requestId)
  else s

/-- `_ensure_uuid_fields_in_metadata`. -/
def ensureUuidFieldsInMetadata (result : Message) : Except Exception Message :=
  (metadataOf result).map fun metadata =>
    let s := mirrorRequestId (criticalFields.foldl mirrorField (result, metadata))
    Dict.set s.1 "metadata" (.dict s.2)

/-! ### Status words -/

/-- `radar_map`, by the form in which a dictionary finds its keys. -/
def radarMap : Dict Value String :=
  [(.float 1, "weather_radar"), (.float 2, "tfr_radar"), (.float 3, "sar_radar"),
    (.float 4, "targeting_radar"), (.float 5, "aewc_radar")]

/-- `radar_map.get(subaddress)`, which a value that is not hashable does not survive. -/
def radarOfSubaddress (subaddress : Value) : Except Exception (Option String) :=
  match subaddress.key? with
  | some key => .ok (Dict.get? radarMap key)
  | none => .error .typeError

/-- The radar that the addresses speak of: only terminal 9 has radars, told apart by a subaddress that is
set. -/
def radarOfAddresses (result : Message) : Except Exception (Option String) :=
  if (Dict.getD result "rt_address" .none).equal (.int 9) && Message.flag result "sub_address" then
    radarOfSubaddress (Dict.getD result "sub_address" .none)
  else .ok none

/-- Binary data that are text and start as a status word does. -/
def startsAsStatusWord (binaryData : Option Value) : Bool :=
  match binaryData with
  | some (.str binary) => startsWith binary "100"
  | _ => false

def isStatusWord (result : Message) : Bool :=
  Message.flag result "status_word" || decide (Dict.get? result "message_type" = some (.str "status_word")) ||
    startsAsStatusWord (Dict.get? result "binary_data")

/-- The address in a binary status word, where the result has none. -/
def addressFromBinary (result : Message) : Except Exception Message :=
  match Dict.get? result "binary_data" with
  | some (.str binary) =>
    if !Dict.has result "rt_address" && decide (8 ≤ binary.length) then
      (py.intBase2 (slice binary 3 8)).map fun address => Dict.set result "rt_address" (.int address)
    else .ok result
  | _ => .ok result

/-- A field that is not set is taken from a dictionary that has it. -/
def restoreField (source result : Message) (field : String) : Message :=
  if !Message.flag result field && Dict.has source field then
    Dict.set result field (Dict.getD source field .none)
  else result

/-- The command name and the request of a status word, from the original message and its metadata.  Fields
that are set stay, so that the test for both of them changes nothing. -/
def restoreFromOriginal (result : Message) : Message :=
  match Dict.get? result "original_message" with
  | some (.dict original) =>
    let result := restoreField original (restoreField original result "command_name") "request_id"
    match Dict.get? original "metadata" with
    | some (.dict metadata) => restoreField metadata (restoreField metadata result "command_name") "request_id"
    | _ => result
  | _ => result

def markStatusWord (result : Message) : Message :=
  Dict.set (Dict.set result "message_type" (.str "status_word")) "is_status_word" (.bool true)

def setRadar (found : Option String) (result : Message) : Message :=
  match found with
  | some radarType => Dict.set result "radar_type" (.str radarType)
  | none => result

/-- The branch for status words. -/
def processStatusWord (result : Message) : Except Exception Message :=
  if isStatusWord result then do
    let result ← addressFromBinary py (markStatusWord result)
    let found ← radarOfAddresses result
    .ok (restoreFromOriginal (setRadar found result))
  else .ok result

/-! ### Precipitation and VIL -/

/-- A word in one of the types or in the command name. -/
def mentions (typeWord commandWord nameWord : String) (result : Message) : Except Exception Bool :=
  if contains (py.lower (py.str (Dict.getD result "message_type" (.str "")))) typeWord ||
      contains (py.lower (py.str (Dict.getD result "command_type" (.str "")))) commandWord then .ok true
  else if Message.flag result "command_name" then
    (Dict.getD result "command_name" .none).holds nameWord
  else .ok false

/-- Notes with the command name, for metadata that are a dictionary. -/
def noteInMetadata (notes : Value → Message) (result : Message) : Except Exception Message :=
  match Dict.get? result "metadata" with
  | some (.dict metadata) =>
    match Dict.get? result "command_name" with
    | some name => .ok (Dict.set result "metadata" (.dict (Dict.update metadata (notes name))))
    | none => .error .keyError
  | _ => .ok result

/-- What marks the messages of a kind of radar data, and what they are given. -/
structure Topic where
  typeWord : String
  commandWord : String
  nameWord : String
  messageType : String
  commandName : String
  flagField : String
  dataType : String

def precipitation : Topic where
  typeWord := "precipitation"
  commandWord := "precip"
  nameWord := "PRECIPITATION"
  messageType := "precipitation_data"
  commandName := "WEATHER_RADAR_PRECIPITATION_DATA"
  flagField := "is_precipitation_data"
  dataType := "precipitation"

def vil : Topic where
  typeWord := "vil"
  commandWord := "vil"
  nameWord := "VIL"
  messageType := "vil_data"
  commandName := "WEATHER_RADAR_VIL_DATA"
  flagField := "is_vil_data"
  dataType := "vil"

/-- The standard fields of a topic. -/
def Topic.standardize (topic : Topic) (result : Message) : Message :=
  let result := Dict.set result "message_type" (.str topic.messageType)
  let result := Dict.set result "command_type" (.str topic.messageType)
  let result :=
    if Message.flag result "command_name" then result
    else Dict.set result "command_name" (.str topic.commandName)
  Dict.set result topic.flagField (.bool true)

/-- The special case of a topic. -/
def Topic.process (topic : Topic) (result : Message) : Except Exception Message := do
  if ← mentions py topic.typeWord topic.commandWord topic.nameWord result then
    noteInMetadata (fun name => [(topic.messageType, .bool true), ("data_type", .str topic.dataType),
      ("command_name", name)]) (topic.standardize result)
  else .ok result

/-! ### Mode changes -/

/-- `is_completion`: a name that is not set stands for itself. -/
def isCompletion (originalMessageType : String) (result : Message) : Except Exception Value :=
  if contains originalMessageType "completion" || contains originalMessageType "complete" then
    .ok (.bool true)
  else if Message.flag result "command_name" then
    ((Dict.getD result "command_name" .none).holds "COMPLETION").map .bool
  else .ok (Dict.getD result "command_name" .none)

/-- `v + suffix` for a suffix that is text. -/
def appendText (v : Value) (suffix : String) : Except Exception Value :=
  match v with
  | .str s => .ok (.str (s ++ suffix))
  | _ => .error .typeError

/-- The message type of a completion. -/
def completionType (originalMessageType : String) (result : Message) : Except Exception Value :=
  if contains originalMessageType "weather_radar" && contains originalMessageType "mode" then
    if Message.flag result "message_type" then
      let messageType := Dict.getD result "message_type" .none
      (lower py messageType).bind fun text =>
        if contains text "completion" then .ok messageType else appendText messageType "Completion"
    else .ok (.str "weather_radarModeChangeCompletion")
  else .ok (.str "mode_change_completion")

/-- The command name of a completion. -/
def completionName (result : Message) : Except Exception Value :=
  let name := Dict.getD result "command_name" .none
  if Message.flag result "command_name" then
    (name.holds "COMPLETION").bind fun found =>
      if found then .ok name else appendText name "_COMPLETION"
  else .ok (.str "WEATHER_RADAR_MODE_CHANGE_COMPLETION")

def completeModeChange (originalMessageType : String) (result : Message) : Except Exception Message := do
  let messageType ← completionType py originalMessageType result
  let result := Dict.set result "message_type" messageType
  let result := Dict.set result "command_type" (.str "mode_change_completion")
  let name ← completionName result
  .ok (Dict.set result "command_name" name)

/-- `radar_prefix_map`. -/
def radarNames : Dict String String :=
  [("weather_radar", "WEATHER_RADAR"), ("tfr_radar", "TFR_RADAR"), ("sar_radar", "SAR_RADAR"),
    ("targeting_radar", "TARGETING_RADAR"), ("aewc_radar", "AEWC_RADAR")]

/-- `command_suffix_map`. -/
def commandSuffixes : Dict String String :=
  [("mode_change", "MODE_CHANGE"), ("precipitation_data", "PRECIPITATION_DATA"),
    ("vil_data", "VIL_DATA"), ("status", "STATUS"), ("search", "SEARCH"), ("track", "TRACK")]

/-- `get_radar_command_name`. -/
def getRadarCommandName (radarType : Value) (commandType : String) (completion : Bool) :
    Except Exception Value :=
  if radarType = .none then .ok .none
  else (lower py radarType).map fun radar =>
    let command := if commandType = "" then "command" else py.lower commandType
    match Dict.get? radarNames radar with
    | none => .none
    | some name =>
      let full := name ++ "_" ++ Dict.getD commandSuffixes command (py.upper command)
      if completion && !("_COMPLETION".toList.isSuffixOf full.toList) then .str (full ++ "_COMPLETION")
      else .str full

/-- The radar whose mode changes: the one that is given, or else the one of the addresses. -/
def radarOfModeChange (result : Message) : Except Exception Value :=
  if Message.flag result "radar_type" then .ok (Dict.getD result "radar_type" .none)
  else (radarOfAddresses result).map fun found =>
    (found.map Value.str).getD (Dict.getD result "radar_type" .none)

def requestModeChange (originalMessageType : String) (result : Message) : Except Exception Message := do
  let result := Dict.set result "message_type" (.str
    (if contains originalMessageType "weather_radar" then "weather_radarModeChange" else "mode_change"))
  let result := Dict.set result "command_type" (.str "mode_change")
  if Message.flag result "command_name" then .ok result
  else
    let radarType ← radarOfModeChange result
    if radarType.truthy then
      let name ← getRadarCommandName py radarType "mode_change" false
      .ok (Dict.set result "command_name" name)
    else .ok result

/-- The standard fields of a mode change of either kind. -/
def changeMode (originalMessageType : String) (completion : Value) (result : Message) :
    Except Exception Message :=
  if completion.truthy then completeModeChange py originalMessageType result
  else requestModeChange py originalMessageType result

/-- The flags and the note of a mode change. -/
def markModeChange (completion : Value) (result : Message) : Except Exception Message :=
  let result := Dict.set result "is_mode_change" (.bool true)
  let result := if completion.truthy then Dict.set result "is_completion" (.bool true) else result
  noteInMetadata (fun name => [("mode_change", .bool true), ("data_type", .str "mode"),
    ("command_name", name), ("is_completion", completion)]) result

/-- The special case of mode changes. -/
def processModeChange (result : Message) : Except Exception Message := do
  if ← mentions py "mode" "mode" "MODE" result then
    let originalMessageType := py.lower (py.str (Dict.getD result "message_type" (.str "")))
    let completion ← isCompletion originalMessageType result
    let result ← changeMode py originalMessageType completion result
    markModeChange completion result
  else .ok result

/-! ### Extraction -/

/-- The special cases, after the status words. -/
def processTopics (result : Message) : Except Exception Message := do
  let result ← precipitation.process py result
  let result ← vil.process py result
  processModeChange py result

/-- `BC_MessageExtractor._process_critical_fields`. -/
def processBusFields (result : Message) : Except Exception Message := do
  let result ← processCriticalFields py result
  let result ← ensureUuidFieldsInMetadata result
  let result ← processStatusWord py result
  processTopics py result

/-- The fields that the message keeps whatever the processing made of them. -/
def identityFields : List String := ["command_name", "request_id", "message_type", "command_type"]

/-- A field that the message has, and is not `None`, is the message's own. -/
def keepOwn (message result : Message) (field : String) : Message :=
  match Dict.get? message field with
  | none | some .none => result
  | some v => Dict.set result field v

/-- What a message with a `status_word` keeps. -/
def keepStatusWord (message result : Message) : Message :=
  let result := ["command_name", "request_id"].foldl (fun result field =>
    match Dict.get? message field with
    | some v => Dict.set result field v
    | none => result) result
  let result := match Dict.get? message "metadata" with
    | some (.dict metadata) => ["command_name", "request_id"].foldl (fun result field =>
      if !Message.flag result field && Message.flag metadata field then
        Dict.set result field (Dict.getD metadata field .none)
      else result) result
    | _ => result
  Dict.set (Dict.set result "is_status_word" (.bool true)) "message_type" (.str "status_word")

/-- `BC_MessageExtractor.extract_all_fields`. -/
def extractBusMessage (now : ℚ) (message : Message) : Except Exception Message := do
  let result ← extractWith py (processBusFields py) now message
  let result := Dict.set result "original_message" (.dict message)
  if Dict.has message "status_word" then
    ensureUuidFieldsInMetadata (keepStatusWord message result)
  else
    ensureUuidFieldsInMetadata (identityFields.foldl (keepOwn message) result)

end Fmofp.Extractor
