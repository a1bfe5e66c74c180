import Fmofp.Adapter.MessageFormat
import Fmofp.Python.Value

/-! `UniversalMessageExtractor.extract_all_fields` for messages that are dictionaries, in the default
configuration: conflicts raise, the original message is kept, five levels of nesting are flattened. -/

namespace Fmofp.Extractor

open Python

variable (py : Runtime)

/-- `GUARANTEED_FIELDS`. -/
def guaranteedFields : Message :=
  [("message_type", .none), ("command_type", .none), ("command_name", .none),
    ("message_uuid", .none), ("request_uuid", .none), ("query_uuid", .none),
    ("status_uuid", .none), ("command_uuid", .none),
    ("rt_address", .none), ("sub_address", .none), ("source_system", .none), ("source", .none),
    ("destination", .none),
    ("sending_system_uuid", .none), ("destination_uuid", .none), ("source_uuid", .none),
    ("data", .none), ("timestamp", .none), ("metadata", .dict [])]

/-! ### Conflicts -/

/-- `_resolve_field_conflict` under `raise_error`: the error is the text of the `ValueError`. -/
def resolveFieldConflict (fieldName : String) (value1 value2 : Value) : Except String Value :=
  let conflict := "Field conflict for '" ++ fieldName ++ "': '" ++ py.str value1 ++ "' vs '" ++
    py.str value2 ++ "'"
  if value1.equal value2 then .ok value1
  else if fieldName = "timestamp" then
    match value1.number?, value2.number? with
    | some p, some q => .ok (if q < p then value2 else value1)
    | _, _ =>
      if value1 = .none then .ok value2
      else if value2 = .none then .ok value1
      else .error conflict
  else .error conflict

/-- A flattened field meets the fields found before it. -/
def flattenField (result : Message) (e : String × Value) : Except String Message :=
  match Dict.get? result e.1 with
  | none | some .none => .ok (Dict.set result e.1 e.2)
  | some v => (resolveFieldConflict py e.1 v e.2).map (Dict.set result e.1)

/-- `key in ('metadata', 'additional_info')`. -/
def isFlattened (key : String) : Bool := key = "metadata" || key = "additional_info"

/-- One entry of a dictionary, whose nested dictionaries `nested` extracts. -/
def extractEntry (nested : Message → Except String Message) (result : Message) (e : String × Value) :
    Except String Message :=
  match e.2 with
  | .dict d => do
    let fields ← nested d
    if isFlattened e.1 then fields.foldlM (flattenField py) result
    else .ok (Dict.set result e.1 (.dict fields))
  | v => .ok (Dict.set result e.1 v)

/-- `_extract_from_dict` with some levels of nesting left to flatten. -/
def extractFromDict : ℕ → Message → Except String Message
  | 0, messageDict => .ok [("data", .dict messageDict)]
  | levels + 1, messageDict => messageDict.foldlM (extractEntry py (extractFromDict levels)) []

def maxNestingLevel : ℕ := 5

/-- What `_merge_fields` does with one field of the source. -/
def mergeField (result : Message) (e : String × Value) : Message :=
  match Dict.get? result e.1 with
  | none | some .none => Dict.set result e.1 e.2
  | some v =>
    if v.equal e.2 then result
    else match resolveFieldConflict py e.1 v e.2 with
      | .ok w => Dict.set result e.1 w
      | .error _ => result

/-- `_merge_fields`. -/
def mergeFields (target source : Message) : Message := source.foldl (mergeField py) target

/-! ### Critical fields -/

/-- `v.lower()`. -/
def lower (v : Value) : Except Exception String :=
  match v with
  | .str s => .ok (py.lower s)
  | _ => .error .attributeError

/-- The values of `MessageDefinitions.CommandNames`. -/
def standardCommandNames : List String :=
  ["WEATHER_RADAR_MODE_CHANGE", "DISPLAY_PRECIPITATION_DATA", "DISPLAY_VIL_DATA", "DISPLAY_ECHO_TOP_DATA",
    "WEATHER_RADAR_PRECIPITATION_DATA", "WEATHER_RADAR_VIL_DATA", "WEATHER_RADAR_ECHO_TOP_DATA"]

/-- A command name in upper case, or the first standard name in it. -/
def standardName (commandName : Value) : Value :=
  if commandName.truthy then
    let name := py.upper (py.str commandName)
    .str ((standardCommandNames.find? (contains name)).getD name)
  else commandName

def standardizeCommandName (result : Message) : Message :=
  if Message.flag result "command_name" then
    Dict.set result "command_name" (standardName py (Dict.getD result "command_name" .none))
  else result

/-- The purpose that the text of a type speaks of. -/
def purposeOf (text : String) : Option String :=
  if contains text "request" then some "request"
  else if contains text "query" then some "query"
  else if contains text "status" || contains text "response" then some "status"
  else if contains text "command" || contains text "mode_change" then some "command"
  else none

/-- The purpose that a field speaks of, if it is set. -/
def purposeOfField (result : Message) (field : String) : Except Exception (Option String) :=
  if Message.flag result field then (lower py (Dict.getD result field .none)).map purposeOf
  else .ok none

/-- `_determine_message_purpose`. -/
def determineMessagePurpose (result : Message) : Except Exception String := do
  match ← purposeOfField py result "message_type" with
  | some purpose => .ok purpose
  | none => return (← purposeOfField py result "command_type").getD "request"

/-- The first of some fields that is set stands in for a field that is not. -/
def fillFrom (field : String) (sources : List String) (result : Message) : Message :=
  if Message.flag result field then result
  else match sources.find? (Message.flag result) with
    | some source => Dict.set result field (Dict.getD result source .none)
    | none => result

def ensureRequestUuid (result : Message) : Message := fillFrom "request_uuid" ["request_id"] result

def ensureQueryUuid (result : Message) : Message :=
  fillFrom "query_uuid" ["request_uuid", "request_id"] result

def ensureStatusUuid (result : Message) : Message :=
  fillFrom "status_uuid" ["request_uuid", "request_id"] result

def ensureCommandUuid (result : Message) : Message :=
  fillFrom "command_uuid" ["request_uuid", "request_id"] result

/-- The identifier of the purpose, filled in if it can be. -/
def ensureUuid (purpose : String) (result : Message) : Message :=
  if purpose = "request" then ensureRequestUuid result
  else if purpose = "query" then ensureQueryUuid result
  else if purpose = "status" then ensureStatusUuid result
  else if purpose = "command" then ensureCommandUuid result
  else result

/-- `purpose_to_field`. -/
def purposeToField : Dict String String :=
  [("request", "request_uuid"), ("query", "query_uuid"), ("status", "status_uuid"),
    ("command", "command_uuid")]

/-- The identifiers of a message of a purpose. -/
def fillUuids (purpose : String) (result : Message) : Message :=
  let result := ensureUuid purpose result
  let result := fillFrom "message_uuid" (Dict.get? purposeToField purpose).toList result
  Adapter.uuidFields.foldl (Adapter.stringify py) result

/-- `_process_uuid_fields`. -/
def processUuidFields (result : Message) : Except Exception Message :=
  (determineMessagePurpose py result).map fun purpose => fillUuids py purpose result

/-- The message type that a command name stands for. -/
def typeOfName (name : String) : Option String :=
  (Adapter.commandToMessageType.lookup name).or
    (if contains name "MODE_CHANGE" then some "mode_change"
    else if contains name "PRECIPITATION" then some "precipitation_data"
    else if contains name "VIL" then some "vil_data"
    else none)

/-- The message type that is found for one that is missing. -/
def inferredType (messageType commandName : Value) : Value :=
  if messageType.truthy then messageType
  else match commandName with
    | .str name => if name ≠ "" then ((typeOfName name).map Value.str).getD messageType else messageType
    | _ => messageType

def inferMessageType (result : Message) : Message :=
  Dict.set result "message_type"
    (inferredType (Dict.getD result "message_type" .none) (Dict.getD result "command_name" .none))

/-- The command type that the text of a message type stands for. -/
def commandOfType (msgType : String) : Option String :=
  if contains msgType "mode_change" then some "mode_change"
  else if contains msgType "precipitation" then some "precipitation_data"
  else if contains msgType "vil" then some "vil_data"
  else if contains msgType "echo" then some "echo_top_data"
  else if contains msgType "request" then some "data_request"
  else if contains msgType "response" then some "data_response"
  else none

/-- The command type that is found for one that is missing. -/
def inferredCommand (commandType messageType : Value) : Except Exception Value :=
  if !commandType.truthy && messageType.truthy then
    (lower py messageType).map fun msgType => ((commandOfType msgType).map Value.str).getD commandType
  else .ok commandType

def inferCommandType (result : Message) : Except Exception Message :=
  (inferredCommand py (Dict.getD result "command_type" .none) (Dict.getD result "message_type" .none)).map
    (Dict.set result "command_type")

/-- `_process_critical_fields`. -/
def processCriticalFields (result : Message) : Except Exception Message := do
  let result ← processUuidFields py (standardizeCommandName py result)
  inferCommandType py (inferMessageType result)

/-! ### Metadata -/

/-- The metadata that fields are written into: a fresh dictionary in place of an empty value. -/
def metadataOf (result : Message) : Except Exception Message :=
  match Dict.get? result "metadata" with
  | some (.dict metadata) => .ok metadata
  | some v => if v.truthy then .error .typeError else .ok []
  | none => .ok []

def preserveFields : List String :=
  ["command_name", "request_id", "message_type", "command_type", "rt_address", "sub_address",
    "source_system", "destination"]

/-- A field that is set is written into the metadata. -/
def preserveField (result metadata : Message) (field : String) : Message :=
  match Dict.get? result field with
  | none | some .none => metadata
  | some v => Dict.set metadata field v

/-- `_consolidate_metadata`. -/
def consolidateMetadata (result : Message) : Except Exception Message :=
  (metadataOf result).map fun metadata =>
    let metadata := preserveFields.foldl (preserveField result) metadata
    let metadata := match Dict.get? result "additional_info" with
      | some (.dict info) => mergeFields py metadata info
      | _ => metadata
    Dict.set result "metadata" (.dict metadata)

/-! ### Extraction -/

/-- What is extracted, or the error result. -/
def extractedFields (message : Message) : Message :=
  match extractFromDict py maxNestingLevel message with
  | .ok fields => fields
  | .error text => [("data", .dict message), ("extraction_error", .str text)]

/-- The fields before the critical ones are processed. -/
def gatheredFields (now : ℚ) (message : Message) : Message :=
  let result := Dict.set guaranteedFields "extraction_timestamp" (.float now)
  Dict.set (mergeFields py result (extractedFields py message)) "original_message" (.dict message)

/-- `extract_all_fields` at time `now`, with the processing of critical fields that a subclass may
extend. -/
def extractWith (process : Message → Except Exception Message) (now : ℚ) (message : Message) :
    Except Exception Message := do
  let result ← process (gatheredFields py now message)
  consolidateMetadata py result

/-- `UniversalMessageExtractor.extract_all_fields`. -/
def extractAllFields (now : ℚ) (message : Message) : Except Exception Message :=
  extractWith py (processCriticalFields py) now message

end Fmofp.Extractor
