import Fmofp.Python.Text
import Fmofp.Metadata.Schemas

/-! `MessageStructureNormalizer`: the phases of `normalize_message_structure`, each of which writes into
a copy of the message that shares its nested metadata with the caller's message. -/

namespace Fmofp.Normalizer

open Python Metadata

/-- An item of a list of data: a `PrecipitationData` object or a plain value. -/
inductive Item (P : Type)
  | value (v : Value)
  | object (p : P)

namespace Item

variable {P : Type}

def dict? : Item P → Option Message
  | .value v => v.dict?
  | .object _ => none

def isObject : Item P → Bool
  | .value _ => false
  | .object _ => true

end Item

def isSequence : Value → Bool
  | .list _ | .tuple _ => true
  | _ => false

/-- What is under `data`: only a list or a tuple can hold objects. -/
inductive Data (P : Type)
  | list (items : List (Item P))
  | tuple (items : List (Item P))
  | other (v : Value) (plain : isSequence v = false)

/-- A message; `fields` has the entries other than `metadata` and `data`. -/
structure Msg (P : Type) where
  fields : Message
  metadata : Option Value
  data : Option (Data P)

namespace Data

variable {P : Type}

def truthy : Data P → Bool
  | .list items | .tuple items => !items.isEmpty
  | .other v _ => v.truthy

/-- The items of `for item in data`. -/
def iterate : Data P → Except Exception (List (Item P))
  | .list items | .tuple items => .ok items
  | .other v _ => v.iterate.map (List.map .value)

end Data

namespace Msg

variable {P : Type} (m : Msg P)

/-- The metadata, where it is a dictionary. -/
def metadataDict : Option Message := m.metadata.bind Value.dict?

/-- The data, where it is a list. -/
def list? : Option (List (Item P)) :=
  match m.data with
  | some (.list items) => some items
  | _ => none

end Msg

/-! ### What a message is about -/

/-- What the tests for precipitation and for vertically integrated liquid look for. -/
structure Topic where
  word : String
  flag : String
  sampleKeys : List String
  listKey : String

def precipitation : Topic :=
  ⟨"precipitation", "precipitation_message", ["position", "type", "rate"], "precipitation_data"⟩

def vil : Topic := ⟨"vil", "vil_message", ["position", "value", "layer_count"], "vil_data"⟩

/-- `key in d and word in d[key].lower()`. -/
def mentions (py : Runtime) (word : String) (d : Message) (key : String) : Except Exception Bool :=
  match Dict.get? d key with
  | none => .ok false
  | some (.str s) => .ok (contains (py.lower s) word)
  | some _ => .error .attributeError

namespace Topic

variable {P : Type} (topic : Topic) (py : Runtime)

def inMetadata (metadata : Message) : Except Exception Bool := do
  if Message.flag metadata topic.flag then return true
  if ← mentions py topic.word metadata "message_type" then return true
  if ← mentions py topic.word metadata "command_type" then return true
  return decide (Dict.get? metadata "data_type" = some (.str topic.word))

/-- The first five items are dictionaries, and the first one has the keys of a sample. -/
def inData (m : Msg P) : Bool :=
  match m.list? with
  | some (item :: items) =>
    ((item :: items).take 5).all (fun item => item.dict?.isSome) &&
      topic.sampleKeys.all fun key => item.dict?.any fun d => Dict.has d key
  | _ => false

/-- `_is_precipitation_message`, and `_is_vil_message` after its first tests. -/
def isAbout (m : Msg P) : Except Exception Bool := do
  if ← mentions py topic.word m.fields "message_type" then return true
  if ← mentions py topic.word m.fields "command_type" then return true
  if ← (match m.metadataDict with
    | some metadata => topic.inMetadata py metadata
    | none => .ok false) then return true
  return topic.inData m || ((Dict.get? m.fields topic.listKey).bind Value.list?).isSome

end Topic

section Types

variable {P : Type} (py : Runtime) (m : Msg P)

def isPrecipitationMessage : Except Exception Bool := precipitation.isAbout py m

/-- A change of mode is never about vertically integrated liquid. -/
def isModeChange : Bool :=
  decide (Dict.get? m.fields "command_type" = some (.str "mode_change")) ||
    m.metadataDict.any fun d => decide (Dict.get? d "command_type" = some (.str "mode_change"))

def isVilMessage : Except Exception Bool := if isModeChange m then .ok false else vil.isAbout py m

/-- One test or the other. -/
def isWeatherMessage : Except Exception Bool := do
  if ← isPrecipitationMessage py m then return true
  isVilMessage py m

def precipitationResponse : Value := .str "weather_radarPrecipitationResponse"

def vilResponse : Value := .str "weather_radarVILResponse"

/-- `_extract_message_type`. -/
def extractMessageType : Except Exception Value :=
  match Dict.get? m.fields "message_type" with
  | some messageType => .ok messageType
  | none =>
    match m.metadataDict.bind fun d => Dict.get? d "message_type" with
    | some messageType => .ok messageType
    | none => do
      if ← isPrecipitationMessage py m then return precipitationResponse
      if ← isVilMessage py m then return vilResponse
      return .str "unknown"

/-! ### The addresses -/

/-- The address in a status word, if it is one. -/
def statusAddress (word : String) : Option Value :=
  if 8 ≤ word.length ∧ startsWith word "100" then
    match py.intBase2 (slice word 3 8) with
    | .ok n => some (.int n)
    | .error _ => none
  else none

/-- `_extract_rt_address_from_frames`. -/
def rtAddressFromFrames (fields : Message) : Value :=
  let first := match (Dict.get? fields "frames").bind Value.list? with
    | some (.str frame :: _) => statusAddress py frame
    | _ => none
  match first with
  | some address => address
  | none =>
    match Dict.get? fields "status_word" with
    | some (.str word) => (statusAddress py word).getD .none
    | some (.dict d) => Dict.getD d "rt_address" .none
    | _ => .none

/-- The address of a weather message, by its source. -/
def sourceAddress (metadata : Message) : Option Value :=
  match Dict.get? metadata "source_rt_address" with
  | some address => some address
  | none =>
    if Dict.get? metadata "radar_type" = some (.str "weather_radar") then some (.int 9) else none

/-- The address in the status word of the metadata. -/
def embeddedAddress (metadata : Message) : Value :=
  match Dict.get? metadata "status_word" with
  | some (.dict d) => Dict.getD d "rt_address" .none
  | _ => .none

/-- `_extract_rt_address_from_metadata`. -/
def rtAddressFromMetadata : Except Exception Value :=
  match m.metadataDict with
  | none => .ok .none
  | some metadata =>
    match Dict.get? metadata "rt_address" with
    | some address => .ok address
    | none => (isWeatherMessage py m).map fun weather =>
      ((if weather then sourceAddress metadata else none).getD (embeddedAddress metadata))

/-- `_extract_sub_address`. -/
def subAddress : Except Exception Value :=
  match m.metadataDict with
  | none => .ok .none
  | some metadata =>
    match (Dict.get? metadata "sub_address").or (Dict.get? metadata "subaddress") with
    | some address => .ok address
    | none => (isWeatherMessage py m).map fun weather => if weather then .int 1 else .none

/-- An address that is found is written. -/
def withAddress (key : String) (address : Value) : Msg P :=
  if address = .none then m else { m with fields := Dict.set m.fields key address }

def ensureRtAddress : Except Exception (Msg P) :=
  if Dict.has m.fields "rt_address" then .ok m
  else if rtAddressFromFrames py m.fields = .none then
    (rtAddressFromMetadata py m).map (withAddress m "rt_address")
  else .ok (withAddress m "rt_address" (rtAddressFromFrames py m.fields))

def ensureSubAddress : Except Exception (Msg P) :=
  if Dict.has m.fields "sub_address" then .ok m
  else (subAddress py m).map (withAddress m "sub_address")

/-- `_ensure_routing_fields`. -/
def ensureRoutingFields : Except Exception (Msg P) := do
  ensureSubAddress py (← ensureRtAddress py m)

end Types

/-! ### The schema -/

/-- The fields of a message and its metadata, which are written side by side. -/
abbrev Sides : Type := Message × Message

/-- A field that one of the sides lacks is copied from the other one. -/
def mirrorField (sides : Sides) (field : String) : Sides :=
  match Dict.get? sides.1 field with
  | some v => if Dict.has sides.2 field then sides else (sides.1, Dict.set sides.2 field v)
  | none =>
    match Dict.get? sides.2 field with
    | some v => (Dict.set sides.1 field v, sides.2)
    | none => sides

def mirror (fields : List String) (sides : Sides) : Sides := fields.foldl mirrorField sides

def setBoth (key : String) (v : Value) (sides : Sides) : Sides :=
  (Dict.set sides.1 key v, Dict.set sides.2 key v)

/-- A default, which is written on both sides if the message lacks the field. -/
def setDefault (key : String) (v : Value) (sides : Sides) : Sides :=
  if Dict.has sides.1 key then sides else setBoth key v sides

/-- What the responses with weather data get. -/
structure Response where
  commandType : String
  commandName : String
  flags : List String

def Response.apply (r : Response) (count : Option ℕ) (sides : Sides) : Sides :=
  let named := setDefault "command_name" (.str r.commandName)
    (setDefault "command_type" (.str r.commandType) sides)
  let counted := match count with
    | some n => setBoth "data_count" (.int n) named
    | none => named
  (counted.1, r.flags.foldl (fun metadata flag => Dict.set metadata flag (.bool true)) counted.2)

def response? (messageType : Value) : Option Response :=
  if messageType = precipitationResponse then
    some ⟨"precipitation_data", "DISPLAY_PRECIPITATION_DATA",
      ["precipitation_message", "precipitation_data"]⟩
  else if messageType = vilResponse then
    some ⟨"vil_data", "DISPLAY_VIL_DATA", ["vil_message", "vil_data_available"]⟩
  else none

/-- `get_schema_for_message_type`. -/
def getSchema (messageType : Value) : Except Exception (Option Schema) :=
  match messageType.key? with
  | none => .error .typeError
  | some (.str name) => .ok (Dict.get? messageSchemas name)
  | some _ => .ok none

section Phases

variable {P : Type} (py : Runtime) (m : Msg P)

/-- The fields and the metadata after the schema has been applied. -/
def schemaSides (messageType : Value) (schema : Schema) : Sides :=
  let mirrored := mirror schema.metadataFields (m.fields, m.metadataDict.getD [])
  match response? messageType with
  | some r => r.apply (m.list?.map List.length) mirrored
  | none => mirrored

/-- `_apply_schema_normalization`. -/
def applySchemaNormalization (messageType : Value) : Except Exception (Msg P) := do
  match ← getSchema messageType with
  | none => return m
  | some schema =>
    let sides := schemaSides m messageType schema
    return { m with fields := sides.1, metadata := some (.dict sides.2) }

/-! ### The data -/

def asTuple : Value → Value
  | .list xs => .tuple xs
  | v => v

/-- The entry that a dictionary with a position and a type becomes; other items become nothing. -/
def standardize (item : Item P) : Except Exception (Option Message) :=
  match item.dict? with
  | none => .ok none
  | some d =>
    match Dict.get? d "position", Dict.get? d "type" with
    | some position, some type => do
      let rate ← toFloat py (Dict.getD d "rate" (.float 0))
      let intensity ← toFloat py (Dict.getD d "intensity" (.float 0))
      return some [("position", asTuple position), ("type", type), ("rate", .float rate),
        ("intensity", .float intensity),
        ("show_values", .bool (Dict.getD d "show_values" (.bool false)).truthy)]
    | _, _ => .ok none

/-- The standardized entries, in order. -/
def standardized (items : List (Item P)) : Except Exception (List Message) :=
  (items.mapM (standardize py)).map fun entries => entries.filterMap id

/-- `_normalize_precipitation_data`. -/
def normalizePrecipitationData : Except Exception (Msg P) := do
  match m.data with
  | none => return { m with data := some (.list []) }
  | some data =>
    if data.truthy = false then return { m with data := some (.list []) }
    let items ← data.iterate
    if items.all Item.isObject then return m
    let entries ← standardized py items
    if entries = [] then return m
    match m.metadataDict with
    | none => throw .keyError
    | some metadata =>
      return {
        fields := Dict.set m.fields "data_count" (.int entries.length)
        metadata := some (.dict (Dict.set (Dict.set metadata "data_count" (.int entries.length))
          "precipitation_data_normalized" (.bool true)))
        data := some (.list (entries.map fun d => .value (.dict d))) }

/-- `_ensure_data_structure`. -/
def ensureDataStructure (messageType : Value) : Except Exception (Msg P) :=
  if messageType = precipitationResponse then normalizePrecipitationData py m else .ok m

/-- A precipitation message keeps its command type after a transfer. -/
def restoreCommandType : Msg P where
  fields := Dict.set m.fields "command_type" (.str "precipitation_data")
  metadata := match m.metadataDict with
    | some metadata => some (.dict (Dict.set metadata "command_type" (.str "precipitation_data")))
    | none => m.metadata
  data := m.data

/-- `_verify_critical_fields`. -/
def verifyCriticalFields : Except Exception (Msg P) :=
  (isPrecipitationMessage py m).map fun isPrecipitation =>
    if Message.flag m.fields "is_transfer_complete" && isPrecipitation &&
        decide (Dict.get? m.fields "command_type" = some (.str "transfer_complete")) then
      restoreCommandType m
    else m

/-- What `normalize_message_structure` returns, and the caller's message afterwards. -/
structure Normalized (P : Type) where
  result : Msg P
  caller : Msg P

/-- The caller's message when the copy is as in `work`: a nested dictionary is shared. -/
def shared (work : Msg P) : Msg P :=
  if m.metadataDict.isSome then { m with metadata := work.metadata } else m

/-- The message is returned as it is by now if something raises. -/
def returned : Msg P → Except Exception (Msg P) → Normalized P
  | work, .error _ => ⟨shared m work, shared m work⟩
  | _, .ok done => ⟨done, shared m done⟩

/-- The first two phases, before which nothing that is shared is written. -/
def prepare : Except Exception (Value × Msg P) := do
  let messageType ← extractMessageType py m
  let routed ← ensureRoutingFields py m
  let prepared ← applySchemaNormalization routed messageType
  return (messageType, prepared)

/-- `normalize_message_structure`, of a dictionary. -/
def normalizeMessageStructure : Normalized P :=
  match prepare py m with
  | .error _ => ⟨m, m⟩
  | .ok (messageType, prepared) =>
    match ensureDataStructure py prepared messageType with
    | .error e => returned m prepared (.error e)
    | .ok structured => returned m structured (verifyCriticalFields py structured)

end Phases

end Fmofp.Normalizer
