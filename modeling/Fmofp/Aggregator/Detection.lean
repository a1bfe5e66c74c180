import Fmofp.Python.Json

/-! What `BlockTransferAggregator` reads off one message: its transfer flags, its kind of data and
the fields that identify it. -/

namespace Fmofp.Aggregator

open Python

/-- `m['metadata']` when it is there and is a dictionary. -/
def metadata? (m : Message) : Option Message := (Dict.get? m "metadata").bind Value.dict?

/-- `m['frames']` when it is there and is a list. -/
def frames? (m : Message) : Option (List Value) := (Dict.get? m "frames").bind Value.list?

/-- `m['data']` when it is there and is a list. -/
def dataList? (m : Message) : Option (List Value) := (Dict.get? m "data").bind Value.list?

/-- Whether `m[key]` is text that contains `sub` in lower case. -/
def mentions (py : Runtime) (m : Message) (key sub : String) : Bool :=
  match Dict.get? m key with
  | some (.str s) => contains (py.lower s) sub
  | _ => false

/-- The test that precipitation and VIL data share: a flag, a data type or a mention of the kind. -/
def isMessageOf (py : Runtime) (kind : String) (m : Message) : Bool :=
  (match metadata? m with
    | some md => md.flag (kind ++ "_message") || Dict.get? md "data_type" == some (.str kind) ||
        mentions py md "message_type" kind
    | none => false) ||
  mentions py m "message_type" kind || mentions py m "command_type" kind

/-- `_is_precipitation_message`. -/
def isPrecipitationMessage (py : Runtime) (m : Message) : Bool := isMessageOf py "precipitation" m

/-- `_is_vil_message`. -/
def isVilMessage (py : Runtime) (m : Message) : Bool := isMessageOf py "vil" m

def transferFlags : List String := ["is_transfer_init", "is_transfer_data", "is_transfer_complete"]

/-- `is_transfer_message`; `len` of a `frames` field without a length raises. -/
def isTransferMessage (v : Value) : Except Exception Bool :=
  match v.dict? with
  | none => .ok false
  | some m =>
    if transferFlags.any m.flag then .ok true
    else if (metadata? m).any fun md => transferFlags.any md.flag then .ok true
    else match Dict.get? m "frames" with
      | none => .ok false
      | some frames => frames.length.map fun n => decide (0 < n)

/-- `_get_transfer_flags`: each flag is set on the message or in its metadata. -/
def getTransferFlags (m : Message) : Bool × Bool × Bool :=
  let flag k := m.flag k || ((metadata? m).map fun md => md.flag k).getD false
  (flag "is_transfer_init", flag "is_transfer_data", flag "is_transfer_complete")

/-- The flags of a message that has them in its metadata only. -/
theorem getTransferFlags_of_metadata {m md : Message}
    (hmetadata : Dict.get? m "metadata" = some (.dict md)) (htop : ∀ k ∈ transferFlags, m.flag k = false) :
    getTransferFlags m = (md.flag "is_transfer_init", md.flag "is_transfer_data",
      md.flag "is_transfer_complete") := by
  have hmd : metadata? m = some md := by simp [metadata?, hmetadata]
  have htop' := htop
  simp only [transferFlags, List.forall_mem_cons] at htop'
  simp [getTransferFlags, hmd, htop'.1, htop'.2.1, htop'.2.2.1]

/-- The flags that the other end of the bus finds are those of the message that was sent. -/
theorem getTransferFlags_received (m : Message) :
    getTransferFlags (Json.receivedEntries m) = getTransferFlags m := by
  have hmetadata : metadata? (Json.receivedEntries m) = (metadata? m).map Json.receivedEntries := by
    simp only [metadata?, Json.get?_receivedEntries]
    rcases Dict.get? m "metadata" with _ | v
    · rfl
    · cases v <;> rfl
  simp only [getTransferFlags, hmetadata, Json.flag_receivedEntries, Option.map_map,
    Function.comp_def]

/-- Whether `str(m[key])` in the given case contains one of `indicators`. -/
def indicates (py : Runtime) (case : String → String) (m : Message) (key : String)
    (indicators : List String) : Bool :=
  match Dict.get? m key with
  | some v => v.truthy && indicators.any fun i => contains (case (py.str v)) i
  | none => false

/-- `is_binary_data_message`. -/
def isBinaryDataMessage (py : Runtime) (v : Value) : Bool :=
  match v.dict? with
  | none => false
  | some m =>
    (match dataList? m with
      | some items => !items.isEmpty && items.all fun i => i.int?.isSome
      | none => false) ||
    (match (Dict.getD m "metadata" (.dict [])).dict? with
      | some md =>
        ["binary_encoded", "binary_data", "precipitation_message", "vil_message",
          "is_transfer_data", "is_transfer_init", "is_block_transfer"].any md.flag ||
        ["precipitation", "vil", "binary"].any fun t => Dict.get? md "data_type" == some (.str t)
      | none => false) ||
    indicates py py.lower m "message_type" ["precipitation", "vil", "binary", "block", "transfer"] ||
    indicates py py.lower m "command_type" ["precipitation", "vil", "binary", "block", "transfer"] ||
    indicates py py.upper m "command_name" ["PRECIPITATION", "VIL", "BINARY", "TRANSFER"] ||
    (match frames? m with
      | some frames => decide (20 < frames.length)
      | none => false)

/-- `_extract_metadata`: the fields that a transfer keeps, the message's own over its metadata's. -/
def extractMetadata (m : Message) : Message :=
  let keep (src : Message) (keys : List String) (acc : Message) : Message :=
    keys.foldl (fun acc k => match Dict.get? src k with
      | some v => Dict.set acc k v
      | none => acc) acc
  let fromMetadata := match metadata? m with
    | some md => keep md ["message_type", "command_type", "command_name", "source_system",
        "destination", "request_id", "precipitation_message", "data_type"] []
    | none => []
  keep m ["message_type", "command_type", "command_name", "source_system", "destination",
    "request_id"] fromMetadata

/-- The field `key` of the metadata or else of the message, and a default by the kind of data. -/
def extractType (py : Runtime) (key precipitation vil other : String) (m : Message) : Value :=
  match (metadata? m).bind fun md => Dict.get? md key with
  | some v => v
  | none => match Dict.get? m key with
    | some v => v
    | none =>
      if isPrecipitationMessage py m then .str precipitation
      else if isVilMessage py m then .str vil
      else .str other

/-- `_extract_message_type`. -/
def extractMessageType (py : Runtime) (m : Message) : Value :=
  extractType py "message_type" "weather_radarPrecipitationResponse" "weather_radarVILResponse"
    "binary_data_response" m

/-- `_extract_command_type`. -/
def extractCommandType (py : Runtime) (m : Message) : Value :=
  extractType py "command_type" "precipitation_data" "vil_data" "binary_data" m

end Fmofp.Aggregator
