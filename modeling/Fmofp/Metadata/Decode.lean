import Fmofp.Machine.BitRange
import Fmofp.Metadata.Encode
import Fmofp.Python.Quantum

/-! `MetadataCodec.decode_metadata`, with the registries that it reads the codes of types by.  Each word
loses its first three characters before it is read.  No step puts a `command` into the metadata, so that
the part of the source that would read a mode out of it is never reached. -/

namespace Fmofp.Metadata

open Python

/-- `_load_message_types`: the message types of `command_registry.xml` in the order of their codes. -/
def registeredMessageTypes : List String :=
  ["weather_radarModeChangeRequest", "weather_radarModeChangeResponse", "weather_radarCommand",
    "weather_radarPrecipitationRequest", "weather_radarPrecipitationResponse",
    "radarPrecipitationCompletion", "weather_radarVILRequest", "weather_radarVILResponse",
    "radarVILCompletion", "weather_radarEchoTopRequest", "weather_radarEchoTopResponse",
    "weather_radarStormCellRequest", "weather_radarStormCellResponse", "tfr_radarModeChangeRequest",
    "tfr_radarModeChangeResponse", "tfr_radarCommand", "sar_radarModeChangeRequest",
    "sar_radarModeChangeResponse", "sar_radarCommand", "targeting_radarModeChangeRequest",
    "targeting_radarModeChangeResponse", "targeting_radarCommand", "aewc_radarModeChangeRequest",
    "aewc_radarModeChangeResponse", "aewc_radarCommand", "display_show_request",
    "display_mode_request", "display_data_request", "display_mode_response", "fms_modeChangeRequest",
    "fms_modeChangeResponse", "fms_statusRequest", "fms_statusResponse", "fms_attitudeUpdateRequest",
    "fms_attitudeUpdateResponse", "fms_navigationUpdateRequest", "fms_navigationUpdateResponse",
    "fms_maneuverRequest", "fms_maneuverResponse"]

/-- `_load_command_types`: the command types of the registry, sorted. -/
def registeredCommandTypes : List String :=
  ["data_request", "data_response", "mode_change", "mode_change_complete", "mode_response",
    "precipitation_completion", "precipitation_data", "status_request", "status_response",
    "vil_completion", "vil_data"]

/-- The `command_hex` of `COMMAND_NAMES`. -/
def commandNames : Dict String String :=
  [("WEATHER_RADAR_VIL_DATA", "0x200E"), ("WEATHER_RADAR_PRECIPITATION_DATA", "0x2010"),
    ("WEATHER_RADAR_MODE_CHANGE", "0x4845"), ("WEATHER_RADAR_MODE_CHANGE_COMPLETE", "0x4846"),
    ("WEATHER_RADAR_COMMAND", "0x4847"), ("PRECIPITATION_DATA_COMMAND", "0x2011"),
    ("VIL_DATA_COMMAND", "0x200F"), ("DISPLAY_ECHO_TOP_DATA", "0x9007"),
    ("WEATHER_RADAR_ECHO_TOP_DATA", "0x9008"), ("WEATHER_RADAR_STORM_CELL_DATA", "0x9009"),
    ("WEATHER_RADAR_STORM_CELL_DATA_RESPONSE", "0x900A"), ("DISPLAY_VIL_DATA", "0x200D"),
    ("DISPLAY_PRECIPITATION_DATA", "0x200F"), ("DISPLAY_DATA_REQUEST", "0x7005"),
    ("TFR_RADAR_MODE_CHANGE", "0x3003"), ("TFR_RADAR_MODE_CHANGE_COMPLETE", "0x3004"),
    ("SAR_RADAR_MODE_CHANGE", "0x4003"), ("SAR_RADAR_MODE_CHANGE_COMPLETE", "0x4004"),
    ("TARGETING_RADAR_MODE_CHANGE", "0x5003"), ("TARGETING_RADAR_MODE_CHANGE_COMPLETE", "0x5004"),
    ("AEWC_RADAR_MODE_CHANGE", "0x6003"), ("AEWC_RADAR_MODE_CHANGE_COMPLETE", "0x6004"),
    ("DISPLAY_MODE_CHANGE", "0xB002"), ("DISPLAY_MODE_RESPONSE", "0x7004"), ("DISPLAY_SHOW", "0x7001"),
    ("FMS_MODE_CHANGE", "0x7101"), ("FMS_MODE_CHANGE_COMPLETE", "0x7102"),
    ("FMS_STATUS_REQUEST", "0x7103"), ("FMS_STATUS_RESPONSE", "0x7104"),
    ("FMS_ATTITUDE_UPDATE", "0x7105"), ("FMS_ATTITUDE_UPDATE_RESPONSE", "0x7106"),
    ("FMS_NAVIGATION_UPDATE", "0x7107"), ("FMS_NAVIGATION_UPDATE_RESPONSE", "0x7108"),
    ("FMS_MANEUVER_REQUEST", "0x7109"), ("FMS_MANEUVER_RESPONSE", "0x710A")]

/-- The decoder's own `known_types`, which the registry goes before. -/
def knownTypeNames : Dict ℕ String := knownTypes.map fun e => (e.2, e.1)

/-- The message type that a code is read as; a code of zero counts as 28. -/
def messageTypeName (code : ℕ) : String :=
  let code := if code = 0 then 28 else code
  (registeredMessageTypes[code - 1]?.or (Dict.get? knownTypeNames code)).getD "display_mode_change"

def specialCommandTypes : Dict ℕ String := [(9, "vil_data"), (10, "precipitation_data")]

def commandTypeName (code : ℕ) : Option String :=
  if code = 0 then none
  else registeredCommandTypes[code - 1]?.or (Dict.get? specialCommandTypes code)

/-- A word without its first three characters, filled up with zeros. -/
def cleanWord (word : String) : String :=
  if 3 ≤ word.length then
    let rest := String.ofList (word.toList.drop 3)
    if rest.length < 16 then zfill rest 16 else rest
  else word

/-- The bits of a number from `start` to `stop`. -/
def bitField (n : ℤ) (start stop : ℕ) : ℕ := (extractBits n start stop).toNat

def decodeTypes (py : Runtime) (words : List String) (flags : ℕ) : Except Exception Message :=
  match words[1]? with
  | none => .ok []
  | some word => do
    let n ← py.intBase2 word
    let metadata : Message :=
      if flags.testBit 0 then [("message_type", .str (messageTypeName (bitField n 0 7)))] else []
    match flags.testBit 1, commandTypeName (bitField n 8 15) with
    | true, some s => return Dict.set metadata "command_type" (.str s)
    | true, none => throw .valueError
    | false, _ => return metadata

/-- The key of a type of block transfer message. -/
def transferKey (transferType : ℕ) : Option String :=
  if transferType = 0 then none else transferKeys[transferType - 1]?

/-- The third word taken for the block transfer word, if its low bits name a type. -/
def decodeTransfer (py : Runtime) (words : List String) (metadata : Message) :
    Except Exception (Message × ℕ) :=
  match words[2]? with
  | none => .ok (metadata, 2)
  | some word => do
    let n ← py.intBase2 word
    match transferKey (bitField n 0 1) with
    | none => return (metadata, 2)
    | some k => return (Dict.set (Dict.set (Dict.set metadata k (.bool true)) "total_messages"
        (.int (bitField n 2 7))) "total_frames" (.int (bitField n 8 15)), 3)

/-- The names of the decoder's own codes of modes. -/
def decodedModes : List String :=
  ["STANDBY", "SURVEILLANCE", "MAPPING", "TURBULENCE", "WINDSHEAR", "NORMAL", "WEATHER", "TEST"]

/-- The mode that the flags of the extended word are read as. -/
def decodedMode (flags : ℕ) : Value := (decodedModes[flags % 16]?).elim .none .str

/-- The extended word; its flags stay unset where there is no such word. -/
def decodeExtended (py : Runtime) (words : List String) (current : ℕ) (metadata : Message) :
    Except Exception (Message × ℕ × Option ℕ) :=
  match words[current]? with
  | none => .ok (metadata, current, none)
  | some word => do
    let n ← py.intBase2 word
    let flags := bitField n 8 15
    if flags = 0 then return (metadata, current, some flags)
    let metadata := if flags.testBit 0 then Dict.set metadata "mode" (decodedMode flags) else metadata
    let metadata :=
      if flags.testBit 1 then Dict.set metadata "mode_value" (.int (bitField n 0 7)) else metadata
    return (metadata, current + 1, some flags)

def radarPrefixes : List String := ["weather", "tfr", "sar", "targeting", "aewc"]

/-- The command name that the types stand for. -/
def commandNameOfTypes (py : Runtime) (messageType commandType : String) : Option String :=
  let lower := py.lower messageType
  if contains commandType "precipitation" || contains lower "precipitation" then
    some "DISPLAY_PRECIPITATION_DATA"
  else if contains commandType "vil" || contains lower "vil" then some "DISPLAY_VIL_DATA"
  else if contains commandType "mode_change" then
    match radarPrefixes.find? fun p => startsWith lower (p ++ "_") with
    | some p => some (py.upper p ++ if contains lower "response" || contains commandType "complete" then
        "_RADAR_MODE_CHANGE_COMPLETE" else "_RADAR_MODE_CHANGE")
    | none => some "WEATHER_RADAR_MODE_CHANGE"
  else none

/-- `f"0x{n:04X}"`. -/
def hexText (n : ℤ) : String :=
  let digits := String.ofList ((Nat.toDigits 16 n.natAbs).map Char.toUpper)
  "0x" ++ if 0 ≤ n then zfill digits 4 else zfill ("-" ++ digits) 4

def hashToCommand : Dict ℤ String := [(10, "DISPLAY_PRECIPITATION_DATA"), (200, "DISPLAY_VIL_DATA")]

def textOf (m : Message) (k : String) : Option String :=
  match Dict.get? m k with
  | some (.str s) => some s
  | _ => none

/-- The command name: from the types where their schema has one, from the registry of names, or from
the known hashes. -/
def resolveCommandName (py : Runtime) (metadata : Message) (hash : ℤ) : Option String :=
  let named := match textOf metadata "message_type", textOf metadata "command_type" with
    | some messageType, some commandType =>
      match Dict.get? messageSchemas messageType with
      | some schema =>
        if schema.metadataFields.contains "command_name" then
          commandNameOfTypes py messageType commandType
        else none
      | none => none
    | _, _ => none
  (named.or ((commandNames.find? fun e => e.2 == hexText hash).map Prod.fst)).or
    (Dict.get? hashToCommand hash)

def decodeCommandName (py : Runtime) (words : List String) (flags current : ℕ) (metadata : Message) :
    Except Exception (Message × ℕ) :=
  match flags.testBit 2, words[current]? with
  | true, some word => do
    let hash ← py.intBase2 word
    let metadata := Dict.set metadata "command_name_hash" (.int hash)
    match resolveCommandName py metadata hash with
    | some name => return (Dict.set metadata "command_name" (.str name), current + 1)
    | none => return (metadata, current + 1)
  | _, _ => .ok (metadata, current)

def decodeRequestId (py : Runtime) (words : List String) (current : ℕ) (flags : Option ℕ)
    (metadata : Message) : Except Exception Message :=
  match words[current]?, flags with
  | none, _ => .ok metadata
  | some word, flags => do
    let hash ← py.intBase2 word
    let metadata := Dict.set metadata "request_id_hash" (.int hash)
    match flags with
    | none => throw .unboundLocalError
    | some flags =>
      return if flags.testBit 3 then Dict.set metadata "has_request_id" (.bool true) else metadata

def decodedPrecipitationTypes : List String := ["rain", "snow", "sleet", "hail"]

/-- A point from a position word and a value word. -/
def decodedPoint (position value : ℤ) : Value :=
  .dict [
    ("position", .tuple [.float (bitField position 8 15 / 10), .float (bitField position 0 7 / 10)]),
    ("type", .str (decodedPrecipitationTypes.getD (bitField value 12 15) "rain")),
    ("rate", .int (bitField value 6 11 * 2)),
    ("intensity", .float (bitField value 0 5 / 63)),
    ("show_values", .bool true)]

/-- The points of pairs of words; a pair that cannot be read is skipped. -/
def decodedPoints (py : Runtime) : List String → List Value
  | position :: value :: rest =>
    (match py.intBase2 position, py.intBase2 value with
      | .ok position, .ok value => [decodedPoint position value]
      | _, _ => []) ++ decodedPoints py rest
  | _ => []

def decodePrecipitation (py : Runtime) (words : List String) (flags : Option ℕ) (metadata : Message) :
    Except Exception Message :=
  if textOf metadata "command_type" = some "precipitation_data" ∧ 4 ≤ words.length then
    match flags with
    | none => .error .unboundLocalError
    | some flags =>
      match decodedPoints py (words.drop (if 0 < flags then 3 else 2)) with
      | [] => .ok metadata
      | points => .ok (Dict.set metadata "precipitation" (.list points))
  else .ok metadata

/-- A field of `extract_fields_from_data_words`. -/
def extractField (py : Runtime) (words : List String) (fields : Message) (d : FieldDef) :
    Except Exception Message :=
  match actualIndex words.length d.wordIndex with
  | none => .ok fields
  | some i => do
    let (start, stop) ← extractBitRange d.bits
    let n ← py.intBase2 (words.getD i "")
    let value := extractBits n start stop
    let fields := match decide (d.field = "mode_value"), Dict.get? modeNameMap value with
      | true, some name => Dict.set fields "mode" (.str name)
      | _, _ => fields
    return Dict.set fields d.field (.int value)

/-- `extract_fields_from_data_words`, of a schema that exists. -/
def extractFields (py : Runtime) (schema : Schema) (words : List String) : Except Exception Message :=
  schema.dataStructure.foldlM (extractField py words) []

/-- A field of the schema goes where nothing is yet. -/
def mergeField (metadata : Message) (e : String × Value) : Message :=
  if Dict.getD metadata e.1 .none = .none then Dict.set metadata e.1 e.2 else metadata

/-- The fields of the schema, of which the value of the mode names the mode in any case. -/
def mergeFields (metadata fields : Message) : Message :=
  let metadata := fields.foldl mergeField metadata
  match (Dict.get? fields "mode_value").bind Value.int? with
  | some n => match Dict.get? modeNameMap n with
    | some name => Dict.set metadata "mode" (.str name)
    | none => metadata
  | none => metadata

def decodeSchema (py : Runtime) (words : List String) (metadata : Message) : Except Exception Message :=
  match (textOf metadata "message_type").bind (Dict.get? messageSchemas) with
  | none => .ok metadata
  | some schema => (extractFields py schema words).map (mergeFields metadata)

/-- The metadata that words with a valid header hold. -/
def decodeFields (py : Runtime) (words : List String) (flags : ℕ) : Except Exception Message := do
  let metadata ← decodeTypes py words flags
  let (metadata, current) ← decodeTransfer py words metadata
  let (metadata, current, extended) ← decodeExtended py words current metadata
  let (metadata, current) ← decodeCommandName py words flags current metadata
  let metadata ← decodeRequestId py words current extended metadata
  let metadata ← decodePrecipitation py words extended metadata
  decodeSchema py words metadata

/-- `decode_metadata`: nothing for words of another version, or for too few of them. -/
def decodeMetadata (py : Runtime) (words : List String) : Except Exception Message :=
  match words.map cleanWord with
  | [] => .ok []
  | first :: rest => do
    let header ← py.intBase2 first
    if bitField header 12 15 ≠ metadataVersion ∨ rest.length < bitField header 8 11 then return []
    decodeFields py (first :: rest) (bitField header 0 7)

end Fmofp.Metadata

/-! `apply_schema_to_data_words` and `extract_fields_from_data_words` on the text of the words, the spellings
of bit ranges, and the arithmetic of the masks. -/

namespace Fmofp.Metadata

open Python Machine

/-! ### Bit ranges -/

/-- How a schema spells a range of bits. -/
def BitsInfo.spelling : BitsInfo → String
  | .all => "all"
  | .range start stop => toString start ++ "-" ++ toString stop
  | .single bit => toString bit

/-- `s.split(sep)`, of one character. -/
def splitOn (s : String) (sep : Char) : List String := (s.toList.splitOn sep).map String.ofList

/-- `extract_bit_range`, of the spelling. -/
def parseBitRange (py : Runtime) (bitsInfo : String) : Except Exception (ℕ × ℕ) :=
  if bitsInfo = "all" then .ok (0, 15)
  else match splitOn bitsInfo '-' with
    | [first, last] => do
      let start ← py.intBase10 first
      let stop ← py.intBase10 last
      if start < 0 ∨ 15 < stop ∨ stop < start then throw .valueError
      return (start.toNat, stop.toNat)
    | _ => .error .valueError

/-- The spellings that the schemas use. -/
def spellings : List BitsInfo := [.all, .range 0 2, .range 0 3, .range 0 7, .single 0]

/-- A spelling is parsed as what it stands for. -/
theorem parseBitRange_spelling (py : Runtime) {b : BitsInfo} (h : b ∈ spellings) :
    parseBitRange py b.spelling = extractBitRange b := by
  simp only [spellings, List.mem_cons, List.not_mem_nil, or_false] at h
  rcases h with rfl | rfl | rfl | rfl | rfl <;> rfl

/-- The first bit and the number of bits. -/
def BitsInfo.start : BitsInfo → ℕ
  | .all => 0
  | .range start _ => start
  | .single bit => bit

def BitsInfo.size : BitsInfo → ℕ
  | .all => 16
  | .range start stop => stop + 1 - start
  | .single _ => 1

/-! ### Fields of words -/

/-- A field of `apply_schema_to_data_words`. -/
def applyFieldToDataWords (py : Runtime) (schema : Schema) (words : List String) (field : String × Value) :
    Except Exception (List String) :=
  match schema.fieldPosition field.1 with
  | none => .ok words
  | some position => match actualIndex words.length position.wordIndex with
    | none => .ok words
    | some i => do
      let (start, stop) ← extractBitRange position.bits
      let n ← py.intBase2 (words.getD i "")
      let word ← setBits n field.2 start stop
      return words.set i (formatBin 16 word)

/-- `apply_schema_to_data_words`. -/
def applySchemaToDataWords (py : Runtime) (messageType : String) (words : List String)
    (fieldValues : Message) : Except Exception (List String) :=
  match Dict.get? messageSchemas messageType with
  | none => .ok words
  | some schema => fieldValues.foldlM (applyFieldToDataWords py schema) words

/-- `extract_fields_from_data_words`. -/
def extractFieldsFromDataWords (py : Runtime) (messageType : String) (words : List String) :
    Except Exception Message :=
  match Dict.get? messageSchemas messageType with
  | none => .ok []
  | some schema => extractFields py schema words

/-! ### The arithmetic of a word -/

section

variable {n value start stop : ℕ}

theorem extractBits_natCast : extractBits n start stop = (bitRange n start (stop + 1 - start) : ℕ) := by
  unfold extractBits bitRange
  push_cast
  rfl

/-- `extract_bits` takes the masked bits down. -/
theorem extractBits_eq_mask :
    extractBits n start stop = ((n &&& mask start (stop + 1 - start)) >>> start : ℕ) := by
  rw [extractBits_natCast, and_mask_shiftRight]

/-- What `set_bits` keeps of the word is its `and` with the complement of the mask. -/
theorem cleared_eq_mask :
    (n : ℤ) - extractBits n start stop * 2 ^ start =
      Int.land n (Int.lnot (mask start (stop + 1 - start) : ℕ)) := by
  have hle : bitRange n start (stop + 1 - start) * 2 ^ start ≤ n := by
    calc _ ≤ n / 2 ^ start * 2 ^ start := Nat.mul_le_mul_right _ (Nat.mod_le _ _)
      _ ≤ n := Nat.div_mul_le_self n _
  rw [extractBits_natCast]
  show _ = ((Nat.ldiff n (mask start (stop + 1 - start)) : ℕ) : ℤ)
  rw [ldiff_mask, clearRange, Nat.cast_sub hle]
  push_cast
  rfl

theorem setBits_natCast (hvalue : value < 2 ^ (stop + 1 - start)) :
    setBits n (.int value) start stop = .ok (setRange n value start (stop + 1 - start) : ℕ) := by
  have hle : bitRange n start (stop + 1 - start) * 2 ^ start ≤ n := by
    calc _ ≤ n / 2 ^ start * 2 ^ start := Nat.mul_le_mul_right _ (Nat.mod_le _ _)
      _ ≤ n := Nat.div_mul_le_self n _
  have hfits : ¬(2 : ℤ) ^ (stop + 1 - start) - 1 < value := by
    have hcast : (value : ℤ) < 2 ^ (stop + 1 - start) := by exact_mod_cast hvalue
    omega
  have hcleared : (n : ℤ) - extractBits n start stop * 2 ^ start =
      (clearRange n start (stop + 1 - start) : ℕ) := by
    rw [extractBits_natCast, clearRange, Nat.cast_sub hle]
    push_cast
    rfl
  have hshifted : (value : ℤ) * 2 ^ start = (value * 2 ^ start : ℕ) := by push_cast; rfl
  show (if (2 : ℤ) ^ (stop + 1 - start) - 1 < value then Except.error Exception.valueError else _) = _
  rw [if_neg hfits, hcleared, hshifted, lor_natCast]
  rfl

end

end Fmofp.Metadata
