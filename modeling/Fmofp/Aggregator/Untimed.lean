import Fmofp.Aggregator.Register

/-! Messages without the time at which they were aggregated: what the aggregator reads off a transfer
does not depend on that time, and neither does the result apart from it. -/

namespace Fmofp.Aggregator

open Python

def timeStamp : String := "aggregation_timestamp"

def untimedMetadata : Value → Value
  | .dict md => .dict (Dict.erase md timeStamp)
  | v => v

/-- The message without the time stamp in its metadata. -/
def untimed (m : Message) : Message := Dict.modify m "metadata" untimedMetadata

def Transfer.untimed (t : Transfer) : Transfer :=
  { t with
    initMessage := t.initMessage.map Aggregator.untimed
    dataMessages := t.dataMessages.map Aggregator.untimed
    completeMessage := t.completeMessage.map Aggregator.untimed }

theorem get?_untimed (m : Message) {k : String} (h : k ≠ "metadata") :
    Dict.get? (untimed m) k = Dict.get? m k := by
  rw [untimed, Dict.get?_modify, if_neg (Ne.symm h)]

theorem untimedMetadata_dict? (v : Value) :
    (untimedMetadata v).dict? = v.dict?.map fun md => Dict.erase md timeStamp := by
  cases v <;> rfl

theorem get?_metadata_untimed (m : Message) :
    Dict.get? (untimed m) "metadata" = (Dict.get? m "metadata").map untimedMetadata := by
  rw [untimed, Dict.get?_modify, if_pos rfl]

theorem getD_metadata_untimed (m : Message) :
    Dict.getD (untimed m) "metadata" (.dict []) =
      untimedMetadata (Dict.getD m "metadata" (.dict [])) := by
  unfold Dict.getD
  rw [get?_metadata_untimed]
  cases Dict.get? m "metadata" <;> rfl

theorem has_untimed (m : Message) (k : String) : Dict.has (untimed m) k = Dict.has m k := by
  unfold Dict.has untimed
  rw [Dict.get?_modify]
  split_ifs <;> simp

theorem set_untimed (m : Message) {k : String} (v : Value) (h : k ≠ "metadata") :
    untimed (Dict.set m k v) = Dict.set (untimed m) k v := by
  rw [untimed, Dict.modify_set, if_neg h]
  rfl

theorem set_metadata_untimed (m : Message) (md : Message) :
    untimed (Dict.set m "metadata" (.dict md)) =
      Dict.set (untimed m) "metadata" (.dict (Dict.erase md timeStamp)) := by
  rw [untimed, Dict.modify_set, if_pos rfl]
  rfl

@[simp] theorem untimed_untimed (m : Message) : untimed (untimed m) = untimed m := by
  rw [untimed, untimed, Dict.modify_modify]
  congr 1
  funext v
  cases v <;> simp [untimedMetadata]

theorem metadata?_untimed (m : Message) :
    metadata? (untimed m) = (metadata? m).map fun md => Dict.erase md timeStamp := by
  unfold metadata?
  rw [get?_metadata_untimed]
  cases Dict.get? m "metadata" with
  | none => rfl
  | some v => exact untimedMetadata_dict? v

theorem frames?_untimed (m : Message) : frames? (untimed m) = frames? m := by
  rw [frames?, get?_untimed m (by decide), frames?]

theorem dataList?_untimed (m : Message) : dataList? (untimed m) = dataList? m := by
  rw [dataList?, get?_untimed m (by decide), dataList?]

theorem hasData_untimed (m : Message) : hasData (untimed m) = hasData m := by
  rw [hasData, dataList?_untimed, hasData]

theorem hasManyFrames_untimed (m : Message) : hasManyFrames (untimed m) = hasManyFrames m := by
  rw [hasManyFrames, frames?_untimed, hasManyFrames]

theorem mentions_untimed (py : Runtime) (m : Message) {k : String} (sub : String)
    (h : k ≠ "metadata") : mentions py (untimed m) k sub = mentions py m k sub := by
  rw [mentions, get?_untimed m h, mentions]

theorem isMessageOf_untimed (py : Runtime) {kind : String} (m : Message)
    (h : timeStamp ≠ kind ++ "_message") : isMessageOf py kind (untimed m) = isMessageOf py kind m := by
  have hget (md : Message) {k : String} (hk : timeStamp ≠ k) :
      Dict.get? (Dict.erase md timeStamp) k = Dict.get? md k := Dict.get?_erase_ne md hk
  unfold isMessageOf
  rw [metadata?_untimed, mentions_untimed py m kind (by decide), mentions_untimed py m kind (by decide)]
  cases metadata? m with
  | none => rfl
  | some md =>
    simp only [Option.map_some, Message.flag, mentions, hget md h,
      hget md (show timeStamp ≠ "data_type" by decide),
      hget md (show timeStamp ≠ "message_type" by decide)]

theorem detectKind_untimed (py : Runtime) (t : Transfer) (base : Message) :
    detectKind py t.untimed (untimed base) = detectKind py t base := by
  have hmany : t.untimed.dataMessages.any hasManyFrames = t.dataMessages.any hasManyFrames := by
    simp [Transfer.untimed, List.any_map, Function.comp_def, hasManyFrames_untimed]
  have htype : t.untimed.originalMessageType = t.originalMessageType := rfl
  unfold detectKind isPrecipitationMessage isVilMessage
  rw [hmany, htype, isMessageOf_untimed py base (by decide), isMessageOf_untimed py base (by decide)]

theorem commandName_untimed (t : Transfer) (base : Message) (precipitation : Bool) :
    commandName t.untimed (untimed base) precipitation = commandName t base precipitation := by
  have hsources : untimed base :: t.untimed.dataMessages ++ t.untimed.initMessage.toList ++
      t.untimed.completeMessage.toList =
      (base :: t.dataMessages ++ t.initMessage.toList ++ t.completeMessage.toList).map untimed := by
    cases hinit : t.initMessage <;> cases hcomplete : t.completeMessage <;>
      simp [Transfer.untimed, hinit, hcomplete]
  have hname (m : Message) : Dict.get? (untimed m) "command_name" = Dict.get? m "command_name" :=
    get?_untimed m (by decide)
  unfold commandName
  rw [hsources]
  simp only [List.findSome?_map, Function.comp_def, hname]

theorem combinedData_untimed (t : Transfer) : combinedData t.untimed = combinedData t := by
  simp [combinedData, Transfer.untimed, List.flatMap_map, dataList?_untimed]

theorem transferData_untimed (py : Runtime) (t : Transfer) (precipitation : Bool) :
    transferData py t.untimed precipitation = transferData py t precipitation := by
  have hframes : collectFrames t.untimed.dataMessages = collectFrames t.dataMessages := by
    simp [collectFrames, Transfer.untimed, List.flatMap_map, frames?_untimed]
  unfold transferData BusController.extractPrecipitationDataFromFrames
  rw [combinedData_untimed, hframes]

theorem setIfTruthy_untimed (m : Message) {k : String} (v : Value) (h : k ≠ "metadata") :
    untimed (setIfTruthy m k v) = setIfTruthy (untimed m) k v := by
  unfold setIfTruthy
  split_ifs
  · exact set_untimed m v h
  · rfl

theorem erase_setIfTruthy (m : Message) {k j : String} (v : Value) (h : k ≠ j) :
    Dict.erase (setIfTruthy m k v) j = setIfTruthy (Dict.erase m j) k v := by
  unfold setIfTruthy
  split_ifs
  · exact Dict.erase_set_ne m v h
  · rfl

theorem erase_mergedMetadata (t : Transfer) (now now' : ℚ) (messageType commandType name : Value)
    (md : Message) :
    Dict.erase (mergedMetadata t.untimed now' messageType commandType name
      (Dict.erase md timeStamp)) timeStamp =
      Dict.erase (mergedMetadata t now messageType commandType name md) timeStamp := by
  have hmetadata : t.untimed.metadata = t.metadata := rfl
  simp only [mergedMetadata, hmetadata]
  rw [erase_setIfTruthy _ _ (by decide), erase_setIfTruthy _ _ (by decide)]
  simp (disch := decide) only [Dict.erase_set_ne]
  rw [show "aggregation_timestamp" = timeStamp from rfl, Dict.erase_set_self, Dict.erase_set_self]
  simp (disch := decide) only [Dict.erase_set_ne]
  rw [Dict.erase_update, Dict.erase_update, Dict.erase_erase_self]

theorem erase_precipitationFlags (md : Message) :
    Dict.erase (precipitationFlags md) timeStamp = precipitationFlags (Dict.erase md timeStamp) := by
  simp (disch := decide) only [precipitationFlags, Dict.erase_set_ne]

theorem withBaseMetadata_untimed (t : Transfer) (md : Message) :
    (t.withBaseMetadata md).untimed = t.untimed.withBaseMetadata (Dict.erase md timeStamp) := by
  have hput (m : Message) :
      untimed (if Dict.has m "metadata" then Dict.set m "metadata" (.dict md) else m) =
      if Dict.has (untimed m) "metadata" then
        Dict.set (untimed m) "metadata" (.dict (Dict.erase md timeStamp)) else untimed m := by
    rw [has_untimed]
    split_ifs
    · exact set_metadata_untimed m md
    · rfl
  cases hinit : t.initMessage with
  | some m => simp [Transfer.withBaseMetadata, Transfer.untimed, hinit, hput]
  | none => cases hdata : t.dataMessages with
    | nil => simp [Transfer.withBaseMetadata, Transfer.untimed, hinit, hdata]
    | cons m rest => simp [Transfer.withBaseMetadata, Transfer.untimed, hinit, hdata, hput]

theorem withData_untimed (m md : Message) (size data : Value) :
    untimed (Dict.set (Dict.set m "metadata" (.dict (Dict.set md "data_size" size))) "data" data) =
      Dict.set (Dict.set (untimed m) "metadata"
        (.dict (Dict.set (Dict.erase md timeStamp) "data_size" size))) "data" data := by
  rw [set_untimed _ _ (by decide), set_metadata_untimed, Dict.erase_set_ne _ _ (by decide)]

@[simp] theorem Transfer.untimed_untimed (t : Transfer) : t.untimed.untimed = t.untimed := by
  cases hinit : t.initMessage <;> cases hcomplete : t.completeMessage <;>
    simp [Transfer.untimed, hinit, hcomplete]

def untimedOutcome : Except (Exception × Transfer) Message → Except (Exception × Transfer) Message
  | .ok result => .ok (Aggregator.untimed result)
  | .error (e, t) => .error (e, t.untimed)

/-- Apart from the time stamp the aggregation depends on the transfer without time stamps only. -/
theorem aggregate_untimed (py : Runtime) (now now' : ℚ) (t : Transfer) (base : Message) :
    untimedOutcome (aggregate py now' t.untimed (untimed base)) =
      untimedOutcome (aggregate py now t base) := by
  have htype : t.untimed.originalMessageType = t.originalMessageType := rfl
  have hcommand : t.untimed.originalCommandType = t.originalCommandType := rfl
  unfold aggregate
  rw [detectKind_untimed]
  cases detectKind py t base with
  | error e => simp [untimedOutcome]
  | ok kind =>
    obtain ⟨precipitation, vil⟩ := kind
    simp only [htype, hcommand, commandName_untimed, transferData_untimed]
    generalize (if precipitation = true then Value.str "weather_radarPrecipitationResponse"
      else if vil = true then .str "weather_radarVILResponse" else t.originalMessageType) = messageType
    generalize (if precipitation = true then Value.str "precipitation_data"
      else if vil = true then .str "vil_data" else t.originalCommandType) = commandType
    generalize commandName t base precipitation = name
    have hresult : setIfTruthy (Dict.set (Dict.set (untimed base) "message_type" messageType)
        "command_type" commandType) "command_name" name =
        untimed (setIfTruthy (Dict.set (Dict.set base "message_type" messageType)
          "command_type" commandType) "command_name" name) := by
      rw [setIfTruthy_untimed _ _ (by decide), set_untimed _ _ (by decide), set_untimed _ _ (by decide)]
    rw [hresult, getD_metadata_untimed, untimedMetadata_dict?]
    generalize setIfTruthy (Dict.set (Dict.set base "message_type" messageType) "command_type"
      commandType) "command_name" name = result
    cases (Dict.getD result "metadata" (.dict [])).dict? with
    | none => simp [untimedOutcome]
    | some md =>
      cases transferData py t precipitation with
      | error e =>
        simp only [Option.map_some, untimedOutcome, withBaseMetadata_untimed, Transfer.untimed_untimed,
          erase_mergedMetadata t now now']
      | ok data =>
        simp only [Option.map_some, untimedOutcome]
        rw [withData_untimed, withData_untimed, untimed_untimed]
        cases precipitation with
        | false => simp only [Bool.false_eq_true, if_false, erase_mergedMetadata t now now']
        | true =>
          simp only [if_true, erase_precipitationFlags, erase_mergedMetadata t now now']

end Fmofp.Aggregator
