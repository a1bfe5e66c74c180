import Fmofp.Sender.Transfer
import Fmofp.Aggregator.Frames

/-! `BC_sender`: a message with more than thirty-three frames becomes a block transfer, and any other
message is reduced to its frames, its request id and seven fields of its metadata. -/

namespace Fmofp.Sender

open Python Aggregator

/-- The logging that both senders do on metadata that is true, which raises where the metadata has
no keys. -/
def logMetadata (metadata : Value) : Except Exception Unit := do
  if metadata.truthy then
    if ← metadata.holds "message_type" then
      match metadata with
      | .dict _ => return ()
      | _ => throw .typeError

/-- The fields of the metadata that both senders pass on. -/
def essentialMetadata (metadata : Message) (requestId : Value) : Message :=
  [("message_type", Dict.getD metadata "message_type" (.str "")),
    ("command_type", Dict.getD metadata "command_type" (.str "")),
    ("command_name", Dict.getD metadata "command_name" (.str "")),
    ("mode", Dict.getD metadata "mode" .none),
    ("mode_value", Dict.getD metadata "mode_value" .none),
    ("old_mode", Dict.getD metadata "old_mode" .none),
    ("new_mode", Dict.getD metadata "new_mode" .none)] ++
  if requestId.truthy then [("request_id", requestId)] else []

theorem logMetadata_dict (md : Message) : logMetadata (.dict md) = .ok () := by
  have hholds : (Value.dict md).holds "message_type" = .ok (Dict.has md "message_type") := rfl
  simp only [logMetadata, hholds, bind, Except.bind]
  split_ifs <;> rfl

/-- The metadata that goes into a transmission, if any. -/
def transmittedMetadata (metadata requestId : Value) : Except Exception Message :=
  if metadata.truthy then
    match metadata with
    | .dict md => .ok [("metadata", .dict (essentialMetadata md requestId))]
    | _ => .error .attributeError
  else .ok []

theorem transmittedMetadata_dict {md : Message} (hmd : md ≠ []) (requestId : Value) :
    transmittedMetadata (.dict md) requestId =
      .ok [("metadata", .dict (essentialMetadata md requestId))] := by
  cases md with
  | nil => exact absurd rfl hmd
  | cons e es => rfl

namespace BusController

/-- The `transmission_dict` of `_send_message`, or the list that any other message goes out as. -/
def transmission (message : Value) : Except Exception Value :=
  match message with
  | .dict m => do
    let metadata := Dict.getD m "metadata" .none
    let requestId := Dict.getD m "request_id" .none
    logMetadata metadata
    match Dict.get? m "frames" with
    | some frames =>
      return .dict ([("frames", frames), ("request_id", requestId)] ++
        (← transmittedMetadata metadata requestId))
    | none => return .list [message]
  | .list _ => .ok message
  | _ => .ok (.list [message])

/-- Whether `_send_message` hands the message to `_send_large_message`. -/
def isLarge (message : Value) : Bool :=
  (message.dict?.bind frames?).any fun frames => decide (maxFramesPerMessage < frames.length)

/-- What `_send_large_message` finds out about the data of a message. -/
structure BinaryData where
  present : Bool
  items : Option (List Value)
  precipitation : Bool
  vil : Bool

def detectBinaryData (py : Runtime) (m : Message) : Except Exception BinaryData := do
  let present := isBinaryDataMessage py (.dict m)
  let items ← if present then Aggregator.BusController.extractBinaryData py m else .ok none
  return { present, items,
           precipitation := present && isPrecipitationMessage py m,
           vil := present && isVilMessage py m }

namespace BinaryData

/-- The type flags that go into the metadata of the messages of a transfer. -/
def typeFlags (d : BinaryData) : Message :=
  if d.precipitation then
    [("precipitation_message", .bool true), ("data_type", .str "precipitation")]
  else if d.vil then [("vil_message", .bool true), ("data_type", .str "vil")]
  else []

/-- The number of objects that the initialization message announces in its fourth frame. -/
def announcedCount (d : BinaryData) : Option ℕ :=
  if d.precipitation || d.vil then
    (d.items.filter fun items => !items.isEmpty).map fun items => min 15 items.length
  else none

def initFlags (d : BinaryData) : Message :=
  if d.present then
    ("binary_data_expected", .bool true) ::
      d.items.toList.map (fun items => ("binary_data_length", .int items.length)) ++ d.typeFlags ++
      d.announcedCount.toList.map fun n =>
        (if d.precipitation then "precipitation_count" else "vil_count", .int n)
  else []

def blockFlags (d : BinaryData) : Message :=
  match d.items with
  | some items =>
    [("binary_data_preserved", .bool true), ("binary_data_length", .int items.length)] ++ d.typeFlags
  | none => []

end BinaryData

/-- The messages of a block transfer. -/
def messages (py : Runtime) (requestId : Value) (md : Message) (d : BinaryData)
    (commandWord : Value) (dataFrames : List Value) : Plan :=
  let word (n : ℕ) := Bus.BusController.constructDataWord py (.int n)
  let numMessages := (dataFrames.length + maxPayloadFramesPerChunk - 1) / maxPayloadFramesPerChunk
  { requestId, leadingWord := commandWord, dataFrames, word
    initMessage := [
      ("frames", .list ([commandWord, word numMessages, word dataFrames.length] ++
        d.announcedCount.toList.map word)),
      ("request_id", requestId),
      ("metadata", .dict ([
        ("message_type", Dict.getD md "message_type" (.str "block_transfer_init")),
        ("command_type", .str "transfer_init"),
        ("is_transfer_init", .bool true),
        ("total_messages", .int numMessages),
        ("total_frames", .int dataFrames.length),
        ("has_binary_data", .bool d.present)] ++ d.initFlags))]
    dataMessage := fun i frames => [
      ("frames", .list frames),
      ("request_id", requestId),
      ("metadata", .dict ([
        ("message_type", Dict.getD md "message_type" .none),
        ("command_type", Dict.getD md "command_type" .none),
        ("is_transfer_data", .bool true),
        ("sequence_number", .int (i + 1)),
        ("total_sequences", .int numMessages),
        ("is_final", .bool (i + 1 == numMessages)),
        ("has_binary_data", .bool d.present)] ++ d.blockFlags))] ++
      d.items.toList.map fun items => ("data", .list items)
    completionMessage := [
      ("frames", .list [commandWord, word numMessages, word 1]),
      ("request_id", requestId),
      ("metadata", .dict ([
        ("message_type", Dict.getD md "message_type" (.str "block_transfer_complete")),
        ("command_type", .str "transfer_complete"),
        ("is_transfer_complete", .bool true),
        ("total_messages", .int numMessages),
        ("status", .str "success"),
        ("has_binary_data", .bool false)] ++ d.typeFlags))] }

/-- The transfer of a message.  Metadata that is present has to be a dictionary. -/
def plan (py : Runtime) (m : Message) (frames : List Value) : Except Exception Plan := do
  let d ← detectBinaryData py m
  match frames, Dict.getD m "metadata" (.dict []) with
  | [], _ => throw .indexError
  | commandWord :: dataFrames, .dict md =>
    return messages py (Dict.getD m "request_id" .none) md d commandWord dataFrames
  | _, _ => throw .attributeError

/-- The wait for a status word after the initialization message: the request is acknowledged only if
one comes in. -/
def awaitStatusWord (bus : Bus) (key : Value) (s : State) : State :=
  if bus.statusWord s.transmissions.length then storeAcknowledgment bus key s else s

/-- `BC_sender._send_large_message`, which sends every message through `send`.  Its only caller
passes a dictionary with a list of frames. -/
def sendLargeMessage (py : Runtime) (bus : Bus) (send : Send) (message : Value) (s : State) :
    Option Outcome :=
  match message.dict? with
  | none => some (.ok false, s)
  | some m => match frames? m with
    | none => some (.ok false, s)
    | some frames => match plan py m frames with
      | .error _ => some (.ok false, s)
      | .ok p => guarded (transfer bus send send (awaitStatusWord bus) p s)

/-- `BC_sender._send_message`, which may go through `_send_large_message` at most `depth` times. -/
def sendMessage (py : Runtime) (bus : Bus) : ℕ → Send
  | depth, message, s =>
    if s.isShuttingDown then some (.ok false, s)
    else if isLarge message then
      match depth with
      | 0 => none
      | depth + 1 => sendLargeMessage py bus (sendMessage py bus depth) message s
    else match transmission message with
      | .error e => some (.error e, s)
      | .ok payload => some (bus.send message payload s)

/-! ### What the messages of a transfer are -/

section Messages

variable (py : Runtime) (requestId : Value) (md : Message) (d : BinaryData) (commandWord : Value)
  (dataFrames : List Value)

theorem typeFlags_keys {e : String × Value} (h : e ∈ d.typeFlags) :
    e.1 ∈ ["precipitation_message", "vil_message", "data_type"] := by
  unfold BinaryData.typeFlags at h
  split_ifs at h <;> simp at h <;> rcases h with rfl | rfl <;> simp

theorem initFlags_keys {e : String × Value} (h : e ∈ d.initFlags) :
    e.1 ∈ ["binary_data_expected", "binary_data_length", "precipitation_message", "vil_message",
      "data_type", "precipitation_count", "vil_count"] := by
  unfold BinaryData.initFlags at h
  split_ifs at h with hpresent hprecipitation
  · simp only [List.cons_append, List.mem_cons, List.mem_append, List.mem_map] at h
    rcases h with rfl | (⟨items, -, rfl⟩ | h) | ⟨n, -, rfl⟩
    · simp
    · simp
    · have hkeys := typeFlags_keys d h
      simp only [List.mem_cons, List.not_mem_nil, or_false] at hkeys ⊢
      tauto
    · simp
  · simp only [List.cons_append, List.mem_cons, List.mem_append, List.mem_map] at h
    rcases h with rfl | (⟨items, -, rfl⟩ | h) | ⟨n, -, rfl⟩
    · simp
    · simp
    · have hkeys := typeFlags_keys d h
      simp only [List.mem_cons, List.not_mem_nil, or_false] at hkeys ⊢
      tauto
    · simp
  · simp at h

theorem blockFlags_keys {e : String × Value} (h : e ∈ d.blockFlags) :
    e.1 ∈ ["binary_data_preserved", "binary_data_length", "precipitation_message", "vil_message",
      "data_type"] := by
  unfold BinaryData.blockFlags at h
  split at h
  · simp only [List.cons_append, List.nil_append, List.mem_cons] at h
    rcases h with rfl | rfl | h
    · simp
    · simp
    · have hkeys := typeFlags_keys d h
      simp only [List.mem_cons, List.not_mem_nil, or_false] at hkeys ⊢
      tauto
  · simp at h

theorem flag_append_of_keys {md flags : Message} {keys : List String} {k : String}
    (hkeys : ∀ e ∈ flags, e.1 ∈ keys) (hk : k ∉ keys) :
    Message.flag (md ++ flags) k = md.flag k := by
  have hnone : Dict.get? flags k = none := Dict.get?_eq_none fun e he heq =>
    hk (heq ▸ hkeys e he)
  rw [Message.flag, Dict.get?_append, hnone, Option.or_none, Message.flag]

/-- The messages of a transfer are in the phases they are built for. -/
theorem messages_wellFormed :
    (messages py requestId md d commandWord dataFrames).WellFormed := by
  refine ⟨⟨_, ?_, ⟨rfl, ⟨_, rfl, by simp⟩, ?_⟩⟩, fun i => ⟨rfl, ⟨_, rfl, by simp⟩, ?_⟩,
    ⟨_, ?_, ⟨rfl, ⟨_, rfl, by simp⟩, ?_⟩⟩⟩
  · cases d.announcedCount <;> simp [maxFramesPerMessage, maxDataWordsPerMessage]
  · rw [getTransferFlags_of_metadata rfl (by simp [transferFlags, Message.flag, Dict.get?, messages]),
      flag_append_of_keys (fun e => initFlags_keys d) (by decide),
      flag_append_of_keys (fun e => initFlags_keys d) (by decide),
      flag_append_of_keys (fun e => initFlags_keys d) (by decide)]
    rfl
  · have htop : ∀ k ∈ transferFlags,
        Message.flag ((messages py requestId md d commandWord dataFrames).block i) k = false := by
      intro k hk
      have hdata : ∀ e ∈ d.items.toList.map fun items => ("data", Value.list items),
          e.1 ∈ ["data"] := by simp
      refine (flag_append_of_keys hdata (by revert k; decide)).trans ?_
      revert k
      simp [transferFlags, Message.flag, Dict.get?]
    rw [getTransferFlags_of_metadata rfl htop,
      flag_append_of_keys (fun e => blockFlags_keys d) (by decide),
      flag_append_of_keys (fun e => blockFlags_keys d) (by decide),
      flag_append_of_keys (fun e => blockFlags_keys d) (by decide)]
    rfl
  · simp [maxFramesPerMessage, maxDataWordsPerMessage]
  · rw [getTransferFlags_of_metadata rfl (by simp [transferFlags, Message.flag, Dict.get?, messages]),
      flag_append_of_keys (fun e => typeFlags_keys d) (by decide),
      flag_append_of_keys (fun e => typeFlags_keys d) (by decide),
      flag_append_of_keys (fun e => typeFlags_keys d) (by decide)]
    rfl

end Messages

/-- What `_send_message` hands over for a message that is not large. -/
def wire (m : Message) : Value :=
  match transmission (.dict m) with
  | .ok payload => payload
  | .error _ => .none

/-- The metadata of a transfer message goes out stripped. -/
theorem transmission_of_carries {m : Message} {frames : List Value} {phase : Bool × Bool × Bool}
    (h : Carries m frames phase) :
    ∃ md, transmission (.dict m) = .ok (.dict [("frames", .list frames),
      ("request_id", Dict.getD m "request_id" .none),
      ("metadata", .dict (essentialMetadata md (Dict.getD m "request_id" .none)))]) := by
  obtain ⟨md, hmetadata, hne⟩ := h.metadata_eq
  have hmd : Dict.getD m "metadata" .none = .dict md := by simp [Dict.getD, hmetadata]
  refine ⟨md, ?_⟩
  simp only [transmission, hmd, logMetadata_dict, h.frames_eq, transmittedMetadata_dict hne]
  rfl

theorem sendMessage_of_carries (py : Runtime) (bus : Bus) (depth : ℕ) {m : Message}
    {frames : List Value} {phase : Bool × Bool × Bool} (h : Carries m frames phase)
    (hlen : frames.length ≤ maxFramesPerMessage) :
    Delivers bus (sendMessage py bus depth) false m (wire m) := by
  intro s hs
  have hlarge : isLarge (.dict m) = false := by
    simp [isLarge, frames?, h.frames_eq, Nat.not_lt.mpr hlen]
  obtain ⟨md, htransmission⟩ := transmission_of_carries h
  unfold sendMessage
  simp only [hs, hlarge, htransmission, wire, Bool.false_eq_true, if_false]

/-- A sender that is shutting down hands over nothing. -/
theorem sendMessage_shuttingDown (py : Runtime) (bus : Bus) (depth : ℕ) (message : Value)
    {s : State} (hs : s.isShuttingDown = true) :
    sendMessage py bus depth message s = some (.ok false, s) := by
  unfold sendMessage
  simp only [hs, if_true]

end BusController

end Fmofp.Sender
