import Fmofp.Sender.BusController

/-! `RT_sender`: besides messages with many frames, messages with much data and messages whose text
is long become block transfers; the data messages of a transfer go out as chunks, whose metadata is
dropped when their text is long. -/

namespace Fmofp.Sender.RemoteTerminal

open Python Aggregator

def maxSafeSize : ℕ := 900

/-- The frames that data is converted to: numbers become data words, frames stay, and anything else
becomes a word of zero. -/
def convertItem : Value → Value
  | .bool b => Bus.RemoteTerminal.constructDataWord (.int (if b then 1 else 0))
  | .int n => Bus.RemoteTerminal.constructDataWord (.int n)
  | .float q => Bus.RemoteTerminal.constructDataWord (.int (truncate q))
  | .str s => if s.length = 20 then .str s else Bus.RemoteTerminal.constructDataWord (.int 0)
  | _ => Bus.RemoteTerminal.constructDataWord (.int 0)

/-- The message with its data as frames after the status word. -/
def withFrames (m : Message) (items : List Value) : Message :=
  Dict.set m "frames" (.list (Dict.getD m "status_word" (.str "") :: items.map convertItem))

/-- The same, with the original data kept beside the frames. -/
def withTaggedFrames (m : Message) (data : Value) (items : List Value) : Message :=
  Dict.set (Dict.set (withFrames m items) "_raw_data" data) "_data_converted_to_frames" (.bool true)

/-- What `_send_message` does with a message before it builds a transmission. -/
inductive Route where
  | large (message : Value)
  | direct
  | raises (e : Exception)

/-- The three tests for a block transfer: many frames, much data, and precipitation or VIL data
that has no frames yet. -/
def route (message : Value) : Route :=
  if BusController.isLarge message then .large message
  else match message.dict? with
    | none => .direct
    | some m => match (dataList? m).filter fun items => decide (15 < items.length) with
      | some items => .large (.dict (withTaggedFrames m (.list items) items))
      | none =>
        match Dict.get? m "command_type", Dict.get? m "data" with
        | some commandType, some data =>
          if (commandType = .str "precipitation_data" ∨ commandType = .str "vil_data") ∧
              ((Dict.get? m "frames").any Value.truthy) = false then
            match data.iterate with
            | .ok items => .large (.dict (withTaggedFrames m data items))
            | .error e => .raises e
          else .direct
        | _, _ => .direct

/-- The fields that a transmission starts with. -/
def leadingFields (m : Message) : Message :=
  let statusWord := Dict.get? m "status_word"
  let frames := match statusWord, Dict.get? m "frames" with
    | some w, none => .list [w]
    | _, frames => frames.getD (.list [])
  [("frames", frames), ("request_id", Dict.getD m "request_id" .none)] ++
    statusWord.toList.map fun w => ("status_word", w)

/-- The other fields of the message, which are all kept but for the metadata. -/
def preservedFields (m : Message) : Message :=
  m.filter fun e => !Dict.has (leadingFields m) e.1 && decide (e.1 ≠ "metadata")

/-- Frames made of the data field where there is at most one frame. -/
def generateFrames (m fields : Message) : Except Exception Message :=
  match Dict.get? fields "data" with
  | none => .ok fields
  | some data => do
    let frames := Dict.getD fields "frames" .none
    let insufficient ← if frames.truthy then frames.length.map fun n => decide (n ≤ 1) else .ok true
    match insufficient, data.list? with
    | true, some items =>
      let statusWord := Dict.getD m "status_word" .none
      return Dict.set fields "frames"
        (.list ((if statusWord.truthy then [statusWord] else []) ++ items.map convertItem))
    | _, _ => return fields

def isStatusWordText : Value → Bool
  | .str s => decide (s.length = 20)
  | _ => false

/-- The `transmission_dict` of `_send_message`.  A status word on its own goes out with the time. -/
def transmission (message : Value) (now : ℚ) : Except Exception Value :=
  match message with
  | .dict m => do
    let metadata := Dict.getD m "metadata" .none
    logMetadata metadata
    let fields ← generateFrames m (leadingFields m ++ preservedFields m)
    return .dict (fields ++ (← transmittedMetadata metadata (Dict.getD m "request_id" .none)))
  | .str s =>
    if isStatusWordText message then
      .ok (.dict [("status_word", .str s), ("request_id", .none), ("timestamp", .float now)])
    else .ok (.list [message])
  | .list _ => .ok message
  | _ => .ok (.list [message])

/-- What a text that is too long is replaced by: a block transfer, or fewer fields. -/
inductive Oversize where
  | large (message : Value)
  | payload (v : Value)
  | fails

def simplify (message payload : Value) : Oversize :=
  match message with
  | .dict m =>
    match Dict.get? m "data", Dict.get? m "frames" with
    | some _, some _ => .large message
    | data, frames =>
      match frames, data.bind Value.list? with
      | none, some items => .large (.dict (withFrames m items))
      | some frames, _ =>
        let fields := [("frames", frames), ("request_id", Dict.getD m "request_id" .none)]
        match Dict.get? m "metadata" with
        | none => .payload (.dict fields)
        | some (.dict md) => .payload (.dict (fields ++ [("metadata", .dict [
            ("message_type", Dict.getD md "message_type" (.str "")),
            ("command_type", Dict.getD md "command_type" (.str "")),
            ("command_name", Dict.getD md "command_name" (.str ""))])]))
        | some _ => .fails
      | none, none => .payload (.dict (("request_id", Dict.getD m "request_id" .none) ::
          (Dict.get? m "status_word").toList.map fun w => ("status_word", w)))
  | _ => .payload payload

/-- What `_send_chunk` hands over: the message, or without the fields that make it long. -/
def chunkPayload (py : Runtime) (m : Message) : Except Exception Value :=
  if Json.size py (.dict m) ≤ maxSafeSize then .ok (.dict m)
  else match Dict.get? m "frames" with
    | none => .error .keyError
    | some frames => do
      let fields := [("frames", frames), ("request_id", Dict.getD m "request_id" .none)]
      let metadata := Dict.getD m "metadata" .none
      let critical ← if metadata.truthy then
          match metadata with
          | .dict md => .ok [("metadata", .dict [
              ("message_type", Dict.getD md "message_type" (.str "")),
              ("command_type", Dict.getD md "command_type" (.str "")),
              ("is_transfer_data", .bool true),
              ("sequence_number", Dict.getD md "sequence_number" .none),
              ("total_sequences", Dict.getD md "total_sequences" .none),
              ("is_final", Dict.getD md "is_final" (.bool false))])]
          | _ => .error .attributeError
        else .ok []
      let simplified := Value.dict (fields ++ critical)
      return if Json.size py simplified ≤ maxSafeSize then simplified else .dict fields

/-- `RT_sender._send_chunk`. -/
def sendChunk (py : Runtime) (bus : Bus) : Send
  | .dict m, s => match chunkPayload py m with
    | .ok payload => some (bus.send (.dict m) payload s)
    | .error _ => some (.ok false, s)
  | v, s => if Json.size py v ≤ maxSafeSize then some (bus.send v v s) else some (.ok false, s)

/-- The messages of a block transfer. -/
def messages (requestId : Value) (md : Message) (statusWord : Value) (dataFrames : List Value) :
    Plan :=
  let word (n : ℕ) := Bus.RemoteTerminal.constructDataWord (.int n)
  let numMessages := (dataFrames.length + maxPayloadFramesPerChunk - 1) / maxPayloadFramesPerChunk
  { requestId, leadingWord := statusWord, dataFrames, word
    initMessage := [
      ("frames", .list [statusWord, word numMessages, word dataFrames.length]),
      ("request_id", requestId),
      ("metadata", .dict [
        ("message_type", Dict.getD md "message_type" (.str "block_transfer_init")),
        ("command_type", .str "transfer_init"),
        ("is_transfer_init", .bool true),
        ("total_messages", .int numMessages),
        ("total_frames", .int dataFrames.length)])]
    dataMessage := fun i frames => [
      ("frames", .list frames),
      ("request_id", requestId),
      ("metadata", .dict [
        ("message_type", Dict.getD md "message_type" .none),
        ("command_type", Dict.getD md "command_type" .none),
        ("is_transfer_data", .bool true),
        ("sequence_number", .int (i + 1)),
        ("total_sequences", .int numMessages),
        ("is_final", .bool (i + 1 == numMessages))])]
    completionMessage := [
      ("frames", .list [statusWord, word numMessages, word 1]),
      ("request_id", requestId),
      ("metadata", .dict [
        ("message_type", Dict.getD md "message_type" (.str "block_transfer_complete")),
        ("command_type", .str "transfer_complete"),
        ("is_transfer_complete", .bool true),
        ("total_messages", .int numMessages),
        ("status", .str "success")])] }

/-- The transfer of a message, over its valid frames.  The transfer flag that the source also sets
in the message's own metadata is read by nothing that follows. -/
def plan (m : Message) (frames : Value) : Except Exception (Option Plan) := do
  let items ← if frames.truthy then frames.iterate else .ok []
  match Bus.validateFrames items, Dict.getD m "metadata" (.dict []) with
  | [], _ => return none
  | statusWord :: dataFrames, .dict md =>
    return some (messages (Dict.getD m "request_id" .none) md statusWord dataFrames)
  | _, _ => throw .attributeError

/-- `RT_sender._send_large_message`, which sends the initialization message through `send` and the
others as chunks.  A request counts as acknowledged once the initialization message is sent. -/
def sendLargeMessage (py : Runtime) (bus : Bus) (send : Send) (message : Value) (s : State) :
    Option Outcome :=
  match message.dict? with
  | none => some (.ok false, s)
  | some m => match Dict.get? m "frames" with
    | none => some (.ok false, s)
    | some frames => match plan m frames with
      | .error _ => some (.ok false, s)
      | .ok none => some (.ok false, s)
      | .ok (some p) => guarded (transfer bus send (sendChunk py bus) (storeAcknowledgment bus) p s)

/-- `RT_sender._send_message`, which may go through `_send_large_message` at most `depth` times. -/
def sendMessage (py : Runtime) (bus : Bus) : ℕ → Send
  | depth, message, s =>
    let sendLarge (large : Value) : Option Outcome :=
      match depth with
      | 0 => none
      | depth + 1 => sendLargeMessage py bus (sendMessage py bus depth) large s
    if s.isShuttingDown then some (.ok false, s)
    else match route message with
      | .raises e => some (.error e, s)
      | .large large => sendLarge large
      | .direct => match transmission message (bus.time s.timeReads) with
        | .error e => some (.error e, s)
        | .ok payload =>
          let s := if isStatusWordText message then { s with timeReads := s.timeReads + 1 } else s
          if Json.size py payload ≤ maxSafeSize then some (bus.send message payload s)
          else match simplify message payload with
            | .large large => sendLarge large
            | .payload payload => some (bus.send message payload s)
            | .fails => some (.ok false, s)

/-! ### What the messages of a transfer are -/

/-- A message with frames, a request id and metadata, as all messages of a transfer are. -/
def carrier (frames : List Value) (requestId : Value) (md : Message) : Message :=
  [("frames", .list frames), ("request_id", requestId), ("metadata", .dict md)]

/-- What `_send_message` hands over for such a message: its metadata is stripped, and stripped
further when the text is long. -/
def strippedPayload (py : Runtime) (frames : List Value) (requestId : Value) (md : Message) : Value :=
  let full := Value.dict [("frames", .list frames), ("request_id", requestId),
    ("metadata", .dict (essentialMetadata md requestId))]
  if Json.size py full ≤ maxSafeSize then full
  else .dict [("frames", .list frames), ("request_id", requestId), ("metadata", .dict [
    ("message_type", Dict.getD md "message_type" (.str "")),
    ("command_type", Dict.getD md "command_type" (.str "")),
    ("command_name", Dict.getD md "command_name" (.str ""))])]

theorem transmission_carrier (frames : List Value) (requestId : Value) {md : Message}
    (hmd : md ≠ []) (now : ℚ) :
    transmission (.dict (carrier frames requestId md)) now =
      .ok (.dict [("frames", .list frames), ("request_id", requestId),
        ("metadata", .dict (essentialMetadata md requestId))]) := by
  have hfields : generateFrames (carrier frames requestId md)
      (leadingFields (carrier frames requestId md) ++
        preservedFields (carrier frames requestId md)) =
      .ok [("frames", .list frames), ("request_id", requestId)] := rfl
  have hmetadata : Dict.getD (carrier frames requestId md) "metadata" .none = .dict md := rfl
  have hrequest : Dict.getD (carrier frames requestId md) "request_id" .none = requestId := rfl
  simp only [transmission, hmetadata, hrequest, logMetadata_dict, hfields,
    transmittedMetadata_dict hmd]
  rfl

theorem sendMessage_carrier (py : Runtime) (bus : Bus) (depth : ℕ) {frames : List Value}
    (requestId : Value) {md : Message} (hlen : frames.length ≤ maxFramesPerMessage)
    (hmd : md ≠ []) :
    Delivers bus (sendMessage py bus depth) false (carrier frames requestId md)
      (strippedPayload py frames requestId md) := by
  intro s hs
  have hlarge : BusController.isLarge (.dict (carrier frames requestId md)) = false := by
    simp [BusController.isLarge, carrier, frames?, Dict.get?, Nat.not_lt.mpr hlen]
  have hroute : route (.dict (carrier frames requestId md)) = .direct := by
    rw [route, hlarge]
    rfl
  unfold sendMessage
  simp only [hs, hroute, transmission_carrier frames requestId hmd, isStatusWordText,
    strippedPayload, Bool.false_eq_true, if_false]
  split_ifs <;> rfl

/-- What `_send_chunk` hands over. -/
def chunkWire (py : Runtime) (m : Message) : Value :=
  match chunkPayload py m with
  | .ok payload => payload
  | .error _ => .none

theorem chunkPayload_of_carries (py : Runtime) {m : Message} {frames : List Value}
    {phase : Bool × Bool × Bool} (h : Carries m frames phase) :
    chunkPayload py m = .ok (chunkWire py m) := by
  obtain ⟨md, hmetadata, hne⟩ := h.metadata_eq
  have hmd : Dict.getD m "metadata" .none = .dict md := by simp [Dict.getD, hmetadata]
  cases md with
  | nil => exact absurd rfl hne
  | cons e es =>
    simp only [chunkWire, chunkPayload, h.frames_eq, hmd]
    split_ifs <;> rfl

theorem sendChunk_of_carries (py : Runtime) (bus : Bus) (down : Bool) {m : Message}
    {frames : List Value} {phase : Bool × Bool × Bool} (h : Carries m frames phase) :
    Delivers bus (sendChunk py bus) down m (chunkWire py m) := by
  intro s hs
  simp only [sendChunk, chunkPayload_of_carries py h]

theorem sendMessage_shuttingDown (py : Runtime) (bus : Bus) (depth : ℕ) (message : Value)
    {s : State} (hs : s.isShuttingDown = true) :
    sendMessage py bus depth message s = some (.ok false, s) := by
  unfold sendMessage
  simp only [hs, if_true]

/-- The messages of a transfer are in the phases they are built for. -/
theorem messages_wellFormed (requestId : Value) (md : Message) (statusWord : Value)
    (dataFrames : List Value) : (messages requestId md statusWord dataFrames).WellFormed := by
  refine ⟨⟨_, ?_, ⟨rfl, ⟨_, rfl, by simp⟩, rfl⟩⟩, fun i => ⟨rfl, ⟨_, rfl, by simp⟩, rfl⟩,
    ⟨_, ?_, ⟨rfl, ⟨_, rfl, by simp⟩, rfl⟩⟩⟩
  · simp [maxFramesPerMessage, maxDataWordsPerMessage]
  · simp [maxFramesPerMessage, maxDataWordsPerMessage]

end Fmofp.Sender.RemoteTerminal
