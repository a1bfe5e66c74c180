import Fmofp.Bus.Message
import Fmofp.BlockTransfer.Processor

/-! `Remote_Terminal`: block transfers that are reassembled at the terminal itself.  A transfer is a record
under its request id; its words are kept in the order in which they come in, and it is over when a message
says so or when as many data messages came in as were announced. -/

namespace Fmofp.Terminal

open Python Bus BlockTransfer

/-- What `_block_transfer_state` keeps of a transfer. -/
structure Record where
  totalMessages : Value
  receivedMessages : ℕ
  dataBuffer : List Value
  timestamp : ℚ
  messageType : Value
  commandType : Value
  commandName : Value
  metadata : Message

/-- A message as the analyzer and the reassembly hand it on, with what was set on it afterwards. -/
structure ReceivedMessage where
  message : MilStd1553BMessage
  attributes : Message

structure Acknowledgment where
  rtAddress : Value
  requestId : Value
  commandType : String
  messageType : Value
  commandName : Value
  metadata : Message

/-- The records by request id, and the queue of the listener that the queue manager reads. -/
structure RemoteTerminal where
  blockTransferState : Dict Value Record
  processedMessages : List ReceivedMessage

def RemoteTerminal.initial : RemoteTerminal := ⟨[], []⟩

/-! ### Reading a frame -/

/-- The metadata of a frame; nothing if it is true and has no `get`. -/
def metadataOf (frame : Message) : Option Message :=
  match Dict.getD frame "metadata" (.dict []) with
  | .dict d => some d
  | v => if v.truthy then none else some []

def raised (frame metadata : Message) (k : String) : Bool := frame.flag k || metadata.flag k

/-- The part of a block transfer that a frame is. -/
def phaseOf (frame metadata : Message) : Option Phase :=
  if raised frame metadata "is_transfer_init" then some .init
  else if raised frame metadata "is_transfer_data" then some .data
  else if raised frame metadata "is_transfer_complete" then some .complete
  else none

/-- A field of the frame, or of the metadata where the frame has none. -/
def field (frame metadata : Message) (k : String) : Value :=
  match Dict.getD frame k .none with
  | .none => Dict.getD metadata k .none
  | v => v

/-- `frames[i]`: the keys of a dictionary are text. -/
def element (frames : Value) (i : ℕ) : Except Exception Value :=
  match frames with
  | .dict _ => .error .keyError
  | v => v.iterate.bind fun items => match items[i]? with
    | some item => .ok item
    | none => .error .indexError

/-- `frames[3:]` where there are more than three. -/
def payload (frames : Value) : Except Exception (List Value) := do
  let items ← frames.iterate
  if items.length ≤ 3 then return []
  else match frames with
    | .dict _ => throw .typeError
    | _ => return items.drop 3

/-- The number in the data bits of a word, if they are digits. -/
def wordNumber (py : Runtime) (word : Value) : Except Exception Value :=
  if word.truthy then
    match word with
    | .str s => match py.intBase2 (slice s 3 19) with
      | .ok n => .ok (.int n)
      | .error _ => .ok .none
    | _ => .error .typeError
  else .ok .none

/-- What the word at `i` says where the fields say nothing. -/
def headerNumber (py : Runtime) (frames : Value) (i : ℕ) (given : Value) : Except Exception Value :=
  if given = .none then (element frames i).bind (wordNumber py) else .ok given

/-- The two numbers of a transfer message: fields, or else the words behind the leading word. -/
def headerNumbers (py : Runtime) (frames first second : Value) : Except Exception (Value × Value) :=
  if first = .none ∨ second = .none then do
    let items ← frames.iterate
    if items.length < 3 then return (first, second)
    else return (← headerNumber py frames 1 first, ← headerNumber py frames 2 second)
  else .ok (first, second)

def orDefault (v : Value) (default : ℤ) : Value := if v = .none then .int default else v

def requestIdOf (frame : Message) : Value := Dict.getD frame "request_id" .none

def framesOf (frame : Message) : Value := Dict.getD frame "frames" (.list [])

def isFinal (frame metadata : Message) : Bool :=
  let own := Dict.getD frame "is_final" (.bool false)
  own.truthy || (Dict.getD metadata "is_final" own).truthy

/-- The address that an acknowledgment is sent under; 9 is the radar. -/
def replyAddress (frame metadata : Message) : Value :=
  let own := Dict.getD frame "rt_address" .none
  let address := if own.truthy then own else Dict.getD metadata "rt_address" .none
  if address.truthy then address else .int 9

/-! ### The message of a complete transfer -/

/-- The data bits of a word of 20 characters. -/
def dataValue (py : Runtime) (frame : Value) : Option ℤ :=
  match frame with
  | .str s => if s.length = 20 then (py.intBase2 (slice s 3 19)).toOption else none
  | _ => none

/-- The numbers of the words; what is no word is left out. -/
def reassembled (py : Runtime) (buffer : List Value) : List ℤ := buffer.filterMap (dataValue py)

def Record.rtAddress (r : Record) : Value := orDefault (Dict.getD r.metadata "rt_address" .none) 9

def Record.subAddress (r : Record) : Value :=
  let own := Dict.getD r.metadata "sub_address" .none
  orDefault (if own.truthy then own else Dict.getD r.metadata "subaddress" .none) 1

/-- The metadata that the constructor does not take. -/
def Record.furtherFields (r : Record) : Message :=
  r.metadata.filter fun e => decide (e.1 ∉ ["rt_address", "sub_address", "data", "message_type",
    "command_type", "command_name", "request_id"])

/-- `_process_complete_block_transfer`: the message is made by the constructor, which may raise. -/
def processCompleteBlockTransfer (py : Runtime) (requestId : Value) (r : Record) :
    Except Exception ReceivedMessage := do
  let message ← MilStd1553BMessage.init r.rtAddress r.subAddress
    (.list ((reassembled py r.dataBuffer).map Value.int)) r.messageType .none r.commandType r.commandName
    none [] bcToRt standardTransfer
  return {
    message
    attributes := Dict.update [("request_id", requestId), ("is_block_transfer", .bool true),
      ("block_transfer_complete", .bool true)] r.furtherFields }

/-! ### The three handlers -/

/-- What a frame makes of the record of its transfer: the record after it, the messages that it puts
into the queue and its acknowledgment, if there is one. -/
structure Reaction where
  record : Option Record
  appended : List ReceivedMessage
  acknowledgments : List Acknowledgment

/-- The transfer is over, whether or not a message could be made of it. -/
def finish (py : Runtime) (requestId : Value) (r : Record) (acknowledgments : List Acknowledgment) :
    Reaction :=
  ⟨none, (processCompleteBlockTransfer py requestId r).toOption.toList, acknowledgments⟩

def startRecord (now : ℚ) (metadata : Message) (totalMessages : Value) : Record where
  totalMessages := totalMessages
  receivedMessages := 0
  dataBuffer := []
  timestamp := now
  messageType := Dict.getD metadata "message_type" .none
  commandType := Dict.getD metadata "command_type" .none
  commandName := Dict.getD metadata "command_name" .none
  metadata := metadata

/-- `_handle_block_transfer_init`. -/
def handleBlockTransferInit (py : Runtime) (now : ℚ) (frame metadata : Message) (record : Option Record) :
    Reaction :=
  match headerNumbers py (framesOf frame) (field frame metadata "total_messages")
      (field frame metadata "total_frames") with
  | .error _ => ⟨record, [], []⟩
  | .ok (totalMessages, totalFrames) =>
    let r := startRecord now metadata (orDefault totalMessages 1)
    ⟨some r, [], [{
      rtAddress := replyAddress frame metadata
      requestId := requestIdOf frame
      commandType := "transfer_init_ack"
      messageType := r.messageType
      commandName := r.commandName
      metadata := [("is_transfer_init_ack", .bool true), ("total_messages", r.totalMessages),
        ("total_frames", orDefault totalFrames 0)] }]⟩

/-- `is_final or received_messages >= total_messages`: a total that is no number cannot be compared. -/
def isOver (final : Bool) (r : Record) : Except Exception Bool :=
  if final then .ok true
  else match r.totalMessages.number? with
    | some total => .ok (decide (total ≤ r.receivedMessages))
    | none => .error .typeError

/-- `_handle_block_transfer_data`: the sequence number only goes into the acknowledgment.  What was
counted and kept before an exception stays. -/
def handleBlockTransferData (py : Runtime) (now : ℚ) (frame metadata : Message) (record : Option Record) :
    Reaction :=
  match headerNumbers py (framesOf frame) (field frame metadata "sequence_number")
      (field frame metadata "total_sequences") with
  | .error _ => ⟨record, [], []⟩
  | .ok (sequenceNumber, totalSequences) =>
    let r := record.getD (startRecord now metadata (orDefault totalSequences 1))
    let r := { r with receivedMessages := r.receivedMessages + 1, timestamp := now }
    match payload (framesOf frame) with
    | .error _ => ⟨some r, [], []⟩
    | .ok words =>
      let r := { r with dataBuffer := r.dataBuffer ++ words }
      match isOver (isFinal frame metadata) r with
      | .error _ => ⟨some r, [], []⟩
      | .ok true => finish py (requestIdOf frame) r []
      | .ok false => ⟨some r, [], [{
          rtAddress := replyAddress frame metadata
          requestId := requestIdOf frame
          commandType := "transfer_data_ack"
          messageType := r.messageType
          commandName := r.commandName
          metadata := [("is_transfer_data_ack", .bool true),
            ("sequence_number", orDefault sequenceNumber 1),
            ("total_sequences", orDefault totalSequences 1),
            ("received_messages", .int r.receivedMessages), ("total_messages", r.totalMessages)] }]⟩

/-- `_handle_block_transfer_complete`. -/
def handleBlockTransferComplete (py : Runtime) (frame metadata : Message) (record : Option Record) :
    Reaction :=
  match record with
  | none => ⟨none, [], []⟩
  | some r => finish py (requestIdOf frame) r [{
      rtAddress := replyAddress frame metadata
      requestId := requestIdOf frame
      commandType := "transfer_complete_ack"
      messageType := r.messageType
      commandName := r.commandName
      metadata := [("is_transfer_complete_ack", .bool true), ("status", .str "success")] }]

def react (py : Runtime) (now : ℚ) (frame metadata : Message) (record : Option Record) : Phase → Reaction
  | .init => handleBlockTransferInit py now frame metadata record
  | .data => handleBlockTransferData py now frame metadata record
  | .complete => handleBlockTransferComplete py frame metadata record

/-! ### The terminal -/

/-- The dictionary with the record of `key` after a reaction. -/
def withRecord (records : Dict Value Record) (key : Value) : Option Record → Dict Value Record
  | some r => Dict.set records key r
  | none => Dict.erase records key

/-- What a step answers: the result of `process_frame`, and what it queued and acknowledged. -/
structure Answer where
  handled : Bool
  appended : List ReceivedMessage
  acknowledgments : List Acknowledgment

/-- The transfer that a frame belongs to, by the form of its request id as a key, and its part of it. -/
def transferOf (frame : Message) : Option (Value × Phase) :=
  match metadataOf frame with
  | none => none
  | some metadata => match phaseOf frame metadata with
    | none => none
    | some phase => if (requestIdOf frame).truthy then (requestIdOf frame).key?.map fun k => (k, phase) else none

/-- `process_frame` on a dictionary.  What the analyzer makes of a frame that is no part of a transfer is
`analyze`.  A transfer message without a request id, or with one that has no hash, changes nothing. -/
def processFrame (py : Runtime) (analyze : Message → Option ReceivedMessage) (now : ℚ) (frame : Message)
    (t : RemoteTerminal) : Answer × RemoteTerminal :=
  match metadataOf frame with
  | none => (⟨false, [], []⟩, t)
  | some metadata => match phaseOf frame metadata with
    | none => (⟨(analyze frame).isSome, (analyze frame).toList, []⟩,
        { t with processedMessages := t.processedMessages ++ (analyze frame).toList })
    | some _ => match transferOf frame with
      | none => (⟨true, [], []⟩, t)
      | some (key, phase) =>
        let r := react py now frame metadata (Dict.get? t.blockTransferState key) phase
        (⟨true, r.appended, r.acknowledgments⟩,
          { blockTransferState := withRecord t.blockTransferState key r.record
            processedMessages := t.processedMessages ++ r.appended })

def transferTimeout : ℚ := 60

def Record.isExpired (now : ℚ) (r : Record) : Bool := decide (transferTimeout < now - r.timestamp)

/-- `_cleanup_block_transfer_state`. -/
def cleanupBlockTransferState (now : ℚ) (t : RemoteTerminal) : RemoteTerminal :=
  { t with blockTransferState := t.blockTransferState.filter fun e => !e.2.isExpired now }

/-- One thing that the frame loop does: a frame that the listener received, or its cleanup. -/
inductive Input where
  | frame (now : ℚ) (message : Message)
  | cleanup (now : ℚ)

def step (py : Runtime) (analyze : Message → Option ReceivedMessage) (t : RemoteTerminal) :
    Input → Answer × RemoteTerminal
  | .frame now frame => processFrame py analyze now frame t
  | .cleanup now => (⟨true, [], []⟩, cleanupBlockTransferState now t)

end Fmofp.Terminal
