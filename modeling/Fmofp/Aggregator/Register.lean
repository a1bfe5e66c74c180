import Fmofp.Aggregator.Frames
import Fmofp.Machine.Run

/-! `BlockTransferAggregator`: the transfers in progress, what one message does to them, and the
message that a finished transfer becomes. -/

namespace Fmofp.Aggregator

open Python

/-- A transfer in progress. -/
structure Transfer where
  initMessage : Option Message
  dataMessages : List Message
  completeMessage : Option Message
  metadata : Message
  originalMessageType : Value
  originalCommandType : Value

/-- The aggregator's state, with request ids in the form under which a dictionary finds them. -/
structure State where
  pendingTransfers : Dict Value Transfer
  transferTimeouts : Dict Value ℚ
  lastCleanup : ℚ

def transferTimeout : ℚ := 5
def cleanupInterval : ℚ := 10

def State.fresh (now : ℚ) : State := ⟨[], [], now⟩

def State.put (a : State) (key : Value) (t : Transfer) : State :=
  { a with pendingTransfers := Dict.set a.pendingTransfers key t }

def State.setTimeout (a : State) (key : Value) (now : ℚ) : State :=
  { a with transferTimeouts := Dict.set a.transferTimeouts key (now + transferTimeout) }

def State.remove (a : State) (key : Value) : State :=
  { a with
    pendingTransfers := Dict.erase a.pendingTransfers key
    transferTimeouts := Dict.erase a.transferTimeouts key }

/-- A result that may be an exception, and the state that the call leaves behind either way. -/
abbrev Outcome := Except Exception (Option Message) × State

/-- `sub in v.lower()`, which only text has. -/
def lowerContains (py : Runtime) (v : Value) (sub : String) : Except Exception Bool :=
  match v with
  | .str s => .ok (contains (py.lower s) sub)
  | _ => .error .attributeError

def hasManyFrames (m : Message) : Bool :=
  (frames? m).any fun frames => decide (20 < frames.length)

/-- The message that the result starts from: the initialization message or the first data message. -/
def Transfer.base? (t : Transfer) : Option Message := t.initMessage.or t.dataMessages.head?

/-- Whether a finished transfer is precipitation or VIL data, of which the first goes first.  Many
frames in one message are taken for precipitation. -/
def detectKind (py : Runtime) (t : Transfer) (base : Message) : Except Exception (Bool × Bool) := do
  let precipitation := (← lowerContains py t.originalMessageType "precipitation") ||
    isPrecipitationMessage py base || t.dataMessages.any hasManyFrames
  let vil := !precipitation && ((← lowerContains py t.originalMessageType "vil") ||
    isVilMessage py base || t.dataMessages.any hasManyFrames)
  return (precipitation, vil)

/-- The first command name that is true, from all messages of the transfer. -/
def commandName (t : Transfer) (base : Message) (precipitation : Bool) : Value :=
  let sources := base :: t.dataMessages ++ t.initMessage.toList ++ t.completeMessage.toList
  let found := (sources.findSome? fun m =>
    (Dict.get? m "command_name").filter Value.truthy).getD .none
  if precipitation && (!found.truthy || found == .str "NONE") then
    .str "DISPLAY_PRECIPITATION_DATA"
  else found

def setIfTruthy (m : Message) (k : String) (v : Value) : Message :=
  if v.truthy then Dict.set m k v else m

/-- The metadata of the result before its data is known. -/
def mergedMetadata (t : Transfer) (now : ℚ) (messageType commandType name : Value) (md : Message) :
    Message :=
  let md := Dict.update md t.metadata
  let md := Dict.set md "aggregated_block_transfer" (.bool true)
  let md := Dict.set md "aggregation_timestamp" (.float now)
  let md := Dict.set md "message_type" messageType
  let md := Dict.set md "command_type" commandType
  setIfTruthy md "command_name" name

/-- The data arrays of the data messages, one after the other as they arrived. -/
def combinedData (t : Transfer) : List Value := t.dataMessages.flatMap fun m => (dataList? m).getD []

/-- The data of the result: the arrays, or what the frames of precipitation data hold. -/
def transferData (py : Runtime) (t : Transfer) (precipitation : Bool) :
    Except Exception (List Value) :=
  if (combinedData t).isEmpty && precipitation then
    BusController.extractPrecipitationDataFromFrames py t.dataMessages
  else .ok (combinedData t)

/-- The flags that mark precipitation data. -/
def precipitationFlags (md : Message) : Message :=
  let md := Dict.set md "precipitation_message" (.bool true)
  let md := Dict.set md "precipitation_data" (.bool true)
  let md := Dict.set md "data_type" (.str "precipitation")
  Dict.set md "precip_data_available" (.bool true)

/-- The metadata that the result shares with the base message is changed in place. -/
def Transfer.withBaseMetadata (t : Transfer) (md : Message) : Transfer :=
  let put (m : Message) : Message :=
    if Dict.has m "metadata" then Dict.set m "metadata" (.dict md) else m
  match t.initMessage, t.dataMessages with
  | some m, _ => { t with initMessage := some (put m) }
  | none, m :: rest => { t with dataMessages := put m :: rest }
  | none, [] => t

/-- The aggregated message, or an exception with the transfer as it then is. -/
def aggregate (py : Runtime) (now : ℚ) (t : Transfer) (base : Message) :
    Except (Exception × Transfer) Message :=
  match detectKind py t base with
  | .error e => .error (e, t)
  | .ok (precipitation, vil) =>
    let messageType := if precipitation then .str "weather_radarPrecipitationResponse"
      else if vil then .str "weather_radarVILResponse" else t.originalMessageType
    let commandType := if precipitation then .str "precipitation_data"
      else if vil then .str "vil_data" else t.originalCommandType
    let name := commandName t base precipitation
    let result := Dict.set base "message_type" messageType
    let result := Dict.set result "command_type" commandType
    let result := setIfTruthy result "command_name" name
    match (Dict.getD result "metadata" (.dict [])).dict? with
    | none => .error (.attributeError, t)
    | some md =>
      let md := mergedMetadata t now messageType commandType name md
      match transferData py t precipitation with
      | .error e => .error (e, t.withBaseMetadata md)
      | .ok data =>
        let md := if precipitation then precipitationFlags md else md
        let md := Dict.set md "data_size" (.int data.length)
        .ok (Dict.set (Dict.set result "metadata" (.dict md)) "data" (.list data))

/-- `_finalize_transfer`. -/
def finalizeTransfer (py : Runtime) (now : ℚ) (key : Value) (a : State) : Outcome :=
  match Dict.get? a.pendingTransfers key with
  | none => (.ok none, a)
  | some t => match t.base? with
    | none => (.ok none, a)
    | some base => match aggregate py now t base with
      | .error (e, t) => (.error e, a.put key t)
      | .ok result => (.ok (some result), a.remove key)

section Finalize

variable {py : Runtime} {now : ℚ} {key : Value} {a : State} {t : Transfer} {base : Message}
  (ht : Dict.get? a.pendingTransfers key = some t)

include ht

theorem finalizeTransfer_empty (hbase : t.base? = none) :
    finalizeTransfer py now key a = (.ok none, a) := by
  simp only [finalizeTransfer, ht, hbase]

theorem finalizeTransfer_ok (hbase : t.base? = some base) {result : Message}
    (h : aggregate py now t base = .ok result) :
    finalizeTransfer py now key a = (.ok (some result), a.remove key) := by
  simp only [finalizeTransfer, ht, hbase, h]

theorem finalizeTransfer_error (hbase : t.base? = some base) {e : Exception} {t' : Transfer}
    (h : aggregate py now t base = .error (e, t')) :
    finalizeTransfer py now key a = (.error e, a.put key t') := by
  simp only [finalizeTransfer, ht, hbase, h]

end Finalize

/-- A transfer that starts with a message; its types are those of the message unless given. -/
def newTransfer (py : Runtime) (m : Message) (init : Option Message) (data : List Message)
    (complete : Option Message) : Transfer where
  initMessage := init
  dataMessages := data
  completeMessage := complete
  metadata := extractMetadata m
  originalMessageType := extractMessageType py m
  originalCommandType := extractCommandType py m

/-- The transfer that data without an initialization message starts.  The types of precipitation
data are corrected, which raises for types that are not text. -/
def unannouncedTransfer (py : Runtime) (m : Message) : Except Exception Transfer := do
  let t := newTransfer py m none [] none
  if isPrecipitationMessage py m then
    let messageType := if ← lowerContains py t.originalMessageType "precipitation"
      then t.originalMessageType else .str "weather_radarPrecipitationResponse"
    let commandType := if ← lowerContains py t.originalCommandType "precipitation"
      then t.originalCommandType else .str "precipitation_data"
    return { t with originalMessageType := messageType, originalCommandType := commandType }
  else return t

def marksFinal (m : Message) : Except Exception Bool :=
  if m.flag "is_final" then .ok true
  else ((Dict.getD m "metadata" (.dict [])).get "is_final" (.bool false)).map Value.truthy

/-- The number of a data message and the total, from the metadata or else from the message. -/
def sequenceNumbers (m : Message) : Except Exception (Value × Value) := do
  let metadata := Dict.getD m "metadata" (.dict [])
  let number ← metadata.get "sequence_number" .none
  let total ← metadata.get "total_sequences" .none
  return (if number.truthy then number else Dict.getD m "sequence_number" (.int 0),
    if total.truthy then total else Dict.getD m "total_sequences" (.int 0))

/-- Whether a data message is the last one: it says so, or its number is the total. -/
def isFinalMessage (m : Message) : Except Exception Bool := do
  let marked ← marksFinal m
  let (number, total) ← sequenceNumbers m
  return marked || ((← total.positive) && number.number? == total.number?)

def registerInit (py : Runtime) (now : ℚ) (key : Value) (m : Message) (a : State) : Outcome :=
  (.ok none, (a.put key (newTransfer py m (some m) [] none)).setTimeout key now)

def Transfer.addData (t : Transfer) (m : Message) : Transfer :=
  { t with dataMessages := t.dataMessages ++ [m] }

/-- The pending transfer, or the one that the message starts. -/
def State.transferFor (a : State) (py : Runtime) (key : Value) (m : Message) :
    Except Exception Transfer :=
  match Dict.get? a.pendingTransfers key with
  | some t => .ok t
  | none => unannouncedTransfer py m

def registerData (py : Runtime) (now : ℚ) (key : Value) (m : Message) (a : State) : Outcome :=
  match a.transferFor py key m with
  | .error e => (.error e, a)
  | .ok t =>
    let a := (a.put key (t.addData m)).setTimeout key now
    match isFinalMessage m with
    | .error e => (.error e, a)
    | .ok true => finalizeTransfer py now key a
    | .ok false => (.ok none, a)

def hasData (m : Message) : Bool := (dataList? m).any fun items => !items.isEmpty

/-- A completion message.  For an unknown transfer it passes through, unless it has data itself. -/
def registerCompletion (py : Runtime) (now : ℚ) (key : Value) (m : Message) (a : State) : Outcome :=
  match Dict.get? a.pendingTransfers key with
  | some t => finalizeTransfer py now key (a.put key { t with completeMessage := some m })
  | none =>
    if hasData m then finalizeTransfer py now key (a.put key (newTransfer py m none [m] (some m)))
    else (.ok (some m), a)

/-- The state once a message with frames is kept. -/
def State.collect (a : State) (py : Runtime) (now : ℚ) (key : Value) (m : Message) : State :=
  match Dict.get? a.pendingTransfers key with
  | some t => a.put key (t.addData m)
  | none => (a.put key (newTransfer py m none [m] none)).setTimeout key now

def State.collected (a : State) (key : Value) : List Message :=
  ((Dict.get? a.pendingTransfers key).map Transfer.dataMessages).getD []

/-- A message with frames and no transfer flag.  Two such messages, or one with data, are taken for a
whole transfer. -/
def registerFrames (py : Runtime) (now : ℚ) (key : Value) (m : Message) (a : State) : Outcome :=
  let a := a.collect py now key m
  if (a.collected key).any hasData || decide (1 < (a.collected key).length) then
    finalizeTransfer py now key a
  else (.ok none, a)

/-- `_cleanup_expired_transfers`. -/
def cleanupExpiredTransfers (now : ℚ) (a : State) : State :=
  let live (key : Value) : Bool := (Dict.get? a.transferTimeouts key).all fun t => decide (now ≤ t)
  { a with
    pendingTransfers := a.pendingTransfers.filter fun e => live e.1
    transferTimeouts := a.transferTimeouts.filter fun e => live e.1 }

/-- The sweep at the start of a call, ten seconds after the last one at the earliest. -/
def sweep (now : ℚ) (a : State) : State :=
  if cleanupInterval < now - a.lastCleanup then
    { cleanupExpiredTransfers now a with lastCleanup := now }
  else a

/-- A call of `register_message`: the message, and what the clock reads during the call. -/
structure Call where
  now : ℚ
  message : Message

/-- What a message with the request id `key` does, by its transfer flags. -/
def handle (py : Runtime) (now : ℚ) (key : Value) (m : Message) (a : State) : Outcome :=
  match getTransferFlags m with
  | (true, _, _) => registerInit py now key m a
  | (false, true, _) => registerData py now key m a
  | (false, false, true) => registerCompletion py now key m a
  | (false, false, false) =>
    if (frames? m).isSome then registerFrames py now key m a else (.ok (some m), a)

/-- What a call does after the sweep. -/
def dispatch (py : Runtime) (now : ℚ) (m : Message) (a : State) : Outcome :=
  let requestId := Dict.getD m "request_id" .none
  if requestId.truthy then
    match requestId.key? with
    | none => (.error .typeError, a)
    | some key => handle py now key m a
  else (.ok (some m), a)

/-- `register_message` on a dictionary. -/
def registerMessage (py : Runtime) (a : State) (c : Call) : Outcome :=
  dispatch py c.now c.message (sweep c.now a)

theorem registerMessage_keyed (py : Runtime) (a : State) {c : Call} {id key : Value}
    (hid : Dict.get? c.message "request_id" = some id) (htruthy : id.truthy = true)
    (hkey : id.key? = some key) :
    registerMessage py a c = handle py c.now key c.message (sweep c.now a) := by
  have hget : Dict.getD c.message "request_id" .none = id := by simp [Dict.getD, hid]
  simp only [registerMessage, dispatch, hget, htruthy, if_true, hkey]

/-- The sweep at the start of the call removes nothing. -/
def expiresNothing (a : State) (c : Call) : Prop :=
  cleanupInterval < c.now - a.lastCleanup → ∀ e ∈ a.transferTimeouts, c.now ≤ e.2

instance (a : State) (c : Call) : Decidable (expiresNothing a c) :=
  inferInstanceAs (Decidable (_ → _))

theorem sweep_eq {a : State} {c : Call} (h : expiresNothing a c) :
    ∃ swept, sweep c.now a = { a with lastCleanup := swept } := by
  unfold sweep
  split_ifs with hdue
  · refine ⟨c.now, ?_⟩
    have hlive : ∀ key, (Dict.get? a.transferTimeouts key).all (fun t => decide (c.now ≤ t)) = true := by
      intro key
      cases ht : Dict.get? a.transferTimeouts key with
      | none => rfl
      | some t => simpa using h hdue (key, t) (Dict.mem_of_get?_eq_some ht)
    simp only [cleanupExpiredTransfers, hlive, List.filter_true]
  · exact ⟨a.lastCleanup, rfl⟩

end Fmofp.Aggregator
