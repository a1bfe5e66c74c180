import Fmofp.Machine.Run
import Fmofp.Metadata.Decode
import Fmofp.Metadata.Framing
import Fmofp.Python.Json

/-! What the listeners of the two ends of the bus do with a text that has arrived as a whole: the part of
`handle_connection` that appends to `data_received`. -/

namespace Fmofp.Listener

open Python

/-- How the processing of a text ends: with the time of the activity set, without it, or with an exception that
closes the connection. -/
inductive Ending where
  | stamped
  | unstamped
  | raised
  deriving DecidableEq

/-- What is appended to `data_received`, and how the processing ends. -/
structure Handled where
  stored : Option Value
  ending : Ending

/-- Only a `ValueError` is caught where the text is processed. -/
def handled : Except Exception Handled → Handled
  | .ok result => result
  | .error .valueError => ⟨none, .stamped⟩
  | .error _ => ⟨none, .raised⟩

/-- `v[key]`, for a key that is text. -/
def item (v : Value) (key : String) : Except Exception Value :=
  match v with
  | .dict es => (Dict.get? es key).elim (.error .keyError) .ok
  | _ => .error .typeError

def copyField (source target : Message) (field : String) : Message :=
  match Dict.get? source field with
  | some v => Dict.set target field v
  | none => target

/-! ### Frames -/

/-- Whether a frame is kept: twenty characters with a known sync pattern. -/
def keepsFrame (frame : Value) : Except Exception Bool := do
  let n ← frame.length
  if n ≠ 20 then return false
  match frame with
  | .str s => return startsWith s "100" || startsWith s "001"
  | .dict _ => .error .typeError
  | _ => return false

/-- The frames that are valid are stored with the request id if there is one. -/
def processFrames (message : List Value → Value → Value) (frames requestId : Value) : Except Exception Handled := do
  let items ← frames.iterate
  let validFrames ← items.filterM keepsFrame
  if validFrames.isEmpty then return ⟨none, .stamped⟩
  return ⟨some (if requestId.truthy then message validFrames requestId else .list validFrames), .stamped⟩

/-- A flag of a block transfer, at the top level or in the metadata. -/
def transferFlag (parsed : Message) (flag : String) : Bool :=
  parsed.flag flag || ((Dict.get? parsed "metadata").bind Value.dict?).elim false fun es => Message.flag es flag

/-- The block of a transfer is logged with its place in the sequence, which reads metadata that may have none. -/
def logTransfer (parsed : Message) : Except Exception Unit :=
  let metadata := Dict.getD parsed "metadata" (.dict [])
  let read (field : String) : Except Exception Value :=
    if parsed.flag field then .ok (Dict.getD parsed field .none) else metadata.get field (.int 0)
  if !transferFlag parsed "is_transfer_init" && transferFlag parsed "is_transfer_data" then do
    let _ ← read "sequence_number"
    let _ ← read "total_sequences"
    return ()
  else .ok ()

def transferFlags : List String := ["is_transfer_init", "is_transfer_data", "is_transfer_complete"]

/-- A text that has arrived: an object, a list of frames, or one frame. -/
def processText (py : Runtime) (processMessage : Message → Except Exception Handled) (decodedData : String) : Handled :=
  let withoutId : List Value → Value → Value := fun frames _ => .list frames
  handled <|
    if startsWith decodedData "\x7b" then
      match py.jsonLoads decodedData with
      | none => .error .valueError
      | some (.dict parsed) => processMessage parsed
      | some _ => .error .attributeError
    else if startsWith decodedData "[" then
      match py.jsonLoads decodedData with
      | none => .error .valueError
      | some frames => processFrames withoutId frames .none
    else processFrames withoutId (.list [.str decodedData]) .none

/-! ### The bus controller -/

namespace BusController

/-- The message that is stored for frames with a request id: flags of a block transfer that only the metadata have
come to the top level. -/
def frameMessage (parsed : Message) (frames : List Value) (requestId : Value) : Value :=
  let message : Message := [("frames", .list frames), ("request_id", requestId)]
  let message := transferFlags.foldl (copyField parsed) (copyField parsed message "command_name")
  match Dict.get? parsed "metadata" with
  | none => .dict message
  | some metadata =>
    let message := Dict.set message "metadata" metadata
    match metadata.dict? with
    | none => .dict message
    | some es => .dict (transferFlags.foldl
        (fun message flag => if Dict.has message flag then message else copyField es message flag) message)

def transferFields : List String :=
  ["is_transfer_init", "is_transfer_data", "is_transfer_complete", "sequence_number", "total_sequences", "is_final",
    "data"]

def criticalTransferFields : List String :=
  ["sequence_number", "total_sequences", "is_final", "is_transfer_init", "is_transfer_data", "is_transfer_complete"]

/-- A field of the transfer from the top level, or else from the metadata. -/
def copyTransferField (parsed message : Message) (field : String) : Except Exception Message :=
  match Dict.get? parsed field with
  | some v => .ok (Dict.set message field v)
  | none =>
    let metadata := Dict.getD parsed "metadata" .none
    if metadata.truthy then do
      let found ← metadata.holds field
      if found then (item metadata field).map (Dict.set message field) else return message
    else .ok message

/-- The metadata are the authority for a field that they have, and get one that they do not have. -/
def synchronizeField (message : Message) (field : String) : Except Exception Message := do
  let metadata := Dict.getD message "metadata" .none
  let found ← metadata.holds field
  if found then (item metadata field).map (Dict.set message field)
  else match Dict.get? message field, metadata with
    | none, _ => return message
    | some v, .dict es => return Dict.set message "metadata" (.dict (Dict.set es field v))
    | some _, _ => .error .typeError

/-- A mode in the metadata is logged. -/
def logMode (metadata : Value) (key : String) : Except Exception Unit := do
  let found ← metadata.holds key
  if found then (item metadata key).map fun _ => () else return ()

/-- The acknowledgment that is stored for a status word. -/
def statusMessage (now : ℚ) (parsed : Message) (statusWord : String) : Except Exception Message := do
  let message : Message :=
    [("status_word", .str statusWord), ("request_id", Dict.getD parsed "request_id" .none),
      ("timestamp", Dict.getD parsed "timestamp" (.float now))]
  let message ← transferFields.foldlM (copyTransferField parsed) message
  let message := ["command_type", "message_type", "command_name"].foldl (copyField parsed) message
  let metadata := Dict.getD parsed "metadata" .none
  if metadata.truthy then do
    logMode metadata "mode"
    logMode metadata "mode_value"
    criticalTransferFields.foldlM synchronizeField (Dict.set message "metadata" metadata)
  else return message

/-- After the message is stored, a completed change of mode is logged from metadata that must be a dictionary. -/
def statusEnding (parsed : Message) : Ending :=
  let metadata := Dict.getD parsed "metadata" .none
  if Dict.getD parsed "command_type" .none = .str "mode_change_completion" ∧ metadata.truthy = true ∧
      metadata.dict? = none then .raised
  else .unstamped

/-- A status word of which the characters other than `0` and `1` are dropped. -/
def processStatus (now : ℚ) (parsed : Message) (statusWord : Value) : Except Exception Handled := do
  let items ← statusWord.iterate
  let texts ← items.mapM fun
    | .str s => Except.ok s
    | _ => Except.error Exception.typeError
  let cleaned := String.join (texts.filter fun s => contains "01" s)
  if cleaned.length ≠ 20 then return ⟨none, .unstamped⟩
  if startsWith cleaned "100" = false then return ⟨none, .unstamped⟩
  let message ← statusMessage now parsed cleaned
  return ⟨some (.dict message), statusEnding parsed⟩

def processMessage (now : ℚ) (parsed : Message) : Except Exception Handled := do
  logTransfer parsed
  match Dict.get? parsed "status_word" with
  | some statusWord => processStatus now parsed statusWord
  | none =>
    processFrames (frameMessage parsed) (Dict.getD parsed "frames" (.list [])) (Dict.getD parsed "request_id" .none)

end BusController

/-! ### The remote terminal -/

namespace RemoteTerminal

/-- The metadata that words of the data field hold are merged into those of the message; what raises is logged. -/
def decodeData (py : Runtime) (parsed : Message) : Message :=
  let potentialMetadata := ((Dict.get? parsed "data").bind Value.list?).getD [] |>.filterMap fun
    | .str s => if s.length = 20 then some s else none
    | _ => none
  let decoded : Except Exception Message := do
    let (metadataWords, _) ← Metadata.extractMetadataWords py potentialMetadata
    if metadataWords.isEmpty then return [] else Metadata.decodeMetadata py metadataWords
  let metadata := decoded.toOption.getD []
  if metadata.isEmpty then parsed
  else
    let current := Dict.getD parsed "metadata" .none
    if current.truthy then
      match current with
      | .dict es => Dict.set parsed "metadata" (.dict (Dict.update es metadata))
      | _ => parsed
    else Dict.set parsed "metadata" (.dict (Dict.update [] metadata))

def frameMessage (parsed : Message) (frames : List Value) (requestId : Value) : Value :=
  .dict (["command_name", "metadata"].foldl (copyField parsed) [("frames", .list frames), ("request_id", requestId)])

def processMessage (py : Runtime) (message : Message) : Except Exception Handled := do
  let parsed := decodeData py message
  logTransfer parsed
  processFrames (frameMessage parsed) (Dict.getD parsed "frames" (.list [])) (Dict.getD parsed "request_id" .none)

end RemoteTerminal

/-- The two listeners. -/
inductive Terminal where
  | busController
  | remoteTerminal
  deriving DecidableEq

/-- What the listener does with a text that has arrived. -/
def Terminal.process (py : Runtime) (now : ℚ) (decodedData : String) : Terminal → Handled
  | .busController => processText py (BusController.processMessage now) decodedData
  | .remoteTerminal => processText py (RemoteTerminal.processMessage py) decodedData

end Fmofp.Listener

/-! `handle_connection`: the rounds in which a listener receives the bytes of a connection and puts them together
again.  However the bytes of a message are cut, the message is processed once, with its last bytes. -/

namespace Fmofp.Listener

open Python Machine

/-- `_MAX_RECV_BUFFER_BYTES`. -/
def maxRecvBufferBytes : ℕ := 10 * 1024 * 1024

/-- `CONNECTION_IDLE_TIMEOUT_S`. -/
def connectionIdleTimeout : ℚ := 30

/-- The variables of `handle_connection` and what it sets of the listener; `isOpen` says that its loop runs. -/
structure Connection where
  recvBuffer : List UInt8
  lastDataTime : ℚ
  isOpen : Bool
  dataReceived : List Value
  lastActivityTime : ℚ

/-- What `select` and `recv` give in a round, with the clock: nothing to read, or bytes, none of which are left when
the peer has closed the connection. -/
inductive Round where
  | silent (now : ℚ)
  | received (now : ℚ) (data : List UInt8)

/-- The bytes that are received in a round. -/
def Round.data : Round → List UInt8
  | .silent _ => []
  | .received _ data => data

/-- The text is processed and the buffer is empty again. -/
def Connection.finish (c : Connection) (now : ℚ) (result : Handled) : Connection :=
  { c with
    recvBuffer := []
    dataReceived := c.dataReceived ++ result.stored.toList
    lastActivityTime := if result.ending = .stamped then now else c.lastActivityTime
    isOpen := decide (result.ending ≠ .raised) }

/-- Whether a text may be the beginning of a JSON message: it looks like one and cannot be parsed. -/
def incomplete (py : Runtime) (decodedData : String) : Bool :=
  (startsWith decodedData "\x7b" || startsWith decodedData "[") && (py.jsonLoads decodedData).isNone

/-- The buffer with new bytes: the text that is processed now, if one is. -/
def Connection.receive (py : Runtime) (terminal : Terminal) (c : Connection) (now : ℚ) (data : List UInt8) :
    Option String × Connection :=
  let recvBuffer := c.recvBuffer ++ data
  if maxRecvBufferBytes < recvBuffer.length then (none, { c with recvBuffer := [] })
  else match Utf8.decode recvBuffer with
    | none => (none, { c with recvBuffer := recvBuffer })
    | some decodedData =>
      if incomplete py decodedData then (none, { c with recvBuffer := recvBuffer })
      else (some decodedData, c.finish now (terminal.process py now decodedData))

/-- A round of the loop, which answers the text that it processes. -/
def handleRound (py : Runtime) (terminal : Terminal) (c : Connection) (round : Round) : Option String × Connection :=
  if c.isOpen then
    match round with
    | .silent now =>
      (none, if connectionIdleTimeout ≤ now - c.lastDataTime then { c with isOpen := false } else c)
    | .received now data =>
      let c := { c with lastDataTime := now }
      if data = [] then (none, { c with isOpen := false }) else c.receive py terminal now data
  else (none, c)

/-- A text that holds a JSON object: it can be parsed, and no proper front part of it can. -/
structure ObjectText (py : Runtime) (text : String) : Prop where
  opens : startsWith text "\x7b" = true
  parses : (py.jsonLoads text).isSome = true
  fronts : ∀ front rest, text = front ++ rest → rest ≠ "" → py.jsonLoads front = none

/-- The silence of a round does not close the connection. -/
def Patient (c : Connection) : Round → Prop
  | .silent now => now - c.lastDataTime < connectionIdleTimeout
  | .received _ _ => True

instance (c : Connection) : ∀ round, Decidable (Patient c round)
  | .silent now => inferInstanceAs (Decidable (now - c.lastDataTime < connectionIdleTimeout))
  | .received _ _ => .isTrue trivial

/-! ### Rounds -/

/-- What `json.dumps` makes of a dictionary opens like an object. -/
theorem dumps_dict_opens (py : Runtime) (es : Message) :
    startsWith (String.ofList (Json.dumps py (.dict es))) "\x7b" = true := by
  rw [startsWith, Json.dumps, String.toList_ofList, String.toList_ofList]
  rfl

section Rounds

variable {py : Runtime} {terminal : Terminal} {text : String} {c : Connection}

/-- A front part of an object text is text that looks like an incomplete message, or no text at all. -/
theorem incomplete_of_front (htext : ObjectText py text) {front rest : List UInt8}
    (hbytes : front ++ rest = Utf8.encode text) (hfront : front ≠ []) (hrest : rest ≠ []) {decodedData : String}
    (hdecode : Utf8.decode front = some decodedData) : incomplete py decodedData = true := by
  obtain ⟨u, rfl, hu⟩ := Utf8.decode_append hbytes hdecode
  have hne : u ≠ "" := by
    rintro rfl
    exact hrest (hu.symm.trans Utf8.encode_empty)
  have hopens : startsWith decodedData "\x7b" = true := by
    have hall := htext.opens
    rw [startsWith, List.isPrefixOf_iff_prefix, String.toList_append] at hall
    rw [startsWith, List.isPrefixOf_iff_prefix]
    cases hchars : decodedData.toList with
    | nil =>
      rw [String.toList_eq_nil_iff] at hchars
      rw [hchars] at hdecode
      exact absurd ((Utf8.encode_of_decode hdecode).symm.trans Utf8.encode_empty) hfront
    | cons d ds =>
      rw [hchars, List.cons_append] at hall
      obtain ⟨tail, htail⟩ := hall
      have hd := (List.cons.inj htail).1
      rw [← hd]
      exact ⟨ds, rfl⟩
  rw [incomplete, hopens, htext.fronts decodedData u rfl hne]
  rfl

/-- Bytes that are not yet the whole message are kept. -/
theorem receive_of_front (htext : ObjectText py text) (hsize : (Utf8.encode text).length ≤ maxRecvBufferBytes)
    {data rest : List UInt8} (hbytes : c.recvBuffer ++ data ++ rest = Utf8.encode text) (hdata : data ≠ [])
    (hrest : rest ≠ []) (now : ℚ) :
    c.receive py terminal now data = (none, { c with recvBuffer := c.recvBuffer ++ data }) := by
  have hlength : (c.recvBuffer ++ data).length ≤ maxRecvBufferBytes := by
    rw [← hbytes, List.length_append] at hsize
    omega
  have hfront : c.recvBuffer ++ data ≠ [] := fun h => hdata (List.append_eq_nil_iff.mp h).2
  unfold Connection.receive
  dsimp only
  rw [if_neg (by omega)]
  cases hdecode : Utf8.decode (c.recvBuffer ++ data) with
  | none => rfl
  | some decodedData =>
    dsimp only
    rw [if_pos (incomplete_of_front htext hbytes hfront hrest hdecode)]

/-- The last bytes of the message: it is processed as a whole. -/
theorem receive_of_all (htext : ObjectText py text) (hsize : (Utf8.encode text).length ≤ maxRecvBufferBytes)
    {data : List UInt8} (hbytes : c.recvBuffer ++ data = Utf8.encode text) (now : ℚ) :
    c.receive py terminal now data = (some text, c.finish now (terminal.process py now text)) := by
  have hcomplete : incomplete py text = false := by
    obtain ⟨v, hv⟩ := Option.isSome_iff_exists.mp htext.parses
    rw [incomplete, hv, Option.isNone_some, Bool.and_false]
  unfold Connection.receive
  dsimp only
  rw [hbytes, if_neg (by omega), Utf8.decode_encode]
  dsimp only
  rw [hcomplete, if_neg Bool.false_ne_true]

/-- The rounds before the last bytes process nothing and gather what they receive. -/
theorem rounds_gather (htext : ObjectText py text) (hsize : (Utf8.encode text).length ≤ maxRecvBufferBytes)
    {rounds : List Round} {last : List UInt8} (hopen : c.isOpen = true)
    (hbytes : c.recvBuffer ++ rounds.flatMap Round.data ++ last = Utf8.encode text) (hlast : last ≠ [])
    (hnonempty : ∀ t, Round.received t [] ∉ rounds) (hpatient : Along (handleRound py terminal) Patient c rounds) :
    outputs (handleRound py terminal) c rounds = List.replicate rounds.length none ∧
      ∃ t, final (handleRound py terminal) c rounds =
        { c with recvBuffer := c.recvBuffer ++ rounds.flatMap Round.data, lastDataTime := t } := by
  induction rounds generalizing c with
  | nil => exact ⟨rfl, c.lastDataTime, by rw [List.flatMap_nil, List.append_nil]; rfl⟩
  | cons round rounds ih =>
    obtain ⟨hround, hpatient⟩ := hpatient
    have hnonempty' : ∀ t, Round.received t [] ∉ rounds := fun t h => hnonempty t (List.mem_cons_of_mem _ h)
    rw [List.flatMap_cons] at hbytes ⊢
    cases round with
    | silent now =>
      have hstep : handleRound py terminal c (.silent now) = (none, c) := by
        unfold handleRound
        rw [if_pos hopen]
        dsimp only
        rw [if_neg (not_le.mpr hround)]
      rw [hstep] at hpatient
      rw [outputs_cons, final_cons, hstep, List.length_cons, List.replicate_succ]
      obtain ⟨houtputs, hfinal⟩ := ih hopen hbytes hnonempty' hpatient
      exact ⟨by rw [houtputs], hfinal⟩
    | received now data =>
      have hdata : data ≠ [] := by
        rintro rfl
        exact hnonempty now List.mem_cons_self
      have hdataBytes : (Round.received now data).data = data := rfl
      rw [hdataBytes] at hbytes ⊢
      have hrest : rounds.flatMap Round.data ++ last ≠ [] := fun h => hlast (List.append_eq_nil_iff.mp h).2
      have hstep : handleRound py terminal c (.received now data) =
          (none, { c with recvBuffer := c.recvBuffer ++ data, lastDataTime := now }) := by
        unfold handleRound
        rw [if_pos hopen]
        dsimp only
        rw [if_neg hdata]
        exact @receive_of_front py terminal text { c with lastDataTime := now } htext hsize data _
          (by rw [← hbytes]; simp only [List.append_assoc]) hdata hrest now
      rw [hstep] at hpatient
      rw [outputs_cons, final_cons, hstep, List.length_cons, List.replicate_succ]
      obtain ⟨houtputs, t, hfinal⟩ := @ih { c with recvBuffer := c.recvBuffer ++ data, lastDataTime := now } hopen
        (by rw [← hbytes]; simp only [List.append_assoc]) hnonempty' hpatient
      refine ⟨by rw [houtputs], t, ?_⟩
      rw [hfinal, List.append_assoc]

end Rounds

/-! ### Messages -/

/-- However the bytes of a message are cut into parts that are not empty, and whatever the silence between them that
does not close the connection, the message is processed once, in the round of its last bytes, and the listener is
left as if all bytes had come in that round. -/
theorem stream_reassembled {py : Runtime} {terminal : Terminal} {text : String} {c : Connection} {rounds : List Round}
    {now : ℚ} {last : List UInt8} (htext : ObjectText py text)
    (hsize : (Utf8.encode text).length ≤ maxRecvBufferBytes) (hopen : c.isOpen = true) (hbuffer : c.recvBuffer = [])
    (hbytes : (rounds ++ [Round.received now last]).flatMap Round.data = Utf8.encode text)
    (hnonempty : ∀ t, Round.received t [] ∉ rounds ++ [.received now last])
    (hpatient : Along (handleRound py terminal) Patient c rounds) :
    outputs (handleRound py terminal) c (rounds ++ [.received now last]) =
        List.replicate rounds.length none ++ [some text] ∧
      final (handleRound py terminal) c (rounds ++ [.received now last]) =
        final (handleRound py terminal) c [.received now (Utf8.encode text)] := by
  have hlast : last ≠ [] := by
    rintro rfl
    exact hnonempty now (List.mem_append_right _ (List.mem_singleton_self _))
  have hall : rounds.flatMap Round.data ++ last = Utf8.encode text := by
    rw [← hbytes, List.flatMap_append, List.flatMap_singleton]
    rfl
  have hne : Utf8.encode text ≠ [] := fun h => hlast (List.append_eq_nil_iff.mp (hall.trans h)).2
  obtain ⟨houtputs, t, hfinal⟩ := @rounds_gather py terminal text c htext hsize rounds last hopen
    (by rw [hbuffer, List.nil_append, hall]) hlast
    (fun t h => hnonempty t (List.mem_append_left _ h)) hpatient
  rw [hbuffer, List.nil_append] at hfinal
  have hround (c' : Connection) (hopen' : c'.isOpen = true) (data : List UInt8) (hdata : data ≠ [])
      (hbytes' : c'.recvBuffer ++ data = Utf8.encode text) :
      handleRound py terminal c' (.received now data) =
        (some text, ({ c' with lastDataTime := now } : Connection).finish now (terminal.process py now text)) := by
    unfold handleRound
    rw [if_pos hopen']
    dsimp only
    rw [if_neg hdata]
    exact @receive_of_all py terminal text { c' with lastDataTime := now } htext hsize data hbytes' now
  have hlastRound := hround { c with recvBuffer := rounds.flatMap Round.data, lastDataTime := t } hopen last hlast hall
  constructor
  · rw [outputs_append, houtputs, hfinal, outputs_cons, hlastRound]
    rfl
  · rw [final_append, hfinal, final_cons, final_cons, final_nil, final_nil, hlastRound,
      hround c hopen _ hne (by rw [hbuffer, List.nil_append])]
    rfl

/-- A message of one frame. -/
def frameMessage : Message := [("frames", .list [.str "10000101110001000010"])]

def frameText : String := String.ofList (Json.dumps .ascii (.dict frameMessage))

/-- A runtime that can parse this message. -/
def frameRuntime : Runtime :=
  { Runtime.ascii with jsonLoads := fun s => if s = frameText then some (.dict frameMessage) else none }

theorem objectText_frameText : ObjectText frameRuntime frameText := by
  refine ⟨dumps_dict_opens .ascii frameMessage, by decide +kernel, fun front rest hall hrest => if_neg ?_⟩
  rintro rfl
  have hlength := congrArg String.length hall
  rw [String.length_append] at hlength
  exact hrest (String.length_eq_zero_iff.mp (by omega))

/-- The message in two parts, with a silence between them. -/
theorem stream_reassembled_two_parts :
    outputs (handleRound frameRuntime .busController) ⟨[], 0, true, [], 0⟩
        ([.received 1 ((Utf8.encode frameText).take 8), .silent 2] ++
          [.received 3 ((Utf8.encode frameText).drop 8)]) = [none, none, some frameText] ∧
      (final (handleRound frameRuntime .busController) ⟨[], 0, true, [], 0⟩
        ([.received 1 ((Utf8.encode frameText).take 8), .silent 2] ++
          [.received 3 ((Utf8.encode frameText).drop 8)])).dataReceived =
        [.list [.str "10000101110001000010"]] := by
  have hbytes : (([Round.received 1 ((Utf8.encode frameText).take 8), .silent 2] : List Round) ++
      [Round.received 3 ((Utf8.encode frameText).drop 8)]).flatMap Round.data = Utf8.encode frameText := by
    simp [Round.data]
  have hnonempty : ∀ t, Round.received t [] ∉
      ([Round.received 1 ((Utf8.encode frameText).take 8), .silent 2] : List Round) ++
        [Round.received 3 ((Utf8.encode frameText).drop 8)] := by
    intro t ht
    have hfront : (Utf8.encode frameText).take 8 ≠ [] := by decide +kernel
    have hback : (Utf8.encode frameText).drop 8 ≠ [] := by decide +kernel
    simp only [List.cons_append, List.nil_append, List.mem_cons, Round.received.injEq, reduceCtorEq, List.not_mem_nil,
      or_false, false_or] at ht
    rcases ht with ⟨-, ht⟩ | ⟨-, ht⟩
    · exact hfront ht.symm
    · exact hback ht.symm
  have hpatient : Along (handleRound frameRuntime .busController) Patient ⟨[], 0, true, [], 0⟩
      [.received 1 ((Utf8.encode frameText).take 8), .silent 2] := by
    decide +kernel
  obtain ⟨houtputs, hfinal⟩ := stream_reassembled objectText_frameText (by decide +kernel) rfl rfl hbytes hnonempty
    hpatient
  refine ⟨houtputs, ?_⟩
  rw [hfinal]
  decide +kernel

end Fmofp.Listener
