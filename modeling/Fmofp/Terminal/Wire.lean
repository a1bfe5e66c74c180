import Fmofp.Listener.Connection
import Fmofp.Sender.Chunking
import Fmofp.Terminal.Delivery

/-! The way from the bus controller to the terminal: `BC_sender`, the text on the wire, `RT_Listener`, and the
frame loop.  The sender strips what marks the messages of a transfer, so that the terminal takes each of them
for a message of its own. -/

namespace Fmofp.Terminal

open Python Machine

/-! ### The way of a payload -/

/-- The text that the adapter is handed. -/
def textOf (py : Runtime) (payload : Value) : String := String.ofList (Json.dumps py payload)

/-- What the listener stores of it. -/
def stored (py : Runtime) (payload : Value) : Option Value :=
  (Listener.processText py (Listener.RemoteTerminal.processMessage py) (textOf py payload)).stored

/-- The loop hands on dictionaries and lists; a list is its frames and has nothing else. -/
def frameOf : Value → Option Message
  | .dict m => some m
  | .list frames => some [("frames", .list frames)]
  | _ => none

/-- The frame that `process_frame` gets. -/
def arrives (py : Runtime) (payload : Value) : Option Message := (stored py payload).bind frameOf

/-- The reader of the text gets back what was written. -/
def Readable (py : Runtime) (payload : Value) : Prop :=
  py.jsonLoads (textOf py payload) = some (Json.received payload)

/-- The sender after messages that were sent one after the other, whatever became of them. -/
def sendAll (py : Runtime) (bus : Sender.Bus) : Sender.State → List Value → Sender.State
  | s, [] => s
  | s, message :: messages =>
    sendAll py bus ((Sender.BusController.sendMessage py bus 1 message s).elim s Prod.snd) messages

/-! ### What the sender hands over -/

/-- All that was handed over after `before` is what `_send_message` makes of a message that is not large. -/
def Wired (before : List Sender.Transmission) (s : Sender.State) : Prop :=
  ∃ sent, s.transmissions = before ++ sent ∧
    ∀ t ∈ sent, Sender.BusController.transmission t.message = .ok t.payload

/-- After a call, all is wired still. -/
def StaysWired (before : List Sender.Transmission) (r : Option Sender.Outcome) : Prop := ∀ o ∈ r, Wired before o.2

section Sending

variable {before : List Sender.Transmission}

theorem wired_refl (s : Sender.State) : Wired s.transmissions s :=
  ⟨[], (List.append_nil _).symm, fun _ ht => absurd ht List.not_mem_nil⟩

theorem Wired.push {s : Sender.State} (h : Wired before s) {t : Sender.Transmission}
    (ht : Sender.BusController.transmission t.message = .ok t.payload) : Wired before (s.push t) := by
  obtain ⟨sent, hsent, hall⟩ := h
  refine ⟨sent ++ [t], ?_, ?_⟩
  · show s.transmissions ++ [t] = _
    rw [hsent, List.append_assoc]
  · intro u hu
    rcases List.mem_append.mp hu with hu | hu
    · exact hall u hu
    · rw [List.mem_singleton.mp hu]
      exact ht

theorem staysWired_some {s : Sender.State} (h : Wired before s) (b : Except Exception Bool) :
    StaysWired before (some (b, s)) := by
  intro o ho
  rw [← Option.mem_some.mp ho]
  exact h

theorem StaysWired.andThen {r : Option Sender.Outcome} {next : Sender.State → Option Sender.Outcome}
    (hr : StaysWired before r) (hnext : ∀ s, Wired before s → StaysWired before (next s)) :
    StaysWired before (Sender.andThen r next) := by
  unfold Sender.andThen
  split
  · exact hnext _ (hr _ rfl)
  · exact hr

theorem StaysWired.guarded {r : Option Sender.Outcome} (hr : StaysWired before r) :
    StaysWired before (Sender.guarded r) := by
  intro o ho
  obtain ⟨o', ho', rfl⟩ := Option.mem_map.mp ho
  have hwired := hr o' ho'
  obtain ⟨b, s⟩ := o'
  cases b with
  | error e => exact hwired
  | ok b => exact hwired

variable (py : Runtime) (bus : Sender.Bus) {send : Sender.Send}

theorem staysWired_sendBlocks (hsend : ∀ m s, Wired before s → StaysWired before (send (.dict m) s))
    (p : Sender.Plan) (deadline : ℚ) (is : List ℕ) {s : Sender.State} (hs : Wired before s) :
    StaysWired before (Sender.sendBlocks bus send p deadline is s) := by
  induction is generalizing s with
  | nil => exact staysWired_some hs _
  | cons i is ih =>
    have hread : Wired before { s with monotonicReads := s.monotonicReads + 1 } := hs
    simp only [Sender.sendBlocks]
    split_ifs
    · exact staysWired_some hread _
    · exact staysWired_some hread _
    · exact (hsend _ _ hread).andThen fun s hs => ih hs

theorem staysWired_sendData (hsend : ∀ m s, Wired before s → StaysWired before (send (.dict m) s)) (p : Sender.Plan)
    {s : Sender.State} (hs : Wired before s) : StaysWired before (Sender.sendData bus send p s) := by
  have hread : Wired before { s with monotonicReads := s.monotonicReads + 1 } := hs
  unfold Sender.sendData
  exact (staysWired_sendBlocks bus hsend p _ _ hread).andThen fun s hs => hsend _ _ hs

theorem staysWired_transfer (hsend : ∀ m s, Wired before s → StaysWired before (send (.dict m) s)) (p : Sender.Plan)
    {s : Sender.State} (hs : Wired before s) :
    StaysWired before (Sender.transfer bus send send (Sender.BusController.awaitStatusWord bus) p s) := by
  unfold Sender.transfer
  split
  · exact staysWired_some hs _
  · rename_i key _
    have hlooked : Wired before (Sender.recentlyAcknowledged bus key s).2 := by
      unfold Sender.recentlyAcknowledged
      split <;> exact hs
    have hacknowledged : ∀ s, Wired before s → Wired before (Sender.BusController.awaitStatusWord bus key s) := by
      intro s hs
      rw [Wired, (Sender.BusController.awaitStatusWord_frame bus key s).2.1]
      exact hs
    simp only
    split_ifs
    · exact staysWired_sendData bus hsend p hlooked
    · exact (hsend _ _ hlooked).andThen fun s hs => staysWired_sendData bus hsend p (hacknowledged s hs)

/-- A message that is not large is handed over as what is made of it, or not at all. -/
theorem staysWired_of_not_large (depth : ℕ) {message : Value}
    (hlarge : ¬Sender.BusController.isLarge message = true) {s : Sender.State} (hs : Wired before s) :
    StaysWired before (Sender.BusController.sendMessage py bus depth message s) := by
  unfold Sender.BusController.sendMessage
  rw [if_neg hlarge]
  split_ifs
  · exact staysWired_some hs _
  · cases htransmission : Sender.BusController.transmission message with
    | error e => exact staysWired_some hs _
    | ok payload =>
      exact staysWired_some (hs.push htransmission) _

theorem staysWired_sendMessage (depth : ℕ) (message : Value) {s : Sender.State} (hs : Wired before s) :
    StaysWired before (Sender.BusController.sendMessage py bus depth message s) := by
  induction depth generalizing message s with
  | zero =>
    by_cases hlarge : Sender.BusController.isLarge message = true
    · unfold Sender.BusController.sendMessage
      rw [if_pos hlarge]
      split_ifs
      · exact staysWired_some hs _
      · exact fun o ho => absurd ho (Option.not_mem_none o)
    · exact staysWired_of_not_large py bus 0 hlarge hs
  | succ depth ih =>
    by_cases hlarge : Sender.BusController.isLarge message = true
    · unfold Sender.BusController.sendMessage
      rw [if_pos hlarge]
      split_ifs
      · exact staysWired_some hs _
      · simp only
        unfold Sender.BusController.sendLargeMessage
        split
        · exact staysWired_some hs _
        · split
          · exact staysWired_some hs _
          · split
            · exact staysWired_some hs _
            · exact (staysWired_transfer bus (fun m s hs => ih (.dict m) hs) _ hs).guarded
    · exact staysWired_of_not_large py bus (depth + 1) hlarge hs

theorem wired_sendAll (messages : List Value) {s : Sender.State} (hs : Wired before s) :
    Wired before (sendAll py bus s messages) := by
  induction messages generalizing s with
  | nil => exact hs
  | cons message messages ih =>
    rw [sendAll]
    apply ih
    have hstays := staysWired_sendMessage py bus 1 message hs
    cases hsent : Sender.BusController.sendMessage py bus 1 message s with
    | none => exact hs
    | some o => exact hstays o hsent

end Sending

/-! ### What the terminal gets -/

theorem flag_of_not_mem {m : Message} {k : String} (h : k ∉ m.map Prod.fst) : m.flag k = false := by
  rw [Message.flag, Dict.get?_eq_none_iff.mpr h]
  rfl

/-- A frame that is no part of a transfer. -/
def Plain (m : Message) : Prop := ∀ metadata, metadataOf m = some metadata → phaseOf m metadata = none

theorem plain_of_flags {m : Message} (hown : ∀ k ∈ Listener.transferFlags, m.flag k = false)
    (hmetadata : ∀ metadata, metadataOf m = some metadata →
      ∀ k ∈ Listener.transferFlags, Message.flag metadata k = false) : Plain m := by
  intro metadata h
  have hraised : ∀ k ∈ Listener.transferFlags, raised m metadata k = false := by
    intro k hk
    rw [raised, hown k hk, hmetadata metadata h k hk]
    rfl
  rw [phaseOf, hraised _ (by decide), hraised _ (by decide), hraised _ (by decide)]
  rfl

theorem metadataOf_frames (frames : List Value) : metadataOf [("frames", .list frames)] = some [] := rfl

theorem plain_frames (frames : List Value) : Plain [("frames", .list frames)] := by
  apply plain_of_flags
  · intro k hk
    apply flag_of_not_mem
    rintro hframes
    obtain rfl : k = "frames" := List.mem_singleton.mp hframes
    exact absurd hk (by decide)
  · intro metadata h k _
    rw [metadataOf_frames] at h
    rw [← Option.some.inj h]
    rfl

/-- The fields of a payload: the frames, the request id, and what was kept of the metadata. -/
def wireFields (frames requestId : Value) (metadata : Option Message) : Message :=
  [("frames", frames), ("request_id", requestId)] ++ (metadata.map fun md => ("metadata", Value.dict md)).toList

/-- Metadata as the sender strips them. -/
def Stripped (requestId : Value) (metadata : Option Message) : Prop :=
  ∀ md ∈ metadata, ∃ own, md = Sender.essentialMetadata own requestId

theorem transmittedMetadata_eq_ok {v requestId : Value} {fields : Message}
    (h : Sender.transmittedMetadata v requestId = .ok fields) :
    ∃ metadata, fields = (metadata.map fun md => ("metadata", Value.dict md)).toList ∧
      Stripped requestId metadata := by
  unfold Sender.transmittedMetadata at h
  split_ifs at h
  · split at h
    · rename_i own _
      cases h
      exact ⟨some _, rfl, fun md hmd => ⟨own, (Option.some.inj hmd).symm⟩⟩
    · cases h
  · cases h
    exact ⟨none, rfl, fun md hmd => absurd hmd (Option.not_mem_none md)⟩

theorem transmission_eq_ok {message payload : Value}
    (h : Sender.BusController.transmission message = .ok payload) :
    (∃ items, payload = .list items) ∨
      ∃ frames requestId metadata, payload = .dict (wireFields frames requestId metadata) ∧
        Stripped requestId metadata := by
  unfold Sender.BusController.transmission at h
  split at h
  · rename_i m
    simp only [bind, Except.bind] at h
    split at h
    · cases h
    · split at h
      · rename_i frames _
        cases hmetadata : Sender.transmittedMetadata (Dict.getD m "metadata" .none)
            (Dict.getD m "request_id" .none) with
        | error e =>
          rw [hmetadata] at h
          cases h
        | ok fields =>
          rw [hmetadata] at h
          cases h
          obtain ⟨metadata, rfl, hstripped⟩ := transmittedMetadata_eq_ok hmetadata
          exact .inr ⟨frames, _, metadata, rfl, hstripped⟩
      · cases h
        exact .inl ⟨_, rfl⟩
  · cases h
    exact .inl ⟨_, rfl⟩
  · cases h
    exact .inl ⟨_, rfl⟩

theorem flag_essentialMetadata (own : Message) (requestId : Value) {k : String} (hk : k ∈ Listener.transferFlags) :
    Message.flag (Sender.essentialMetadata own requestId) k = false := by
  apply flag_of_not_mem
  unfold Sender.essentialMetadata
  simp only [Listener.transferFlags, List.mem_cons, List.not_mem_nil, or_false] at hk
  rcases hk with rfl | rfl | rfl <;> split_ifs <;> simp

theorem flag_wireFields (frames requestId : Value) (metadata : Option Message) {k : String}
    (hk : k ∈ Listener.transferFlags) : Message.flag (wireFields frames requestId metadata) k = false := by
  apply flag_of_not_mem
  simp only [Listener.transferFlags, List.mem_cons, List.not_mem_nil, or_false] at hk
  rcases hk with rfl | rfl | rfl <;> cases metadata <;> simp [wireFields]

/-- What comes back of the fields. -/
theorem received_wireFields (frames requestId : Value) (metadata : Option Message) :
    Json.receivedEntries (wireFields frames requestId metadata) =
      wireFields (Json.received frames) (Json.received requestId) (metadata.map Json.receivedEntries) := by
  cases metadata <;> rfl

theorem metadataOf_wireFields (frames requestId : Value) (metadata : Option Message) :
    metadataOf (wireFields frames requestId metadata) = some (metadata.getD []) := by
  cases metadata <;> rfl

theorem plain_wireFields (frames requestId : Value) {metadata : Option Message} {own : Value}
    (h : Stripped own metadata) :
    Plain (wireFields frames requestId (metadata.map Json.receivedEntries)) := by
  apply plain_of_flags
  · exact fun k hk => flag_wireFields _ _ _ hk
  · intro md hmd k hk
    rw [metadataOf_wireFields] at hmd
    rw [← Option.some.inj hmd]
    cases metadata with
    | none => rfl
    | some stripped =>
      obtain ⟨fields, rfl⟩ := h stripped rfl
      rw [Option.map_some, Option.getD_some, Json.flag_receivedEntries]
      exact flag_essentialMetadata _ _ hk

/-! ### The listener -/

theorem decodeData_of_no_data (py : Runtime) {parsed : Message} (h : Dict.get? parsed "data" = none) :
    Listener.RemoteTerminal.decodeData py parsed = parsed := by
  unfold Listener.RemoteTerminal.decodeData
  rw [h]
  rfl

theorem logTransfer_of_flags {parsed : Message}
    (h : ∀ k ∈ Listener.transferFlags, Listener.transferFlag parsed k = false) :
    Listener.logTransfer parsed = .ok () := by
  unfold Listener.logTransfer
  rw [h "is_transfer_data" (by decide), Bool.and_false]
  rfl

theorem frameMessage_wireFields (frames requestId : Value) (metadata : Option Message)
    (validFrames : List Value) :
    Listener.RemoteTerminal.frameMessage (wireFields frames requestId metadata) validFrames requestId =
      .dict (wireFields (.list validFrames) requestId metadata) := by
  cases metadata <;> rfl

/-- Metadata without the flags of a transfer. -/
def Unflagged (metadata : Option Message) : Prop :=
  ∀ md ∈ metadata, ∀ k ∈ Listener.transferFlags, Message.flag md k = false

theorem Stripped.unflagged {own : Value} {metadata : Option Message} (h : Stripped own metadata) :
    Unflagged (metadata.map Json.receivedEntries) := by
  intro md hmd k hk
  obtain ⟨stripped, hstripped, rfl⟩ := Option.mem_map.mp hmd
  obtain ⟨fields, rfl⟩ := h stripped hstripped
  rw [Json.flag_receivedEntries]
  exact flag_essentialMetadata _ _ hk

theorem processMessage_wireFields (py : Runtime) (frames requestId : Value) {metadata : Option Message}
    (h : Unflagged metadata) :
    Listener.RemoteTerminal.processMessage py (wireFields frames requestId metadata) =
      Listener.processFrames (Listener.RemoteTerminal.frameMessage (wireFields frames requestId metadata))
        frames requestId := by
  have hdata : Listener.RemoteTerminal.decodeData py (wireFields frames requestId metadata) =
      wireFields frames requestId metadata := by
    apply decodeData_of_no_data
    cases metadata <;> rfl
  have hlog : Listener.logTransfer (wireFields frames requestId metadata) = .ok () := by
    apply logTransfer_of_flags
    intro k hk
    rw [Listener.transferFlag, flag_wireFields _ _ _ hk, Bool.false_or]
    cases metadata with
    | none => rfl
    | some md => exact h md rfl k hk
  unfold Listener.RemoteTerminal.processMessage
  simp only [hdata, hlog]
  cases metadata <;> rfl

/-- What is stored is made of frames that were kept. -/
theorem stored_of_processFrames {message : List Value → Value → Value} {frames requestId v : Value}
    (h : (Listener.handled (Listener.processFrames message frames requestId)).stored = some v) :
    ∃ validFrames, v = if requestId.truthy then message validFrames requestId else .list validFrames := by
  cases hframes : Listener.processFrames message frames requestId with
  | error e =>
    rw [hframes] at h
    cases e <;> cases h
  | ok result =>
    rw [hframes] at h
    unfold Listener.processFrames at hframes
    simp only [bind, Except.bind] at hframes
    split at hframes
    · cases hframes
    · split at hframes
      · cases hframes
      · split at hframes
        · cases hframes
          cases h
        · cases hframes
          exact ⟨_, (Option.some.inj h).symm⟩

theorem stored_dict {py : Runtime} {frames requestId : Value} {metadata : Option Message}
    (hstripped : Stripped requestId metadata) (hread : Readable py (.dict (wireFields frames requestId metadata))) :
    stored py (.dict (wireFields frames requestId metadata)) =
      (Listener.handled (Listener.processFrames (Listener.RemoteTerminal.frameMessage
        (wireFields (Json.received frames) (Json.received requestId) (metadata.map Json.receivedEntries)))
        (Json.received frames) (Json.received requestId))).stored := by
  have hopens : startsWith (textOf py (.dict (wireFields frames requestId metadata))) "\x7b" = true :=
    Listener.dumps_dict_opens py _
  unfold stored Listener.processText
  simp only [if_pos hopens]
  rw [hread, Json.received, received_wireFields]
  simp only
  rw [processMessage_wireFields py _ _ hstripped.unflagged]

theorem stored_list {py : Runtime} {items : List Value} (hread : Readable py (.list items)) :
    stored py (.list items) = (Listener.handled (Listener.processFrames (fun frames _ => .list frames)
      (.list (Json.receivedItems items)) .none)).stored := by
  have hopens : startsWith (textOf py (.list items)) "[" = true := by
    rw [startsWith, textOf, Json.dumps, String.toList_ofList, String.toList_ofList]
    rfl
  have hnot : startsWith (textOf py (.list items)) "\x7b" ≠ true := by
    rw [startsWith, textOf, Json.dumps, String.toList_ofList, String.toList_ofList]
    exact Bool.false_ne_true
  unfold stored Listener.processText
  simp only [if_neg hnot, if_pos hopens]
  rw [hread, Json.received]

/-- What the sender hands over arrives, if at all, as a frame that is no part of a transfer. -/
theorem plain_of_arrives {py : Runtime} {message payload : Value} {m : Message}
    (hsent : Sender.BusController.transmission message = .ok payload) (hread : Readable py payload)
    (harrives : arrives py payload = some m) : Plain m := by
  obtain ⟨v, hstored, hframe⟩ := Option.bind_eq_some_iff.mp harrives
  rcases transmission_eq_ok hsent with ⟨items, rfl⟩ | ⟨frames, requestId, metadata, rfl, hstripped⟩
  · rw [stored_list hread] at hstored
    obtain ⟨validFrames, rfl⟩ := stored_of_processFrames hstored
    rw [← Option.some.inj hframe]
    exact plain_frames validFrames
  · rw [stored_dict hstripped hread] at hstored
    obtain ⟨validFrames, rfl⟩ := stored_of_processFrames hstored
    split_ifs at hframe
    · rw [frameMessage_wireFields] at hframe
      rw [← Option.some.inj hframe]
      exact plain_wireFields _ _ hstripped
    · rw [← Option.some.inj hframe]
      exact plain_frames validFrames

/-! ### The terminal -/

theorem processFrame_plain (py : Runtime) (analyze : Message → Option ReceivedMessage) (now : ℚ) {m : Message}
    (h : Plain m) (t : RemoteTerminal) :
    (processFrame py analyze now m t).1.acknowledgments = [] ∧
      (processFrame py analyze now m t).2.blockTransferState = t.blockTransferState := by
  unfold processFrame
  split
  · exact ⟨rfl, rfl⟩
  · rename_i metadata hmetadata
    rw [h metadata hmetadata]
    exact ⟨rfl, rfl⟩

/-- Frames that are no part of a transfer leave a terminal without records without records. -/
theorem plain_run (py : Runtime) (analyze : Message → Option ReceivedMessage) {t : RemoteTerminal}
    (ht : t.blockTransferState = []) {is : List Input} (hplain : ∀ now m, Input.frame now m ∈ is → Plain m) :
    (outputs (step py analyze) t is).flatMap Answer.acknowledgments = [] ∧
      (final (step py analyze) t is).blockTransferState = [] := by
  induction is generalizing t with
  | nil => exact ⟨rfl, ht⟩
  | cons i is ih =>
    have hstep : (step py analyze t i).1.acknowledgments = [] ∧ (step py analyze t i).2.blockTransferState = [] := by
      cases i with
      | frame now m =>
        obtain ⟨hacknowledged, hrecords⟩ := processFrame_plain py analyze now (hplain now m (by simp)) t
        exact ⟨hacknowledged, hrecords.trans ht⟩
      | cleanup now =>
        refine ⟨rfl, ?_⟩
        simp [step, cleanupBlockTransferState, ht]
    obtain ⟨hacknowledged, hrecords⟩ := ih hstep.2 fun now m hm => hplain now m (List.mem_cons_of_mem _ hm)
    rw [outputs_cons, List.flatMap_cons, final_cons, hstep.1]
    exact ⟨hacknowledged, hrecords⟩

/-- No transfer of the bus controller gets to the terminal as one: whatever the bus controller was given to send,
and whichever of what it then handed over arrives, in any order and however often, the terminal never opens a
record and acknowledges nothing. -/
theorem transfers_never_arrive (py : Runtime) (bus : Sender.Bus) (analyze : Message → Option ReceivedMessage)
    (s : Sender.State) (messages : List Value) (sent : List Sender.Transmission)
    (hsent : (sendAll py bus s messages).transmissions = s.transmissions ++ sent)
    (hread : ∀ t ∈ sent, Readable py t.payload) {is : List Input}
    (harrived : ∀ now m, Input.frame now m ∈ is → ∃ t ∈ sent, arrives py t.payload = some m) :
    (outputs (step py analyze) .initial is).flatMap Answer.acknowledgments = [] ∧
      (final (step py analyze) .initial is).blockTransferState = [] := by
  obtain ⟨sent', hsent', hwired⟩ := wired_sendAll py bus messages (wired_refl s)
  obtain rfl : sent = sent' := List.append_cancel_left (hsent.symm.trans hsent')
  apply plain_run py analyze rfl
  intro now m hm
  obtain ⟨t, ht, harrives⟩ := harrived now m hm
  exact plain_of_arrives (hwired t ht) (hread t ht) harrives

/-- A runtime that reads the texts of these payloads. -/
def readerOf (payloads : List Value) : Runtime :=
  { Runtime.ascii with
    jsonLoads := fun text =>
      (payloads.find? fun v => decide (Json.dumps .ascii v = text.toList)).map Json.received }

/-- Payloads with different texts are read. -/
theorem readable_readerOf {payloads : List Value}
    (htexts : ∀ v ∈ payloads, Json.dumps (readerOf payloads) v = Json.dumps .ascii v)
    (hdifferent : ∀ v ∈ payloads, ∀ w ∈ payloads, Json.dumps .ascii v = Json.dumps .ascii w → v = w) :
    ∀ v ∈ payloads, Readable (readerOf payloads) v := by
  intro v hv
  have htext : (textOf (readerOf payloads) v).toList = Json.dumps .ascii v := by
    rw [textOf, String.toList_ofList, htexts v hv]
  have hfound : payloads.find? (fun w => decide (Json.dumps .ascii w = Json.dumps .ascii v)) = some v := by
    cases hfind : payloads.find? fun w => decide (Json.dumps .ascii w = Json.dumps .ascii v) with
    | none =>
      have hnot := List.find?_eq_none.mp hfind v hv
      exact absurd (decide_eq_true rfl) hnot
    | some w =>
      have hw : Json.dumps .ascii w = Json.dumps .ascii v := by simpa using List.find?_some hfind
      rw [hdifferent w (List.mem_of_find?_eq_some hfind) v hv hw]
  show (payloads.find? fun w => decide (Json.dumps .ascii w = (textOf (readerOf payloads) v).toList)).map
    Json.received = _
  rw [htext, hfound]
  rfl

/-- A data message of a transfer, as the bus controller gets it. -/
def flaggedMessage : Message :=
  [("frames", .list [.str "10000101110001000010"]), ("request_id", .str "request_1"),
    ("metadata", .dict [("is_transfer_data", .bool true)])]

def flaggedPayload : Value :=
  .dict (wireFields (.list [.str "10000101110001000010"]) (.str "request_1")
    (some (Sender.essentialMetadata [("is_transfer_data", .bool true)] (.str "request_1"))))

/-- What arrives of it. -/
def flaggedArrival : Message :=
  wireFields (.list [.str "10000101110001000010"]) (.str "request_1")
    (some (Sender.essentialMetadata [] (.str "request_1")))

theorem readable_flaggedPayload : Readable (readerOf [flaggedPayload]) flaggedPayload := by
  apply readable_readerOf
  · decide +kernel
  · intro v hv w hw _
    rw [List.mem_singleton.mp hv, List.mem_singleton.mp hw]
  · exact List.mem_singleton_self _

theorem flagged_message_never_arrives :
    (outputs (step (readerOf [flaggedPayload]) fun _ => none) .initial
        [.frame 0 flaggedArrival, .cleanup 1, .frame 2 flaggedArrival]).flatMap Answer.acknowledgments = [] ∧
      (final (step (readerOf [flaggedPayload]) fun _ => none) .initial
        [.frame 0 flaggedArrival, .cleanup 1, .frame 2 flaggedArrival]).blockTransferState = [] := by
  refine transfers_never_arrive (readerOf [flaggedPayload]) .ideal (fun _ => none) .fresh [.dict flaggedMessage]
    [⟨.dict flaggedMessage, flaggedPayload⟩] rfl ?_ ?_
  · intro t ht
    rw [List.mem_singleton.mp ht]
    exact readable_flaggedPayload
  · intro now m hm
    have hcases : now = 0 ∧ m = flaggedArrival ∨ now = 2 ∧ m = flaggedArrival := by simpa using hm
    have hm' : m = flaggedArrival := hcases.elim And.right And.right
    refine ⟨_, List.mem_singleton_self _, ?_⟩
    rw [hm']
    decide +kernel

end Fmofp.Terminal
