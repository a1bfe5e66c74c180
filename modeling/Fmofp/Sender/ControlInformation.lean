import Fmofp.Sender.Chunking

/-! What the receiver can tell about the messages of a block transfer.  Neither sender gets the
phase of a transfer across: the bus controller strips the transfer flags off every message, and the
terminal strips them off the initialization message and off every full data message. -/

namespace Fmofp.Sender

open Python Aggregator

/-- The phase that the message was built for. -/
def Transmission.phaseBuilt (t : Transmission) : Bool × Bool × Bool :=
  (t.message.dict?.map getTransferFlags).getD (false, false, false)

/-- The phase that the receiver's `_get_transfer_flags` finds in what it parses. -/
def Transmission.phaseReceived (t : Transmission) : Bool × Bool × Bool :=
  ((Json.received t.payload).dict?.map getTransferFlags).getD (false, false, false)

/-- A field of the metadata of a message. -/
def metadataField (v : Value) (k : String) : Option Value :=
  (v.dict?.bind metadata?).bind fun md => Dict.get? md k

/-- The control information of the message survives: it is received in the phase it was built for,
and a data message with its number, the total and the mark of the last one. -/
def Transmission.Survives (t : Transmission) : Prop :=
  t.phaseReceived = t.phaseBuilt ∧ (t.isData = true →
    ∀ k ∈ ["sequence_number", "total_sequences", "is_final"],
      metadataField (Json.received t.payload) k = metadataField t.message k)

/-- The control information of all messages that the run hands over survives. -/
def AllSurvive (s : State) (run : Option Outcome) : Prop :=
  ∃ o s' emitted, run = some (o, s') ∧ s'.transmissions = s.transmissions ++ emitted ∧
    ∀ t ∈ emitted, t.Survives

theorem not_survives {t : Transmission} {phase : Bool × Bool × Bool}
    (hreceived : t.phaseReceived = (false, false, false)) (hbuilt : t.phaseBuilt = phase)
    (hphase : phase ≠ (false, false, false)) : ¬t.Survives := fun h =>
  hphase (hbuilt.symm.trans (h.1.symm.trans hreceived))

theorem Carries.phaseBuilt {m : Message} {frames : List Value} {phase : Bool × Bool × Bool}
    (h : Carries m frames phase) (v : Value) :
    (Transmission.mk (.dict m) v).phaseBuilt = phase := by
  simp [Transmission.phaseBuilt, h.phase_eq]

theorem phaseReceived_dict (message : Value) (m : Message) :
    (Transmission.mk message (.dict m)).phaseReceived = getTransferFlags m := by
  show getTransferFlags (Json.receivedEntries m) = _
  exact getTransferFlags_received m

theorem essentialMetadata_flag {k : String} (hk : k ∈ transferFlags) (md : Message)
    (requestId : Value) : (essentialMetadata md requestId).flag k = false := by
  simp only [transferFlags, List.mem_cons, List.not_mem_nil, or_false] at hk
  unfold essentialMetadata
  rcases hk with rfl | rfl | rfl <;> split_ifs <;> simp [Message.flag, Dict.get?]

/-- Stripped metadata says nothing about a transfer. -/
theorem getTransferFlags_stripped (frames : List Value) (requestId : Value) (md : Message) :
    getTransferFlags [("frames", .list frames), ("request_id", requestId),
      ("metadata", .dict (essentialMetadata md requestId))] = (false, false, false) := by
  rw [getTransferFlags_of_metadata rfl (by simp [transferFlags, Message.flag, Dict.get?]),
    essentialMetadata_flag (by decide), essentialMetadata_flag (by decide),
    essentialMetadata_flag (by decide)]

/-- The request was acknowledged so recently that the initialization message is skipped. -/
def skipsInit (bus : Bus) (m : Message) (s : State) : Bool :=
  (requestKey m).any fun key => (recentlyAcknowledged bus key s).1

theorem allSurvive_of_nothing {s s' : State} {run : Option Outcome} {o : Except Exception Bool}
    (hrun : run = some (o, s')) (htrans : s'.transmissions = s.transmissions) : AllSurvive s run :=
  ⟨o, s', [], hrun, by rw [htrans, List.append_nil], by simp⟩

/-- A run that hands something over, of which the first planned message does not survive. -/
theorem not_allSurvive {s : State} {run : Option Outcome} {ts : List Transmission}
    (hhands : HandsOver ts s run) (hsome : HandsOverSome s run)
    (hfirst : ∀ t, ts.head? = some t → ¬t.Survives) : ¬AllSurvive s run := by
  rintro ⟨o, s', emitted, hrun, htrans, hsurvive⟩
  obtain ⟨b, s₁, sent, hrun₁, -, htrans₁, hinit, -⟩ := hhands
  obtain ⟨o₂, s₂, t, rest, hrun₂, htrans₂⟩ := hsome
  cases hrun.symm.trans hrun₁
  cases hrun.symm.trans hrun₂
  have hemitted : emitted = t :: rest := List.append_cancel_left (htrans.symm.trans htrans₂)
  have hsent : sent = t :: rest := List.append_cancel_left (htrans₁.symm.trans htrans₂)
  rw [hsent] at hinit
  obtain ⟨later, rfl⟩ := hinit
  exact hfirst t rfl (hsurvive t (by simp [hemitted]))

theorem HandsOver.guarded {ts : List Transmission} {s : State} {r : Option Outcome}
    (h : HandsOver ts s r) : HandsOver ts s (guarded r) := by
  obtain ⟨b, s', sent, rfl, hrest⟩ := h
  exact ⟨b, s', sent, rfl, hrest⟩

theorem HandsOverSome.guarded {s : State} {r : Option Outcome} (h : HandsOverSome s r) :
    HandsOverSome s (guarded r) := by
  obtain ⟨o, s', t, rest, rfl, htrans⟩ := h
  cases o with
  | error e => exact ⟨.ok false, s', t, rest, rfl, htrans⟩
  | ok b => exact ⟨.ok b, s', t, rest, rfl, htrans⟩

/-- A transfer whose first message does not survive meets the claim only by handing over nothing. -/
theorem transfer_allSurvive_iff (bus : Bus) (sendInit send : Send)
    (acknowledge : Value → State → State) {p : Plan} {key payload : Value} (sent : Message → Value)
    (hkey : p.requestId.key? = some key)
    (hack : ∀ k s, (acknowledge k s).isShuttingDown = s.isShuttingDown ∧
      (acknowledge k s).transmissions = s.transmissions)
    (s : State)
    (hinit : (recentlyAcknowledged bus key s).1 = false →
      Delivers bus sendInit s.isShuttingDown p.initMessage payload)
    (hblock : ∀ i, Delivers bus send s.isShuttingDown (p.block i) (sent (p.block i)))
    (hcompletion :
      Delivers bus send s.isShuttingDown p.completionMessage (sent p.completionMessage))
    (hpos : 0 < p.numMessages)
    (hfirst : ¬(Transmission.mk (.dict p.initMessage) payload).Survives ∧
      ¬(Transmission.mk (.dict (p.block 0)) (sent (p.block 0))).Survives) :
    AllSurvive s (guarded (transfer bus sendInit send acknowledge p s)) ↔
      ((recentlyAcknowledged bus key s).1 && tooLate bus s) = true := by
  cases hready : (recentlyAcknowledged bus key s).1 && tooLate bus s with
  | true =>
    obtain ⟨s', hrun, htrans⟩ := transfer_handsOverNothing bus sendInit send acknowledge hkey s hpos
      hready
    exact iff_of_true (allSurvive_of_nothing (by rw [hrun]; rfl) htrans) rfl
  | false =>
    refine iff_of_false ?_ (by simp)
    have hhands := transfer_handsOver bus acknowledge [⟨.dict p.initMessage, payload⟩]
      (fun m => [⟨.dict m, sent m⟩]) hkey hack s rfl
      (fun h s' hs' => (hinit h).handsOver hs') (fun i s' hs' => (hblock i).handsOver hs')
      fun s' hs' => hcompletion.handsOver hs'
    have hsome := transfer_handsOverSome bus hkey hack s rfl hinit hblock hcompletion hpos
      hready
    refine not_allSurvive hhands.guarded hsome.guarded fun t ht => ?_
    obtain ⟨n, hn⟩ := Nat.exists_eq_succ_of_ne_zero hpos.ne'
    cases hrecent : (recentlyAcknowledged bus key s).1 with
    | true =>
      rw [hrecent] at ht
      simp only [if_true, Plan.transmissions, hn, List.range_succ_eq_map, List.nil_append,
        List.flatMap_cons, List.cons_append, List.head?_cons, Option.some.injEq] at ht
      exact ht ▸ hfirst.2
    | false =>
      rw [hrecent] at ht
      simp only [Bool.false_eq_true, if_false, Plan.transmissions, List.cons_append,
        List.head?_cons, Option.some.injEq] at ht
      exact ht ▸ hfirst.1

namespace BusController

variable (py : Runtime)

theorem wire_not_survives {m : Message} {frames : List Value} {phase : Bool × Bool × Bool}
    (h : Carries m frames phase) (hphase : phase ≠ (false, false, false)) :
    ¬(Transmission.mk (.dict m) (wire m)).Survives := by
  obtain ⟨md, htransmission⟩ := transmission_of_carries h
  refine not_survives ?_ (h.phaseBuilt _) hphase
  rw [wire, htransmission, phaseReceived_dict, getTransferFlags_stripped]

/-- When the bus controller hands over nothing. -/
def sendsNothing (bus : Bus) (m : Message) (s : State) : Bool :=
  s.isShuttingDown || !hasUsableMetadata m || (requestKey m).isNone ||
    (skipsInit bus m s && tooLate bus s)

theorem allSurvive_iff (bus : Bus) {m : Message} {c : Value} {data : List Value}
    (hframes : frames? m = some (c :: data)) (htext : ∀ f ∈ c :: data, f.isText = true)
    (hdata : data ≠ []) (s : State) (depth : ℕ) :
    AllSurvive s (sendLargeMessage py bus (sendMessage py bus depth) (.dict m) s) ↔
      sendsNothing bus m s = true := by
  by_cases hdown : s.isShuttingDown = true
  · obtain ⟨b, s', hrun, htrans⟩ := sendLargeMessage_shuttingDown py bus hframes htext hdown depth
    exact iff_of_true (allSurvive_of_nothing hrun htrans) (by simp [sendsNothing, hdown])
  by_cases hok : hasUsableMetadata m = true ∧ (requestKey m).isSome = true
  · rw [Bool.not_eq_true] at hdown
    obtain ⟨husable, hhash⟩ := hok
    obtain ⟨md, hmd⟩ := hasUsableMetadata_iff.mp husable
    obtain ⟨key, hkey⟩ := Option.isSome_iff_exists.mp hhash
    obtain ⟨d, hplan⟩ := plan_ok py hframes htext hmd
    set p := messages py (Dict.getD m "request_id" .none) md d c data with hp
    have hwf : p.WellFormed := messages_wellFormed py _ md d c data
    have hpos : 0 < p.numMessages := by
      have hlen := List.length_pos_of_ne_nil hdata
      rw [p.numMessages_spec]
      simp only [hp, messages]
      omega
    have hrun : sendLargeMessage py bus (sendMessage py bus depth) (.dict m) s =
        guarded (transfer bus (sendMessage py bus depth) (sendMessage py bus depth)
          (awaitStatusWord bus) p s) := by
      simp only [sendLargeMessage, Value.dict?_dict, hframes, hplan]
    obtain ⟨initFrames, hinitLen, hinit⟩ := hwf.init
    obtain ⟨completionFrames, hcompletionLen, hcompletion⟩ := hwf.completion
    have hiff := transfer_allSurvive_iff bus (sendMessage py bus depth)
      (sendMessage py bus depth) (awaitStatusWord bus) (p := p) wire hkey
      (fun k s => ⟨(awaitStatusWord_frame bus k s).1, (awaitStatusWord_frame bus k s).2.1⟩) s
      (fun _ => hdown ▸ sendMessage_of_carries py bus depth hinit hinitLen)
      (fun i => hdown ▸ sendMessage_of_carries py bus depth (hwf.block i)
        (p.blockFrames_length_le i))
      (hdown ▸ sendMessage_of_carries py bus depth hcompletion hcompletionLen) hpos
      ⟨wire_not_survives hinit (by decide), wire_not_survives (hwf.block 0) (by decide)⟩
    rw [hrun, hiff]
    simp [sendsNothing, hdown, husable, hkey, skipsInit]
  · refine iff_of_true
      (allSurvive_of_nothing (sendLargeMessage_refused py bus hframes hok _ s) rfl) ?_
    simp only [sendsNothing, Bool.or_eq_true, Bool.not_eq_true', Option.isNone_iff_eq_none]
    simp only [not_and_or, Bool.not_eq_true, Option.isSome_eq_false_iff,
      Option.isNone_iff_eq_none] at hok
    tauto

end BusController

namespace RemoteTerminal

variable (py : Runtime)

theorem strippedPayload_not_survives {frames : List Value} (requestId : Value) {md : Message}
    {phase : Bool × Bool × Bool} (h : Carries (carrier frames requestId md) frames phase)
    (hphase : phase ≠ (false, false, false)) :
    ¬(Transmission.mk (.dict (carrier frames requestId md))
      (strippedPayload py frames requestId md)).Survives := by
  refine not_survives ?_ (h.phaseBuilt _) hphase
  unfold strippedPayload
  simp only
  split_ifs
  · rw [phaseReceived_dict, getTransferFlags_stripped]
  · rw [phaseReceived_dict, getTransferFlags_of_metadata rfl
      (by simp [transferFlags, Message.flag, Dict.get?])]
    rfl

theorem size_blockMetadata (messageType commandType : Value) (number total : ℤ) (final : Bool) :
    122 ≤ Json.size py (.dict [("message_type", messageType), ("command_type", commandType),
      ("is_transfer_data", .bool true), ("sequence_number", .int number),
      ("total_sequences", .int total), ("is_final", .bool final)]) := by
  have h₁ : (Json.dumpsStr "message_type").length = 14 := by decide
  have h₂ : (Json.dumpsStr "command_type").length = 14 := by decide
  have h₃ : (Json.dumpsStr "is_transfer_data").length = 18 := by decide
  have h₄ : (Json.dumpsStr "sequence_number").length = 17 := by decide
  have h₅ : (Json.dumpsStr "total_sequences").length = 17 := by decide
  have h₆ : (Json.dumpsStr "is_final").length = 10 := by decide
  have hdata := Json.size_bool_ge py true
  have hfinal := Json.size_bool_ge py final
  simp only [Json.size_dict_cons, Json.entrySize, List.map_cons, List.map_nil, List.sum_cons,
    List.sum_nil]
  omega

/-- The text of thirty-three frames alone is close to the limit, and that of the fields around them
goes beyond it. -/
theorem size_block (requestId : Value) (md : Message) (statusWord : Value) (dataFrames : List Value)
    (hwords : ∀ f ∈ statusWord :: dataFrames, Bus.isSyncWord f = true)
    (hlen : maxPayloadFramesPerChunk ≤ dataFrames.length) :
    maxSafeSize < Json.size py (.dict ((messages requestId md statusWord dataFrames).block 0)) := by
  have hword : ∀ f, Bus.isSyncWord f = true → 22 ≤ Json.size py f := by
    intro f hf
    cases f with
    | str w =>
      simp only [Bus.isSyncWord, Bool.and_eq_true, decide_eq_true_eq] at hf
      have hw := Json.size_str_ge py w
      omega
    | _ => simp [Bus.isSyncWord] at hf
  have hstatus := hword statusWord (hwords statusWord (by simp))
  have hnumber : 22 ≤ Json.size py (.str (Bus.dataFrame 1)) := by
    have hw := Json.size_str_ge py (Bus.dataFrame 1)
    rw [Bus.dataFrame_length] at hw
    exact hw
  have hchunk := Json.sum_size_ge py (dataFrames.take maxPayloadFramesPerChunk)
    fun f hf => hword f (hwords f (List.mem_cons_of_mem _ (List.mem_of_mem_take hf)))
  rw [List.length_take, min_eq_left hlen] at hchunk
  have hframes : 768 ≤ Json.size py
      (.list ((messages requestId md statusWord dataFrames).blockFrames 0)) := by
    have hfirst : (messages requestId md statusWord dataFrames).word 1 =
        .str (Bus.dataFrame 1) := Bus.wordOfInt_natCast (n := 1) (by decide)
    have hslice : (messages requestId md statusWord dataFrames).chunk 0 =
        dataFrames.take maxPayloadFramesPerChunk := by
      simp [Plan.chunk, messages]
    rw [Plan.blockFrames, hslice, Nat.zero_add, hfirst, Json.size_list_cons, List.map_cons,
      List.map_cons, List.sum_cons, List.sum_cons]
    simp only [maxPayloadFramesPerChunk, maxDataWordsPerMessage, blockTransferHeaderWords] at hchunk ⊢
    have hleading : Json.size py (messages requestId md statusWord dataFrames).leadingWord =
        Json.size py statusWord := rfl
    omega
  obtain ⟨blockMd, hblock, hmetadata⟩ : ∃ blockMd,
      (messages requestId md statusWord dataFrames).block 0 =
        [("frames", .list ((messages requestId md statusWord dataFrames).blockFrames 0)),
          ("request_id", requestId), ("metadata", .dict blockMd)] ∧
      122 ≤ Json.size py (.dict blockMd) := ⟨_, rfl, size_blockMetadata py _ _ _ _ _⟩
  have h₁ : (Json.dumpsStr "frames").length = 8 := by decide
  have h₂ : (Json.dumpsStr "request_id").length = 12 := by decide
  have h₃ : (Json.dumpsStr "metadata").length = 10 := by decide
  rw [hblock, Json.size_dict_cons]
  simp only [Json.entrySize, List.map_cons, List.map_nil, List.sum_cons, List.sum_nil, maxSafeSize]
  omega

/-- A full data message goes out as its frames only. -/
theorem chunkWire_block (requestId : Value) (md : Message) (statusWord : Value)
    (dataFrames : List Value) (hwords : ∀ f ∈ statusWord :: dataFrames, Bus.isSyncWord f = true)
    (hlen : maxPayloadFramesPerChunk ≤ dataFrames.length) :
    chunkWire py ((messages requestId md statusWord dataFrames).block 0) =
      .dict [("frames", .list ((messages requestId md statusWord dataFrames).blockFrames 0)),
        ("request_id", requestId)] := by
  have hsize := size_block py requestId md statusWord dataFrames hwords hlen
  have hpayload : chunkPayload py ((messages requestId md statusWord dataFrames).block 0) =
      .ok (if Json.size py (.dict ((messages requestId md statusWord dataFrames).block 0)) ≤
          maxSafeSize then .dict ((messages requestId md statusWord dataFrames).block 0)
        else .dict [("frames", .list ((messages requestId md statusWord dataFrames).blockFrames 0)),
          ("request_id", requestId)]) := by
    rw [chunkPayload, if_neg (not_le.mpr hsize)]
    rfl
  rw [chunkWire, hpayload, if_neg (not_le.mpr hsize)]

/-- When the terminal hands over nothing. -/
def sendsNothing (bus : Bus) (m : Message) (s : State) : Bool :=
  !hasUsableMetadata m || (requestKey m).isNone ||
    if skipsInit bus m s then tooLate bus s else s.isShuttingDown

theorem allSurvive_iff (bus : Bus) {m : Message} {c : Value} {data : List Value}
    (hframes : frames? m = some (c :: data)) (hwords : ∀ f ∈ c :: data, Bus.isSyncWord f = true)
    (hdata : maxPayloadFramesPerChunk ≤ data.length) (s : State) (depth : ℕ) :
    AllSurvive s (sendLargeMessage py bus (sendMessage py bus depth) (.dict m) s) ↔
      sendsNothing bus m s = true := by
  by_cases hok : hasUsableMetadata m = true ∧ (requestKey m).isSome = true
  · obtain ⟨husable, hhash⟩ := hok
    obtain ⟨md, hmd⟩ := hasUsableMetadata_iff.mp husable
    obtain ⟨key, hkey⟩ := Option.isSome_iff_exists.mp hhash
    have hvalid : Bus.validateFrames (c :: data) = c :: data :=
      Bus.validateFrames_eq_self fun f hf => Bus.validateFrame_of_isSyncWord (hwords f hf)
    set p := messages (Dict.getD m "request_id" .none) md c data with hp
    have hwf : p.WellFormed := messages_wellFormed _ md c data
    have hpos : 0 < p.numMessages := by
      rw [p.numMessages_spec]
      simp only [maxPayloadFramesPerChunk, maxDataWordsPerMessage, blockTransferHeaderWords] at hdata
      simp only [hp, messages]
      omega
    have hrun : sendLargeMessage py bus (sendMessage py bus depth) (.dict m) s =
        guarded (transfer bus (sendMessage py bus depth) (sendChunk py bus)
          (storeAcknowledgment bus) p s) := by
      simp only [sendLargeMessage, Value.dict?_dict, get?_frames hframes, plan_list, hvalid, hmd, hp]
    by_cases hstops : s.isShuttingDown = true ∧ (recentlyAcknowledged bus key s).1 = false
    · obtain ⟨hdown, hrecent⟩ := hstops
      refine iff_of_true (allSurvive_of_nothing
        (sendLargeMessage_shuttingDown py bus hframes hvalid hmd hkey hdown hrecent depth) ?_) ?_
      · unfold recentlyAcknowledged
        split <;> rfl
      · simp [sendsNothing, skipsInit, hkey, hrecent, hdown]
    · have hstripped : ∃ payload,
          Delivers bus (sendMessage py bus depth) false p.initMessage payload ∧
            ¬(Transmission.mk (.dict p.initMessage) payload).Survives :=
        ⟨_, sendMessage_carrier py bus depth _
          (by simp [maxFramesPerMessage, maxDataWordsPerMessage]) (by simp),
          strippedPayload_not_survives py _
            (show Carries p.initMessage _ (true, false, false) from ⟨rfl, ⟨_, rfl, by simp⟩, rfl⟩)
            (by decide)⟩
      obtain ⟨payload, hdelivers, hinit⟩ := hstripped
      obtain ⟨completionFrames, -, hcompletion⟩ := hwf.completion
      have hblock : ¬(Transmission.mk (.dict (p.block 0)) (chunkWire py (p.block 0))).Survives := by
        refine not_survives ?_ ((hwf.block 0).phaseBuilt _) (by decide)
        rw [chunkWire_block py _ md c data hwords hdata, phaseReceived_dict]
        rfl
      have hiff := transfer_allSurvive_iff bus (sendMessage py bus depth)
        (sendChunk py bus) (storeAcknowledgment bus) (p := p) (chunkWire py) hkey (fun k s => ⟨rfl, rfl⟩) s
        (fun hrecent => by
          have hdown : s.isShuttingDown = false := by
            rw [← Bool.not_eq_true]
            exact fun h => hstops ⟨h, hrecent⟩
          rw [hdown]
          exact hdelivers)
        (fun i => sendChunk_of_carries py bus _ (hwf.block i))
        (sendChunk_of_carries py bus _ hcompletion) hpos ⟨hinit, hblock⟩
      rw [hrun, hiff]
      cases hrecent : (recentlyAcknowledged bus key s).1 with
      | true => simp [sendsNothing, skipsInit, husable, hkey, hrecent]
      | false =>
        have hdown : s.isShuttingDown = false := by
          rw [← Bool.not_eq_true]
          exact fun h => hstops ⟨h, hrecent⟩
        simp [sendsNothing, skipsInit, husable, hkey, hrecent, hdown]
  · refine iff_of_true
      (allSurvive_of_nothing (sendLargeMessage_refused py bus hframes hok _ s) rfl) ?_
    simp only [sendsNothing, Bool.or_eq_true, Bool.not_eq_true', Option.isNone_iff_eq_none]
    simp only [not_and_or, Bool.not_eq_true, Option.isSome_eq_false_iff,
      Option.isNone_iff_eq_none] at hok
    tauto

end RemoteTerminal

/-- The control information of a large message survives only where the sender hands over nothing at
all: it is shutting down, refuses the message, or is too late after skipping the initialization
message. -/
theorem control_information_survives_iff (py : Runtime) (bus : Bus) {m : Message} {c : Value}
    {data : List Value} (hframes : frames? m = some (c :: data))
    (hwords : ∀ f ∈ c :: data, Bus.isSyncWord f = true)
    (hlarge : maxFramesPerMessage < (c :: data).length) (s : State) (depth : ℕ) :
    (AllSurvive s (BusController.sendLargeMessage py bus
        (BusController.sendMessage py bus depth) (.dict m) s) ↔
      BusController.sendsNothing bus m s = true) ∧
    (AllSurvive s (RemoteTerminal.sendLargeMessage py bus
        (RemoteTerminal.sendMessage py bus depth) (.dict m) s) ↔
      RemoteTerminal.sendsNothing bus m s = true) := by
  simp only [maxFramesPerMessage, maxDataWordsPerMessage, List.length_cons] at hlarge
  have hne : data ≠ [] := by
    rintro rfl
    simp at hlarge
  have hlen : maxPayloadFramesPerChunk ≤ data.length := by
    simp only [maxPayloadFramesPerChunk, maxDataWordsPerMessage, blockTransferHeaderWords]
    omega
  exact ⟨BusController.allSurvive_iff py bus hframes
      (fun f hf => Bus.isText_of_isSyncWord (hwords f hf)) hne s depth,
    RemoteTerminal.allSurvive_iff py bus hframes hwords hlen s depth⟩

theorem largeMessage_isSyncWord : ∀ f ∈ Value.str "10000001000010000010" ::
    List.replicate 34 (Value.str (Bus.dataFrame 7)), Bus.isSyncWord f = true := by
  intro f hf
  rcases List.mem_cons.mp hf with rfl | hf
  · decide
  · rw [List.eq_of_mem_replicate hf]
    exact Bus.isSyncWord_dataFrame 7

theorem control_information_of_large_message :
    ¬AllSurvive .fresh (BusController.sendLargeMessage .ascii .ideal
      (BusController.sendMessage .ascii .ideal 0) (.dict (largeMessage [])) .fresh) ∧
    ¬AllSurvive .fresh (RemoteTerminal.sendLargeMessage .ascii .ideal
      (RemoteTerminal.sendMessage .ascii .ideal 0) (.dict (largeMessage [])) .fresh) := by
  have h := control_information_survives_iff .ascii .ideal (m := largeMessage []) rfl
    largeMessage_isSyncWord (by decide) .fresh 0
  rw [h.1, h.2]
  decide

/-- A message with a request id and usable metadata, sent by an idle bus controller. -/
theorem control_information_lost :
    ¬AllSurvive .fresh (BusController.sendLargeMessage .ascii .ideal
      (BusController.sendMessage .ascii .ideal 0)
      (.dict (largeMessage [("metadata", .dict [("message_type", .str "weather")])])) .fresh) := by
  rw [BusController.allSurvive_iff .ascii .ideal
    (m := largeMessage [("metadata", .dict [("message_type", .str "weather")])]) rfl
    (fun f hf => Bus.isText_of_isSyncWord (largeMessage_isSyncWord f hf)) (by simp)]
  decide

end Fmofp.Sender
