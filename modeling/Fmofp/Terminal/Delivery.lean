import Fmofp.Machine.History
import Fmofp.Terminal.BlockTransfer

/-! What the terminal makes of a transfer depends on the frames of that transfer alone, and is one message
with its words in the order in which they came in, as long as there are no more than thirty-two of them: the
constructor refuses more, and the terminal drops the transfer without a word to the sender. -/

namespace Fmofp.Terminal

open Python Bus BlockTransfer Machine

/-! ### One transfer -/

/-- The inputs that touch the record of a transfer: its frames, and every cleanup. -/
def Input.concerns (key : Value) : Input → Bool
  | .frame _ message => (transferOf message).any fun p => decide (p.1 = key)
  | .cleanup _ => true

/-- What a transfer is in a terminal that has no other: its record, if it has one. -/
def transferStep (py : Runtime) (record : Option Record) : Input → Answer × Option Record
  | .frame now frame => match metadataOf frame, transferOf frame with
    | some metadata, some (_, phase) =>
      let r := react py now frame metadata record phase
      (⟨true, r.appended, r.acknowledgments⟩, r.record)
    | _, _ => (⟨true, [], []⟩, record)
  | .cleanup now => (⟨true, [], []⟩, record.filter fun r => !r.isExpired now)

/-- Each transfer has one record. -/
def RemoteTerminal.Keyed (t : RemoteTerminal) : Prop := (t.blockTransferState.map Prod.fst).Nodup

theorem keyed_initial : RemoteTerminal.initial.Keyed := List.nodup_nil

section Isolation

variable (py : Runtime) (analyze : Message → Option ReceivedMessage)

theorem get?_withRecord (records : Dict Value Record) (key k : Value) (record : Option Record) :
    Dict.get? (withRecord records key record) k = if key = k then record else Dict.get? records k := by
  cases record with
  | some r => rw [withRecord, Dict.get?_set]
  | none => rw [withRecord, Dict.get?_erase]

theorem get?_cleanup {t : RemoteTerminal} (ht : t.Keyed) (now : ℚ) (k : Value) :
    Dict.get? (cleanupBlockTransferState now t).blockTransferState k =
      (Dict.get? t.blockTransferState k).filter fun r => !r.isExpired now := by
  have hpart : (cleanupBlockTransferState now t).blockTransferState =
      Dict.part t.blockTransferState (Record.isExpired now) false := by
    simp only [cleanupBlockTransferState, Dict.part, Bool.decide_eq_false]
  rw [hpart, Dict.get?_part _ _ ht]
  simp only [Bool.decide_eq_false]

theorem keyed_step {t : RemoteTerminal} (ht : t.Keyed) (i : Input) : (step py analyze t i).2.Keyed := by
  cases i with
  | cleanup now => exact ht.sublist (List.filter_sublist.map Prod.fst)
  | frame now frame =>
    rw [step, processFrame]
    split
    · exact ht
    · split
      · exact ht
      · split
        · exact ht
        · rename_i key phase _
          show ((withRecord _ key _).map Prod.fst).Nodup
          cases (react py now frame _ (Dict.get? t.blockTransferState key) phase).record with
          | some r => exact Dict.nodup_keys_set ht key r
          | none => exact Dict.nodup_keys_erase ht key

/-- A frame of a transfer, with what its metadata and its part of the transfer are. -/
theorem transferOf_eq_some {frame : Message} {key : Value} {phase : Phase}
    (h : transferOf frame = some (key, phase)) :
    ∃ metadata, metadataOf frame = some metadata ∧ phaseOf frame metadata = some phase ∧
      (requestIdOf frame).key? = some key := by
  unfold transferOf at h
  cases hmetadata : metadataOf frame with
  | none => simp [hmetadata] at h
  | some metadata =>
    cases hphase : phaseOf frame metadata with
    | none => simp [hmetadata, hphase] at h
    | some p =>
      simp only [hmetadata, hphase] at h
      split_ifs at h
      obtain ⟨k, hk, hpair⟩ := Option.map_eq_some_iff.mp h
      simp only [Prod.mk.injEq] at hpair
      obtain ⟨rfl, rfl⟩ := hpair
      exact ⟨metadata, rfl, hphase, hk⟩

theorem processFrame_transfer {frame metadata : Message} {key : Value} {phase : Phase}
    (hmetadata : metadataOf frame = some metadata) (h : transferOf frame = some (key, phase)) (now : ℚ)
    (t : RemoteTerminal) :
    processFrame py analyze now frame t =
      (⟨true, (react py now frame metadata (Dict.get? t.blockTransferState key) phase).appended,
          (react py now frame metadata (Dict.get? t.blockTransferState key) phase).acknowledgments⟩,
        { blockTransferState := withRecord t.blockTransferState key
            (react py now frame metadata (Dict.get? t.blockTransferState key) phase).record
          processedMessages := t.processedMessages ++
            (react py now frame metadata (Dict.get? t.blockTransferState key) phase).appended }) := by
  obtain ⟨metadata', hmetadata', hphase, -⟩ := transferOf_eq_some h
  rw [hmetadata] at hmetadata'
  obtain rfl := Option.some.inj hmetadata'
  simp only [processFrame, hmetadata, hphase, h]

/-- An input of another transfer, or of none, leaves the record alone. -/
theorem step_hidden {t : RemoteTerminal} {i : Input} {k : Value} (hi : i.concerns k = false) :
    Dict.get? (step py analyze t i).2.blockTransferState k = Dict.get? t.blockTransferState k := by
  cases i with
  | cleanup now => simp [Input.concerns] at hi
  | frame now frame =>
    rw [step, processFrame]
    split
    · rfl
    · split
      · rfl
      · split
        · rfl
        · rename_i key phase htransfer
          have hne : key ≠ k := by
            intro heq
            simp [Input.concerns, htransfer, heq] at hi
          show Dict.get? (withRecord _ key _) k = _
          rw [get?_withRecord, if_neg hne]

/-- An input that concerns a transfer does to its record what it does in a terminal with no other. -/
theorem step_visible {t : RemoteTerminal} (ht : t.Keyed) {i : Input} {k : Value} (hi : i.concerns k = true) :
    (step py analyze t i).1 = (transferStep py (Dict.get? t.blockTransferState k) i).1 ∧
      Dict.get? (step py analyze t i).2.blockTransferState k =
        (transferStep py (Dict.get? t.blockTransferState k) i).2 := by
  cases i with
  | cleanup now => exact ⟨rfl, get?_cleanup ht now k⟩
  | frame now frame =>
    obtain ⟨⟨key, phase⟩, htransfer, hkey⟩ := (Option.any_eq_true _ _).mp hi
    simp only [decide_eq_true_eq] at hkey
    subst hkey
    obtain ⟨metadata, hmetadata, -⟩ := transferOf_eq_some htransfer
    simp only [step, processFrame_transfer py analyze hmetadata htransfer, transferStep, hmetadata, htransfer]
    refine ⟨trivial, ?_⟩
    rw [get?_withRecord, if_pos rfl]

end Isolation

theorem isolated_run (py : Runtime) (analyze : Message → Option ReceivedMessage) {t : RemoteTerminal}
    (ht : t.Keyed) (k : Value) (is : List Input) :
    visibleOutputs (step py analyze) (Input.concerns k) t is =
        outputs (transferStep py) (Dict.get? t.blockTransferState k) (is.filter (Input.concerns k)) ∧
      Dict.get? (final (step py analyze) t is).blockTransferState k =
        final (transferStep py) (Dict.get? t.blockTransferState k) (is.filter (Input.concerns k)) :=
  projected_run (fun t => Dict.get? t.blockTransferState k) RemoteTerminal.Keyed
    (fun _ i ht => keyed_step py analyze ht i) (fun _ _ hi => step_hidden py analyze hi)
    (fun _ _ ht hi => step_visible py analyze ht hi) ht is

/-- Transfers do not interfere: in every interleaving of frames and cleanups, the terminal answers those
that concern a transfer, and keeps its record, as a terminal would that never saw any other frame. -/
theorem transfers_isolated (py : Runtime) (analyze : Message → Option ReceivedMessage) {t : RemoteTerminal}
    (ht : t.Keyed) (k : Value) (is : List Input) :
    visibleOutputs (step py analyze) (Input.concerns k) t is =
        outputs (transferStep py) (Dict.get? t.blockTransferState k) (is.filter (Input.concerns k)) ∧
      Dict.get? (final (step py analyze) t is).blockTransferState k =
        final (transferStep py) (Dict.get? t.blockTransferState k) (is.filter (Input.concerns k)) :=
  isolated_run py analyze ht k is

/-! ### The message of a transfer -/

section Message

variable {py : Runtime} {id : Value} {r : Record}

/-- The numbers of a list are words of the constructor as long as there are no more than thirty-two. -/
theorem dataBits_integers (ns : List ℤ) :
    dataBits (.list (ns.map Value.int)) =
      if ns.length ≤ 32 then .ok (String.join (ns.map (formatBin 16))) else .error .valueError := by
  have hwords : (ns.map Value.int).mapM dataWord = .ok (ns.map (formatBin 16)) := by
    induction ns with
    | nil => rfl
    | cons n rest ih =>
      rw [List.map_cons, List.mapM_cons, ih]
      rfl
  rw [dataBits, List.length_map, hwords]
  by_cases h : ns.length ≤ 32
  · rw [if_neg (by simp only [maxDataWords]; omega), if_pos h]
    rfl
  · rw [if_pos (by simp only [maxDataWords]; omega), if_neg h]

/-- The constructor takes the addresses and the words of the transfer. -/
structure Record.Constructible (py : Runtime) (r : Record) : Prop where
  rtAddress : (address? r.rtAddress).isSome
  subAddress : (address? r.subAddress).isSome
  words : (reassembled py r.dataBuffer).length ≤ 32

theorem message_of_constructible (h : r.Constructible py) :
    ∃ message, processCompleteBlockTransfer py id r = .ok message ∧
      message.message.data = String.join ((reassembled py r.dataBuffer).map (formatBin 16)) := by
  obtain ⟨rt, hrt⟩ := Option.isSome_iff_exists.mp h.rtAddress
  obtain ⟨sub, hsub⟩ := Option.isSome_iff_exists.mp h.subAddress
  unfold processCompleteBlockTransfer MilStd1553BMessage.init
  rw [hrt, hsub, dataBits_integers, if_pos h.words]
  exact ⟨_, rfl, rfl⟩

theorem no_message_of_not_constructible (h : ¬r.Constructible py) :
    (processCompleteBlockTransfer py id r).toOption = none := by
  unfold processCompleteBlockTransfer MilStd1553BMessage.init
  cases hrt : address? r.rtAddress with
  | none => rfl
  | some rt =>
    cases hsub : address? r.subAddress with
    | none => rfl
    | some sub =>
      have hwords : ¬(reassembled py r.dataBuffer).length ≤ 32 := fun hle =>
        h ⟨by rw [hrt]; rfl, by rw [hsub]; rfl, hle⟩
      rw [dataBits_integers, if_neg hwords]
      rfl

end Message

/-! ### The frames of a transfer -/

/-- A frame that opens the transfer `key` and announces `n` data messages. -/
structure Opens (py : Runtime) (key : Value) (metadata : Message) (n : ℕ) (m : Message) : Prop where
  transfer : transferOf m = some (key, .init)
  metadata_eq : metadataOf m = some metadata
  total : ∃ frames, headerNumbers py (framesOf m) (field m metadata "total_messages")
    (field m metadata "total_frames") = .ok (.int n, frames)

/-- A data message of the transfer `key` with its words; sequence numbers may be anything that can be
read. -/
structure CarriesWords (py : Runtime) (key id : Value) (words : List Value) (final : Bool) (m : Message) :
    Prop where
  transfer : transferOf m = some (key, .data)
  request : requestIdOf m = id
  words : payload (framesOf m) = .ok words
  header : ∃ metadata numbers, metadataOf m = some metadata ∧ isFinal m metadata = final ∧
    headerNumbers py (framesOf m) (field m metadata "sequence_number")
      (field m metadata "total_sequences") = .ok numbers

/-- What may come after the last data message: cleanups and completion messages. -/
def Trailing (key : Value) : Input → Prop
  | .frame _ m => transferOf m = some (key, .complete)
  | .cleanup _ => True

/-- The inputs that bring the last `n` data messages of a transfer whose record was touched at `last`: only
the last may be marked as final, and no cleanup finds the record expired. -/
inductive Remaining (py : Runtime) (key id : Value) : ℕ → ℚ → List (List Value) → List Input → Prop
  | cleanup {n : ℕ} {last now : ℚ} {payloads : List (List Value)} {is : List Input}
      (hfresh : now - last ≤ transferTimeout) (hrest : Remaining py key id n last payloads is) :
      Remaining py key id n last payloads (.cleanup now :: is)
  | data {n : ℕ} {last now : ℚ} {words : List Value} {payloads : List (List Value)} {m : Message}
      {is : List Input} (hdata : CarriesWords py key id words false m)
      (hrest : Remaining py key id (n + 1) now payloads is) :
      Remaining py key id (n + 2) last (words :: payloads) (.frame now m :: is)
  | last {last now : ℚ} {words : List Value} {final : Bool} {m : Message} {is : List Input}
      (hdata : CarriesWords py key id words final m) (htrailing : ∀ i ∈ is, Trailing key i) :
      Remaining py key id 1 last [words] (.frame now m :: is)

/-- The inputs of a whole transfer of `n` data messages. -/
inductive WholeTransfer (py : Runtime) (key id : Value) (metadata : Message) (n : ℕ)
    (payloads : List (List Value)) : List Input → Prop
  | intro {now : ℚ} {m : Message} {is : List Input} (hopens : Opens py key metadata n m)
      (hrest : Remaining py key id n now payloads is) :
      WholeTransfer py key id metadata n payloads (.frame now m :: is)

section Run

variable {py : Runtime} {key id : Value}

theorem transferStep_frame {m metadata : Message} {phase : Phase} (hmetadata : metadataOf m = some metadata)
    (h : transferOf m = some (key, phase)) (now : ℚ) (record : Option Record) :
    transferStep py record (.frame now m) =
      (⟨true, (react py now m metadata record phase).appended,
        (react py now m metadata record phase).acknowledgments⟩,
        (react py now m metadata record phase).record) := by
  simp only [transferStep, hmetadata, h]

/-- Once the record is gone, completion messages and cleanups have nothing to do. -/
theorem trailing_run {is : List Input} (h : ∀ i ∈ is, Trailing key i) :
    (outputs (transferStep py) none is).flatMap Answer.appended = [] ∧
      (outputs (transferStep py) none is).flatMap Answer.acknowledgments = [] ∧
      final (transferStep py) none is = none := by
  induction is with
  | nil => exact ⟨rfl, rfl, rfl⟩
  | cons i is ih =>
    have hstep : transferStep py none i = (⟨true, [], []⟩, none) := by
      cases i with
      | cleanup now => rfl
      | frame now m =>
        have htransfer : transferOf m = some (key, .complete) := h (.frame now m) (by simp)
        obtain ⟨metadata, hmetadata, -⟩ := transferOf_eq_some htransfer
        rw [transferStep_frame hmetadata htransfer]
        rfl
    rw [outputs_cons, final_cons, hstep]
    exact ih fun j hj => h j (by simp [hj])

/-- A record with the words of one more data message. -/
def Record.receive (r : Record) (now : ℚ) (words : List Value) : Record :=
  { r with
    receivedMessages := r.receivedMessages + 1
    timestamp := now
    dataBuffer := r.dataBuffer ++ words }

theorem isOver_int {N : ℕ} {r : Record} (h : r.totalMessages = .int N) :
    isOver false r = .ok (decide (N ≤ r.receivedMessages)) := by
  rw [isOver, h]
  simp [Value.number?]

/-- A data message that is not the last one is kept and acknowledged. -/
theorem transferStep_data {N : ℕ} {r : Record} (htotal : r.totalMessages = .int N)
    (hmore : r.receivedMessages + 1 < N) {words : List Value} {m : Message}
    (h : CarriesWords py key id words false m) (now : ℚ) :
    ∃ ack : Acknowledgment, ack.commandType = "transfer_data_ack" ∧
      transferStep py (some r) (.frame now m) = (⟨true, [], [ack]⟩, some (r.receive now words)) := by
  obtain ⟨metadata, numbers, hmetadata, hfinal, hnumbers⟩ := h.header
  rw [transferStep_frame hmetadata h.transfer]
  have hover : isOver false (r.receive now words) = .ok false := by
    rw [isOver_int (r := r.receive now words) htotal]
    exact congrArg Except.ok (decide_eq_false (by simp only [Record.receive]; omega))
  unfold Record.receive at hover ⊢
  simp only [react, handleBlockTransferData, hnumbers, h.words, hfinal, Option.getD_some, hover]
  exact ⟨_, rfl, rfl⟩

/-- The last data message ends the transfer. -/
theorem transferStep_last {r : Record} (htotal : r.totalMessages = .int (r.receivedMessages + 1 : ℕ))
    {words : List Value} {final : Bool} {m : Message} (h : CarriesWords py key id words final m) (now : ℚ) :
    transferStep py (some r) (.frame now m) =
      (⟨true, (processCompleteBlockTransfer py id (r.receive now words)).toOption.toList, []⟩, none) := by
  obtain ⟨metadata, numbers, hmetadata, hfinal, hnumbers⟩ := h.header
  rw [transferStep_frame hmetadata h.transfer]
  have hover : isOver final (r.receive now words) = .ok true := by
    cases final with
    | true => rfl
    | false =>
      rw [isOver_int (r := r.receive now words) htotal]
      simp only [Record.receive, le_refl, decide_true]
  unfold Record.receive at hover ⊢
  simp only [react, handleBlockTransferData, hnumbers, h.words, hfinal, Option.getD_some, hover, h.request]
  rfl

/-- The rest of a transfer: its message, if one can be made, its acknowledgments, and no record. -/
theorem remaining_run {n N : ℕ} {last : ℚ} {payloads : List (List Value)} {is : List Input}
    (h : Remaining py key id n last payloads is) {r : Record} (htotal : r.totalMessages = .int N)
    (hleft : r.receivedMessages + n = N) (hlast : r.timestamp = last) :
    (outputs (transferStep py) (some r) is).flatMap Answer.appended =
        (processCompleteBlockTransfer py id
          { r with dataBuffer := r.dataBuffer ++ payloads.flatten }).toOption.toList ∧
      ((outputs (transferStep py) (some r) is).flatMap Answer.acknowledgments).map
          Acknowledgment.commandType = List.replicate (n - 1) "transfer_data_ack" ∧
      final (transferStep py) (some r) is = none := by
  induction h generalizing r with
  | @cleanup _ _ now _ _ hfresh _ ih =>
    have hkept : transferStep py (some r) (.cleanup now) = (⟨true, [], []⟩, some r) := by
      simp only [transferStep, Option.filter_some, Record.isExpired, hlast, not_lt.mpr hfresh,
        decide_false, Bool.not_false, if_true]
    rw [outputs_cons, final_cons, hkept]
    exact ih htotal hleft hlast
  | @data n _ now words payloads m is hdata _ ih =>
    obtain ⟨ack, hack, hstep⟩ := transferStep_data htotal (by omega) hdata now
    rw [outputs_cons, final_cons, hstep]
    obtain ⟨happended, hacks, hrecord⟩ := ih (r := r.receive now words) htotal
      (by simp only [Record.receive]; omega) rfl
    refine ⟨?_, ?_, hrecord⟩
    · rw [List.flatMap_cons, List.nil_append, happended, List.flatten_cons, ← List.append_assoc]
      rfl
    · rw [List.flatMap_cons, List.singleton_append, List.map_cons, hack, hacks]
      rfl
  | @last _ now words _ m is hdata htrailing =>
    have hone : r.totalMessages = .int (r.receivedMessages + 1 : ℕ) := by rw [htotal, hleft]
    obtain ⟨happended, hacks, hrecord⟩ := @trailing_run py _ _ htrailing
    rw [outputs_cons, final_cons, transferStep_last hone hdata now]
    refine ⟨?_, ?_, hrecord⟩
    · rw [List.flatMap_cons, happended, List.append_nil, List.flatten_singleton]
      rfl
    · rw [List.flatMap_cons, hacks]
      rfl

/-- A frame that opens a transfer is acknowledged, and its record replaces any older one. -/
theorem transferStep_opens {metadata : Message} {n : ℕ} {m : Message} (h : Opens py key metadata n m)
    (now : ℚ) (record : Option Record) :
    ∃ ack : Acknowledgment, ack.commandType = "transfer_init_ack" ∧
      transferStep py record (.frame now m) =
        (⟨true, [], [ack]⟩, some (startRecord now metadata (.int n))) := by
  obtain ⟨frames, htotal⟩ := h.total
  rw [transferStep_frame h.metadata_eq h.transfer]
  simp only [react, handleBlockTransferInit, htotal]
  exact ⟨_, rfl, rfl⟩

/-- What becomes of a whole transfer, by what the queue and the sender get to see of it. -/
structure Outcome (py : Runtime) (r : Record) (n : ℕ) (answers : List Answer) (record : Option Record) :
    Prop where
  delivered : r.Constructible py → ∃ message, answers.flatMap Answer.appended = [message] ∧
    message.message.data = String.join ((reassembled py r.dataBuffer).map (formatBin 16))
  dropped : ¬r.Constructible py → answers.flatMap Answer.appended = []
  acknowledged : (answers.flatMap Answer.acknowledgments).map Acknowledgment.commandType =
    "transfer_init_ack" :: List.replicate (n - 1) "transfer_data_ack"
  forgotten : record = none

/-- The record of a transfer with all its words. -/
def completeRecord (metadata : Message) (n : ℕ) (payloads : List (List Value)) : Record :=
  { startRecord 0 metadata (.int n) with dataBuffer := payloads.flatten }

theorem transfer_outcome {metadata : Message} {n : ℕ} {payloads : List (List Value)} {is : List Input}
    (h : WholeTransfer py key id metadata n payloads is) (record : Option Record) :
    Outcome py (completeRecord metadata n payloads) n (outputs (transferStep py) record is)
      (final (transferStep py) record is) := by
  obtain ⟨hopens, hrest⟩ := h
  rename_i now m is
  obtain ⟨ack, hack, hstep⟩ := transferStep_opens hopens now record
  obtain ⟨happended, hacks, hrecord⟩ :=
    remaining_run hrest (r := startRecord now metadata (.int n)) rfl (Nat.zero_add n) rfl
  have hmessage : (outputs (transferStep py) record (.frame now m :: is)).flatMap Answer.appended =
      (processCompleteBlockTransfer py id (completeRecord metadata n payloads)).toOption.toList := by
    rw [outputs_cons, hstep, List.flatMap_cons, List.nil_append, happended]
    rfl
  refine ⟨fun hfits => ?_, fun hunfit => ?_, ?_, ?_⟩
  · obtain ⟨message, hok, hdata⟩ := @message_of_constructible py id _ hfits
    exact ⟨message, by rw [hmessage, hok]; rfl, hdata⟩
  · rw [hmessage, no_message_of_not_constructible hunfit]
    rfl
  · rw [outputs_cons, hstep, List.flatMap_cons, List.singleton_append, List.map_cons, hack, hacks]
  · rw [final_cons, hstep, hrecord]

end Run

/-- A message of a block transfer as it leaves the bus controller. -/
def transferMessage (id phase : String) (fields : Message) (words : List String) : Message :=
  [("request_id", .str id), ("metadata", .dict ((phase, .bool true) :: fields)),
    ("frames", .list (words.map Value.str))]

def openingOf (id : String) (total : ℤ) : Message :=
  transferMessage id "is_transfer_init" [("total_messages", .int total), ("total_frames", .int total)] []

def dataOf (id : String) (number total : ℤ) (word : String) : Message :=
  transferMessage id "is_transfer_data" [("sequence_number", .int number), ("total_sequences", .int total)]
    ["10000001000010000010", "00100000000000000010", "00100000000000000010", word]

/-- The second word of one transfer before its first, and another transfer in between. -/
def interleaved : List Input :=
  [.frame 0 (openingOf "a" 2), .frame 0 (openingOf "b" 1),
    .frame 1 (dataOf "a" 2 2 "00100000000000001110"), .cleanup 30,
    .frame 30 (dataOf "b" 1 1 "00100000000000000010"), .frame 31 (dataOf "a" 1 2 "00100000000000001010"),
    .frame 32 (transferMessage "a" "is_transfer_complete" [] [])]

def ownInputs : List Input :=
  [.frame 0 (openingOf "a" 2), .frame 1 (dataOf "a" 2 2 "00100000000000001110"), .cleanup 30,
    .frame 31 (dataOf "a" 1 2 "00100000000000001010"),
    .frame 32 (transferMessage "a" "is_transfer_complete" [] [])]

theorem filter_interleaved : interleaved.filter (Input.concerns (.str "a")) = ownInputs := rfl

theorem transfers_isolated_two :
    visibleOutputs (step Runtime.ascii fun _ => none) (Input.concerns (.str "a")) .initial interleaved =
        outputs (transferStep Runtime.ascii) none ownInputs ∧
      Dict.get? (final (step Runtime.ascii fun _ => none) .initial interleaved).blockTransferState
        (.str "a") = final (transferStep Runtime.ascii) none ownInputs :=
  transfers_isolated Runtime.ascii (fun _ => none) keyed_initial (.str "a") interleaved

theorem carriesWords_a (number : ℤ) (word : String) :
    CarriesWords Runtime.ascii (.str "a") (.str "a") [.str word] false (dataOf "a" number 2 word) :=
  ⟨rfl, rfl, rfl, _, _, rfl, rfl, rfl⟩

theorem wholeTransfer_a : WholeTransfer Runtime.ascii (.str "a") (.str "a")
    [("is_transfer_init", .bool true), ("total_messages", .int 2), ("total_frames", .int 2)] 2
    [[.str "00100000000000001110"], [.str "00100000000000001010"]] ownInputs := by
  refine .intro ⟨rfl, rfl, .int 2, rfl⟩ (.data ⟨rfl, rfl, rfl, _, _, rfl, rfl, rfl⟩
    (.cleanup (by decide +kernel) (.last (carriesWords_a 1 "00100000000000001010") ?_)))
  intro i hi
  rw [List.mem_singleton.mp hi]
  rfl

end Fmofp.Terminal
