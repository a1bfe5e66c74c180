import Fmofp.Bus.WordCodec
import Fmofp.Python.Json
import Fmofp.Aggregator.Detection

/-! The block transfer that both senders run: an initialization message unless the request was
acknowledged a moment ago, one data message for each thirty frames, and a completion message. -/

namespace Fmofp.Sender

open Python

def maxDataWordsPerMessage : ℕ := 32
def maxFramesPerMessage : ℕ := 1 + maxDataWordsPerMessage
def blockTransferHeaderWords : ℕ := 2
def maxPayloadFramesPerChunk : ℕ := maxDataWordsPerMessage - blockTransferHeaderWords
def blockTransferTimeout : ℚ := 20
def acknowledgmentLifetime : ℚ := 5

/-- One use of the bus adapter: the message that was to be sent, and the value whose JSON text the
adapter was handed. -/
structure Transmission where
  message : Value
  payload : Value

/-- A sender: whether it is shutting down, when each request was acknowledged, what it handed to
the adapter so far and how often it read its two clocks. -/
structure State where
  isShuttingDown : Bool
  acknowledgedRequests : Dict Value ℚ
  transmissions : List Transmission
  timeReads : ℕ
  monotonicReads : ℕ

/-- What a sender meets: the outcome of its `k`-th transmission, whether a status word for the
request comes in after the first `k` of them, and the `k`-th readings of its clocks. -/
structure Bus where
  transmit : ℕ → Bool
  statusWord : ℕ → Bool
  time : ℕ → ℚ
  monotonic : ℕ → ℚ

/-- What a sending method returns or raises, and the sender after it. -/
abbrev Outcome := Except Exception Bool × State

/-- A sending method.  No outcome: it calls itself deeper than the caller allows. -/
abbrev Send := Value → State → Option Outcome

def State.push (s : State) (t : Transmission) : State :=
  { s with transmissions := s.transmissions ++ [t] }

def Bus.send (bus : Bus) (message payload : Value) (s : State) : Outcome :=
  (.ok (bus.transmit s.transmissions.length), s.push ⟨message, payload⟩)

/-- Go on after a call that returned `True`. -/
def andThen (r : Option Outcome) (next : State → Option Outcome) : Option Outcome :=
  match r with
  | some (.ok true, s) => next s
  | r => r

/-- `try: ... except Exception: return False`. -/
def guarded (r : Option Outcome) : Option Outcome :=
  r.map fun o => match o with
    | (.error _, s) => (.ok false, s)
    | o => o

/-- What a block transfer sends: the leading word and the data frames, and its messages. -/
structure Plan where
  requestId : Value
  leadingWord : Value
  dataFrames : List Value
  word : ℕ → Value
  initMessage : Message
  dataMessage : ℕ → List Value → Message
  completionMessage : Message

namespace Plan

def numMessages (p : Plan) : ℕ :=
  (p.dataFrames.length + maxPayloadFramesPerChunk - 1) / maxPayloadFramesPerChunk

/-- `data_frames[i * 30 : min((i + 1) * 30, len(data_frames))]`. -/
def chunk (p : Plan) (i : ℕ) : List Value :=
  (p.dataFrames.drop (i * maxPayloadFramesPerChunk)).take maxPayloadFramesPerChunk

/-- The leading word, the sequence number, the total and the chunk. -/
def blockFrames (p : Plan) (i : ℕ) : List Value :=
  p.leadingWord :: p.word (i + 1) :: p.word p.numMessages :: p.chunk i

def block (p : Plan) (i : ℕ) : Message := p.dataMessage i (p.blockFrames i)

end Plan

/-- Whether the request was acknowledged less than five seconds ago. -/
def recentlyAcknowledged (bus : Bus) (key : Value) (s : State) : Bool × State :=
  match Dict.get? s.acknowledgedRequests key with
  | none => (false, s)
  | some t => (decide (bus.time s.timeReads - t < acknowledgmentLifetime),
      { s with timeReads := s.timeReads + 1 })

/-- `self.acknowledged_requests[request_id] = time.time()`. -/
def storeAcknowledgment (bus : Bus) (key : Value) (s : State) : State :=
  { s with
    acknowledgedRequests := Dict.set s.acknowledgedRequests key (bus.time s.timeReads)
    timeReads := s.timeReads + 1 }

/-- The loop over the data messages.  It gives up past the deadline, on a chunk that would be split
again and on a message that was not sent. -/
def sendBlocks (bus : Bus) (send : Send) (p : Plan) (deadline : ℚ) :
    List ℕ → State → Option Outcome
  | [], s => some (.ok true, s)
  | i :: rest, s =>
    let now := bus.monotonic s.monotonicReads
    let s := { s with monotonicReads := s.monotonicReads + 1 }
    if deadline < now then some (.ok false, s)
    else if maxFramesPerMessage < (p.blockFrames i).length then some (.ok false, s)
    else andThen (send (.dict (p.block i)) s) (sendBlocks bus send p deadline rest)

/-- All data messages under one deadline, and then the completion message. -/
def sendData (bus : Bus) (send : Send) (p : Plan) (s : State) : Option Outcome :=
  let deadline := bus.monotonic s.monotonicReads + blockTransferTimeout
  let s := { s with monotonicReads := s.monotonicReads + 1 }
  andThen (sendBlocks bus send p deadline (List.range p.numMessages) s)
    (send (.dict p.completionMessage))

/-- The whole transfer.  A request id that is not hashable cannot be looked up. -/
def transfer (bus : Bus) (sendInit send : Send) (acknowledge : Value → State → State)
    (p : Plan) (s : State) : Option Outcome :=
  match p.requestId.key? with
  | none => some (.error .typeError, s)
  | some key =>
    let (acknowledged, s) := recentlyAcknowledged bus key s
    if acknowledged then sendData bus send p s
    else andThen (sendInit (.dict p.initMessage) s) fun s => sendData bus send p (acknowledge key s)

/-- Every transmission succeeds, and no clock reading is past the deadline of a transfer that
starts now. -/
def Bus.Smooth (bus : Bus) (s : State) : Prop :=
  (∀ k, bus.transmit k = true) ∧ ∀ k,
    bus.monotonic (s.monotonicReads + k) ≤ bus.monotonic s.monotonicReads + blockTransferTimeout

def State.fresh : State where
  isShuttingDown := false
  acknowledgedRequests := []
  transmissions := []
  timeReads := 0
  monotonicReads := 0

/-- A bus on which nothing fails and no time passes. -/
def Bus.ideal : Bus where
  transmit _ := true
  statusWord _ := false
  time _ := 0
  monotonic _ := 0

theorem Bus.ideal_smooth (s : State) : Bus.ideal.Smooth s :=
  ⟨fun _ => rfl, fun _ => by simp [Bus.ideal, blockTransferTimeout]⟩

/-- `send` hands the message to the adapter once, as the given payload, and returns what the
adapter returns. -/
def Delivers (bus : Bus) (send : Send) (down : Bool) (m : Message) (payload : Value) : Prop :=
  ∀ s, s.isShuttingDown = down → send (.dict m) s = some (bus.send (.dict m) payload s)

/-! ### The chunks of a transfer -/

namespace Plan

variable (p : Plan)

theorem chunk_length_le (i : ℕ) : (p.chunk i).length ≤ maxPayloadFramesPerChunk :=
  List.length_take_le _ _

theorem blockFrames_length_le (i : ℕ) : (p.blockFrames i).length ≤ maxFramesPerMessage := by
  have h := p.chunk_length_le i
  simp only [blockFrames, List.length_cons]
  simp only [maxPayloadFramesPerChunk, maxDataWordsPerMessage, blockTransferHeaderWords] at h
  simp only [maxFramesPerMessage, maxDataWordsPerMessage]
  omega

theorem numMessages_spec : p.numMessages = (p.dataFrames.length + 29) / 30 := rfl

theorem chunk_ne_nil {i : ℕ} (h : i < p.numMessages) : p.chunk i ≠ [] := by
  intro hnil
  have hlen := congrArg List.length hnil
  rw [numMessages_spec] at h
  simp only [chunk, maxPayloadFramesPerChunk, maxDataWordsPerMessage, blockTransferHeaderWords,
    List.length_take, List.length_drop, List.length_nil] at hlen
  omega

/-- The first chunks together are the first frames. -/
theorem flatten_chunks (k : ℕ) :
    ((List.range k).map p.chunk).flatten = p.dataFrames.take (k * maxPayloadFramesPerChunk) := by
  induction k with
  | zero => simp
  | succ k ih =>
    rw [List.range_succ, List.map_append, List.flatten_append, ih, List.map_singleton,
      List.flatten_singleton, chunk, Nat.succ_mul, List.take_add]

/-- The chunks together are the data frames, in order. -/
theorem flatten_all_chunks :
    ((List.range p.numMessages).map p.chunk).flatten = p.dataFrames := by
  rw [flatten_chunks]
  apply List.take_of_length_le
  rw [numMessages_spec]
  simp only [maxPayloadFramesPerChunk, maxDataWordsPerMessage, blockTransferHeaderWords]
  omega

end Plan

end Fmofp.Sender

/-! What a block transfer hands to the bus adapter.  Whatever the bus does, it is a prefix of the
planned transmissions; when nothing fails and the deadline is not reached, it is all of them. -/

namespace Fmofp.Sender

open Python

/-- A run from `s` that hands over a prefix of `ts`, and all of it when it returns `True`. -/
def HandsOver (ts : List Transmission) (s : State) (r : Option Outcome) : Prop :=
  ∃ b s' sent, r = some (.ok b, s') ∧ s'.isShuttingDown = s.isShuttingDown ∧
    s'.transmissions = s.transmissions ++ sent ∧ sent <+: ts ∧ (b = true → sent = ts)

/-- A run from `s` that returns `True`, and reads the monotonic clock `reads` times. -/
def Succeeds (reads : ℕ) (s : State) (r : Option Outcome) : Prop :=
  ∃ s', r = some (.ok true, s') ∧ s'.isShuttingDown = s.isShuttingDown ∧
    s'.monotonicReads = s.monotonicReads + reads

/-- All transmissions of a transfer, in order, when each message is handed over as `sent` says. -/
def Plan.transmissions (p : Plan) (init : List Transmission)
    (sent : Message → List Transmission) : List Transmission :=
  init ++ ((List.range p.numMessages).flatMap fun i => sent (p.block i)) ++ sent p.completionMessage

theorem HandsOver.andThen {ts us : List Transmission} {s : State} {r : Option Outcome}
    {next : State → Option Outcome} (hr : HandsOver ts s r)
    (hnext : ∀ s', s'.isShuttingDown = s.isShuttingDown → HandsOver us s' (next s')) :
    HandsOver (ts ++ us) s (andThen r next) := by
  obtain ⟨b, s', sent, rfl, hdown, htrans, hinit, hall⟩ := hr
  cases b with
  | false => exact ⟨false, s', sent, rfl, hdown, htrans, hinit.trans (List.prefix_append _ _), by simp⟩
  | true =>
    obtain ⟨b', s'', sent', hrun, hdown', htrans', hinit', hall'⟩ := hnext s' hdown
    refine ⟨b', s'', ts ++ sent', hrun, hdown'.trans hdown, ?_, ?_, ?_⟩
    · rw [htrans', htrans, hall rfl, List.append_assoc]
    · exact (List.prefix_append_right_inj ts).mpr hinit'
    · intro hb
      rw [hall' hb]

theorem Succeeds.andThen {reads reads' : ℕ} {s : State} {r : Option Outcome}
    {next : State → Option Outcome} (hr : Succeeds reads s r)
    (hnext : ∀ s', s'.isShuttingDown = s.isShuttingDown →
      s'.monotonicReads = s.monotonicReads + reads → Succeeds reads' s' (next s')) :
    Succeeds (reads + reads') s (andThen r next) := by
  obtain ⟨s', rfl, hdown, hreads⟩ := hr
  obtain ⟨s'', hrun, hdown', hreads'⟩ := hnext s' hdown hreads
  exact ⟨s'', hrun, hdown'.trans hdown, by omega⟩

/-- A run that succeeds and hands over a prefix of `ts` hands over all of `ts`. -/
theorem HandsOver.all_of_succeeds {ts : List Transmission} {reads : ℕ} {s : State}
    {r : Option Outcome} (h : HandsOver ts s r) (hs : Succeeds reads s r) :
    ∃ s', r = some (.ok true, s') ∧ s'.transmissions = s.transmissions ++ ts := by
  obtain ⟨b, s', sent, rfl, -, htrans, -, hall⟩ := h
  obtain ⟨s'', hrun, -⟩ := hs
  simp only [Option.some.injEq, Prod.mk.injEq, Except.ok.injEq] at hrun
  obtain ⟨rfl, rfl⟩ := hrun
  exact ⟨s', rfl, by rw [htrans, hall rfl]⟩

theorem Delivers.handsOver {bus : Bus} {send : Send} {down : Bool} {m : Message} {payload : Value}
    (h : Delivers bus send down m payload) {s : State} (hs : s.isShuttingDown = down) :
    HandsOver [⟨.dict m, payload⟩] s (send (.dict m) s) := by
  rw [h s hs]
  exact ⟨bus.transmit s.transmissions.length, s.push _, [_], rfl, rfl, rfl, List.prefix_rfl,
    fun _ => rfl⟩

theorem Delivers.succeeds {bus : Bus} {send : Send} {down : Bool} {m : Message} {payload : Value}
    (h : Delivers bus send down m payload) (htransmit : ∀ k, bus.transmit k = true) {s : State}
    (hs : s.isShuttingDown = down) : Succeeds 0 s (send (.dict m) s) := by
  rw [h s hs, Bus.send, htransmit]
  exact ⟨s.push _, rfl, rfl, rfl⟩

/-- A message with these frames, and with metadata that puts it in this phase of a transfer. -/
structure Carries (m : Message) (frames : List Value) (phase : Bool × Bool × Bool) : Prop where
  frames_eq : Dict.get? m "frames" = some (.list frames)
  metadata_eq : ∃ md, Dict.get? m "metadata" = some (.dict md) ∧ md ≠ []
  phase_eq : Aggregator.getTransferFlags m = phase

/-- The messages of a plan carry few enough frames and are in their phases. -/
structure Plan.WellFormed (p : Plan) : Prop where
  init : ∃ frames, frames.length ≤ maxFramesPerMessage ∧
    Carries p.initMessage frames (true, false, false)
  block : ∀ i, Carries (p.block i) (p.blockFrames i) (false, true, false)
  completion : ∃ frames, frames.length ≤ maxFramesPerMessage ∧
    Carries p.completionMessage frames (false, false, true)

section Run

variable (bus : Bus) {send sendInit : Send} {p : Plan} {down : Bool}

theorem sendBlocks_handsOver (sent : Message → List Transmission)
    (hsend : ∀ i s, s.isShuttingDown = down →
      HandsOver (sent (p.block i)) s (send (.dict (p.block i)) s))
    (deadline : ℚ) (is : List ℕ) (s : State) (hs : s.isShuttingDown = down) :
    HandsOver (is.flatMap fun i => sent (p.block i)) s (sendBlocks bus send p deadline is s) := by
  induction is generalizing s with
  | nil => exact ⟨true, s, [], rfl, rfl, by simp, List.prefix_rfl, fun _ => rfl⟩
  | cons i rest ih =>
    rw [sendBlocks]
    by_cases hlate : deadline < bus.monotonic s.monotonicReads
    · simp only [hlate, if_true]
      exact ⟨false, _, [], rfl, rfl, by simp, List.nil_prefix, by simp⟩
    · simp only [hlate, if_false, not_lt.mpr (p.blockFrames_length_le i)]
      have hfirst := hsend i { s with monotonicReads := s.monotonicReads + 1 } hs
      exact hfirst.andThen fun s' hs' => ih s' (hs'.trans hs)

theorem sendBlocks_succeeds
    (hsend : ∀ i s, s.isShuttingDown = down → Succeeds 0 s (send (.dict (p.block i)) s))
    (deadline : ℚ) (is : List ℕ) (s : State) (hs : s.isShuttingDown = down)
    (htime : ∀ k, bus.monotonic (s.monotonicReads + k) ≤ deadline) :
    Succeeds is.length s (sendBlocks bus send p deadline is s) := by
  induction is generalizing s with
  | nil => exact ⟨s, rfl, rfl, rfl⟩
  | cons i rest ih =>
    have hnow : ¬deadline < bus.monotonic s.monotonicReads := not_lt.mpr (htime 0)
    rw [sendBlocks]
    simp only [hnow, if_false, not_lt.mpr (p.blockFrames_length_le i)]
    have hfirst := hsend i { s with monotonicReads := s.monotonicReads + 1 } hs
    have hrest : Succeeds (0 + rest.length) { s with monotonicReads := s.monotonicReads + 1 }
        (andThen (send (.dict (p.block i)) { s with monotonicReads := s.monotonicReads + 1 })
          (sendBlocks bus send p deadline rest)) :=
      hfirst.andThen fun s' hs' hreads => by
        apply ih s' (hs'.trans hs)
        intro k
        have hk := htime (1 + k)
        rw [hreads]
        rwa [← Nat.add_assoc] at hk
    obtain ⟨s', hrun, hdown, hreads⟩ := hrest
    refine ⟨s', hrun, hdown, ?_⟩
    simp only at hreads
    rw [hreads, List.length_cons]
    omega

theorem sendData_handsOver (sent : Message → List Transmission)
    (hblock : ∀ i s, s.isShuttingDown = down →
      HandsOver (sent (p.block i)) s (send (.dict (p.block i)) s))
    (hcompletion : ∀ s, s.isShuttingDown = down →
      HandsOver (sent p.completionMessage) s (send (.dict p.completionMessage) s))
    (s : State) (hs : s.isShuttingDown = down) :
    HandsOver (p.transmissions [] sent) s (sendData bus send p s) := by
  have hblocks := sendBlocks_handsOver bus sent hblock
    (bus.monotonic s.monotonicReads + blockTransferTimeout) (List.range p.numMessages)
    { s with monotonicReads := s.monotonicReads + 1 } hs
  exact hblocks.andThen fun s' hs' => hcompletion s' (hs'.trans hs)

/-- A transfer with a hashable request id. -/
theorem transfer_eq {acknowledge : Value → State → State} {key : Value}
    (hkey : p.requestId.key? = some key) (s : State) :
    transfer bus sendInit send acknowledge p s =
      if (recentlyAcknowledged bus key s).1 then
        sendData bus send p (recentlyAcknowledged bus key s).2
      else andThen (sendInit (.dict p.initMessage) (recentlyAcknowledged bus key s).2) fun s =>
        sendData bus send p (acknowledge key s) := by
  simp only [transfer, hkey]

/-- Whatever the bus does, a transfer hands over a prefix of its transmissions; the initialization
message is among them unless the request was acknowledged recently. -/
theorem transfer_handsOver (acknowledge : Value → State → State) {key : Value}
    (init : List Transmission) (sent : Message → List Transmission)
    (hkey : p.requestId.key? = some key)
    (hack : ∀ k s, (acknowledge k s).isShuttingDown = s.isShuttingDown ∧
      (acknowledge k s).transmissions = s.transmissions)
    (s : State) (hs : s.isShuttingDown = down)
    (hinit : (recentlyAcknowledged bus key s).1 = false → ∀ s', s'.isShuttingDown = down →
      HandsOver init s' (sendInit (.dict p.initMessage) s'))
    (hblock : ∀ i s, s.isShuttingDown = down →
      HandsOver (sent (p.block i)) s (send (.dict (p.block i)) s))
    (hcompletion : ∀ s, s.isShuttingDown = down →
      HandsOver (sent p.completionMessage) s (send (.dict p.completionMessage) s)) :
    HandsOver (p.transmissions (if (recentlyAcknowledged bus key s).1 then [] else init) sent) s
      (transfer bus sendInit send acknowledge p s) := by
  have hreads : (recentlyAcknowledged bus key s).2.isShuttingDown = s.isShuttingDown ∧
      (recentlyAcknowledged bus key s).2.transmissions = s.transmissions := by
    unfold recentlyAcknowledged
    split <;> exact ⟨rfl, rfl⟩
  rw [transfer_eq bus hkey]
  generalize hrecent : recentlyAcknowledged bus key s = recent at hreads hinit ⊢
  obtain ⟨acknowledged, s₁⟩ := recent
  simp only at hreads hinit
  obtain ⟨hdown, htrans⟩ := hreads
  have hs₁ : s₁.isShuttingDown = down := hdown.trans hs
  have hrun : HandsOver (p.transmissions (if acknowledged then [] else init) sent) s₁
      (if acknowledged then sendData bus send p s₁
        else andThen (sendInit (.dict p.initMessage) s₁) fun s =>
          sendData bus send p (acknowledge key s)) := by
    cases acknowledged with
    | true => exact sendData_handsOver bus sent hblock hcompletion s₁ hs₁
    | false =>
      have hrest : HandsOver (init ++ p.transmissions [] sent) s₁
          (andThen (sendInit (.dict p.initMessage) s₁) fun s =>
            sendData bus send p (acknowledge key s)) :=
        (hinit rfl s₁ hs₁).andThen fun s' hs' => by
          obtain ⟨hdown', htrans'⟩ := hack key s'
          have hdata := sendData_handsOver bus sent hblock hcompletion (acknowledge key s')
            (hdown'.trans (hs'.trans hs₁))
          unfold HandsOver at hdata ⊢
          rwa [hdown', htrans'] at hdata
      simpa [Plan.transmissions, List.append_assoc] using hrest
  unfold HandsOver at hrun ⊢
  rwa [hdown, htrans] at hrun

theorem sendData_succeeds
    (hblock : ∀ i s, s.isShuttingDown = down → Succeeds 0 s (send (.dict (p.block i)) s))
    (hcompletion : ∀ s, s.isShuttingDown = down →
      Succeeds 0 s (send (.dict p.completionMessage) s))
    (s : State) (hs : s.isShuttingDown = down)
    (htime : ∀ k, bus.monotonic (s.monotonicReads + k) ≤
      bus.monotonic s.monotonicReads + blockTransferTimeout) :
    Succeeds (p.numMessages + 1) s (sendData bus send p s) := by
  have hblocks := sendBlocks_succeeds bus hblock
    (bus.monotonic s.monotonicReads + blockTransferTimeout) (List.range p.numMessages)
    { s with monotonicReads := s.monotonicReads + 1 } hs fun k => by
      have hk := htime (1 + k)
      rwa [← Nat.add_assoc] at hk
  rw [List.length_range] at hblocks
  have hwhole : Succeeds (p.numMessages + 0) _ (andThen _ (send (.dict p.completionMessage))) :=
    hblocks.andThen fun s' hs' _ => hcompletion s' (hs'.trans hs)
  obtain ⟨s', hrun, hdown, hreads⟩ := hwhole
  refine ⟨s', hrun, hdown, ?_⟩
  simp only at hreads
  omega

/-- A transfer over a smooth bus returns `True`. -/
theorem transfer_succeeds (acknowledge : Value → State → State) {key : Value}
    (hkey : p.requestId.key? = some key)
    (hack : ∀ k s, (acknowledge k s).isShuttingDown = s.isShuttingDown ∧
      (acknowledge k s).monotonicReads = s.monotonicReads)
    (s : State) (hs : s.isShuttingDown = down) (hsmooth : bus.Smooth s)
    (hinit : (recentlyAcknowledged bus key s).1 = false → ∀ s', s'.isShuttingDown = down →
      Succeeds 0 s' (sendInit (.dict p.initMessage) s'))
    (hblock : ∀ i s, s.isShuttingDown = down → Succeeds 0 s (send (.dict (p.block i)) s))
    (hcompletion : ∀ s, s.isShuttingDown = down →
      Succeeds 0 s (send (.dict p.completionMessage) s)) :
    Succeeds (p.numMessages + 1) s (transfer bus sendInit send acknowledge p s) := by
  have hreads : (recentlyAcknowledged bus key s).2.isShuttingDown = s.isShuttingDown ∧
      (recentlyAcknowledged bus key s).2.monotonicReads = s.monotonicReads := by
    unfold recentlyAcknowledged
    split <;> exact ⟨rfl, rfl⟩
  rw [transfer_eq bus hkey]
  generalize hrecent : recentlyAcknowledged bus key s = recent at hreads hinit ⊢
  obtain ⟨acknowledged, s₁⟩ := recent
  simp only at hreads hinit
  obtain ⟨hdown, hmono⟩ := hreads
  have hs₁ : s₁.isShuttingDown = down := hdown.trans hs
  have htime : ∀ s' : State, s'.monotonicReads = s.monotonicReads → ∀ k,
      bus.monotonic (s'.monotonicReads + k) ≤
        bus.monotonic s'.monotonicReads + blockTransferTimeout := by
    intro s' hs' k
    rw [hs']
    exact hsmooth.2 k
  have hrun : Succeeds (p.numMessages + 1) s₁
      (if acknowledged then sendData bus send p s₁
        else andThen (sendInit (.dict p.initMessage) s₁) fun s =>
          sendData bus send p (acknowledge key s)) := by
    cases acknowledged with
    | true => exact sendData_succeeds bus hblock hcompletion s₁ hs₁ (htime s₁ hmono)
    | false =>
      have hrest : Succeeds (0 + (p.numMessages + 1)) s₁
          (andThen (sendInit (.dict p.initMessage) s₁) fun s =>
            sendData bus send p (acknowledge key s)) :=
        (hinit rfl s₁ hs₁).andThen fun s' hs' hreads' => by
          obtain ⟨hdown', hmono'⟩ := hack key s'
          obtain ⟨s'', hrun, hdown'', hreads''⟩ := sendData_succeeds bus hblock
            hcompletion (acknowledge key s') (hdown'.trans (hs'.trans hs₁))
            (htime _ (hmono'.trans (hreads'.trans hmono)))
          exact ⟨s'', hrun, hdown''.trans hdown', by omega⟩
      obtain ⟨s', hrun, hdown', hreads'⟩ := hrest
      exact ⟨s', hrun, hdown', by omega⟩
  obtain ⟨s', hrun, hdown', hreads'⟩ := hrun
  exact ⟨s', hrun, hdown'.trans hdown, by omega⟩

/-! ### When a transfer hands over anything at all -/

/-- The deadline is past already when the first data message is due. -/
def tooLate (bus : Bus) (s : State) : Bool :=
  decide (bus.monotonic s.monotonicReads + blockTransferTimeout <
    bus.monotonic (s.monotonicReads + 1))

/-- A run from `s` that hands over at least one message. -/
def HandsOverSome (s : State) (r : Option Outcome) : Prop :=
  ∃ o s' t rest, r = some (o, s') ∧ s'.transmissions = s.transmissions ++ t :: rest

theorem Delivers.handsOverSome {bus : Bus} {m : Message} {payload : Value} {next : State → Option Outcome}
    (h : Delivers bus send down m payload) {s : State} (hs : s.isShuttingDown = down)
    (hnext : ∀ s', s'.isShuttingDown = down → ∃ ts, HandsOver ts s' (next s')) :
    HandsOverSome s (andThen (send (.dict m) s) next) := by
  rw [h s hs, Bus.send]
  cases bus.transmit s.transmissions.length with
  | false => exact ⟨_, _, _, [], rfl, rfl⟩
  | true =>
    obtain ⟨ts, b, s', sent, hrun, -, htrans, -, -⟩ := hnext (s.push ⟨.dict m, payload⟩) hs
    refine ⟨.ok b, s', ⟨.dict m, payload⟩, sent, hrun, ?_⟩
    rw [htrans, State.push, List.append_assoc, List.singleton_append]

theorem andThen_assoc (r : Option Outcome) (f g : State → Option Outcome) :
    andThen (andThen r f) g = andThen r fun s => andThen (f s) g := by
  rcases r with _ | ⟨_ | _ | _, s⟩ <;> rfl

theorem sendData_handsOverSome {sent : Message → Value}
    (hblock : ∀ i, Delivers bus send down (p.block i) (sent (p.block i)))
    (hcompletion : Delivers bus send down p.completionMessage (sent p.completionMessage))
    (s : State) (hs : s.isShuttingDown = down) (hpos : 0 < p.numMessages)
    (htime : tooLate bus s = false) : HandsOverSome s (sendData bus send p s) := by
  obtain ⟨n, hn⟩ := Nat.exists_eq_succ_of_ne_zero hpos.ne'
  rw [tooLate, decide_eq_false_iff_not] at htime
  simp only [sendData, hn, List.range_succ_eq_map, sendBlocks, htime, if_false,
    not_lt.mpr (p.blockFrames_length_le 0), andThen_assoc]
  have hrest (s' : State) (hs' : s'.isShuttingDown = down) :=
    sendBlocks_handsOver bus (fun m => [⟨.dict m, sent m⟩]) (fun i s hs => (hblock i).handsOver hs)
      (bus.monotonic s.monotonicReads + blockTransferTimeout) ((List.range n).map Nat.succ) s' hs'
  exact (hblock 0).handsOverSome hs fun s' hs' =>
    ⟨_, (hrest s' hs').andThen fun s'' hs'' => hcompletion.handsOver (hs''.trans hs')⟩

/-- A transfer that is too late and skips the initialization message hands over nothing. -/
theorem transfer_handsOverNothing (sendInit send : Send) (acknowledge : Value → State → State)
    {key : Value}
    (hkey : p.requestId.key? = some key) (s : State) (hpos : 0 < p.numMessages)
    (hlate : ((recentlyAcknowledged bus key s).1 && tooLate bus s) = true) :
    ∃ s', transfer bus sendInit send acknowledge p s = some (.ok false, s') ∧
      s'.transmissions = s.transmissions := by
  have hreads : (recentlyAcknowledged bus key s).2.transmissions = s.transmissions ∧
      (recentlyAcknowledged bus key s).2.monotonicReads = s.monotonicReads := by
    unfold recentlyAcknowledged
    split <;> exact ⟨rfl, rfl⟩
  rw [Bool.and_eq_true] at hlate
  rw [transfer_eq bus hkey, hlate.1]
  generalize (recentlyAcknowledged bus key s).2 = s₁ at hreads
  obtain ⟨n, hn⟩ := Nat.exists_eq_succ_of_ne_zero hpos.ne'
  have htime := hlate.2
  rw [tooLate, decide_eq_true_eq, ← hreads.2] at htime
  simp only [sendData, hn, List.range_succ_eq_map, sendBlocks, htime, if_true]
  exact ⟨_, rfl, hreads.1⟩

/-- A transfer hands over something, unless it skips the initialization message and is too late for
the first data message. -/
theorem transfer_handsOverSome {acknowledge : Value → State → State} {key payload : Value}
    {sent : Message → Value} (hkey : p.requestId.key? = some key)
    (hack : ∀ k s, (acknowledge k s).isShuttingDown = s.isShuttingDown ∧
      (acknowledge k s).transmissions = s.transmissions)
    (s : State) (hs : s.isShuttingDown = down)
    (hinit : (recentlyAcknowledged bus key s).1 = false →
      Delivers bus sendInit down p.initMessage payload)
    (hblock : ∀ i, Delivers bus send down (p.block i) (sent (p.block i)))
    (hcompletion : Delivers bus send down p.completionMessage (sent p.completionMessage))
    (hpos : 0 < p.numMessages)
    (hready : ((recentlyAcknowledged bus key s).1 && tooLate bus s) = false) :
    HandsOverSome s (transfer bus sendInit send acknowledge p s) := by
  have hreads : (recentlyAcknowledged bus key s).2.isShuttingDown = s.isShuttingDown ∧
      (recentlyAcknowledged bus key s).2.transmissions = s.transmissions ∧
      (recentlyAcknowledged bus key s).2.monotonicReads = s.monotonicReads := by
    unfold recentlyAcknowledged
    split <;> exact ⟨rfl, rfl, rfl⟩
  have hdata : ∀ s, s.isShuttingDown = down →
      HandsOver (p.transmissions [] fun m => [⟨.dict m, sent m⟩]) s (sendData bus send p s) :=
    sendData_handsOver bus (fun m => [⟨.dict m, sent m⟩])
      (fun i s hs => (hblock i).handsOver hs) fun s hs => hcompletion.handsOver hs
  rw [transfer_eq bus hkey]
  generalize hrecent : recentlyAcknowledged bus key s = recent at hreads hinit hready ⊢
  obtain ⟨acknowledged, s₁⟩ := recent
  simp only at hreads hinit hready
  obtain ⟨hdown, htrans, hmono⟩ := hreads
  have hs₁ : s₁.isShuttingDown = down := hdown.trans hs
  have hrun : HandsOverSome s₁
      (if acknowledged then sendData bus send p s₁
        else andThen (sendInit (.dict p.initMessage) s₁) fun s =>
          sendData bus send p (acknowledge key s)) := by
    cases acknowledged with
    | false =>
      refine (hinit rfl).handsOverSome hs₁ fun s' hs' =>
        ⟨p.transmissions [] fun m => [⟨.dict m, sent m⟩], ?_⟩
      obtain ⟨hdown', htrans'⟩ := hack key s'
      have hrest := hdata (acknowledge key s') (hdown'.trans hs')
      unfold HandsOver at hrest ⊢
      rwa [hdown', htrans'] at hrest
    | true =>
      exact sendData_handsOverSome bus hblock hcompletion s₁ hs₁ hpos
        (by simpa [tooLate, hmono] using hready)
  obtain ⟨o, s', t, rest, hrun, htrans'⟩ := hrun
  exact ⟨o, s', t, rest, hrun, by rw [htrans', htrans]⟩

end Run

end Fmofp.Sender
