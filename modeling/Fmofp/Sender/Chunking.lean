import Fmofp.Sender.RemoteTerminal

/-! How a block transfer cuts its data frames, and which messages the two senders cut this way. -/

namespace Fmofp.Sender

open Python Aggregator

def Transmission.frames (t : Transmission) : List Value := (t.message.dict?.bind frames?).getD []

/-- Whether the message was built as a data message. -/
def Transmission.isData (t : Transmission) : Bool :=
  t.message.dict?.any fun m => (getTransferFlags m).2.1

/-- The data messages among `emitted` carry the leading word, their number, the total and one slice
of the data each; the slices are the data, in order; no message has too many frames. -/
def Chunked (c : Value) (data : List Value) (emitted : List Transmission) : Prop :=
  ∃ slices : List (List Value), slices.length = (data.length + 29) / 30 ∧
    (∀ slice ∈ slices, slice ≠ []) ∧ slices.flatten = data ∧
    (emitted.filter Transmission.isData).map Transmission.frames = slices.mapIdx (fun i slice =>
      c :: .str (Bus.dataFrame (i + 1)) :: .str (Bus.dataFrame slices.length) :: slice) ∧
    ∀ t ∈ emitted, t.frames.length ≤ maxFramesPerMessage

/-- However deep the sending methods may call each other, the run returns `True` and emits the
chunks of the data. -/
def EmitsChunks (run : ℕ → Option Outcome) (s : State) (c : Value) (data : List Value) : Prop :=
  ∀ depth, ∃ s' emitted, run depth = some (.ok true, s') ∧
    s'.transmissions = s.transmissions ++ emitted ∧ Chunked c data emitted

/-! ### The chunks of a plan -/

section Plan

variable {p : Plan} {sent : Message → Value}

/-- The transmissions of a plan, each message once. -/
def Plan.emitted (p : Plan) (init : List Transmission) (sent : Message → Value) :
    List Transmission :=
  p.transmissions init fun m => [⟨.dict m, sent m⟩]

theorem Carries.frames {m : Message} {frames : List Value} {phase : Bool × Bool × Bool}
    (h : Carries m frames phase) (v : Value) : (Transmission.mk (.dict m) v).frames = frames := by
  simp [Transmission.frames, frames?, h.frames_eq]

theorem Carries.isData {m : Message} {frames : List Value} {phase : Bool × Bool × Bool}
    (h : Carries m frames phase) (v : Value) : (Transmission.mk (.dict m) v).isData = phase.2.1 := by
  simp [Transmission.isData, h.phase_eq]

theorem Plan.emitted_eq (init : List Transmission) :
    p.emitted init sent = init ++ (List.range p.numMessages).map (fun i =>
      ⟨.dict (p.block i), sent (p.block i)⟩) ++ [⟨.dict p.completionMessage, sent p.completionMessage⟩] := by
  rw [Plan.emitted, Plan.transmissions, ← List.map_eq_flatMap]

/-- The initialization message, handed over once or not at all. -/
def Plan.Announces (p : Plan) (init : List Transmission) : Prop :=
  init = [] ∨ ∃ v, init = [⟨.dict p.initMessage, v⟩]

theorem Plan.data_frames (hp : p.WellFormed) {init : List Transmission} (hinit : p.Announces init) :
    ((p.emitted init sent).filter Transmission.isData).map Transmission.frames =
      (List.range p.numMessages).map p.blockFrames := by
  obtain ⟨initFrames, -, hcarries⟩ := hp.init
  obtain ⟨completionFrames, -, hcompletion⟩ := hp.completion
  have hnone : init.filter Transmission.isData = [] := by
    rcases hinit with rfl | ⟨v, rfl⟩
    · rfl
    · simp [hcarries.isData]
  rw [p.emitted_eq, List.filter_append, List.filter_append, hnone, List.nil_append]
  simp only [List.filter_map, List.filter_cons, List.filter_nil, hcompletion.isData,
    Bool.false_eq_true, if_false, List.append_nil, List.map_map, Function.comp_def]
  rw [List.filter_eq_self.mpr fun i _ => (hp.block i).isData _]
  exact List.map_congr_left fun i _ => (hp.block i).frames _

theorem Plan.frames_length_le (hp : p.WellFormed) {init : List Transmission}
    (hinit : p.Announces init) :
    ∀ t ∈ p.emitted init sent, t.frames.length ≤ maxFramesPerMessage := by
  obtain ⟨initFrames, hle, hcarries⟩ := hp.init
  obtain ⟨completionFrames, hle', hcompletion⟩ := hp.completion
  intro t ht
  rw [p.emitted_eq, List.mem_append, List.mem_append, List.mem_map, List.mem_singleton] at ht
  rcases ht with (ht | ⟨i, -, rfl⟩) | rfl
  · rcases hinit with rfl | ⟨v, rfl⟩
    · simp at ht
    · rw [List.mem_singleton.mp ht, hcarries.frames]
      exact hle
  · rw [(hp.block i).frames]
    exact p.blockFrames_length_le i
  · rw [hcompletion.frames]
    exact hle'

theorem mapIdx_range (n : ℕ) {α β : Type} (f : ℕ → α) (g : ℕ → α → β) :
    ((List.range n).map f).mapIdx g = (List.range n).map fun i => g i (f i) := by
  apply List.ext_getElem
  · simp
  · intro i h₁ h₂
    simp

/-- A transfer emits the chunks of its data frames. -/
theorem Plan.chunked (hp : p.WellFormed) {init : List Transmission} (hinit : p.Announces init)
    (hword : ∀ i ≤ p.numMessages, p.word i = .str (Bus.dataFrame i)) :
    Chunked p.leadingWord p.dataFrames (p.emitted init sent) := by
  refine ⟨(List.range p.numMessages).map p.chunk, ?_, ?_, p.flatten_all_chunks, ?_,
    p.frames_length_le hp hinit⟩
  · rw [List.length_map, List.length_range, p.numMessages_spec]
  · intro slice hslice
    obtain ⟨i, hi, rfl⟩ := List.mem_map.mp hslice
    exact p.chunk_ne_nil (List.mem_range.mp hi)
  · rw [p.data_frames hp hinit, mapIdx_range, List.length_map, List.length_range]
    apply List.map_congr_left
    intro i hi
    have hlt := List.mem_range.mp hi
    rw [Plan.blockFrames, hword (i + 1) hlt, hword p.numMessages le_rfl]

/-- Whatever emits chunks of non-empty data is a transfer of that data. -/
theorem Plan.eq_of_chunked (hp : p.WellFormed) {init : List Transmission}
    (hinit : p.Announces init) {c : Value} {data : List Value} (hdata : data ≠ [])
    (h : Chunked c data (p.emitted init sent)) : p.leadingWord = c ∧ p.dataFrames = data := by
  obtain ⟨slices, -, -, hflatten, hframes, -⟩ := h
  rw [p.data_frames hp hinit] at hframes
  have hlen : slices.length = p.numMessages := by
    have hlengths := congrArg List.length hframes
    rw [List.length_map, List.length_range, List.length_mapIdx] at hlengths
    exact hlengths.symm
  have hblock : ∀ i (hi : i < p.numMessages), p.leadingWord = c ∧ p.chunk i = slices[i] := by
    intro i hi
    have hget := congrArg (fun l => l[i]?) hframes
    simp [hi, hlen] at hget
    rw [Plan.blockFrames] at hget
    simp only [List.cons.injEq] at hget
    exact ⟨hget.1, hget.2.2.2⟩
  have hslices : (List.range p.numMessages).map p.chunk = slices := by
    apply List.ext_getElem
    · simp [hlen]
    · intro i h₁ h₂
      rw [List.length_map, List.length_range] at h₁
      simpa using (hblock i h₁).2
  have hpos : 0 < p.numMessages := by
    rw [← hlen]
    apply List.length_pos_of_ne_nil
    intro hnil
    rw [hnil, List.flatten_nil] at hflatten
    exact hdata hflatten.symm
  refine ⟨(hblock 0 hpos).1, ?_⟩
  rw [← p.flatten_all_chunks, hslices, hflatten]

end Plan

/-- A run that returns `True` without emitting anything emits no chunks. -/
theorem not_emitsChunks {run : ℕ → Option Outcome} {s : State} {c : Value} {data : List Value}
    (hdata : data ≠ []) (h : ∀ s', run 0 = some (.ok true, s') → s'.transmissions = s.transmissions) :
    ¬EmitsChunks run s c data := by
  intro hemits
  obtain ⟨s', emitted, hrun, htrans, slices, -, -, hflatten, hframes, -⟩ := hemits 0
  have hnil : emitted = [] := by simpa [htrans] using h s' hrun
  rw [hnil] at hframes
  have hslices : slices = [] := by
    cases slices with
    | nil => rfl
    | cons slice rest => simp at hframes
  rw [hslices, List.flatten_nil] at hflatten
  exact hdata hflatten.symm

theorem guarded_true {r : Option Outcome} {s : State} (h : r = some (.ok true, s)) :
    guarded r = some (.ok true, s) := by
  rw [h]
  rfl

/-- A transfer whose messages are all delivered emits each of them, over a smooth bus. -/
theorem transfer_emits (bus : Bus) {sendInit send : Send} (acknowledge : Value → State → State)
    {p : Plan} {key payload : Value} (sent : Message → Value) (hkey : p.requestId.key? = some key)
    (hack : ∀ k s, (acknowledge k s).isShuttingDown = s.isShuttingDown ∧
      (acknowledge k s).transmissions = s.transmissions ∧
      (acknowledge k s).monotonicReads = s.monotonicReads)
    {s : State} (hsmooth : bus.Smooth s)
    (hinit : (recentlyAcknowledged bus key s).1 = false →
      Delivers bus sendInit s.isShuttingDown p.initMessage payload)
    (hblock : ∀ i, Delivers bus send s.isShuttingDown (p.block i) (sent (p.block i)))
    (hcompletion :
      Delivers bus send s.isShuttingDown p.completionMessage (sent p.completionMessage)) :
    ∃ s' init, guarded (transfer bus sendInit send acknowledge p s) = some (.ok true, s') ∧
      p.Announces init ∧ s'.transmissions = s.transmissions ++ p.emitted init sent := by
  have hhands := transfer_handsOver bus acknowledge [⟨.dict p.initMessage, payload⟩]
    (fun m => [⟨.dict m, sent m⟩]) hkey (fun k s => ⟨(hack k s).1, (hack k s).2.1⟩) s rfl
    (fun h s' hs' => (hinit h).handsOver hs') (fun i s' hs' => (hblock i).handsOver hs')
    fun s' hs' => hcompletion.handsOver hs'
  have hsucceeds := transfer_succeeds bus acknowledge hkey
    (fun k s => ⟨(hack k s).1, (hack k s).2.2⟩) s rfl hsmooth
    (fun h s' hs' => (hinit h).succeeds hsmooth.1 hs')
    (fun i s' hs' => (hblock i).succeeds hsmooth.1 hs')
    fun s' hs' => hcompletion.succeeds hsmooth.1 hs'
  obtain ⟨s', hrun, htrans⟩ := hhands.all_of_succeeds hsucceeds
  refine ⟨s', _, guarded_true hrun, ?_, htrans⟩
  split_ifs
  · exact .inl rfl
  · exact .inr ⟨payload, rfl⟩

/-! ### The two senders -/

/-- Metadata that is absent or a dictionary. -/
def hasUsableMetadata (m : Message) : Bool := (Dict.getD m "metadata" (.dict [])).dict?.isSome

/-- The form under which the request id is looked up, if it is hashable. -/
def requestKey (m : Message) : Option Value := (Dict.getD m "request_id" .none).key?

theorem hasUsableMetadata_iff {m : Message} :
    hasUsableMetadata m = true ↔ ∃ md, Dict.getD m "metadata" (.dict []) = .dict md := by
  rw [hasUsableMetadata, Option.isSome_iff_exists]
  simp only [Value.dict?_eq_some]

namespace BusController

variable (py : Runtime) (bus : Bus)

/-- The transfer that a message with text frames and usable metadata becomes. -/
theorem plan_ok {m md : Message} {c : Value} {data : List Value}
    (hframes : frames? m = some (c :: data)) (htext : ∀ f ∈ c :: data, f.isText = true)
    (hmd : Dict.getD m "metadata" (.dict []) = .dict md) :
    ∃ d, plan py m (c :: data) = .ok (messages py (Dict.getD m "request_id" .none) md d c data) := by
  have hdetect : ∃ d, detectBinaryData py m = .ok d := by
    have hextract : ∃ items, Aggregator.BusController.extractBinaryData py m = .ok items := by
      obtain ⟨objects, hobjects⟩ := BusController.extraction_ok py [m] fun m' hm' => by
        rw [List.mem_singleton.mp hm', hframes]
        exact htext
      unfold Aggregator.BusController.extractBinaryData
      rw [hobjects]
      split
      · exact ⟨_, rfl⟩
      · split_ifs <;> exact ⟨_, rfl⟩
    obtain ⟨items, hitems⟩ := hextract
    simp only [detectBinaryData, hitems]
    cases isBinaryDataMessage py (.dict m) <;> exact ⟨_, rfl⟩
  obtain ⟨d, hd⟩ := hdetect
  refine ⟨d, ?_⟩
  unfold plan
  rw [hd, hmd]
  rfl

/-- A message whose metadata is unusable is refused, and so is one whose request id cannot be looked
up. -/
theorem sendLargeMessage_refused {m : Message} {c : Value} {data : List Value}
    (hframes : frames? m = some (c :: data))
    (h : ¬(hasUsableMetadata m = true ∧ (requestKey m).isSome = true)) (send : Send) (s : State) :
    sendLargeMessage py bus send (.dict m) s = some (.ok false, s) := by
  simp only [sendLargeMessage, Value.dict?_dict, hframes]
  cases hplan : plan py m (c :: data) with
  | error e => rfl
  | ok p =>
    have hrun : transfer bus send send (awaitStatusWord bus) p s = some (.error .typeError, s) := by
      unfold plan at hplan
      cases hd : detectBinaryData py m with
      | error e => simp [hd, bind, Except.bind] at hplan
      | ok d =>
        simp only [hd, bind, Except.bind] at hplan
        split at hplan
        · cases hplan
        · rename_i commandWord dataFrames md hcons hmd
          cases hplan
          have husable : hasUsableMetadata m = true := hasUsableMetadata_iff.mpr ⟨md, hmd⟩
          have hkey : requestKey m = none := by simpa [husable] using h
          simp only [transfer, messages]
          rw [requestKey] at hkey
          rw [hkey]
        · cases hplan
    simp only [hrun, guarded]
    rfl

theorem awaitStatusWord_frame (key : Value) (s : State) :
    (awaitStatusWord bus key s).isShuttingDown = s.isShuttingDown ∧
      (awaitStatusWord bus key s).transmissions = s.transmissions ∧
      (awaitStatusWord bus key s).monotonicReads = s.monotonicReads := by
  unfold awaitStatusWord storeAcknowledgment
  split_ifs <;> exact ⟨rfl, rfl, rfl⟩

/-- A bus controller that is shutting down hands over nothing. -/
theorem sendLargeMessage_shuttingDown {m : Message} {c : Value} {data : List Value}
    (hframes : frames? m = some (c :: data)) (htext : ∀ f ∈ c :: data, f.isText = true) {s : State}
    (hdown : s.isShuttingDown = true) (depth : ℕ) :
    ∃ b s', sendLargeMessage py bus (sendMessage py bus depth) (.dict m) s = some (.ok b, s') ∧
      s'.transmissions = s.transmissions := by
  by_cases hok : hasUsableMetadata m = true ∧ (requestKey m).isSome = true
  · obtain ⟨husable, hhash⟩ := hok
    obtain ⟨md, hmd⟩ := hasUsableMetadata_iff.mp husable
    obtain ⟨key, hkey⟩ := Option.isSome_iff_exists.mp hhash
    obtain ⟨d, hplan⟩ := plan_ok py hframes htext hmd
    have hrefuse : ∀ v s', s'.isShuttingDown = true →
        HandsOver [] s' (sendMessage py bus depth v s') := by
      intro v s' hs'
      rw [sendMessage_shuttingDown py bus depth v hs']
      exact ⟨false, s', [], rfl, rfl, by simp, List.nil_prefix, fun h => by cases h⟩
    obtain ⟨b, s', sent, hrun, -, htrans, hinit, -⟩ := transfer_handsOver bus
      (awaitStatusWord bus) [] (fun _ => [])
      (p := messages py (Dict.getD m "request_id" .none) md d c data) hkey
      (fun k s => ⟨(awaitStatusWord_frame bus k s).1, (awaitStatusWord_frame bus k s).2.1⟩) s hdown
      (fun _ => hrefuse _) (fun i => hrefuse _) (hrefuse _)
    have hnothing : (messages py (Dict.getD m "request_id" .none) md d c data).transmissions []
        (fun _ => []) = [] := by
      simp [Plan.transmissions, List.flatMap_eq_nil_iff]
    rw [ite_self, hnothing] at hinit
    refine ⟨b, s', ?_, by rw [htrans, List.prefix_nil.mp hinit, List.append_nil]⟩
    simp only [sendLargeMessage, Value.dict?_dict, hframes, hplan, hrun]
    rfl
  · exact ⟨false, s, sendLargeMessage_refused py bus hframes hok _ s, rfl⟩

/-- The bus controller cuts a message into chunks exactly when it is not shutting down, the metadata
is absent or a dictionary, and the request id is hashable. -/
theorem emitsChunks_iff {m : Message} {c : Value} {data : List Value}
    (hframes : frames? m = some (c :: data)) (htext : ∀ f ∈ c :: data, f.isText = true)
    (hdata : data ≠ []) (hmax : data.length ≤ 65535) {s : State} (hsmooth : bus.Smooth s) :
    EmitsChunks (fun depth => sendLargeMessage py bus (sendMessage py bus depth) (.dict m) s) s c
        data ↔
      s.isShuttingDown = false ∧ hasUsableMetadata m = true ∧ (requestKey m).isSome = true := by
  by_cases hok : hasUsableMetadata m = true ∧ (requestKey m).isSome = true
  · obtain ⟨husable, hhash⟩ := hok
    obtain ⟨md, hmd⟩ := hasUsableMetadata_iff.mp husable
    obtain ⟨key, hkey⟩ := Option.isSome_iff_exists.mp hhash
    obtain ⟨d, hplan⟩ := plan_ok py hframes htext hmd
    set p := messages py (Dict.getD m "request_id" .none) md d c data with hp
    have hwf : p.WellFormed := messages_wellFormed py _ md d c data
    have hrun : ∀ send, sendLargeMessage py bus send (.dict m) s =
        guarded (transfer bus send send (awaitStatusWord bus) p s) := by
      intro send
      simp only [sendLargeMessage, Value.dict?_dict, hframes, hplan]
    simp only [husable, hhash, and_true]
    constructor
    · intro hemits
      by_contra hdown
      obtain ⟨b, s'', hdrop, htrans⟩ :=
        sendLargeMessage_shuttingDown py bus hframes htext (by simpa using hdown) 0
      refine not_emitsChunks hdata (fun s' htrue => ?_) hemits
      cases hdrop.symm.trans htrue
      exact htrans
    · intro hdown depth
      obtain ⟨initFrames, hinitLen, hinit⟩ := hwf.init
      obtain ⟨completionFrames, hcompletionLen, hcompletion⟩ := hwf.completion
      obtain ⟨s', init, htransfer, hannounces, htrans⟩ := transfer_emits bus
        (awaitStatusWord bus) (p := p) wire hkey (awaitStatusWord_frame bus) hsmooth
        (fun _ => hdown ▸ sendMessage_of_carries py bus depth hinit hinitLen)
        (fun i => hdown ▸ sendMessage_of_carries py bus depth (hwf.block i)
          (p.blockFrames_length_le i))
        (hdown ▸ sendMessage_of_carries py bus depth hcompletion hcompletionLen)
      refine ⟨s', _, (hrun _).trans htransfer, htrans, p.chunked hwf hannounces fun i hi => ?_⟩
      rw [p.numMessages_spec] at hi
      exact Bus.wordOfInt_natCast (by simp only [hp, messages] at hi; omega)
  · refine iff_of_false (not_emitsChunks hdata fun s' hrun => ?_) fun h => hok h.2
    rw [sendLargeMessage_refused py bus hframes hok] at hrun
    cases hrun

end BusController

namespace RemoteTerminal

variable (py : Runtime) (bus : Bus)

theorem plan_list (m : Message) (frames : List Value) :
    plan m (.list frames) =
      match Bus.validateFrames frames, Dict.getD m "metadata" (.dict []) with
      | [], _ => .ok none
      | statusWord :: dataFrames, .dict md =>
        .ok (some (messages (Dict.getD m "request_id" .none) md statusWord dataFrames))
      | _, _ => .error .attributeError := by
  cases frames <;> rfl

theorem get?_frames {m : Message} {frames : List Value} (hframes : frames? m = some frames) :
    Dict.get? m "frames" = some (.list frames) := by
  obtain ⟨v, hv, hlist⟩ := Option.bind_eq_some_iff.mp hframes
  rw [hv, Value.list?_eq_some.mp hlist]

theorem sendLargeMessage_refused {m : Message} {frames : List Value}
    (hframes : frames? m = some frames)
    (h : ¬(hasUsableMetadata m = true ∧ (requestKey m).isSome = true)) (send : Send) (s : State) :
    sendLargeMessage py bus send (.dict m) s = some (.ok false, s) := by
  simp only [sendLargeMessage, Value.dict?_dict, get?_frames hframes, plan_list]
  cases hvalid : Bus.validateFrames frames with
  | nil => rfl
  | cons statusWord dataFrames =>
    by_cases husable : hasUsableMetadata m = true
    · obtain ⟨md, hmd⟩ := hasUsableMetadata_iff.mp husable
      have hkey : (Dict.getD m "request_id" .none).key? = none := by
        simpa [husable, requestKey] using h
      simp only [hmd, transfer, messages, hkey]
      rfl
    · rw [hasUsableMetadata, Bool.not_eq_true, Option.isSome_eq_false_iff,
        Option.isNone_iff_eq_none] at husable
      cases hmd : Dict.getD m "metadata" (.dict []) with
      | dict md => simp [hmd] at husable
      | _ => rfl

/-- Over a smooth bus a message with usable metadata and valid frames becomes a transfer of these,
provided that its initialization message can go out or need not. -/
theorem sendLargeMessage_emits {m md : Message} {frames dataFrames : List Value}
    {statusWord key : Value} (hframes : frames? m = some frames)
    (hvalid : Bus.validateFrames frames = statusWord :: dataFrames)
    (hmd : Dict.getD m "metadata" (.dict []) = .dict md) (hkey : requestKey m = some key)
    {s : State} (hsmooth : bus.Smooth s)
    (hinit : s.isShuttingDown = false ∨ (recentlyAcknowledged bus key s).1 = true) (depth : ℕ) :
    let p := messages (Dict.getD m "request_id" .none) md statusWord dataFrames
    ∃ s' init, sendLargeMessage py bus (sendMessage py bus depth) (.dict m) s = some (.ok true, s') ∧
      p.Announces init ∧ s'.transmissions = s.transmissions ++ p.emitted init (chunkWire py) := by
  intro p
  have hwf : p.WellFormed := messages_wellFormed _ md statusWord dataFrames
  obtain ⟨completionFrames, -, hcompletion⟩ := hwf.completion
  have hstripped : ∃ payload, Delivers bus (sendMessage py bus depth) false p.initMessage payload :=
    ⟨_, sendMessage_carrier py bus depth _ (by simp [maxFramesPerMessage, maxDataWordsPerMessage])
      (by simp)⟩
  obtain ⟨payload, hstripped⟩ := hstripped
  have hdelivers : (recentlyAcknowledged bus key s).1 = false →
      Delivers bus (sendMessage py bus depth) s.isShuttingDown p.initMessage payload := by
    intro hrecent
    rcases hinit with h | h
    · rwa [h]
    · rw [hrecent] at h
      cases h
  simp only [sendLargeMessage, Value.dict?_dict, get?_frames hframes, plan_list, hvalid, hmd]
  exact transfer_emits bus (storeAcknowledgment bus) (p := p) (chunkWire py) hkey
    (fun k s => ⟨rfl, rfl, rfl⟩) hsmooth hdelivers
    (fun i => sendChunk_of_carries py bus _ (hwf.block i))
    (sendChunk_of_carries py bus _ hcompletion)

/-- A terminal that is shutting down stops at the initialization message. -/
theorem sendLargeMessage_shuttingDown {m md : Message} {frames dataFrames : List Value}
    {statusWord key : Value} (hframes : frames? m = some frames)
    (hvalid : Bus.validateFrames frames = statusWord :: dataFrames)
    (hmd : Dict.getD m "metadata" (.dict []) = .dict md) (hkey : requestKey m = some key)
    {s : State} (hdown : s.isShuttingDown = true)
    (hrecent : (recentlyAcknowledged bus key s).1 = false) (depth : ℕ) :
    sendLargeMessage py bus (sendMessage py bus depth) (.dict m) s =
      some (.ok false, (recentlyAcknowledged bus key s).2) := by
  have hdown' : (recentlyAcknowledged bus key s).2.isShuttingDown = true := by
    rw [← hdown]
    unfold recentlyAcknowledged
    split <;> rfl
  have hrequest : (messages (Dict.getD m "request_id" .none) md statusWord
      dataFrames).requestId.key? = some key := hkey
  simp only [sendLargeMessage, Value.dict?_dict, get?_frames hframes, plan_list, hvalid, hmd]
  rw [transfer_eq bus hrequest, hrecent]
  simp only [sendMessage_shuttingDown py bus depth _ hdown', Bool.false_eq_true, if_false]
  rfl

/-- The terminal cuts a message into chunks exactly when all its frames are valid as they are, the
metadata is absent or a dictionary, the request id is hashable, and the initialization message can
go out or need not. -/
theorem emitsChunks_iff {m : Message} {c : Value} {data : List Value}
    (hframes : frames? m = some (c :: data)) (hdata : data ≠ []) (hmax : data.length ≤ 65535)
    {s : State} (hsmooth : bus.Smooth s) :
    EmitsChunks (fun depth => sendLargeMessage py bus (sendMessage py bus depth) (.dict m) s) s c
        data ↔
      (s.isShuttingDown = false ∨
        (requestKey m).any (fun key => (recentlyAcknowledged bus key s).1) = true) ∧
      hasUsableMetadata m = true ∧ (requestKey m).isSome = true ∧
      Bus.validateFrames (c :: data) = c :: data := by
  by_cases hok : hasUsableMetadata m = true ∧ (requestKey m).isSome = true
  · obtain ⟨husable, hhash⟩ := hok
    obtain ⟨md, hmd⟩ := hasUsableMetadata_iff.mp husable
    obtain ⟨key, hkey⟩ := Option.isSome_iff_exists.mp hhash
    simp only [husable, hkey, Option.isSome_some, true_and, Option.any_some]
    by_cases hinit : s.isShuttingDown = false ∨ (recentlyAcknowledged bus key s).1 = true
    · simp only [hinit, true_and]
      constructor
      · intro hemits
        cases hvalid : Bus.validateFrames (c :: data) with
        | nil =>
          refine absurd hemits (not_emitsChunks hdata fun s' hrun => ?_)
          simp only [sendLargeMessage, Value.dict?_dict, get?_frames hframes, plan_list, hvalid] at hrun
          cases hrun
        | cons statusWord dataFrames =>
          obtain ⟨s₁, init, hrun, hannounces, htrans⟩ :=
            sendLargeMessage_emits py bus hframes hvalid hmd hkey hsmooth hinit 0
          obtain ⟨s₂, emitted, hrun', htrans', hchunked⟩ := hemits 0
          cases hrun.symm.trans hrun'
          rw [htrans', List.append_cancel_left_eq] at htrans
          rw [htrans] at hchunked
          obtain ⟨hstatus, hframesEq⟩ := Plan.eq_of_chunked
            (messages_wellFormed _ md statusWord dataFrames) hannounces hdata hchunked
          exact congrArg₂ List.cons hstatus hframesEq
      · intro hvalid depth
        obtain ⟨s', init, hrun, hannounces, htrans⟩ :=
          sendLargeMessage_emits py bus hframes hvalid hmd hkey hsmooth hinit depth
        refine ⟨s', _, hrun, htrans, Plan.chunked (messages_wellFormed _ md c data) hannounces
          fun i hi => ?_⟩
        rw [Plan.numMessages_spec] at hi
        exact Bus.wordOfInt_natCast (by simp only [messages] at hi; omega)
    · simp only [hinit, false_and, iff_false]
      simp only [not_or, Bool.not_eq_true, Bool.not_eq_false] at hinit
      refine not_emitsChunks hdata fun s' hrun => ?_
      cases hvalid : Bus.validateFrames (c :: data) with
      | nil =>
        simp only [sendLargeMessage, Value.dict?_dict, get?_frames hframes, plan_list, hvalid] at hrun
        cases hrun
      | cons statusWord dataFrames =>
        rw [sendLargeMessage_shuttingDown py bus hframes hvalid hmd hkey hinit.1 hinit.2 0] at hrun
        cases hrun
  · refine iff_of_false (not_emitsChunks hdata fun s' hrun => ?_) fun h => hok ⟨h.2.1, h.2.2.1⟩
    rw [sendLargeMessage_refused py bus hframes hok] at hrun
    cases hrun

end RemoteTerminal

/-- Which large messages the two senders cut into chunks: both refuse metadata that is present and
no dictionary, even `None`, and a request id that is not hashable; a sender that is shutting down
sends no initialization message; and the terminal drops or repairs invalid frames. -/
theorem large_message_chunked_iff (py : Runtime) (bus : Bus) {m : Message} {c : Value}
    {data : List Value} (hframes : frames? m = some (c :: data)) (hc : c.isText = true)
    (hdata : ∀ f ∈ data, Bus.isWord f = true) (hlarge : 34 ≤ data.length + 1)
    (hmax : data.length ≤ 65535) {s : State} (hsmooth : bus.Smooth s) :
    (EmitsChunks (fun depth => BusController.sendLargeMessage py bus
        (BusController.sendMessage py bus depth) (.dict m) s) s c data ↔
      s.isShuttingDown = false ∧ hasUsableMetadata m = true ∧ (requestKey m).isSome = true) ∧
    (EmitsChunks (fun depth => RemoteTerminal.sendLargeMessage py bus
        (RemoteTerminal.sendMessage py bus depth) (.dict m) s) s c data ↔
      (s.isShuttingDown = false ∨
        (requestKey m).any (fun key => (recentlyAcknowledged bus key s).1) = true) ∧
      hasUsableMetadata m = true ∧ (requestKey m).isSome = true ∧
      Bus.validateFrames (c :: data) = c :: data) := by
  have hne : data ≠ [] := by
    rintro rfl
    simp at hlarge
  have htext : ∀ f ∈ c :: data, f.isText = true := by
    intro f hf
    rcases List.mem_cons.mp hf with rfl | hf
    · exact hc
    · obtain ⟨w, rfl, -⟩ := Bus.isWord_iff.mp (hdata f hf)
      rfl
  exact ⟨BusController.emitsChunks_iff py bus hframes htext hne hmax hsmooth,
    RemoteTerminal.emitsChunks_iff py bus hframes hne hmax hsmooth⟩

/-- A message with a status word and thirty-four data words. -/
def largeMessage (rest : Message) : Message :=
  [("frames", .list (.str "10000001000010000010" ::
    List.replicate 34 (.str (Bus.dataFrame 7)))), ("request_id", .str "request_1")] ++ rest

theorem large_message_chunked :
    EmitsChunks (fun depth => BusController.sendLargeMessage .ascii .ideal
        (BusController.sendMessage .ascii .ideal depth) (.dict (largeMessage [])) .fresh) .fresh
      (.str "10000001000010000010") (List.replicate 34 (.str (Bus.dataFrame 7))) ∧
    EmitsChunks (fun depth => RemoteTerminal.sendLargeMessage .ascii .ideal
        (RemoteTerminal.sendMessage .ascii .ideal depth) (.dict (largeMessage [])) .fresh) .fresh
      (.str "10000001000010000010") (List.replicate 34 (.str (Bus.dataFrame 7))) := by
  have hwords : ∀ f ∈ List.replicate 34 (Value.str (Bus.dataFrame 7)), Bus.isWord f = true := by
    intro f hf
    rw [List.eq_of_mem_replicate hf]
    exact Bus.isWord_dataFrame 7
  have hvalid : Bus.validateFrames (.str "10000001000010000010" ::
      List.replicate 34 (.str (Bus.dataFrame 7))) =
      .str "10000001000010000010" :: List.replicate 34 (.str (Bus.dataFrame 7)) := by
    apply Bus.validateFrames_eq_self
    intro f hf
    rcases List.mem_cons.mp hf with rfl | hf
    · decide
    · rw [List.eq_of_mem_replicate hf]
      exact Bus.validateFrame_dataFrame 7
  have h := large_message_chunked_iff .ascii .ideal (m := largeMessage []) rfl rfl hwords
    (by simp) (by simp) (Bus.ideal_smooth .fresh)
  exact ⟨h.1.mpr ⟨rfl, rfl, rfl⟩, h.2.mpr ⟨.inl rfl, rfl, rfl, hvalid⟩⟩

/-- With `'metadata': None`, as the bus controller's command path passes it, nothing is sent. -/
theorem large_message_without_metadata_refused :
    ¬EmitsChunks (fun depth => BusController.sendLargeMessage .ascii .ideal
        (BusController.sendMessage .ascii .ideal depth)
        (.dict (largeMessage [("metadata", .none)])) .fresh) .fresh
      (.str "10000001000010000010") (List.replicate 34 (.str (Bus.dataFrame 7))) := by
  refine not_emitsChunks (by simp) fun s' hrun => ?_
  rw [BusController.sendLargeMessage_refused _ _ (m := largeMessage [("metadata", .none)]) rfl
    (by decide)] at hrun
  cases hrun

end Fmofp.Sender
