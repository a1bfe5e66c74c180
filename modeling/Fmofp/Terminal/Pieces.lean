import Fmofp.Sender.ControlInformation
import Fmofp.Terminal.Wire

/-! What the terminal makes of a message that the bus controller has to cut: every word comes to it, in order, but
in messages that it takes one by one. -/

namespace Fmofp.Terminal

open Python Machine

open Sender.BusController (messages wire transmission sendMessage)

theorem receivedItems_of_isText {frames : List Value} (h : ∀ f ∈ frames, f.isText = true) :
    Json.receivedItems frames = frames := by
  induction frames with
  | nil => rfl
  | cons f frames ih =>
    rw [Json.receivedItems, ih fun g hg => h g (List.mem_cons_of_mem _ hg)]
    have hf := h f List.mem_cons_self
    cases f <;> first | rfl | cases hf

theorem keepsFrame_of_isSyncWord {f : Value} (h : Bus.isSyncWord f = true) : Listener.keepsFrame f = .ok true := by
  cases f with
  | str text =>
    simp only [Bus.isSyncWord, Bool.and_eq_true, decide_eq_true_eq] at h
    have hlength : (Value.str text).length = .ok 20 := congrArg Except.ok h.1.1
    unfold Listener.keepsFrame
    rw [hlength]
    exact congrArg Except.ok h.2
  | _ => cases h

theorem filterM_keepsFrame {frames : List Value} (h : ∀ f ∈ frames, Bus.isSyncWord f = true) :
    frames.filterM Listener.keepsFrame = .ok frames := by
  have hkept : ∀ (frames kept : List Value), (∀ f ∈ frames, Bus.isSyncWord f = true) →
      frames.filterAuxM Listener.keepsFrame kept = .ok (frames.reverse ++ kept) := by
    intro frames
    induction frames with
    | nil => exact fun _ _ => rfl
    | cons f frames ih =>
      intro kept hwords
      have hrest := ih (f :: kept) fun g hg => hwords g (List.mem_cons_of_mem _ hg)
      rw [List.filterAuxM, keepsFrame_of_isSyncWord (hwords f List.mem_cons_self), List.reverse_cons,
        List.append_assoc, List.singleton_append]
      exact hrest
  rw [List.filterM, hkept frames [] h, List.append_nil]
  exact congrArg Except.ok frames.reverse_reverse

/-- Words with a request id are stored as they were sent. -/
theorem arrives_wireFields {py : Runtime} {frames : List Value} {id : String} {metadata : Option Message}
    (hwords : ∀ f ∈ frames, Bus.isSyncWord f = true) (hframes : frames ≠ []) (hid : id ≠ "")
    (hstripped : Stripped (.str id) metadata)
    (hread : Readable py (.dict (wireFields (.list frames) (.str id) metadata))) :
    arrives py (.dict (wireFields (.list frames) (.str id) metadata)) =
      some (wireFields (.list frames) (.str id) (metadata.map Json.receivedEntries)) := by
  have htext : Json.receivedItems frames = frames :=
    receivedItems_of_isText fun f hf => Bus.isText_of_isSyncWord (hwords f hf)
  have hiterate : (Value.list frames).iterate = .ok frames := rfl
  have htruthy : (Value.str id).truthy = true := by simp [Value.truthy, hid]
  have hprocess : Listener.processFrames (Listener.RemoteTerminal.frameMessage
      (wireFields (.list frames) (.str id) (metadata.map Json.receivedEntries))) (.list frames) (.str id) =
      .ok ⟨some (.dict (wireFields (.list frames) (.str id) (metadata.map Json.receivedEntries))), .stamped⟩ := by
    unfold Listener.processFrames
    simp only [hiterate, bind, Except.bind, filterM_keepsFrame hwords, htruthy, if_true, frameMessage_wireFields]
    rw [if_neg (by simp [hframes])]
    rfl
  have hlist : Json.received (.list frames) = .list frames := congrArg Value.list htext
  have hstr : Json.received (.str id) = .str id := rfl
  rw [arrives, stored_dict hstripped hread, hlist, hstr, hprocess]
  rfl

/-- The terminal does with a frame what it does with a message of its own: the analyzer reads it. -/
def TakenAlone (py : Runtime) (analyze : Message → Option ReceivedMessage) (m : Message) : Prop :=
  ∀ now t, processFrame py analyze now m t = (⟨(analyze m).isSome, (analyze m).toList, []⟩,
    { t with processedMessages := t.processedMessages ++ (analyze m).toList })

theorem takenAlone_wireFields (py : Runtime) (analyze : Message → Option ReceivedMessage)
    (frames requestId : Value) {metadata : Option Message} {own : Value} (h : Stripped own metadata) :
    TakenAlone py analyze (wireFields frames requestId (metadata.map Json.receivedEntries)) := by
  intro now t
  have hplain := plain_wireFields frames requestId h
  have hmetadata := metadataOf_wireFields frames requestId (metadata.map Json.receivedEntries)
  unfold processFrame
  rw [hmetadata]
  simp only
  rw [hplain _ hmetadata]

/-- Words that have to be sent in several messages, with a request id that is text. -/
structure Large (m : Message) (c : Value) (data : List Value) (id : String) : Prop where
  frames : Aggregator.frames? m = some (c :: data)
  words : ∀ f ∈ c :: data, Bus.isSyncWord f = true
  large : Sender.maxFramesPerMessage < (c :: data).length
  numbered : data.length ≤ 65535
  requestId : Dict.getD m "request_id" .none = .str id
  named : id ≠ ""
  metadata : Sender.hasUsableMetadata m = true

section Large

variable {py : Runtime} (analyze : Message → Option ReceivedMessage) {id : String}

/-- A message of a transfer arrives with its frames and is taken alone. -/
theorem wire_arrives {m : Message} {frames : List Value} {phase : Bool × Bool × Bool}
    (h : Sender.Carries m frames phase) (hid : Dict.getD m "request_id" .none = .str id) (hnamed : id ≠ "")
    (hwords : ∀ f ∈ frames, Bus.isSyncWord f = true) (hframes : frames ≠ [])
    (hread : Readable py (wire m)) :
    ∃ m', arrives py (wire m) = some m' ∧ framesOf m' = .list frames ∧
      TakenAlone py analyze m' := by
  obtain ⟨own, htransmission⟩ := Sender.BusController.transmission_of_carries h
  have hwire : wire m = .dict (wireFields (.list frames) (.str id)
      (some (Sender.essentialMetadata own (.str id)))) := by
    unfold wire
    rw [htransmission, hid]
    rfl
  have hstripped : Stripped (.str id) (some (Sender.essentialMetadata own (.str id))) :=
    fun md hmd => ⟨own, (Option.some.inj hmd).symm⟩
  rw [hwire] at hread ⊢
  exact ⟨_, arrives_wireFields hwords hframes hnamed hstripped hread, rfl,
    takenAlone_wireFields py analyze _ _ hstripped⟩

/-- The run of the sender over a large message. -/
theorem sendMessage_large (bus : Sender.Bus) {m : Message} {c : Value} {data : List Value} (h : Large m c data id)
    {s : Sender.State} (hup : s.isShuttingDown = false) (hsmooth : bus.Smooth s) :
    ∃ s' init md d, sendMessage py bus 1 (.dict m) s = some (.ok true, s') ∧
      (messages py (.str id) md d c data).Announces init ∧
      s'.transmissions = s.transmissions ++
        (messages py (.str id) md d c data).emitted init wire := by
  have htext : ∀ f ∈ c :: data, f.isText = true := fun f hf => Bus.isText_of_isSyncWord (h.words f hf)
  obtain ⟨md, hmd⟩ := Sender.hasUsableMetadata_iff.mp h.metadata
  obtain ⟨d, hplan⟩ := Sender.BusController.plan_ok py h.frames htext hmd
  rw [h.requestId] at hplan
  have hwf := Sender.BusController.messages_wellFormed py (.str id) md d c data
  obtain ⟨initFrames, hinitLen, hinit⟩ := hwf.init
  obtain ⟨completionFrames, hcompletionLen, hcompletion⟩ := hwf.completion
  have hlarge : Sender.BusController.isLarge (.dict m) = true := by
    have hlength := h.large
    simp only [Sender.BusController.isLarge, Value.dict?_dict, Option.bind_some, h.frames, Option.any_some,
      decide_eq_true_eq]
    exact hlength
  obtain ⟨s', init, htransfer, hannounces, htrans⟩ := Sender.transfer_emits bus
    (Sender.BusController.awaitStatusWord bus)
    (p := messages py (.str id) md d c data) wire rfl
    (Sender.BusController.awaitStatusWord_frame bus) hsmooth
    (fun _ => hup ▸ Sender.BusController.sendMessage_of_carries py bus 0 hinit hinitLen)
    (fun i => hup ▸ Sender.BusController.sendMessage_of_carries py bus 0 (hwf.block i)
      (Sender.Plan.blockFrames_length_le _ i))
    (hup ▸ Sender.BusController.sendMessage_of_carries py bus 0 hcompletion hcompletionLen)
  refine ⟨s', init, md, d, ?_, hannounces, htrans⟩
  unfold sendMessage
  simp only [hup, Bool.false_eq_true, if_false, hlarge, if_true]
  simp only [Sender.BusController.sendLargeMessage, Value.dict?_dict, h.frames, hplan]
  exact htransfer

/-- What was handed over arrives one by one. -/
theorem arrivals_of_sent (sent : List Sender.Transmission)
    (h : ∀ t ∈ sent, ∃ m,
      arrives py t.payload = some m ∧ framesOf m = .list t.frames ∧ TakenAlone py analyze m) :
    (sent.filterMap fun t => arrives py t.payload).map framesOf = sent.map (fun t => .list t.frames) ∧
      ∀ m ∈ sent.filterMap fun t => arrives py t.payload, TakenAlone py analyze m := by
  induction sent with
  | nil => exact ⟨rfl, fun _ h => absurd h List.not_mem_nil⟩
  | cons t sent ih =>
    obtain ⟨m, harrives, hframes, halone⟩ := h t List.mem_cons_self
    obtain ⟨hrestFrames, hrestAlone⟩ := ih fun x hx => h x (List.mem_cons_of_mem _ hx)
    simp only [List.filterMap_cons, harrives]
    refine ⟨?_, ?_⟩
    · rw [List.map_cons, List.map_cons, hframes, hrestFrames]
    · intro x hx
      rcases List.mem_cons.mp hx with rfl | hx
      · exact halone
      · exact hrestAlone x hx

theorem announcedCount_le {d : Sender.BusController.BinaryData} {k : ℕ} (hk : k ∈ d.announcedCount) :
    k ≤ 65535 := by
  unfold Sender.BusController.BinaryData.announcedCount at hk
  split_ifs at hk
  · obtain ⟨items, -, rfl⟩ := Option.mem_map.mp hk
    omega
  · exact absurd hk (Option.not_mem_none k)

theorem wire_eq_of_transmission {m : Message} {v : Value}
    (h : transmission (.dict m) = .ok v) : wire m = v := by
  unfold wire
  rw [h]

/-- What was handed over of a transfer: a message with words and with the request id, as it goes onto the wire. -/
structure Piece (id : String) (t : Sender.Transmission) : Prop where
  carries : ∃ m phase, t = ⟨.dict m, wire m⟩ ∧ Sender.Carries m t.frames phase ∧
    Dict.getD m "request_id" .none = .str id
  words : ∀ f ∈ t.frames, Bus.isSyncWord f = true
  nonempty : t.frames ≠ []

theorem Piece.of_carries {m : Message} {frames : List Value} {phase : Bool × Bool × Bool}
    (h : Sender.Carries m frames phase) (hid : Dict.getD m "request_id" .none = .str id)
    (hwords : ∀ f ∈ frames, Bus.isSyncWord f = true) (hne : frames ≠ []) :
    Piece id ⟨.dict m, wire m⟩ := by
  have hframes := h.frames (wire m)
  refine ⟨⟨m, phase, rfl, ?_, hid⟩, ?_, ?_⟩ <;> rw [hframes] <;> assumption

/-- A piece arrives with its frames and is taken alone. -/
theorem Piece.arrival {t : Sender.Transmission} (h : Piece id t) (hnamed : id ≠ "") (hread : Readable py t.payload) :
    ∃ m, arrives py t.payload = some m ∧ framesOf m = .list t.frames ∧ TakenAlone py analyze m := by
  obtain ⟨m, phase, hm, hcarries, hid⟩ := h.carries
  rw [congrArg Sender.Transmission.payload hm] at hread ⊢
  exact wire_arrives analyze hcarries hid hnamed h.words h.nonempty hread

section Plan

variable {md : Message} {d : Sender.BusController.BinaryData} {c : Value} {data : List Value}

theorem numMessages_le (hmax : data.length ≤ 65535) :
    (messages py (.str id) md d c data).numMessages ≤ 65535 := by
  rw [Sender.Plan.numMessages_spec]
  simp only [messages]
  omega

theorem messages_word {k : ℕ} (hk : k ≤ 65535) :
    (messages py (.str id) md d c data).word k = .str (Bus.dataFrame k) :=
  Bus.wordOfInt_natCast hk

theorem isSyncWord_word {k : ℕ} (hk : k ≤ 65535) :
    Bus.isSyncWord ((messages py (.str id) md d c data).word k) = true := by
  rw [messages_word hk]
  exact Bus.isSyncWord_dataFrame k

theorem init_carries : Sender.Carries (messages py (.str id) md d c data).initMessage
    ([c, (messages py (.str id) md d c data).word (messages py (.str id) md d c data).numMessages,
        (messages py (.str id) md d c data).word data.length] ++
      d.announcedCount.toList.map (messages py (.str id) md d c data).word) (true, false, false) := by
  obtain ⟨frames, -, hcarries⟩ := (Sender.BusController.messages_wellFormed py (.str id) md d c data).init
  obtain rfl := Value.list.inj (Option.some.inj hcarries.frames_eq)
  exact hcarries

theorem completion_carries : Sender.Carries (messages py (.str id) md d c data).completionMessage
    [c, (messages py (.str id) md d c data).word (messages py (.str id) md d c data).numMessages,
      (messages py (.str id) md d c data).word 1] (false, false, true) := by
  obtain ⟨frames, -, hcarries⟩ := (Sender.BusController.messages_wellFormed py (.str id) md d c data).completion
  obtain rfl := Value.list.inj (Option.some.inj hcarries.frames_eq)
  exact hcarries

/-- All that is handed over of a transfer are pieces. -/
theorem pieces_of_emitted {init : List Sender.Transmission}
    (hannounces : (messages py (.str id) md d c data).Announces init)
    (hwords : ∀ f ∈ c :: data, Bus.isSyncWord f = true) (hmax : data.length ≤ 65535)
    (hinit : ∀ t ∈ init, transmission t.message = .ok t.payload) :
    ∀ t ∈ (messages py (.str id) md d c data).emitted init wire, Piece id t := by
  have hwf := Sender.BusController.messages_wellFormed py (.str id) md d c data
  have hc : Bus.isSyncWord c = true := hwords c List.mem_cons_self
  have hn : (messages py (.str id) md d c data).numMessages ≤ 65535 := numMessages_le hmax
  intro t ht
  rw [Sender.Plan.emitted_eq, List.mem_append, List.mem_append, List.mem_map, List.mem_singleton] at ht
  rcases ht with (ht | ⟨i, hi, rfl⟩) | rfl
  · rcases hannounces with rfl | ⟨v, rfl⟩
    · exact absurd ht List.not_mem_nil
    · obtain rfl : wire (messages py (.str id) md d c data).initMessage = v :=
        wire_eq_of_transmission (hinit _ (List.mem_singleton_self _))
      rw [List.mem_singleton.mp ht]
      refine Piece.of_carries init_carries rfl ?_ (by simp)
      intro f hf
      simp only [List.mem_append, List.mem_cons, List.not_mem_nil, or_false, List.mem_map, Option.mem_toList] at hf
      rcases hf with (hf | hf | hf) | ⟨k, hk, rfl⟩
      · exact hf ▸ hc
      · exact hf ▸ isSyncWord_word hn
      · exact hf ▸ isSyncWord_word hmax
      · exact isSyncWord_word (announcedCount_le hk)
  · have hlt := List.mem_range.mp hi
    refine Piece.of_carries (hwf.block i) rfl ?_ (List.cons_ne_nil _ _)
    intro f hf
    simp only [Sender.Plan.blockFrames, List.mem_cons] at hf
    rcases hf with hf | hf | hf | hf
    · exact hf ▸ hc
    · rw [hf]
      exact isSyncWord_word (by omega)
    · rw [hf]
      exact isSyncWord_word hn
    · exact hwords f (List.mem_cons_of_mem _ (List.mem_of_mem_drop (List.mem_of_mem_take hf)))
  · refine Piece.of_carries completion_carries rfl ?_ (List.cons_ne_nil _ _)
    intro f hf
    simp only [List.mem_cons, List.not_mem_nil, or_false] at hf
    rcases hf with hf | hf | hf
    · exact hf ▸ hc
    · exact hf ▸ isSyncWord_word hn
    · exact hf ▸ isSyncWord_word (by omega)

/-- The frames of a transfer. -/
theorem frames_of_emitted {init : List Sender.Transmission}
    (hannounces : (messages py (.str id) md d c data).Announces init) (hmax : data.length ≤ 65535) :
    ∃ (announced : List Value) (slices : List (List Value)), announced.length ≤ 1 ∧
      slices.length = (data.length + 29) / 30 ∧ (∀ slice ∈ slices, slice ≠ []) ∧ slices.flatten = data ∧
      ((messages py (.str id) md d c data).emitted init wire).map (fun t => .list t.frames) =
        announced ++ slices.mapIdx (fun i slice => Value.list (c ::
          .str (Bus.dataFrame (i + 1)) :: .str (Bus.dataFrame slices.length) :: slice)) ++
          [.list [c, .str (Bus.dataFrame slices.length), .str (Bus.dataFrame 1)]] := by
  have hwf := Sender.BusController.messages_wellFormed py (.str id) md d c data
  have hn : (messages py (.str id) md d c data).numMessages ≤ 65535 := numMessages_le hmax
  have hblock : ∀ i ∈ List.range (messages py (.str id) md d c data).numMessages,
      Value.list (Sender.Transmission.mk (.dict ((messages py (.str id) md d c data).block i))
        (wire ((messages py (.str id) md d c data).block i))).frames =
      .list (c :: .str (Bus.dataFrame (i + 1)) ::
        .str (Bus.dataFrame (messages py (.str id) md d c data).numMessages) ::
          (messages py (.str id) md d c data).chunk i) := by
    intro i hi
    have hlt := List.mem_range.mp hi
    rw [(hwf.block i).frames, Sender.Plan.blockFrames, messages_word hn, messages_word (by omega)]
    rfl
  refine ⟨init.map fun t => .list t.frames, (List.range (messages py (.str id) md d c data).numMessages).map
    (messages py (.str id) md d c data).chunk, ?_, ?_, ?_, Sender.Plan.flatten_all_chunks _, ?_⟩
  · rw [List.length_map]
    rcases hannounces with rfl | ⟨v, rfl⟩
    · exact Nat.zero_le 1
    · exact le_rfl
  · rw [List.length_map, List.length_range, Sender.Plan.numMessages_spec]
    rfl
  · intro slice hslice
    obtain ⟨i, hi, rfl⟩ := List.mem_map.mp hslice
    exact Sender.Plan.chunk_ne_nil _ (List.mem_range.mp hi)
  · rw [Sender.Plan.emitted_eq, List.map_append, List.map_append, List.map_map, List.map_singleton,
      completion_carries.frames, Sender.mapIdx_range, List.length_map, List.length_range, messages_word hn,
      messages_word (by omega), ← List.map_congr_left hblock]
    rfl

end Plan

/-- The frames that come of a large message: at most one that announces it, one for each thirty words with the
leading word, its number and their number before the words, and one that completes it. -/
def Pieces (c : Value) (data : List Value) (arrivals : List Message) : Prop :=
  ∃ (announced : List Value) (slices : List (List Value)), announced.length ≤ 1 ∧
    slices.length = (data.length + 29) / 30 ∧ (∀ slice ∈ slices, slice ≠ []) ∧ slices.flatten = data ∧
    arrivals.map framesOf = announced ++ slices.mapIdx (fun i slice => Value.list (c ::
      .str (Bus.dataFrame (i + 1)) :: .str (Bus.dataFrame slices.length) :: slice)) ++
      [.list [c, .str (Bus.dataFrame slices.length), .str (Bus.dataFrame 1)]]

end Large

/-- What is handed over of a message. -/
def payloadsOf (py : Runtime) (m : Message) : List Value :=
  (sendMessage py .ideal 1 (.dict m) .fresh).elim [] fun o => o.2.transmissions.map Sender.Transmission.payload

/-- A runtime that reads what is handed over of the large message. -/
def largeReader : Runtime := readerOf (payloadsOf .ascii (Sender.largeMessage []))

theorem large_largeMessage : Large (Sender.largeMessage []) (.str "10000001000010000010")
    (List.replicate 34 (.str (Bus.dataFrame 7))) "request_1" where
  frames := rfl
  words := Sender.largeMessage_isSyncWord
  large := by decide
  numbered := by decide
  requestId := rfl
  named := by decide
  metadata := rfl

theorem readable_payloads : ∀ v ∈ payloadsOf largeReader (Sender.largeMessage []), Readable largeReader v := by
  have hsame : payloadsOf largeReader (Sender.largeMessage []) = payloadsOf .ascii (Sender.largeMessage []) := by
    decide +kernel
  rw [hsame]
  apply readable_readerOf
  · decide +kernel
  · decide +kernel

end Fmofp.Terminal
