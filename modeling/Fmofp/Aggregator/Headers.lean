import Fmofp.Precipitation.RoundTrip
import Fmofp.Sender.Chunking

/-! Removing the block headers undoes the cutting into blocks: what is left of the blocks is the header of
the first one and the payloads, in order. -/

namespace Fmofp.Aggregator

open Python Precipitation Sender

/-! ### The positions of the status words -/

/-- The positions of the status words, the first frame being at `i`. -/
def statusWordIndices (i : ℕ) : List Value → List ℕ
  | [] => []
  | frame :: frames =>
    if isStatusWord frame then i :: statusWordIndices (i + 1) frames else statusWordIndices (i + 1) frames

/-- `frames[start:stop]`. -/
def between (start stop : ℕ) (frames : List Value) : List Value := (frames.take stop).drop start

/-- The blocks from the second one on, without their headers.  A block ends where the next one starts. -/
def laterBlocks (allFrames : List Value) : List ℕ → List Value
  | [] => []
  | blockStart :: indices =>
    let blockEnd := indices.headD allFrames.length
    let dataStart := blockStart + headerSize
    (if dataStart < blockEnd then between dataStart blockEnd allFrames else []) ++
      laterBlocks allFrames indices

/-- `_preprocess_frames_list`, by the positions of the status words. -/
def preprocessFramesByIndex (allFrames : List Value) : List Value :=
  match statusWordIndices 0 allFrames with
  | first :: second :: indices =>
    between first second allFrames ++ laterBlocks allFrames (second :: indices)
  | _ => allFrames

/-- Where blocks start that follow each other from `i` on. -/
def starts (i : ℕ) : List (List Value) → List ℕ
  | [] => []
  | block :: blocks => i :: starts (i + block.length) blocks

theorem statusWordIndices_eq (frames : List Value) (i : ℕ) :
    statusWordIndices i frames = starts (i + (splitBlocks frames).1.length) (splitBlocks frames).2 := by
  induction frames generalizing i with
  | nil => rfl
  | cons frame frames ih =>
    rw [statusWordIndices, splitBlocks, ih (i + 1)]
    split_ifs with hstatus
    · show i :: starts _ _ = i :: starts (i + (frame :: _).length) _
      rw [List.length_cons]
      congr 2
      omega
    · show starts _ _ = starts (i + (frame :: _).length) _
      rw [List.length_cons]
      congr 1
      omega

theorem flatten_splitBlocks (frames : List Value) :
    (splitBlocks frames).1 ++ (splitBlocks frames).2.flatten = frames := by
  induction frames with
  | nil => rfl
  | cons frame frames ih =>
    rw [splitBlocks]
    split_ifs with hstatus
    · exact congrArg (frame :: ·) ih
    · exact congrArg (frame :: ·) ih

theorem between_append (before block after : List Value) (n : ℕ) :
    between (before.length + n) (before.length + block.length) (before ++ (block ++ after)) = block.drop n := by
  rw [between, List.take_length_add_append, List.take_left, List.drop_length_add_append]

/-- A block ends where the next one starts, or with the list. -/
theorem headD_starts (before block : List Value) (blocks : List (List Value)) :
    (starts (before.length + block.length) blocks).headD (before ++ (block ++ blocks.flatten)).length =
      before.length + block.length := by
  cases blocks with
  | nil => simp [starts]
  | cons second rest => rfl

theorem laterBlocks_starts (before : List Value) (blocks : List (List Value)) :
    laterBlocks (before ++ blocks.flatten) (starts before.length blocks) =
      blocks.flatMap (List.drop headerSize) := by
  induction blocks generalizing before with
  | nil => rfl
  | cons block blocks ih =>
    have hrest := ih (before ++ block)
    rw [List.append_assoc, List.length_append] at hrest
    rw [starts, laterBlocks, List.flatten_cons, headD_starts, between_append, hrest, List.flatMap_cons]
    congr 1
    split_ifs with hdata
    · rfl
    · rw [List.drop_eq_nil_of_le (by omega)]

/-- The positions give the blocks that the frames are split into. -/
theorem preprocessFramesByIndex_eq (frames : List Value) :
    preprocessFramesByIndex frames = preprocessFramesList frames := by
  have hframes := flatten_splitBlocks frames
  unfold preprocessFramesByIndex preprocessFramesList
  rw [statusWordIndices_eq, Nat.zero_add]
  generalize splitBlocks frames = split at hframes ⊢
  obtain ⟨before, blocks⟩ := split
  dsimp only at hframes ⊢
  match blocks with
  | [] => rfl
  | [block] => rfl
  | first :: second :: rest =>
    have hlater := laterBlocks_starts (before ++ first) (second :: rest)
    rw [List.length_append, List.append_assoc] at hlater
    have hfirst := between_append before first (second :: rest).flatten 0
    rw [List.drop_zero, Nat.add_zero] at hfirst
    rw [List.flatten_cons] at hframes
    rw [hframes] at hlater hfirst
    show between before.length (before.length + first.length) frames ++
      laterBlocks frames (starts (before.length + first.length) (second :: rest)) = _
    rw [hlater, hfirst]

/-! ### Blocks -/

/-- A block as a sender makes it: only the first frame looks like a status word, the others have the sync
pattern of data words. -/
structure Block where
  statusWord : Value
  sequenceWord : Value
  totalWord : Value
  payload : List Value
  isStatus : isStatusWord statusWord = true
  isData : ∀ frame ∈ sequenceWord :: totalWord :: payload, hasInvalidSync frame = false

namespace Block

def header (block : Block) : List Value := [block.statusWord, block.sequenceWord, block.totalWord]

def frames (block : Block) : List Value := block.header ++ block.payload

end Block

/-- The two sync patterns differ. -/
theorem not_isStatusWord_of_dataSync {frame : Value} (h : hasInvalidSync frame = false) :
    isStatusWord frame = false := by
  cases frame with
  | str s =>
    simp only [hasInvalidSync, Bool.not_eq_false'] at h
    simp only [isStatusWord, startsWith] at h ⊢
    rw [Bool.eq_false_iff]
    intro hstatus
    obtain ⟨u, hu⟩ := List.isPrefixOf_iff_prefix.mp h
    obtain ⟨v, hv⟩ := List.isPrefixOf_iff_prefix.mp hstatus
    exact absurd (hu.trans hv.symm) (by simp)
  | _ => rfl

theorem splitBlocks_blocks (blocks : List Block) :
    splitBlocks (blocks.flatMap Block.frames) = ([], blocks.map Block.frames) := by
  induction blocks with
  | nil => rfl
  | cons block blocks ih =>
    have hdata : ∀ frame ∈ block.sequenceWord :: block.totalWord :: block.payload, isStatusWord frame = false :=
      fun frame hframe => not_isStatusWord_of_dataSync (block.isData frame hframe)
    have hbody := @splitBlocks_append _ (blocks.flatMap Block.frames) hdata (by rw [ih])
    rw [List.flatMap_cons]
    show splitBlocks (block.statusWord ::
      (block.sequenceWord :: block.totalWord :: block.payload ++ blocks.flatMap Block.frames)) = _
    rw [splitBlocks, hbody, ih, if_pos block.isStatus]
    rfl

/-- The header of the first block and the payloads of all are what is left of the blocks. -/
theorem preprocessFramesByIndex_blocks (block : Block) (blocks : List Block) :
    preprocessFramesByIndex ((block :: blocks).flatMap Block.frames) =
      block.header ++ (block :: blocks).flatMap Block.payload := by
  have hsplit := splitBlocks_blocks (block :: blocks)
  rw [List.flatMap_cons, List.map_cons, List.flatMap_def] at hsplit
  rw [preprocessFramesByIndex_eq, List.flatMap_cons, List.flatMap_def, preprocessFramesList_blocks hsplit,
    List.flatMap_map, List.flatMap_cons, Block.frames, List.append_assoc]
  rfl

/-! ### The chunks of a transfer -/

/-- The data messages of a transfer without the later headers. -/
theorem preprocessFramesByIndex_emitted {p : Plan} (hp : p.WellFormed)
    (hstatus : isStatusWord p.leadingWord = true) (hword : ∀ i, isStatusWord (p.word i) = false)
    (hdata : ∀ f ∈ p.dataFrames, isStatusWord f = false) (hne : p.dataFrames ≠ [])
    {init : List Transmission} (hinit : p.Announces init) (sent : Message → Value) :
    preprocessFramesByIndex (((p.emitted init sent).filter Transmission.isData).flatMap Transmission.frames) =
      [p.leadingWord, p.word 1, p.word p.numMessages] ++ p.dataFrames := by
  have hcollected := collectFrames_blocks hp hstatus hword hdata hne
  have hframes : ((List.range p.numMessages).map p.block).flatMap (fun m => (frames? m).getD []) =
      ((List.range p.numMessages).map p.blockFrames).flatten := by
    rw [List.flatMap_map, ← List.flatMap_def]
    refine List.flatMap_congr fun i _ => ?_
    rw [frames?, (hp.block i).frames_eq]
    rfl
  rw [collectFrames, hframes] at hcollected
  rw [preprocessFramesByIndex_eq, List.flatMap_def, Plan.data_frames hp hinit, hcollected]

/-- No word that the terminal makes of a number is a status word. -/
theorem isStatusWord_wordOfInt (n : ℤ) : isStatusWord (Bus.wordOfInt n) = false := by
  unfold Bus.wordOfInt
  split_ifs with h
  · apply not_isStatusWord_of_dataSync
    rw [hasInvalidSync, Bus.dataFrame_startsWith, Bool.not_true]
  · rfl

/-- A plan of the terminal is made of the valid frames of the message. -/
theorem plan_eq_messages {m : Message} {frames : Value} {p : Plan}
    (h : RemoteTerminal.plan m frames = .ok (some p)) :
    ∃ requestId md statusWord dataFrames,
      p = RemoteTerminal.messages requestId md statusWord dataFrames := by
  unfold RemoteTerminal.plan at h
  dsimp only at h
  split_ifs at h
  all_goals
    obtain ⟨items, -, h⟩ := bind_eq_ok h
    split at h
    · cases h
    · cases h
      exact ⟨_, _, _, _, rfl⟩
    · cases h

/-- What the terminal is asked to send as a block transfer: its plan has a status word in front of data
words. -/
structure Transfers (m : Message) (frames : Value) (p : Plan) : Prop where
  plan : RemoteTerminal.plan m frames = .ok (some p)
  isStatus : isStatusWord p.leadingWord = true
  isData : ∀ frame ∈ p.dataFrames, hasInvalidSync frame = false

/-- Removing the headers of any blocks leaves the first header and the payloads; of the data messages of a
transfer with data frames it leaves the first header and the data frames. -/
theorem headers_stripped :
    (∀ (block : Block) (blocks : List Block),
      preprocessFramesByIndex ((block :: blocks).flatMap Block.frames) =
        block.header ++ (block :: blocks).flatMap Block.payload) ∧
    ∀ m frames p, Transfers m frames p → p.dataFrames ≠ [] → ∀ init, p.Announces init → ∀ sent,
      preprocessFramesByIndex
          (((p.emitted init sent).filter Transmission.isData).flatMap Transmission.frames) =
        [p.leadingWord, p.word 1, p.word p.numMessages] ++ p.dataFrames := by
  refine ⟨preprocessFramesByIndex_blocks, fun m frames p htransfer hne init hinit sent => ?_⟩
  have hdata := fun f hf => not_isStatusWord_of_dataSync (htransfer.isData f hf)
  have hstatus := htransfer.isStatus
  obtain ⟨requestId, md, statusWord, dataFrames, rfl⟩ := plan_eq_messages htransfer.plan
  exact preprocessFramesByIndex_emitted (RemoteTerminal.messages_wellFormed requestId md statusWord dataFrames)
    hstatus (fun i => isStatusWord_wordOfInt i) hdata hne hinit sent

/-- A status word and as many data words as are asked for. -/
def carrying (count : ℕ) : List Value :=
  .str "10000001000010000010" :: List.replicate count (.str (Bus.dataFrame 7))

theorem transfers_carrying (count : ℕ) :
    Transfers [] (.list (carrying count)) (RemoteTerminal.messages .none [] (.str "10000001000010000010")
      (List.replicate count (.str (Bus.dataFrame 7)))) := by
  have hvalid : Bus.validateFrames (carrying count) = carrying count := by
    apply Bus.validateFrames_eq_self
    intro f hf
    rcases List.mem_cons.mp hf with rfl | hf
    · decide
    · rw [List.eq_of_mem_replicate hf]
      exact Bus.validateFrame_dataFrame 7
  have hstatus : isStatusWord (.str "10000001000010000010") = true := by decide
  refine ⟨?_, hstatus, fun frame hframe => ?_⟩
  · rw [RemoteTerminal.plan_list, hvalid]
    rfl
  · rw [List.eq_of_mem_replicate hframe, hasInvalidSync, Bus.dataFrame_startsWith, Bool.not_true]

/-- Thirty-one data words, in two messages. -/
theorem headers_stripped_two_messages :
    let p := RemoteTerminal.messages .none [] (.str "10000001000010000010")
      (List.replicate 31 (.str (Bus.dataFrame 7)))
    preprocessFramesByIndex
        (((p.emitted [] Value.dict).filter Transmission.isData).flatMap Transmission.frames) =
      [p.leadingWord, p.word 1, p.word 2] ++ List.replicate 31 (.str (Bus.dataFrame 7)) :=
  headers_stripped.2 [] (.list (carrying 31)) _ (transfers_carrying 31) (by simp [RemoteTerminal.messages]) []
    (.inl rfl) Value.dict

/-- Without data frames there is no data message, and no header is left. -/
theorem headers_lost_without_data :
    ¬∀ m frames p, Transfers m frames p → ∀ init, p.Announces init → ∀ sent,
      preprocessFramesByIndex
          (((p.emitted init sent).filter Transmission.isData).flatMap Transmission.frames) =
        [p.leadingWord, p.word 1, p.word p.numMessages] ++ p.dataFrames := by
  intro h
  have hempty := h [] _ _ (transfers_carrying 0) [] (.inl rfl) Value.dict
  rw [List.flatMap_def, Plan.data_frames (RemoteTerminal.messages_wellFormed _ _ _ _) (.inl rfl)] at hempty
  exact List.cons_ne_nil _ _ hempty.symm

end Fmofp.Aggregator
