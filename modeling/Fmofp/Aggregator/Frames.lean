import Fmofp.Aggregator.Detection
import Fmofp.Precipitation.Scale

/-! Reading precipitation objects out of frames, as the aggregators of the two ends of the bus do:
block headers are removed, the fourth frame is the count, and each later pair of frames is one
object. -/

namespace Fmofp.Aggregator

open Python Precipitation

/-- A status word starts with the command sync pattern. -/
def isStatusWord : Value → Bool
  | .str s => startsWith s "100"
  | _ => false

/-- The frames before the first status word, and the blocks: each is a status word and the frames
up to the next one. -/
def splitBlocks : List Value → List Value × List (List Value)
  | [] => ([], [])
  | f :: fs =>
    let rest := splitBlocks fs
    if isStatusWord f then ([], (f :: rest.1) :: rest.2) else (f :: rest.1, rest.2)

/-- The status word, the sequence number and the total that start each block. -/
def headerSize : ℕ := 3

/-- `_preprocess_frames_list`: the first block whole and the others without their headers.  With
fewer than two status words the list is returned as it is. -/
def preprocessFramesList (frames : List Value) : List Value :=
  match (splitBlocks frames).2 with
  | first :: second :: rest => first ++ (second :: rest).flatMap (List.drop headerSize)
  | _ => frames

def countFrameIndex : ℕ := 3
def firstDataFrameIndex : ℕ := 4

/-- `frame[3:19]`: the sixteen bits between sync and parity. -/
def dataBits (s : String) : String := slice s 3 19

/-- A frame that does not start with the data sync pattern. -/
def hasInvalidSync : Value → Bool
  | .str s => !startsWith s "001"
  | _ => true

/-- The object that a position word and an attribute word describe. -/
def precipitationObject (position attr : ℤ) : Value :=
  .dict [
    ("position", .tuple [.int (position / 256 % 256 - positionOffset),
      .int (position % 256 - positionOffset)]),
    ("type", .str (decodeAttributeWord attr).1),
    ("rate", .float (max 0 (min (maxCode / rateScale) (decodeAttributeWord attr).2.1))),
    ("intensity", .float (max 0 (min 1 (decodeAttributeWord attr).2.2))),
    ("show_values", .bool false)]

/-- One pair of frames: no object when a frame is short or is not a numeral, and an exception when
a frame has no length. -/
def decodePair (py : Runtime) (position attr : Value) : Except Exception (List Value) := do
  if (← position.length) < 20 then
    return []
  if (← attr.length) < 20 then
    return []
  match position, attr with
  | .str p, .str a =>
    match py.intBase2 (dataBits p), py.intBase2 (dataBits a) with
    | .ok position, .ok attr => return [precipitationObject position attr]
    | _, _ => return []
  | _, _ => return []

/-- The loop over the pairs, `count` of them at most: a pair with an invalid sync is skipped, unless
it is the last of the count. -/
def decodePairs (py : Runtime) : ℕ → List Value → Except Exception (List Value)
  | count + 1, position :: attr :: rest =>
    if (hasInvalidSync position || hasInvalidSync attr) && decide (0 < count) then
      decodePairs py count rest
    else do
      let objects ← decodePair py position attr
      let more ← decodePairs py count rest
      return objects ++ more
  | _, _ => .ok []

/-- The number that a count frame holds: `none` where the frame is shorter than a word and
`valueError` where it is not a numeral. -/
def countFrameValue (py : Runtime) (frame : Value) : Except Exception (Option ℤ) := do
  if (← frame.length) < 20 then
    return none
  match frame with
  | .str s => return some (← py.intBase2 (dataBits s))
  | _ => throw .typeError

/-- The pairs of frames after the count frame. -/
def maxPossibleObjects (frames : List Value) : ℕ := (frames.length - firstDataFrameIndex) / 2

/-- All frames of the data messages, without the headers between blocks. -/
def collectFrames (dataMessages : List Message) : List Value :=
  preprocessFramesList (dataMessages.flatMap fun m => (frames? m).getD [])

namespace BusController

/-- The count that `BlockTransferAggregator` goes by: the whole word, at most the pairs there are,
and none when the frame cannot be read. -/
def objectCount (py : Runtime) (frame : Value) (pairs : ℕ) : Except Exception (Option ℕ) :=
  match countFrameValue py frame with
  | .ok (some n) => .ok (some (min n pairs).toNat)
  | .ok none => .ok none
  | .error .valueError => .ok none
  | .error e => .error e

/-- `BlockTransferAggregator._extract_precipitation_data_from_frames`. -/
def extractPrecipitationDataFromFrames (py : Runtime) (dataMessages : List Message) :
    Except Exception (List Value) :=
  let frames := collectFrames dataMessages
  match frames.drop countFrameIndex with
  | [] => .ok []
  | countFrame :: dataFrames => do
    match ← objectCount py countFrame (maxPossibleObjects frames) with
    | some count => decodePairs py count dataFrames
    | none => return []

/-- `extract_binary_data`: a data list of integers, or the objects in the frames of a precipitation
message. -/
def extractBinaryData (py : Runtime) (m : Message) : Except Exception (Option (List Value)) :=
  match (dataList? m).filter fun items => items.all fun i => i.int?.isSome with
  | some items => .ok (some items)
  | none =>
    if ((frames? m).any fun frames => decide (20 < frames.length)) && isPrecipitationMessage py m then
      (extractPrecipitationDataFromFrames py [m]).map fun objects =>
        if objects.isEmpty then none else some objects
    else .ok none

end BusController

namespace RemoteTerminal

/-- The count that `RTTransferAggregator` goes by: the low four bits, at most the pairs there are,
and up to fifteen of these when that is zero or the frame cannot be read. -/
def objectCount (py : Runtime) (frame : Value) (pairs : ℕ) : Except Exception ℕ :=
  match countFrameValue py frame with
  | .ok (some n) =>
    let count := min (n % 16).toNat pairs
    .ok (if count = 0 then min 15 pairs else count)
  | .ok none => .ok (min 15 pairs)
  | .error .valueError => .ok (min 15 pairs)
  | .error e => .error e

/-- `RTTransferAggregator._extract_precipitation_data_from_frames`. -/
def extractPrecipitationDataFromFrames (py : Runtime) (dataMessages : List Message) :
    Except Exception (List Value) :=
  let frames := collectFrames dataMessages
  match frames.drop countFrameIndex with
  | [] => .ok []
  | countFrame :: dataFrames => do
    let count ← objectCount py countFrame (maxPossibleObjects frames)
    decodePairs py count dataFrames

end RemoteTerminal

theorem mem_splitBlocks (frames : List Value) (f : Value) :
    (f ∈ (splitBlocks frames).1 ∨ ∃ block ∈ (splitBlocks frames).2, f ∈ block) → f ∈ frames := by
  induction frames with
  | nil => simp [splitBlocks]
  | cons g gs ih =>
    intro h
    by_cases hs : isStatusWord g = true
    · simp only [splitBlocks, hs, if_true, List.mem_cons] at h
      simp only [List.mem_cons]
      rcases h with h | ⟨block, rfl | hblock, hf⟩
      · simp at h
      · rcases List.mem_cons.mp hf with rfl | hf
        · exact .inl rfl
        · exact .inr (ih (.inl hf))
      · exact .inr (ih (.inr ⟨block, hblock, hf⟩))
    · simp only [splitBlocks, hs, Bool.false_eq_true, if_false, List.mem_cons] at h
      simp only [List.mem_cons]
      rcases h with (rfl | h) | h
      · exact .inl rfl
      · exact .inr (ih (.inl h))
      · exact .inr (ih (.inr h))

/-- Removing block headers adds no frame. -/
theorem mem_preprocessFramesList {frames : List Value} {f : Value}
    (h : f ∈ preprocessFramesList frames) : f ∈ frames := by
  unfold preprocessFramesList at h
  split at h
  · rename_i first second rest hblocks
    have hof : ∀ block ∈ (splitBlocks frames).2, f ∈ block → f ∈ frames := fun block hb hf =>
      mem_splitBlocks frames f (.inr ⟨block, hb, hf⟩)
    rcases List.mem_append.mp h with h | h
    · exact hof first (by simp [hblocks]) h
    · obtain ⟨block, hblock, hf⟩ := List.mem_flatMap.mp h
      exact hof block (by simp [hblocks] at hblock ⊢; tauto) (List.mem_of_mem_drop hf)
  · exact h

theorem mem_collectFrames {dataMessages : List Message} {f : Value}
    (h : f ∈ collectFrames dataMessages) : ∃ m ∈ dataMessages, f ∈ (frames? m).getD [] :=
  List.mem_flatMap.mp (mem_preprocessFramesList h)

theorem decodePair_ok (py : Runtime) {position attr : Value} (hp : position.isText = true)
    (ha : attr.isText = true) : ∃ objects, decodePair py position attr = .ok objects := by
  cases position <;> simp [Value.isText] at hp
  cases attr <;> simp [Value.isText] at ha
  simp only [decodePair, Value.length, bind, Except.bind, pure, Except.pure]
  repeat' split
  all_goals exact ⟨_, rfl⟩

/-- Frames that are text are decoded without an exception. -/
theorem decodePairs_ok (py : Runtime) (count : ℕ) (frames : List Value)
    (htext : ∀ f ∈ frames, f.isText = true) : ∃ objects, decodePairs py count frames = .ok objects := by
  induction count generalizing frames with
  | zero => exact ⟨[], by simp [decodePairs]⟩
  | succ count ih =>
    match frames, htext with
    | [], _ => exact ⟨[], by simp [decodePairs]⟩
    | [_], _ => exact ⟨[], by simp [decodePairs]⟩
    | position :: attr :: rest, htext =>
      obtain ⟨more, hmore⟩ := ih rest fun f hf => htext f (by simp [hf])
      obtain ⟨objects, hobjects⟩ := decodePair_ok py (htext position (by simp)) (htext attr (by simp))
      rw [decodePairs, hmore, hobjects]
      split_ifs
      · exact ⟨more, rfl⟩
      · exact ⟨objects ++ more, rfl⟩

theorem BusController.objectCount_ok (py : Runtime) {frame : Value} (h : frame.isText = true)
    (pairs : ℕ) : ∃ count, BusController.objectCount py frame pairs = .ok count := by
  cases frame <;> simp [Value.isText] at h
  rename_i s
  simp only [BusController.objectCount, countFrameValue, Value.length, bind, Except.bind, pure,
    Except.pure]
  by_cases hlen : s.length < 20
  · simp [hlen]
  · simp only [hlen, if_false]
    cases hint : py.intBase2 (dataBits s) with
    | ok n => exact ⟨_, rfl⟩
    | error e =>
      rw [Runtime.intBase2_error hint]
      exact ⟨none, rfl⟩

theorem BusController.extraction_ok (py : Runtime) (dataMessages : List Message)
    (htext : ∀ m ∈ dataMessages, ∀ f ∈ (frames? m).getD [], f.isText = true) :
    ∃ objects, BusController.extractPrecipitationDataFromFrames py dataMessages = .ok objects := by
  have hall : ∀ f ∈ collectFrames dataMessages, f.isText = true := by
    intro f hf
    obtain ⟨m, hm, hmem⟩ := mem_collectFrames hf
    exact htext m hm f hmem
  unfold BusController.extractPrecipitationDataFromFrames
  generalize collectFrames dataMessages = frames at hall
  cases hdrop : frames.drop countFrameIndex with
  | nil => exact ⟨[], by simp only [hdrop]⟩
  | cons countFrame dataFrames =>
    have hmem : ∀ f ∈ countFrame :: dataFrames, f.isText = true := fun f hf =>
      hall f (List.mem_of_mem_drop (hdrop ▸ hf))
    obtain ⟨count, hcount⟩ := BusController.objectCount_ok py (hmem countFrame (by simp))
      (maxPossibleObjects frames)
    simp only [hdrop, hcount, bind, Except.bind]
    cases count with
    | none => exact ⟨[], rfl⟩
    | some count => exact decodePairs_ok py count dataFrames fun f hf => hmem f (by simp [hf])

/-- The rate that a code stands for is within the bounds that the decoder applies. -/
theorem rate_bounded (word : ℤ) :
    max 0 (min ((maxCode : ℚ) / rateScale) (rateCode word / rateScale)) =
      rateCode word / rateScale := by
  have hle : (rateCode word : ℚ) ≤ maxCode := by exact_mod_cast rateCode_le word
  rw [min_eq_right (div_le_div_of_nonneg_right hle (by norm_num [rateScale]))]
  exact max_eq_right (div_nonneg (Nat.cast_nonneg _) (by norm_num [rateScale]))

theorem intensity_bounded (word : ℤ) :
    max 0 (min 1 ((intensityCode word : ℚ) / intensityScale)) =
      intensityCode word / intensityScale := by
  have hle : (intensityCode word : ℚ) ≤ 63 := by exact_mod_cast intensityCode_le word
  rw [min_eq_right (by rw [intensityScale, div_le_one (by norm_num)]; exact hle)]
  exact max_eq_right (div_nonneg (Nat.cast_nonneg _) (by norm_num [intensityScale]))

/-- Two pairs of 16-bit words describe the same object exactly when the position words are equal
and the attribute words have the same type, rate and intensity. -/
theorem precipitationObject_eq_iff {p q : ℕ} (hp : p < 65536) (hq : q < 65536) (a b : ℤ) :
    precipitationObject p a = precipitationObject q b ↔
      p = q ∧ typeName (typeCode a) = typeName (typeCode b) ∧ rateCode a = rateCode b ∧
        intensityCode a = intensityCode b := by
  have hrate : (rateCode a : ℚ) / rateScale = rateCode b / rateScale ↔
      rateCode a = rateCode b := by
    rw [div_left_inj' (by norm_num [rateScale])]
    exact Nat.cast_inj
  have hintensity : (intensityCode a : ℚ) / intensityScale = intensityCode b / intensityScale ↔
      intensityCode a = intensityCode b := by
    rw [div_left_inj' (by norm_num [intensityScale])]
    exact Nat.cast_inj
  have hposition : ((p : ℤ) / 256 % 256 = q / 256 % 256 ∧ (p : ℤ) % 256 = q % 256) ↔ p = q := by
    omega
  simp only [precipitationObject, decodeAttributeWord, rate_bounded, intensity_bounded]
  simp only [Value.dict.injEq, List.cons.injEq, Prod.mk.injEq, Value.tuple.injEq, Value.int.injEq,
    Value.str.injEq, Value.float.injEq, true_and, and_true, sub_left_inj, hrate, hintensity,
    hposition]

end Fmofp.Aggregator
