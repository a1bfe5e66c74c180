import Fmofp.Bus.Decoding
import Fmofp.Metadata.Encode

/-! Communication frames of `BC_construct`: a command word and its data words.  A frame of up to thirty-one
data words is decoded to what it was made of; the code lets thirty-two pass, whose count does not fit its five
bits, and then makes no frame. -/

namespace Fmofp.Bus

open Python

namespace BCConstruct

/-- `construct_command_word`: nothing for what is no number and for a field of more than its bits. -/
def constructCommandWord (py : Runtime) (rtAddress tOrR subAddOrModeCode dataWordCount : Value) : Option String :=
  let fields : Except Exception (String × String × String) := do
    let rtAddressBin ← toInt py rtAddress
    let subAddBin ← toInt py subAddOrModeCode
    let dataCountBin ← toInt py dataWordCount
    return (formatBin 5 rtAddressBin, formatBin 5 subAddBin, formatBin 5 dataCountBin)
  match fields with
  | .error _ => none
  | .ok (rtAddressBin, subAddBin, dataCountBin) =>
    let tOrRBin := if tOrR.number? = some 0 then "0" else "1"
    if rtAddressBin.length = 5 ∧ tOrRBin.length = 1 ∧ subAddBin.length = 5 ∧ dataCountBin.length = 5 then
      (completed ("100" ++ (rtAddressBin ++ (tOrRBin ++ (subAddBin ++ dataCountBin))))).toOption
    else none

/-- A constructed data word; `None` and the empty text are failures. -/
def constructedText : Value → Option String
  | .str s => if s = "" then none else some s
  | _ => none

/-- Whether there is no message at all. -/
def noMessage : Value → Bool
  | .none => true
  | .str s => decide (s = "")
  | .list items => items.isEmpty
  | _ => false

/-- The message as a list of data. -/
def messageList (message : Value) : List Value :=
  match message with
  | .list items => items
  | _ => if message.truthy then [message] else []

/-- The words of the metadata; the frame is made without them if they cannot be encoded. -/
def metadataWords (py : Runtime) (metadata : Value) : List Value :=
  if metadata.truthy then
    match metadata with
    | .dict m => ((Metadata.encodeMetadata py m).toOption.getD []).map .str
    | _ => []
  else []

/-- The word count that the caller gives is read if it is text, and not used otherwise. -/
def readCount (py : Runtime) (dataWordCount : Value) : Except Exception Unit :=
  match dataWordCount with
  | .str s => (py.intBase2 s).map fun _ => ()
  | _ => .ok ()

/-- `construct_communication_frame`: no words where the code returns an empty list. -/
def constructCommunicationFrame (py : Runtime) (rtAddress tOrR subAddOrModeCode dataWordCount message
    metadata : Value) : List String :=
  match readCount py dataWordCount with
  | .error _ => []
  | .ok () =>
    if noMessage message ∧ metadata.truthy = false then
      match constructCommandWord py rtAddress tOrR subAddOrModeCode (.int 0) with
      | some commandWord => [commandWord]
      | none => []
    else
      let allDataWords := metadataWords py metadata ++ messageList message
      -- one word more than the count field of the command word can hold
      if 32 < allDataWords.length then []
      else
        match constructCommandWord py rtAddress tOrR subAddOrModeCode (.int allDataWords.length) with
        | none => []
        | some commandWord =>
          match allDataWords.mapM fun data => constructedText (BusController.constructDataWord py data) with
          | some dataWords => commandWord :: dataWords
          | none => []

/-- `validate_frame`. -/
def validateFrame : List String → Bool
  | [] => false
  | commandWord :: dataWords =>
    (commandWord :: dataWords).all (fun word => decide (word.length = 20)) && startsWith commandWord "100" &&
      dataWords.all fun word => startsWith word "001"

end BCConstruct

/-! ### Words -/

section Words

variable (py : Runtime)

open BCConstruct

/-- The text of a command word is what the layout of command words says. -/
theorem constructCommandWord_eq {rtAddress tBit subAddress count : ℕ} (hrt : rtAddress ≤ 31) (ht : tBit ≤ 1)
    (hsub : subAddress ≤ 31) (hcount : count ≤ 31) :
    constructCommandWord py (.int rtAddress) (.int tBit) (.int subAddress) (.int count) =
      (completed ("100" ++ encodeFields commandLayout [rtAddress, tBit, subAddress, count])).toOption := by
  have hint (n : ℕ) : toInt py (.int n) = .ok (n : ℤ) := by
    show Except.ok (truncate ((n : ℤ) : ℚ)) = _
    rw [truncate, if_pos (by positivity), Int.floor_intCast]
  have hlength {n : ℕ} (h : n ≤ 31) : (formatBin 5 n).length = 5 := by
    rw [formatBin_of_lt (by decide) (by omega), String.length_ofList, bits_length]
  have hbit : (if (Value.int tBit).number? = some 0 then "0" else "1") = fieldText 1 tBit := by
    interval_cases tBit <;> rfl
  have hbitLength : (fieldText 1 tBit).length = 1 := by
    interval_cases tBit <;> rfl
  unfold constructCommandWord
  simp only [hint, bind, Except.bind, pure, Except.pure, hbit]
  rw [if_pos ⟨hlength hrt, hbitLength, hlength hsub, hlength hcount⟩]
  simp only [encodeFields, commandLayout, String.append_empty]
  rfl

/-- A number that does not fit the count field. -/
theorem constructCommandWord_none (rtAddress tOrR subAddress : Value) {count : ℕ} (hcount : 32 ≤ count) :
    constructCommandWord py rtAddress tOrR subAddress (.int count) = none := by
  have hlong : (formatBin 5 count).length ≠ 5 := by
    have hlog : 5 ≤ count.log2 := (Nat.le_log2 (by omega)).mpr (by omega)
    show (String.ofList (bits (max 5 (count.log2 + 1)) count)).length ≠ 5
    rw [String.length_ofList, bits_length]
    omega
  have hint : toInt py (.int count) = .ok (count : ℤ) := by
    show Except.ok (truncate ((count : ℤ) : ℚ)) = _
    rw [truncate, if_pos (by positivity), Int.floor_intCast]
  unfold constructCommandWord
  cases hrt : toInt py rtAddress with
  | error e => rfl
  | ok a =>
    cases hsub : toInt py subAddress with
    | error e => rfl
    | ok s =>
      simp only [hint, bind, Except.bind, pure, Except.pure]
      rw [if_neg fun h => hlong h.2.2.2]

/-- The word that carries `n` is the one that the layout of data words says. -/
theorem completed_data {n : ℕ} (h : n ≤ 65535) :
    completed ("001" ++ encodeFields dataLayout [n]) = .ok (dataFrame n) := by
  have htext : encodeFields dataLayout [n] = String.ofList (bits 16 n) := by
    show formatBin 16 n ++ "" = _
    rw [String.append_empty, formatBin_of_lt (by decide) (by omega)]
  have hchars : ("001" ++ encodeFields dataLayout [n]).toList = dataSync ++ bits 16 n := by
    rw [htext, String.toList_append, String.toList_ofList, String.toList_ofList, dataSync]
  have hlength : ("001" ++ encodeFields dataLayout [n]).length = 19 := by
    rw [← String.length_toList, hchars, List.length_append, bits_length, show dataSync.length = 3 from rfl]
  rw [completed_of_length hlength, hchars, dataFrame]

/-- The data words of numbers that sixteen bits hold. -/
theorem mapM_constructDataWord {ns : List ℕ} (h : ∀ n ∈ ns, n ≤ 65535) :
    ((ns.map fun n : ℕ => Value.int (n : ℤ)).mapM fun data => constructedText (BusController.constructDataWord py data)) =
      some (ns.map dataFrame) := by
  induction ns with
  | nil => rfl
  | cons n ns ih =>
    have hn : n ≤ 65535 := h n List.mem_cons_self
    have hne : dataFrame n ≠ "" := by
      intro hempty
      have hlength := dataFrame_length n
      rw [hempty] at hlength
      exact absurd hlength (by decide)
    have hword : constructedText (BusController.constructDataWord py (.int n)) = some (dataFrame n) := by
      rw [BusController.constructDataWord_int, wordOfInt_natCast hn, constructedText, if_neg hne]
    rw [List.map_cons, List.mapM_cons, hword, ih fun m hm => h m (List.mem_cons_of_mem _ hm)]
    rfl

theorem decode_dataFrame {n : ℕ} (h : n ≤ 65535) :
    ∃ p, RTWordsDecoder.decodeDataWord py (dataFrame n) = .ok ⟨dataSync, [("data", (n : ℤ))], p⟩ := by
  have hfits : List.Forall₂ (fun e m => Fits py e.2 m) dataLayout [(n : ℤ)] :=
    .cons (fits_of_inWidth py (by decide) ⟨by omega, by norm_num; omega⟩) .nil
  have hplain : Plain (dataFrame n) := @plain_of_completed .data _ _ (completed_data h)
  rw [RTWordsDecoder.decodeDataWord, stripListMarks_of_plain hplain]
  exact decodeWord_completed py (by decide) hfits (completed_data h)

end Words

/-! ### Frames -/

/-- What the caller gives for the data word count can be read: text is taken for a binary numeral. -/
def ReadableCount (py : Runtime) (dataWordCount : Value) : Prop :=
  ∀ s, dataWordCount = .str s → ∃ n, py.intBase2 s = .ok n

/-- The frame is decoded to what it was made of. -/
structure FrameDecodes (py : Runtime) (rtAddress tBit subAddress : ℕ) (data : List ℕ) (frame : List String) :
    Prop where
  length : frame.length = 1 + data.length
  valid : BCConstruct.validateFrame frame = true
  command : ∃ p, ∃ word ∈ frame.head?, RTWordsDecoder.decodeCommandWord py word =
    .ok ⟨commandSync, [("rt_address", (rtAddress : ℤ)), ("tr_bit", (tBit : ℤ)),
      ("subaddress_mode", (subAddress : ℤ)), ("word_count_mode", ((data.length % 32 : ℕ) : ℤ))], p⟩
  words : List.Forall₂ (fun word (n : ℕ) => ∃ p, RTWordsDecoder.decodeDataWord py word =
    .ok ⟨dataSync, [("data", (n : ℤ))], p⟩) frame.tail data

section Frames

open BCConstruct

variable {py : Runtime} {rtAddress tBit subAddress : ℕ} {data : List ℕ} {dataWordCount metadata : Value}

/-- The data of a frame as the caller gives them. -/
def dataMessage (data : List ℕ) : Value := .list (data.map fun n : ℕ => .int (n : ℤ))

theorem readCount_eq_ok_iff : readCount py dataWordCount = .ok () ↔ ReadableCount py dataWordCount := by
  unfold readCount ReadableCount
  cases dataWordCount with
  | str s => cases hs : py.intBase2 s <;> simp [hs, Except.map]
  | _ => simp

theorem constructCommunicationFrame_of_unreadable (h : ¬ReadableCount py dataWordCount) (rtAddress tOrR subAddress
    message metadata : Value) :
    constructCommunicationFrame py rtAddress tOrR subAddress dataWordCount message metadata = [] := by
  rw [← readCount_eq_ok_iff] at h
  unfold constructCommunicationFrame
  cases hcount : readCount py dataWordCount with
  | error e => rfl
  | ok u => exact absurd hcount h

/-- The frame of data without metadata: the command word, then one word for each of the data. -/
theorem constructCommunicationFrame_data (hreadable : ReadableCount py dataWordCount)
    (hmetadata : metadata.truthy = false) (hdata : ∀ n ∈ data, n ≤ 65535) (rtAddress tOrR subAddress : Value) :
    constructCommunicationFrame py rtAddress tOrR subAddress dataWordCount (dataMessage data) metadata =
      if 32 < data.length then []
      else match constructCommandWord py rtAddress tOrR subAddress (.int data.length) with
        | none => []
        | some commandWord => commandWord :: data.map dataFrame := by
  have hwords : metadataWords py metadata ++ messageList (dataMessage data) =
      data.map fun n : ℕ => Value.int (n : ℤ) := by
    unfold metadataWords
    rw [hmetadata, if_neg Bool.false_ne_true, List.nil_append]
    rfl
  unfold constructCommunicationFrame
  rw [readCount_eq_ok_iff.mpr hreadable]
  dsimp only
  cases data with
  | nil =>
    rw [if_pos ⟨rfl, hmetadata⟩, if_neg (by decide)]
    cases constructCommandWord py rtAddress tOrR subAddress (.int 0) <;> rfl
  | cons n data =>
    rw [if_neg fun h => absurd h.1 (by simp [noMessage, dataMessage]), hwords, List.length_map,
      mapM_constructDataWord py hdata]

/-- A frame that passes `validate_frame`. -/
theorem validateFrame_cons {command : String} (hlength : command.length = 20) (hsync : startsWith command "100" = true)
    (data : List ℕ) : BCConstruct.validateFrame (command :: data.map dataFrame) = true := by
  unfold BCConstruct.validateFrame
  rw [Bool.and_eq_true, Bool.and_eq_true, List.all_eq_true, List.all_eq_true]
  refine ⟨⟨fun word hword => ?_, hsync⟩, fun word hword => ?_⟩
  · rcases List.mem_cons.mp hword with rfl | hword
    · exact decide_eq_true hlength
    · obtain ⟨n, -, rfl⟩ := List.mem_map.mp hword
      exact decide_eq_true (dataFrame_length n)
  · obtain ⟨n, -, rfl⟩ := List.mem_map.mp hword
    exact dataFrame_startsWith n

theorem startsWith_withParity (front rest : String) :
    startsWith (String.ofList (withParity (front ++ rest).toList)) front = true := by
  rw [startsWith, String.toList_ofList, withParity, String.toList_append, List.append_assoc,
    List.isPrefixOf_iff_prefix]
  apply List.prefix_append

/-- Numbers in range fit their fields. -/
theorem fits_of_lt {width n : ℕ} (hwidth : 0 < width) (h : n < 2 ^ width) : Fits py width (n : ℤ) :=
  fits_of_inWidth py hwidth ⟨by positivity, by exact_mod_cast h⟩

/-- A frame of up to thirty-one data words. -/
theorem frameDecodes_of_length (hrt : rtAddress ≤ 31) (ht : tBit ≤ 1) (hsub : subAddress ≤ 31)
    (hdata : ∀ n ∈ data, n ≤ 65535) (hlength : data.length ≤ 31) :
    ∃ command, constructCommandWord py (.int rtAddress) (.int tBit) (.int subAddress) (.int data.length) =
        some command ∧
      FrameDecodes py rtAddress tBit subAddress data (command :: data.map dataFrame) := by
  have hrtFits : Fits py 5 (rtAddress : ℤ) := fits_of_lt (by decide) (by omega)
  have htFits : Fits py 1 (tBit : ℤ) := fits_of_lt (by decide) (by omega)
  have hsubFits : Fits py 5 (subAddress : ℤ) := fits_of_lt (by decide) (by omega)
  have hcountFits : Fits py 5 (data.length : ℤ) := fits_of_lt (by decide) (by omega)
  have hfits : List.Forall₂ (fun e n => Fits py e.2 n) commandLayout
      [(rtAddress : ℤ), (tBit : ℤ), (subAddress : ℤ), (data.length : ℤ)] :=
    .cons hrtFits (.cons htFits (.cons hsubFits (.cons hcountFits .nil)))
  have hbody : ("100" ++ encodeFields commandLayout [rtAddress, tBit, subAddress, data.length]).length = 19 := by
    rw [String.length_append, (decodeFields_encodeFields py hfits).2]
    rfl
  have hcompleted := completed_of_length hbody
  set command := String.ofList
    (withParity ("100" ++ encodeFields commandLayout [rtAddress, tBit, subAddress, data.length]).toList) with hcommand
  have hplain : Plain command := @plain_of_completed .command _ _ hcompleted
  obtain ⟨p, hp⟩ := decodeWord_completed py (by decide) hfits hcompleted
  refine ⟨command, ?_, ?_⟩
  · rw [constructCommandWord_eq py hrt ht hsub hlength, hcompleted]
    rfl
  · constructor
    · rw [List.length_cons, List.length_map, Nat.add_comm]
    · apply validateFrame_cons
      · rw [hcommand, String.length_ofList, withParity, List.length_append, String.length_toList, hbody]
        rfl
      · rw [hcommand]
        apply startsWith_withParity
    · refine ⟨p, command, rfl, ?_⟩
      rw [RTWordsDecoder.decodeCommandWord, stripListMarks_of_plain hplain, Nat.mod_eq_of_lt (by omega)]
      exact hp
    · rw [List.tail_cons, List.forall₂_map_left_iff, List.forall₂_same]
      exact fun n hn => decode_dataFrame py (hdata n hn)

/-- The frame of a list of data is decoded to what it was made of if and only if it has at most thirty-one data
words, one less than the code lets pass, and the word count that is given is no malformed text. -/
theorem communication_frame_decodes_iff (hrt : rtAddress ≤ 31) (ht : tBit ≤ 1) (hsub : subAddress ≤ 31)
    (hdata : ∀ n ∈ data, n ≤ 65535) (hmetadata : metadata.truthy = false) :
    FrameDecodes py rtAddress tBit subAddress data
        (constructCommunicationFrame py (.int rtAddress) (.int tBit) (.int subAddress) dataWordCount
          (dataMessage data) metadata) ↔
      data.length ≤ 31 ∧ ReadableCount py dataWordCount := by
  have hempty : ¬FrameDecodes py rtAddress tBit subAddress data [] := fun h => absurd h.valid (by decide)
  by_cases hreadable : ReadableCount py dataWordCount
  · rw [constructCommunicationFrame_data hreadable hmetadata hdata]
    by_cases hlength : data.length ≤ 31
    · obtain ⟨command, hcommand, hframe⟩ := @frameDecodes_of_length py _ _ _ _ hrt ht hsub hdata hlength
      rw [if_neg (by omega), hcommand]
      exact ⟨fun _ => ⟨hlength, hreadable⟩, fun _ => hframe⟩
    · refine ⟨fun h => absurd h ?_, fun h => absurd h.1 hlength⟩
      split_ifs
      · exact hempty
      · rw [constructCommandWord_none py _ _ _ (by omega)]
        exact hempty
  · rw [constructCommunicationFrame_of_unreadable hreadable]
    exact ⟨fun h => absurd h hempty, fun h => absurd h.2 hreadable⟩

theorem communication_frame_decodes_one :
    FrameDecodes .ascii 5 1 17 [65535] (constructCommunicationFrame .ascii (.int 5) (.int 1) (.int 17) (.int 1)
      (dataMessage [65535]) .none) :=
  (communication_frame_decodes_iff (by decide) (by decide) (by decide) (by decide) rfl).mpr
    ⟨by decide, fun _ h => by cases h⟩

/-- Thirty-two data words pass the check of the code, and no frame is made of them. -/
theorem no_frame_of_32 :
    ¬∀ (py : Runtime) (rtAddress tBit subAddress : ℕ) (data : List ℕ), rtAddress ≤ 31 → tBit ≤ 1 →
      subAddress ≤ 31 → (∀ n ∈ data, n ≤ 65535) → data.length ≤ 32 →
      FrameDecodes py rtAddress tBit subAddress data (constructCommunicationFrame py (.int rtAddress) (.int tBit)
        (.int subAddress) (.int data.length) (dataMessage data) .none) := by
  intro h
  have hframe := h .ascii 5 1 17 (List.replicate 32 0) (by decide) (by decide) (by decide) (by decide) (by decide)
  exact absurd hframe.valid (by decide +kernel)

end Frames

end Fmofp.Bus
