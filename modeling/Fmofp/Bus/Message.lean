import Fmofp.Bus.WordCodec

/-! `MIL_STD_1553B_Message` and its binary form: a command word, a block status word for block
transfers, and the data words. -/

namespace Fmofp.Bus

open Python

abbrev commandWordSize : ℕ := 16
abbrev dataWordSize : ℕ := 16
abbrev maxDataWords : ℕ := 32
abbrev statusWordSize : ℕ := 16
abbrev blockStatusFlagBit : ℕ := 8

def bcToRt : ℤ := 0
def rtToBc : ℤ := 1

def standardTransfer : ℤ := 0
def blockTransfer : ℤ := 1

structure MilStd1553BMessage where
  rtAddress : ℤ
  subAddress : ℤ
  messageType : Value
  originalMessageType : Value
  commandType : Value
  commandName : Value
  dataWordCount : ℤ
  direction : ℤ
  transferType : ℤ
  metadata : Message
  data : String

/-- `isinstance(v, int)` with `0 <= v <= 31`. -/
def address? (v : Value) : Option ℤ := v.int?.filter fun n => decide (0 ≤ n ∧ n ≤ 31)

/-- `metadata[k] = v` where `v` is given and the key is not. -/
def keepField (metadata : Message) (k : String) (v : Value) (given : Bool) : Message :=
  if given && !Dict.has metadata k then Dict.set metadata k v else metadata

/-- `format(word, '016b')`. -/
def dataWord (word : Value) : Except Exception String :=
  match word.int? with
  | some n => .ok (formatBin dataWordSize n)
  | none => match word with
    | .str _ | .float _ => .error .valueError
    | _ => .error .typeError

/-- The bits of the data: text as it is, a list as the words of its integers. -/
def dataBits : Value → Except Exception String
  | .str s => if maxDataWords * dataWordSize < s.length then .error .valueError else .ok s
  | .list items =>
    if maxDataWords < items.length then .error .valueError
    else (items.mapM dataWord).map String.join
  | _ => .error .valueError

/-- The metadata that `__init__` fills up with the fields it was given. -/
def initMetadata (rtAddress subAddress : ℤ)
    (messageType originalMessageType commandType commandName : Value) (direction transferType : ℤ)
    (metadata : Message) : Message :=
  let m := keepField metadata "command_type" commandType commandType.truthy
  let m := keepField m "command_name" commandName commandName.truthy
  let m := keepField m "message_type" messageType messageType.truthy
  let m := keepField m "original_message_type" originalMessageType originalMessageType.truthy
  let m := keepField m "rt_address" (.int rtAddress) true
  let m := keepField m "sub_address" (.int subAddress) true
  let m := keepField m "direction" (.int direction) true
  keepField m "transfer_type" (.int transferType) true

/-- `MIL_STD_1553B_Message.__init__`. -/
def MilStd1553BMessage.init (rtAddress subAddress data : Value)
    (messageType originalMessageType commandType commandName : Value) (dataWordCount : Option ℤ)
    (metadata : Message) (direction transferType : ℤ) : Except Exception MilStd1553BMessage :=
  match address? rtAddress, address? subAddress with
  | some rt, some sa => do
    let bits ← dataBits data
    let filled := initMetadata rt sa messageType originalMessageType commandType commandName
      direction transferType metadata
    let counted : ℤ := (bits.length / dataWordSize : ℕ)
    return {
      rtAddress := rt
      subAddress := sa
      messageType := messageType
      originalMessageType := originalMessageType
      commandType := commandType
      commandName := commandName
      dataWordCount := dataWordCount.getD counted
      direction := direction
      transferType := transferType
      metadata := if dataWordCount.isSome then filled
        else Dict.set filled "data_word_count" (.int counted)
      data := bits }
  | _, _ => .error .valueError

/-- The command word of `to_binary`. -/
def MilStd1553BMessage.commandWord (m : MilStd1553BMessage) : String :=
  formatBin 5 m.rtAddress ++ (if m.direction = rtToBc then "1" else "0") ++
    formatBin 5 m.subAddress ++ formatBin 5 m.dataWordCount

/-- The status word of `to_binary` for block transfers. -/
def MilStd1553BMessage.statusWord (m : MilStd1553BMessage) : String :=
  formatBin 5 m.rtAddress ++ "00000" ++ "1" ++ "00000"

/-- `to_binary`. -/
def MilStd1553BMessage.toBinary (m : MilStd1553BMessage) : String :=
  if m.transferType = standardTransfer then m.commandWord ++ m.data
  else m.commandWord ++ m.statusWord ++ m.data

/-- Whether what follows the command word is taken for a block status word. -/
def hasStatusWord (binary : String) (wordCount : ℤ) : Except Exception Bool :=
  if commandWordSize + wordCount * dataWordSize + statusWordSize ≤ binary.length then
    match (slice binary commandWordSize (commandWordSize + statusWordSize)).toList[
        blockStatusFlagBit]? with
    | some c => .ok (c == '1')
    | none => .error .indexError
  else .ok false

/-- `from_binary`. -/
def MilStd1553BMessage.fromBinary (py : Runtime) (binary : String) (messageType : Value)
    (metadata : Message) : Except Exception MilStd1553BMessage :=
  if binary.length < commandWordSize then .error .valueError
  else do
    let rt ← py.intBase2 (slice binary 0 5)
    let tr ← py.intBase2 (slice binary 5 6)
    let sa ← py.intBase2 (slice binary 6 11)
    let wordCount ← py.intBase2 (slice binary 11 16)
    let direction := if tr = 1 then rtToBc else bcToRt
    let block ← hasStatusWord binary wordCount
    let transferType := if block then blockTransfer else standardTransfer
    let dataStart := if block then commandWordSize + statusWordSize else commandWordSize
    if (binary.length : ℤ) ≠ dataStart + wordCount * dataWordSize then .error .valueError
    else
      let metadata := Dict.set metadata "direction" (.int direction)
      let metadata := Dict.set metadata "transfer_type" (.int transferType)
      let metadata := Dict.set metadata "data_word_count" (.int wordCount)
      MilStd1553BMessage.init (.int rt) (.int sa) (.str (slice binary dataStart binary.length))
        messageType .none .none .none (some wordCount) metadata direction transferType

/-- The number that the bits from `i` to `j` of a binary string write. -/
def field (binary : String) (i j : ℕ) : ℕ := ofBits (slice binary i j).toList

/-- What `from_binary` reads off a binary string, with or without a status word. -/
structure Reads (binary : String) (block : Bool) (m : MilStd1553BMessage) : Prop where
  rtAddress : m.rtAddress = field binary 0 5
  subAddress : m.subAddress = field binary 6 11
  dataWordCount : m.dataWordCount = field binary 11 16
  direction : m.direction = if field binary 5 6 = 1 then rtToBc else bcToRt
  transferType : m.transferType = if block then blockTransfer else standardTransfer
  data : m.data.toList = binary.toList.drop (if block then 32 else 16)

theorem slice_toList (s : String) (i j : ℕ) :
    (slice s i j).toList = (s.toList.drop i).take (j - i) := String.toList_ofList

theorem slice_length {s : String} {i j : ℕ} (h : j ≤ s.length) : (slice s i j).length = j - i := by
  rw [← String.length_toList, slice_toList, List.length_take, List.length_drop,
    String.length_toList]
  omega

theorem isBinary_slice {s : String} (h : isBinary s = true) (i j : ℕ) :
    isBinary (slice s i j) = true := by
  rw [slice, isBinary_ofList]
  intro c hc
  exact List.all_eq_true.mp h c (List.mem_of_mem_drop (List.mem_of_mem_take hc))

theorem intBase2_slice (py : Runtime) {s : String} (h : isBinary s = true) {i j : ℕ} (hij : i < j)
    (hj : j ≤ s.length) : py.intBase2 (slice s i j) = .ok (field s i j) := by
  have hne : slice s i j ≠ "" := by
    intro hempty
    have hlen := slice_length (i := i) hj
    rw [hempty] at hlen
    simp at hlen
    omega
  rw [py.intBase2_of_isBinary (isBinary_slice h i j) hne]
  rfl

theorem field_lt (s : String) (i j : ℕ) : field s i j < 2 ^ (j - i) := by
  have hlen : (slice s i j).toList.length ≤ j - i := by
    rw [slice_toList, List.length_take]
    omega
  exact lt_of_lt_of_le (ofBits_lt _) (Nat.pow_le_pow_right (by omega) hlen)

theorem address?_natCast {n : ℕ} (h : n < 32) : address? (.int n) = some (n : ℤ) := by
  simp [address?, Value.int?, Option.filter]
  omega

/-- The constructor on addresses in range and a text of at most 32 words. -/
theorem init_text {rt sa : ℕ} {s : String} (hrt : rt < 32) (hsa : sa < 32) (hs : s.length ≤ 512)
    (messageType originalMessageType commandType commandName : Value) (count : ℤ)
    (metadata : Message) (direction transferType : ℤ) :
    ∃ m, MilStd1553BMessage.init (.int rt) (.int sa) (.str s) messageType originalMessageType
        commandType commandName (some count) metadata direction transferType = .ok m ∧
      m.rtAddress = rt ∧ m.subAddress = sa ∧ m.dataWordCount = count ∧ m.direction = direction ∧
      m.transferType = transferType ∧ m.data = s := by
  have hbits : dataBits (.str s) = .ok s := by
    rw [dataBits, if_neg (by simp only [maxDataWords, dataWordSize]; omega)]
  unfold MilStd1553BMessage.init
  rw [address?_natCast hrt, address?_natCast hsa, hbits]
  exact ⟨_, rfl, rfl, rfl, rfl, rfl, rfl, rfl⟩

theorem hasStatusWord_eq (binary : String) (count : ℕ) :
    hasStatusWord binary count =
      .ok (decide (32 + 16 * count ≤ binary.length) && binary.toList[24]? == some '1') := by
  simp only [hasStatusWord, commandWordSize, dataWordSize, statusWordSize, blockStatusFlagBit]
  by_cases hlen : 32 + 16 * count ≤ binary.length
  · have hget : (slice binary 16 32).toList[8]? = binary.toList[24]? := by
      rw [slice_toList, List.getElem?_take_of_lt (by omega), List.getElem?_drop]
    obtain ⟨c, hc⟩ : ∃ c, binary.toList[24]? = some c :=
      ⟨_, List.getElem?_eq_getElem (by rw [String.length_toList]; omega)⟩
    rw [if_pos (by omega), hget, hc]
    simp [hlen]
  · rw [if_neg (by omega)]
    simp [hlen]

section FromBinary

variable (py : Runtime) {binary : String} (messageType : Value) (metadata : Message)

/-- Whether `from_binary` takes the word after the command word for a block status word. -/
def block? (binary : String) : Bool :=
  decide (32 + 16 * field binary 11 16 ≤ binary.length) && binary.toList[24]? == some '1'

/-- `from_binary` on a binary string of the length that its command word announces. -/
theorem fromBinary_accepts (hbits : isBinary binary = true)
    (hlen : binary.length = (if block? binary then 32 else 16) + 16 * field binary 11 16) :
    ∃ m, MilStd1553BMessage.fromBinary py binary messageType metadata = .ok m ∧
      Reads binary (block? binary) m := by
  have hmin : 16 ≤ binary.length := by split at hlen <;> omega
  have hcount := field_lt binary 11 16
  have hdata : (slice binary (if block? binary then 32 else 16) binary.length).length ≤ 512 := by
    rw [slice_length le_rfl]
    omega
  obtain ⟨m, hinit, hm⟩ := init_text (field_lt binary 0 5) (field_lt binary 6 11) hdata messageType
    .none .none .none (field binary 11 16)
    (Dict.set (Dict.set (Dict.set metadata "direction"
      (.int (if (field binary 5 6 : ℤ) = 1 then rtToBc else bcToRt))) "transfer_type"
      (.int (if block? binary then blockTransfer else standardTransfer))) "data_word_count"
      (.int (field binary 11 16)))
    (if (field binary 5 6 : ℤ) = 1 then rtToBc else bcToRt)
    (if block? binary then blockTransfer else standardTransfer)
  refine ⟨m, ?_, hm.1, hm.2.1, hm.2.2.1, ?_, hm.2.2.2.2.1, ?_⟩
  · rw [MilStd1553BMessage.fromBinary, if_neg (show ¬ binary.length < 16 by omega),
      intBase2_slice py hbits (show 0 < 5 by omega) (by omega),
      intBase2_slice py hbits (show 5 < 6 by omega) (by omega),
      intBase2_slice py hbits (show 6 < 11 by omega) (by omega),
      intBase2_slice py hbits (show 11 < 16 by omega) (by omega)]
    show (hasStatusWord binary (field binary 11 16) >>= _) = _
    rw [hasStatusWord_eq]
    show (if (binary.length : ℤ) ≠
        ((if block? binary then 32 else 16 : ℕ) : ℤ) + (field binary 11 16 : ℤ) * (16 : ℕ) then _
      else _) = _
    rw [if_neg (by omega)]
    exact hinit
  · rw [hm.2.2.2.1]
    exact if_congr Nat.cast_eq_one rfl rfl
  · rw [hm.2.2.2.2.2, slice_toList, List.take_of_length_le]
    rw [List.length_drop, String.length_toList]

/-- A binary string of any other length is refused. -/
theorem fromBinary_refuses (hbits : isBinary binary = true)
    (hlen : binary.length ≠ (if block? binary then 32 else 16) + 16 * field binary 11 16) :
    MilStd1553BMessage.fromBinary py binary messageType metadata = .error .valueError := by
  by_cases hmin : binary.length < 16
  · rw [MilStd1553BMessage.fromBinary, if_pos hmin]
  rw [MilStd1553BMessage.fromBinary, if_neg hmin,
    intBase2_slice py hbits (show 0 < 5 by omega) (by omega),
    intBase2_slice py hbits (show 5 < 6 by omega) (by omega),
    intBase2_slice py hbits (show 6 < 11 by omega) (by omega),
    intBase2_slice py hbits (show 11 < 16 by omega) (by omega)]
  show (hasStatusWord binary (field binary 11 16) >>= _) = _
  rw [hasStatusWord_eq]
  show (if (binary.length : ℤ) ≠
      ((if block? binary then 32 else 16 : ℕ) : ℤ) + (field binary 11 16 : ℤ) * (16 : ℕ) then _
    else _) = _
  rw [if_pos (by omega)]

end FromBinary

end Fmofp.Bus
