import Fmofp.Python.Text

/-! The 20-bit words of the bus: three sync bits, sixteen data bits and an odd parity bit. -/

namespace Fmofp.Bus

open Python

def commandSync : List Char := ['1', '0', '0']
def dataSync : List Char := ['0', '0', '1']

/-- `calculate_parity`: the bit that makes the number of ones odd. -/
def calculateParity (word : List Char) : Char := if word.count '1' % 2 = 0 then '1' else '0'

def withParity (word : List Char) : List Char := word ++ [calculateParity word]

/-- The data word that carries `n`. -/
def dataFrame (n : ℕ) : String := String.ofList (withParity (dataSync ++ bits 16 n))

/-- The word for an integer, or `None` where sixteen bits do not hold it. -/
def wordOfInt (n : ℤ) : Value := if 0 ≤ n ∧ n ≤ 65535 then .str (dataFrame n.toNat) else .none

def wordOfBits (s : String) : Value :=
  if s.length = 16 then .str (String.ofList (withParity (dataSync ++ s.toList))) else .none

/-- `BC_construct.construct_data_word`: text of binary digits is taken as it is, other text as a
decimal numeral. -/
def BusController.constructDataWord (py : Runtime) (data : Value) : Value :=
  match data.int?, data with
  | some n, _ => wordOfInt n
  | none, .str s =>
    if isBinary s then wordOfBits s
    else match py.intBase10 s with
      | .ok n => wordOfInt n
      | .error _ => .none
  | none, _ => .none

/-- `RT_construct.construct_data_word`, where `RTWordsEncoder.encode_data_word` raises for text that
is not sixteen binary digits and for what is not an integer in range. -/
def RemoteTerminal.constructDataWord (data : Value) : Value :=
  match data.int?, data with
  | some n, _ => wordOfInt n
  | none, .str s => if isBinary s then wordOfBits s else .none
  | none, _ => .none

/-- A frame that is a 20-bit word. -/
def isWord : Value → Bool
  | .str s => decide (s.length = 20) && isBinary s
  | _ => false

/-- A frame as `_validate_frames` keeps it: text of twenty characters with a known sync pattern,
where two missing characters are filled up and two extra ones are cut off. -/
def validateFrame : Value → Option Value
  | .str s =>
    let fixed :=
      if s.length = 20 then some s
      else if 18 ≤ s.length ∧ s.length ≤ 22 then
        if s.length < 20 then some (ljust s 20 '0') else some (slice s 0 20)
      else none
    fixed.bind fun f =>
      if startsWith f "100" || startsWith f "001" then some (.str f) else none
  | _ => none

/-- `RT_sender._validate_frames`. -/
def validateFrames (frames : List Value) : List Value := frames.filterMap validateFrame

theorem dataFrame_toList (n : ℕ) :
    (dataFrame n).toList = dataSync ++ bits 16 n ++ [calculateParity (dataSync ++ bits 16 n)] := by
  rw [dataFrame, String.toList_ofList, withParity]

theorem dataFrame_length (n : ℕ) : (dataFrame n).length = 20 := by
  rw [← String.length_toList, dataFrame_toList]
  simp [dataSync]

theorem dataFrame_startsWith (n : ℕ) : startsWith (dataFrame n) "001" = true := by
  rw [startsWith, dataFrame_toList, List.append_assoc]
  exact List.isPrefixOf_iff_prefix.mpr (List.prefix_append _ _)

/-- The data bits of a data word. -/
theorem dataFrame_slice (n : ℕ) : (slice (dataFrame n) 3 19).toList = bits 16 n := by
  have hlen := bits_length 16 n
  rw [slice, String.toList_ofList, dataFrame_toList]
  generalize calculateParity (dataSync ++ bits 16 n) = parity
  generalize bits 16 n = data at hlen
  rw [List.append_assoc, List.drop_left' (by decide), List.take_left' hlen]

theorem isBit_calculateParity (word : List Char) : isBit (calculateParity word) = true := by
  unfold calculateParity
  split_ifs <;> decide

theorem dataFrame_isBinary (n : ℕ) : isBinary (dataFrame n) = true := by
  rw [dataFrame, isBinary_ofList]
  intro c hc
  simp only [withParity, List.mem_append, List.mem_singleton] at hc
  rcases hc with hc | hc
  · have hsync : ∀ c ∈ dataSync, isBit c = true := by simp [dataSync, isBit]
    exact hc.elim (hsync c) isBit_of_mem_bits
  · rw [hc]
    exact isBit_calculateParity _

theorem wordOfInt_natCast {n : ℕ} (h : n ≤ 65535) : wordOfInt n = .str (dataFrame n) := by
  rw [wordOfInt, if_pos ⟨by omega, by omega⟩, Int.toNat_natCast]

theorem BusController.constructDataWord_int (py : Runtime) (n : ℤ) :
    BusController.constructDataWord py (.int n) = wordOfInt n := rfl

theorem RemoteTerminal.constructDataWord_int (n : ℤ) :
    RemoteTerminal.constructDataWord (.int n) = wordOfInt n := rfl

theorem isWord_iff {v : Value} :
    isWord v = true ↔ ∃ s, v = .str s ∧ s.length = 20 ∧ isBinary s = true := by
  cases v <;> simp [isWord]

theorem isWord_dataFrame (n : ℕ) : isWord (.str (dataFrame n)) = true := by
  simp [isWord, dataFrame_length, dataFrame_isBinary]

/-- A word that starts with one of the two sync patterns. -/
def isSyncWord : Value → Bool
  | .str s => decide (s.length = 20) && isBinary s && (startsWith s "100" || startsWith s "001")
  | _ => false

theorem isSyncWord_dataFrame (n : ℕ) : isSyncWord (.str (dataFrame n)) = true := by
  simp [isSyncWord, dataFrame_length, dataFrame_isBinary, dataFrame_startsWith]

theorem isText_of_isSyncWord {v : Value} (h : isSyncWord v = true) : v.isText = true := by
  cases v with
  | str s => rfl
  | _ => simp [isSyncWord] at h

theorem validateFrame_of_isSyncWord {v : Value} (h : isSyncWord v = true) :
    validateFrame v = some v := by
  cases v with
  | str s =>
    simp only [isSyncWord, Bool.and_eq_true, decide_eq_true_eq] at h
    simp only [validateFrame, h.1.1, if_true, Option.bind_some, h.2]
  | _ => simp [isSyncWord] at h

theorem validateFrame_dataFrame (n : ℕ) :
    validateFrame (.str (dataFrame n)) = some (.str (dataFrame n)) := by
  simp [validateFrame, dataFrame_length, dataFrame_startsWith]

/-- Frames that are all kept unchanged are the validated frames. -/
theorem validateFrames_eq_self {frames : List Value}
    (h : ∀ f ∈ frames, validateFrame f = some f) : validateFrames frames = frames := by
  unfold validateFrames
  induction frames with
  | nil => rfl
  | cons f fs ih =>
    rw [List.filterMap_cons_some (h f (by simp)), ih fun g hg => h g (by simp [hg])]

end Fmofp.Bus

/-! The encoders and decoders of single words at the two ends of the bus.  A word is a sync pattern, fields
of fixed widths and a parity bit. -/

namespace Fmofp.Bus

open Python

/-- The fields of a word, in order, with the bits that each has. -/
abbrev Layout := List (String × ℕ)

def commandLayout : Layout :=
  [("rt_address", 5), ("tr_bit", 1), ("subaddress_mode", 5), ("word_count_mode", 5)]

def statusLayout : Layout :=
  [("rt_address", 5), ("message_error", 1), ("instrumentation", 1), ("service_request", 1), ("reserved", 3),
    ("broadcast_cmd", 1), ("busy", 1), ("subsystem_flag", 1), ("dynamic_bus_control", 1), ("terminal_flag", 1)]

def dataLayout : Layout := [("data", 16)]

/-! ### Encoders -/

/-- The text of a field: a single bit is written as the number it is. -/
def fieldText (width : ℕ) (n : ℤ) : String := if width = 1 then toString n else formatBin width n

def encodeFields : Layout → List ℤ → String
  | (_, width) :: layout, n :: ns => fieldText width n ++ encodeFields layout ns
  | _, _ => ""

/-- The word with its parity bit, if it has the length of a word then. -/
def completed (word : String) : Except Exception String :=
  let complete := String.ofList (withParity word.toList)
  if complete.length = 20 then .ok complete else .error .valueError

/-- `BCWordsEncoder.encode_command_word`. -/
def BCWordsEncoder.encodeCommandWord (rtAddress trBit subaddressMode wordCountMode : ℤ) :
    Except Exception String :=
  if ¬(0 ≤ rtAddress ∧ rtAddress ≤ 31) then .error .valueError
  else if ¬(trBit = 0 ∨ trBit = 1) then .error .valueError
  else if ¬(0 ≤ subaddressMode ∧ subaddressMode ≤ 31) then .error .valueError
  else if ¬(0 ≤ wordCountMode ∧ wordCountMode ≤ 31) then .error .valueError
  else completed ("100" ++ encodeFields commandLayout [rtAddress, trBit, subaddressMode, wordCountMode])

/-- The data of a word, or `ValueError`. -/
def encodeData (data : ℤ) : Except Exception String :=
  if ¬(0 ≤ data ∧ data ≤ 65535) then .error .valueError
  else completed ("001" ++ encodeFields dataLayout [data])

/-- `BCWordsEncoder.encode_data_word`. -/
def BCWordsEncoder.encodeDataWord (data : ℤ) : Except Exception String := encodeData data

/-- `RTWordsEncoder.encode_data_word`, of a number or of sixteen binary digits. -/
def RTWordsEncoder.encodeDataWord (py : Runtime) (data : Value) : Except Exception String :=
  match data, data.int? with
  | .str s, _ =>
    if s.length ≠ 16 ∨ isBinary s = false then .error .valueError
    else py.intBase2 s >>= encodeData
  | _, some n => encodeData n
  | _, none => .error .typeError

/-- `RTWordsEncoder.encode_status_word`: the reserved bits are always zero, and a flag is written as it is
given. -/
def RTWordsEncoder.encodeStatusWord (py : Runtime) (rtAddress : Value) (messageError instrumentation
    serviceRequest broadcastCmd busy subsystemFlag dynamicBusControl terminalFlag : ℤ) :
    Except Exception String := do
  let rtAddr ← match rtAddress, rtAddress.int? with
    | .str s, _ => if s.length ≠ 5 ∨ py.isdigit s = false then .error .valueError else py.intBase2 s
    | _, some n => .ok n
    | _, none => .error .typeError
  if ¬(0 ≤ rtAddr ∧ rtAddr ≤ 31) then .error .valueError
  else completed ("100" ++ encodeFields statusLayout [rtAddr, messageError, instrumentation, serviceRequest, 0,
    broadcastCmd, busy, subsystemFlag, dynamicBusControl, terminalFlag])

/-! ### Decoders -/

/-- The dictionary that a decoder returns: `sync` comes first and `parity` last. -/
structure Record where
  sync : List Char
  fields : Dict String ℤ
  parity : ℤ

/-- A single character is read by `int(c)`, more of them by `int(s, 2)`. -/
def readField (py : Runtime) (width : ℕ) (text : String) : Except Exception ℤ :=
  if width = 1 then py.intBase10 text else py.intBase2 text

def decodeFields (py : Runtime) : Layout → List Char → Except Exception (List ℤ)
  | [], _ => .ok []
  | (_, width) :: layout, cs => do
    let n ← readField py width (String.ofList (cs.take width))
    let ns ← decodeFields py layout (cs.drop width)
    return n :: ns

/-- `_validate_parity`, which is the same at both ends. -/
def validateParity (py : Runtime) (word : List Char) : Except Exception Bool := do
  let parity ← py.intBase10 (String.ofList (word.drop 19))
  return decide (((word.take 19).count '1' + parity) % 2 = 1)

/-- What the decoders share: the checks of length, sync pattern and parity, then the fields. -/
def decodeWord (py : Runtime) (sync : List Char) (layout : Layout) (word : String) : Except Exception Record :=
  let cs := word.toList
  if cs.length ≠ 20 then .error .valueError
  else if cs.take 3 ≠ sync then .error .valueError
  else validateParity py cs >>= fun valid =>
    if valid = false then .error .valueError
    else do
      let ns ← decodeFields py layout ((cs.take 19).drop 3)
      let parity ← py.intBase10 (String.ofList (cs.drop 19))
      return ⟨sync, (layout.map Prod.fst).zip ns, parity⟩

/-- A character that a printed list puts around its items. -/
def isListMark (c : Char) : Bool := c == '[' || c == ']' || c == '\''

/-- `word.strip("[]'")`. -/
def stripListMarks (word : String) : String :=
  String.ofList ((word.toList.dropWhile isListMark).reverse.dropWhile isListMark).reverse

/-- `RTWordsDecoder`, on text. -/
def RTWordsDecoder.decodeCommandWord (py : Runtime) (word : String) : Except Exception Record :=
  decodeWord py commandSync commandLayout (stripListMarks word)

def RTWordsDecoder.decodeStatusWord (py : Runtime) (word : String) : Except Exception Record :=
  decodeWord py commandSync statusLayout (stripListMarks word)

def RTWordsDecoder.decodeDataWord (py : Runtime) (word : String) : Except Exception Record :=
  decodeWord py dataSync dataLayout (stripListMarks word)

/-- `BC_decoders._parse_raw_data`, on text: a JSON list, or the one word that the text is. -/
def BCDecoders.parseRawData (py : Runtime) (rawData : String) : Except Exception (List Value) :=
  if startsWith rawData "[" && endsWith rawData "]" then
    match py.jsonLoads rawData with
    | some (.list items) => .ok items
    | _ => .error .valueError
  else .ok [.str rawData]

/-- What is taken of a parsed item for a word; nothing but text goes through the checks that follow. -/
def wordText : Option Value → Except Exception String
  | some (.str s) => .ok s
  | some _ => .error .typeError
  | none => .error .indexError

/-- The text of the first word. -/
def BCDecoders.firstWord (py : Runtime) (word : String) : Except Exception String := do
  let words ← parseRawData py word
  wordText words[0]?

/-- The text of the second word if there is one, else of the first. -/
def BCDecoders.dataWord (py : Runtime) (word : String) : Except Exception String := do
  let words ← parseRawData py word
  wordText (if 1 < words.length then words[1]? else words[0]?)

/-- `BC_decoders`, on text. -/
def BCDecoders.decodeCommandWord (py : Runtime) (word : String) : Except Exception Record :=
  firstWord py word >>= decodeWord py commandSync commandLayout

def BCDecoders.decodeStatusWord (py : Runtime) (word : String) : Except Exception Record :=
  firstWord py word >>= decodeWord py commandSync statusLayout

def BCDecoders.decodeDataWord (py : Runtime) (word : String) : Except Exception Record :=
  dataWord py word >>= decodeWord py dataSync dataLayout

end Fmofp.Bus
