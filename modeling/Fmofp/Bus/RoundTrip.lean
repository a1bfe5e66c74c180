import Fmofp.Bus.Message

/-! Which messages come back from their binary form, and which binary strings come back from the
message read off them.  `from_binary` looks for the block flag at bit 8 of the status word, where
`to_binary` writes it at bit 10, and `to_binary` writes a count of 32 with six bits. -/

namespace Fmofp.Bus

open Python

namespace MilStd1553BMessage

/-- The message read back from the binary form agrees in addresses, direction, transfer type, data
and word count. -/
def RoundTrips (py : Runtime) (m : MilStd1553BMessage) (messageType : Value) (metadata : Message) :
    Prop :=
  ∃ r, fromBinary py m.toBinary messageType metadata = .ok r ∧ r.rtAddress = m.rtAddress ∧
    r.subAddress = m.subAddress ∧ r.direction = m.direction ∧ r.transferType = m.transferType ∧
    r.data = m.data ∧ r.dataWordCount = m.dataWordCount

end MilStd1553BMessage

/-- Whole data words: at most 32 integers of 16 bits, or the bits of at most 32 words. -/
def wholeWords : Value → Bool
  | .list items =>
    decide (items.length ≤ 32) && items.all fun v => match v with
      | .int n => decide (0 ≤ n ∧ n ≤ 65535)
      | _ => false
  | .str s => isBinary s && decide (s.length % 16 = 0 ∧ s.length ≤ 512)
  | _ => false

/-- The number of data words. -/
def wordCount : Value → ℕ
  | .list items => items.length
  | .str s => s.length / 16
  | _ => 0

theorem dataWord_int {n : ℤ} (h : 0 ≤ n ∧ n ≤ 65535) :
    dataWord (.int n) = .ok (String.ofList (bits 16 n.toNat)) := by
  obtain ⟨k, rfl⟩ := Int.eq_ofNat_of_zero_le h.1
  show Except.ok (formatBin 16 k) = _
  rw [formatBin_of_lt (by omega) (by omega), Int.toNat_natCast]

theorem isBinary_append (s t : String) : isBinary (s ++ t) = (isBinary s && isBinary t) := by
  simp only [isBinary, String.toList_append, List.all_append]

/-- The bits of a list of words. -/
theorem mapM_dataWord {items : List Value}
    (h : ∀ v ∈ items, ∃ n : ℤ, v = .int n ∧ 0 ≤ n ∧ n ≤ 65535) :
    ∃ words, items.mapM dataWord = .ok words ∧ isBinary (String.join words) = true ∧
      (String.join words).length = 16 * items.length := by
  induction items with
  | nil => exact ⟨[], rfl, by simp [isBinary], by simp⟩
  | cons v rest ih =>
    obtain ⟨words, hwords, hbits, hlen⟩ := ih fun v hv => h v (List.mem_cons_of_mem _ hv)
    obtain ⟨n, rfl, hn⟩ := h v List.mem_cons_self
    refine ⟨String.ofList (bits 16 n.toNat) :: words, ?_, ?_, ?_⟩
    · rw [List.mapM_cons, dataWord_int hn, hwords]
      rfl
    · rw [String.join_cons, isBinary_append, hbits, isBinary_ofList.mpr fun c => isBit_of_mem_bits]
      rfl
    · rw [String.join_cons, String.length_append, hlen, String.length_ofList, bits_length,
        List.length_cons]
      omega

/-- Whole words are taken as they are. -/
theorem dataBits_wholeWords {data : Value} (h : wholeWords data = true) :
    ∃ s, dataBits data = .ok s ∧ isBinary s = true ∧ s.length = 16 * wordCount data ∧
      wordCount data ≤ 32 := by
  cases data with
  | str s =>
    simp only [wholeWords, Bool.and_eq_true, decide_eq_true_eq] at h
    refine ⟨s, ?_, h.1, ?_, ?_⟩
    · rw [dataBits, if_neg (by simp only [maxDataWords, dataWordSize]; omega)]
    · show s.length = 16 * (s.length / 16)
      omega
    · show s.length / 16 ≤ 32
      omega
  | list items =>
    simp only [wholeWords, Bool.and_eq_true, decide_eq_true_eq, List.all_eq_true] at h
    have hitems : ∀ v ∈ items, ∃ n : ℤ, v = .int n ∧ 0 ≤ n ∧ n ≤ 65535 := by
      intro v hv
      have := h.2 v hv
      cases v with
      | int n => exact ⟨n, rfl, by simpa using this⟩
      | _ => simp at this
    obtain ⟨words, hwords, hbits, hlen⟩ := mapM_dataWord hitems
    refine ⟨String.join words, ?_, hbits, hlen, h.1⟩
    rw [dataBits, if_neg (by simp only [maxDataWords]; omega), hwords]
    rfl
  | _ => simp [wholeWords] at h

theorem address?_eq_some {v : Value} {n : ℤ} (h : address? v = some n) :
    ∃ k : ℕ, k < 32 ∧ n = k := by
  simp only [address?, Option.filter_eq_some_iff, decide_eq_true_eq] at h
  exact ⟨n.toNat, by omega, by omega⟩

/-- What the constructor stores when it is given no word count. -/
theorem init_ok {rtAddress subAddress data messageType originalMessageType commandType commandName :
      Value} {metadata : Message} {direction transferType : ℤ} {m : MilStd1553BMessage}
    (h : MilStd1553BMessage.init rtAddress subAddress data messageType originalMessageType
      commandType commandName none metadata direction transferType = .ok m) :
    ∃ rt sa : ℕ, rt < 32 ∧ sa < 32 ∧ m.rtAddress = rt ∧ m.subAddress = sa ∧
      dataBits data = .ok m.data ∧ m.dataWordCount = (m.data.length / 16 : ℕ) ∧
      m.direction = direction ∧ m.transferType = transferType := by
  unfold MilStd1553BMessage.init at h
  cases hrt : address? rtAddress with
  | none => simp [hrt] at h
  | some rt =>
    cases hsa : address? subAddress with
    | none => simp [hrt, hsa] at h
    | some sa =>
      obtain ⟨rt, hrt32, rfl⟩ := address?_eq_some hrt
      obtain ⟨sa, hsa32, rfl⟩ := address?_eq_some hsa
      cases hbits : dataBits data with
      | error e => simp [hrt, hsa, hbits, bind, Except.bind] at h
      | ok bits =>
        simp only [hrt, hsa, hbits, bind, Except.bind, pure, Except.pure, Except.ok.injEq] at h
        subst h
        exact ⟨rt, sa, hrt32, hsa32, rfl, rfl, rfl, rfl, rfl, rfl⟩

/-- A binary string laid out as a command word and what follows it. -/
theorem field_of_layout {binary : String} {rt sa n : ℕ} {t : Char} {rest : List Char}
    (hrt : rt < 32) (hsa : sa < 32) (hn : n < 32)
    (h : binary.toList = bits 5 rt ++ (t :: (bits 5 sa ++ (bits 5 n ++ rest)))) :
    field binary 0 5 = rt ∧ field binary 5 6 = (if t = '1' then 1 else 0) ∧
      field binary 6 11 = sa ∧ field binary 11 16 = n ∧ binary.toList.drop 16 = rest := by
  have hdrop5 : binary.toList.drop 5 = t :: (bits 5 sa ++ (bits 5 n ++ rest)) := by
    rw [h, List.drop_left' (bits_length 5 rt)]
  have hdrop6 : binary.toList.drop 6 = bits 5 sa ++ (bits 5 n ++ rest) := by
    rw [show 6 = 5 + 1 from rfl, ← List.drop_drop, hdrop5]
    rfl
  have hdrop11 : binary.toList.drop 11 = bits 5 n ++ rest := by
    rw [show 11 = 6 + 5 from rfl, ← List.drop_drop, hdrop6, List.drop_left' (bits_length 5 sa)]
  refine ⟨?_, ?_, ?_, ?_, ?_⟩
  · rw [field, slice_toList, List.drop_zero, h, List.take_left' (bits_length 5 rt),
      ofBits_bits_of_lt hrt]
  · rw [field, slice_toList, hdrop5]
    show ofBits [t] = _
    simp [ofBits]
  · rw [field, slice_toList, hdrop6, List.take_left' (bits_length 5 sa), ofBits_bits_of_lt hsa]
  · rw [field, slice_toList, hdrop11, List.take_left' (bits_length 5 n), ofBits_bits_of_lt hn]
  · rw [show 16 = 11 + 5 from rfl, ← List.drop_drop, hdrop11, List.drop_left' (bits_length 5 n)]

/-- The command word of a message with up to 31 data words. -/
theorem commandWord_toList {m : MilStd1553BMessage} {rt sa n : ℕ} (hrt : m.rtAddress = rt)
    (hsa : m.subAddress = sa) (hcount : m.dataWordCount = n) (hrt32 : rt < 32) (hsa32 : sa < 32)
    (hn : n < 32) (rest : List Char) :
    m.commandWord.toList ++ rest = bits 5 rt ++
      ((if m.direction = rtToBc then '1' else '0') :: (bits 5 sa ++ (bits 5 n ++ rest))) := by
  rw [MilStd1553BMessage.commandWord, hrt, hsa, hcount, formatBin_of_lt (by omega) hrt32,
    formatBin_of_lt (by omega) hsa32, formatBin_of_lt (by omega) hn]
  split <;> simp [String.toList_append]

theorem commandWord_isBinary {m : MilStd1553BMessage} {rt sa n : ℕ} (hrt : m.rtAddress = rt)
    (hsa : m.subAddress = sa) (hcount : m.dataWordCount = n) : isBinary m.commandWord = true := by
  have hbits : ∀ k : ℕ, isBinary (formatBin 5 (k : ℤ)) = true := fun k => by
    show isBinary (String.ofList (bits (max 5 (k.log2 + 1)) k)) = true
    exact isBinary_ofList.mpr fun c => isBit_of_mem_bits
  rw [MilStd1553BMessage.commandWord, hrt, hsa, hcount]
  split <;> simp [isBinary_append, hbits] <;> decide

section RoundTrip

variable (py : Runtime) {m : MilStd1553BMessage} {rt sa n : ℕ} (hrt : m.rtAddress = rt)
  (hsa : m.subAddress = sa) (hcount : m.dataWordCount = n) (hrt32 : rt < 32) (hsa32 : sa < 32)
  (hbits : isBinary m.data = true) (hlen : m.data.length = 16 * n) (messageType : Value)
  (metadata : Message)

include hrt hsa hcount hrt32 hsa32 hbits hlen

/-- A standard transfer of up to 31 words comes back. -/
theorem standard_roundTrips (hn : n < 32) (hstandard : m.transferType = standardTransfer)
    (hdirection : m.direction = bcToRt ∨ m.direction = rtToBc) :
    m.RoundTrips py messageType metadata := by
  have hbinary : m.toBinary = m.commandWord ++ m.data := by
    rw [MilStd1553BMessage.toBinary, if_pos hstandard]
  have hlayout : m.toBinary.toList = bits 5 rt ++ ((if m.direction = rtToBc then '1' else '0') ::
      (bits 5 sa ++ (bits 5 n ++ m.data.toList))) := by
    rw [hbinary, String.toList_append]
    exact commandWord_toList hrt hsa hcount hrt32 hsa32 hn _
  obtain ⟨hf1, hf2, hf3, hf4, hrest⟩ := field_of_layout hrt32 hsa32 hn hlayout
  have hlength : m.toBinary.length = 16 + 16 * n := by
    rw [← String.length_toList] at hlen ⊢
    rw [hlayout]
    simp only [List.length_append, List.length_cons, bits_length]
    omega
  have hblock : block? m.toBinary = false := by
    rw [block?, hf4, decide_eq_false (by omega), Bool.false_and]
  have hall : isBinary m.toBinary = true := by
    rw [hbinary, isBinary_append, commandWord_isBinary hrt hsa hcount, hbits]
    rfl
  obtain ⟨r, hr, hreads⟩ := fromBinary_accepts py messageType metadata hall
    (by rw [hblock, hf4]; exact hlength)
  rw [hblock] at hreads
  refine ⟨r, hr, ?_, ?_, ?_, ?_, ?_, ?_⟩
  · rw [hreads.rtAddress, hf1, hrt]
  · rw [hreads.subAddress, hf3, hsa]
  · rw [hreads.direction, hf2]
    rcases hdirection with h | h <;> simp [h, bcToRt, rtToBc]
  · rw [hreads.transferType, hstandard]
    rfl
  · have hdata : r.data.toList = m.data.toList := by rw [hreads.data]; exact hrest
    exact String.toList_injective hdata
  · rw [hreads.dataWordCount, hf4, hcount]

/-- A count of 32 takes six bits, so the binary form is one bit longer than whole words. -/
theorem full_message_refused (hn : n = 32) : ¬ m.RoundTrips py messageType metadata := by
  subst hn
  have hcommand : m.commandWord.length = 17 := by
    rw [MilStd1553BMessage.commandWord, hrt, hsa, hcount, formatBin_of_lt (by omega) hrt32,
      formatBin_of_lt (by omega) hsa32]
    have hone (b : Prop) [Decidable b] : (if b then "1" else "0").length = 1 := by
      split <;> rfl
    simp only [String.length_append, String.length_ofList, bits_length, hone]
    decide +kernel
  have hstatus : isBinary m.statusWord = true ∧ m.statusWord.length = 16 := by
    rw [MilStd1553BMessage.statusWord, hrt, formatBin_of_lt (by omega) hrt32]
    constructor
    · rw [isBinary_append, isBinary_append, isBinary_append,
        isBinary_ofList.mpr fun c => isBit_of_mem_bits]
      decide
    · simp only [String.length_append, String.length_ofList, bits_length]
      rfl
  have hall : isBinary m.toBinary = true := by
    have hword := commandWord_isBinary hrt hsa hcount
    rw [MilStd1553BMessage.toBinary]
    split <;> simp [isBinary_append, hword, hbits, hstatus.1]
  have hlength : m.toBinary.length % 16 = 1 := by
    rw [MilStd1553BMessage.toBinary]
    split <;> simp only [String.length_append, hcommand, hlen, hstatus.2]
  rintro ⟨r, hr, -⟩
  rw [fromBinary_refuses py messageType metadata hall (by split <;> omega)] at hr
  cases hr

/-- The status word of a block transfer has no bit 8, so `from_binary` finds a word too many. -/
theorem block_transfer_refused (hn : n < 32) (hblock : m.transferType ≠ standardTransfer) :
    ¬ m.RoundTrips py messageType metadata := by
  have hbinary : m.toBinary = m.commandWord ++ (m.statusWord ++ m.data) := by
    rw [MilStd1553BMessage.toBinary, if_neg hblock, String.append_assoc]
  have hstatus : m.statusWord.toList = bits 5 rt ++ "00000100000".toList := by
    rw [MilStd1553BMessage.statusWord, hrt, formatBin_of_lt (by omega) hrt32]
    simp [String.toList_append]
  have hlayout : m.toBinary.toList = bits 5 rt ++ ((if m.direction = rtToBc then '1' else '0') ::
      (bits 5 sa ++ (bits 5 n ++ (m.statusWord.toList ++ m.data.toList)))) := by
    rw [hbinary, String.toList_append, String.toList_append]
    exact commandWord_toList hrt hsa hcount hrt32 hsa32 hn _
  obtain ⟨-, -, -, hf4, hrest⟩ := field_of_layout hrt32 hsa32 hn hlayout
  have hlength : m.toBinary.length = 32 + 16 * n := by
    rw [← String.length_toList] at hlen ⊢
    rw [hlayout, hstatus]
    simp only [List.length_append, List.length_cons, bits_length]
    show 5 + (5 + (5 + (5 + 11 + m.data.toList.length)) + 1) = _
    omega
  have hflag : m.toBinary.toList[24]? = some '0' := by
    rw [show 24 = 16 + 8 from rfl, ← List.getElem?_drop, hrest, hstatus, List.append_assoc,
      List.getElem?_append_right (by simp), bits_length]
    rfl
  have hno : block? m.toBinary = false := by
    rw [block?, hflag]
    simp
  have hall : isBinary m.toBinary = true := by
    rw [hbinary, isBinary_append, isBinary_append, commandWord_isBinary hrt hsa hcount, hbits,
      ← String.ofList_toList (s := m.statusWord), hstatus]
    simp only [Bool.true_and, Bool.and_true]
    rw [isBinary_ofList]
    intro c hc
    rcases List.mem_append.mp hc with hc | hc
    · exact isBit_of_mem_bits hc
    · exact List.all_eq_true.mp (show "00000100000".toList.all isBit = true by decide) c hc
  rintro ⟨r, hr, -⟩
  rw [fromBinary_refuses py messageType metadata hall (by rw [hno, hf4, hlength]; simp)] at hr
  cases hr

end RoundTrip

/-- The first sixteen bits of a binary string, written from the numbers read off them. -/
theorem take_command (binary : String) (hbits : isBinary binary = true)
    (hlen : 16 ≤ binary.length) :
    bits 5 (field binary 0 5) ++ ((if field binary 5 6 = 1 then '1' else '0') ::
      (bits 5 (field binary 6 11) ++ bits 5 (field binary 11 16))) = binary.toList.take 16 := by
  have hwrite : ∀ i j, i ≤ j → j ≤ 16 →
      bits (j - i) (field binary i j) = (binary.toList.drop i).take (j - i) := by
    intro i j hij hj
    have hslice : (slice binary i j).toList.length = j - i := by
      rw [String.length_toList, slice_length (by omega)]
    have hall := List.all_eq_true.mp (isBinary_slice hbits i j)
    rw [field, ← slice_toList]
    conv_lhs => rw [← hslice]
    exact bits_ofBits hall
  have hflag : (if field binary 5 6 = 1 then '1' else '0') :: [] =
      (binary.toList.drop 5).take 1 := by
    have hone := hwrite 5 6 (by omega) (by omega)
    rw [← hone]
    have hlt := field_lt binary 5 6
    interval_cases h : field binary 5 6 <;> rfl
  have hsplit : binary.toList.take 16 = binary.toList.take 5 ++ ((binary.toList.drop 5).take 1 ++
      ((binary.toList.drop 6).take 5 ++ (binary.toList.drop 11).take 5)) := by
    rw [show 16 = 5 + (1 + (5 + 5)) from rfl, List.take_add, List.take_add, List.take_add,
      List.drop_drop, List.drop_drop]
  rw [hsplit, ← hflag, ← hwrite 6 11 (by omega) (by omega), ← hwrite 11 16 (by omega) (by omega)]
  have hfirst := hwrite 0 5 (by omega) (by omega)
  rw [List.drop_zero] at hfirst
  rw [← hfirst]
  rfl

/-- The command word of a message read off a binary string is the one it was read from. -/
theorem commandWord_of_reads {binary : String} {block : Bool} {r : MilStd1553BMessage}
    (hbits : isBinary binary = true) (hlen : 16 ≤ binary.length) (h : Reads binary block r) :
    r.commandWord.toList = binary.toList.take 16 := by
  rw [← take_command binary hbits hlen, ← List.append_nil r.commandWord.toList,
    commandWord_toList h.rtAddress h.subAddress h.dataWordCount (field_lt binary 0 5)
      (field_lt binary 6 11) (field_lt binary 11 16) [], List.append_nil]
  have hdirection : (r.direction = rtToBc) = (field binary 5 6 = 1) := by
    rw [h.direction]
    by_cases hone : field binary 5 6 = 1 <;> simp [hone, bcToRt, rtToBc]
  simp only [hdirection]

/-- A binary string that `from_binary` accepts comes back from the message exactly when no status
word follows its command word. -/
theorem toBinary_of_reads_iff {binary : String} {r : MilStd1553BMessage}
    (hbits : isBinary binary = true) (hlen : 16 ≤ binary.length)
    (h : Reads binary (block? binary) r) : r.toBinary = binary ↔ block? binary = false := by
  have hcommand := commandWord_of_reads hbits hlen h
  constructor
  · intro hsame
    by_contra hblock
    rw [Bool.not_eq_false] at hblock
    have htype : r.transferType ≠ standardTransfer := by
      rw [h.transferType, hblock]
      decide
    have hflag : binary.toList[24]? = some '1' := by
      rw [block?, Bool.and_eq_true] at hblock
      exact beq_iff_eq.mp hblock.2
    have hzero : r.toBinary.toList[24]? = some '0' := by
      have hstatus : r.statusWord.toList = bits 5 (field binary 0 5) ++ "00000100000".toList := by
        rw [MilStd1553BMessage.statusWord, h.rtAddress,
          formatBin_of_lt (by omega) (field_lt binary 0 5)]
        simp [String.toList_append]
      rw [MilStd1553BMessage.toBinary, if_neg htype, String.append_assoc, String.toList_append,
        hcommand, List.getElem?_append_right (by rw [List.length_take]; omega),
        List.length_take, String.length_toList, min_eq_left hlen, String.toList_append, hstatus,
        List.append_assoc, List.getElem?_append_right (by simp), bits_length]
      rfl
    rw [hsame, hflag] at hzero
    exact absurd hzero (by decide)
  · intro hblock
    have htype : r.transferType = standardTransfer := by
      rw [h.transferType, hblock]
      rfl
    apply String.toList_injective
    rw [MilStd1553BMessage.toBinary, if_pos htype, String.toList_append, hcommand, h.data, hblock]
    exact List.take_append_drop 16 _

/-- A message comes back from its binary form exactly when it is a standard transfer of at most 31
words, and a binary string from the message read off it exactly when it has no status word. -/
theorem binary_round_trip_iff (py : Runtime) :
    (∀ (rtAddress subAddress data messageType originalMessageType commandType commandName : Value)
        (metadata : Message) (direction transferType : ℤ) (m : MilStd1553BMessage)
        (messageType' : Value) (metadata' : Message),
      wholeWords data = true → direction = bcToRt ∨ direction = rtToBc →
      transferType = standardTransfer ∨ transferType = blockTransfer →
      MilStd1553BMessage.init rtAddress subAddress data messageType originalMessageType commandType
        commandName none metadata direction transferType = .ok m →
      (m.RoundTrips py messageType' metadata' ↔
        transferType = standardTransfer ∧ wordCount data ≤ 31)) ∧
    ∀ (binary : String) (messageType : Value) (metadata : Message) (r : MilStd1553BMessage),
      isBinary binary = true →
      MilStd1553BMessage.fromBinary py binary messageType metadata = .ok r →
      (r.toBinary = binary ↔ binary.length = 16 + 16 * field binary 11 16) := by
  constructor
  · intro _ _ data _ _ _ _ _ direction transferType m messageType' metadata' hdata hdirection _ hinit
    obtain ⟨rt, sa, hrt32, hsa32, hrt, hsa, hbits, hcount, hdir, htype⟩ := init_ok hinit
    obtain ⟨s, hs, hbinary, hlen, hmax⟩ := dataBits_wholeWords hdata
    obtain rfl : s = m.data := by
      rw [hs] at hbits
      exact Except.ok.inj hbits
    have hwords : m.dataWordCount = (wordCount data : ℕ) := by rw [hcount, hlen]; simp
    constructor
    · intro h
      have hle : wordCount data ≤ 31 := by
        by_contra hfull
        exact full_message_refused py hrt hsa hwords hrt32 hsa32 hbinary hlen _ _ (by omega) h
      refine ⟨?_, hle⟩
      by_contra hblock
      exact block_transfer_refused py hrt hsa hwords hrt32 hsa32 hbinary hlen _ _ (by omega)
        (by rw [htype]; exact hblock) h
    · rintro ⟨hstandard, hle⟩
      exact standard_roundTrips py hrt hsa hwords hrt32 hsa32 hbinary hlen _ _ (by omega)
        (htype.trans hstandard) (by rw [hdir]; exact hdirection)
  · intro binary messageType metadata r hbits hr
    have hlen : binary.length =
        (if block? binary then 32 else 16) + 16 * field binary 11 16 := by
      by_contra hlen
      rw [fromBinary_refuses py messageType metadata hbits hlen] at hr
      cases hr
    obtain ⟨m, hm, hreads⟩ := fromBinary_accepts py messageType metadata hbits hlen
    obtain rfl : m = r := by
      rw [hr] at hm
      exact (Except.ok.inj hm).symm
    have hmin : 16 ≤ binary.length := by split at hlen <;> omega
    rw [toBinary_of_reads_iff hbits hmin hreads]
    cases hblock : block? binary <;> simp [hblock] at hlen ⊢ <;> omega

/-- A standard transfer of two words, and a command word alone. -/
theorem standard_transfer_round_trips :
    (∃ m, MilStd1553BMessage.init (.int 9) (.int 3) (.list [.int 4660, .int 65535]) .none .none
        .none .none none [] rtToBc standardTransfer = .ok m ∧
      m.RoundTrips Runtime.ascii .none []) ∧
    ∃ r, MilStd1553BMessage.fromBinary Runtime.ascii "0100110001100000" .none [] = .ok r ∧
      r.toBinary = "0100110001100000" :=
  ⟨⟨_, rfl, ((binary_round_trip_iff Runtime.ascii).1 (.int 9) (.int 3)
      (.list [.int 4660, .int 65535]) .none .none .none .none [] rtToBc standardTransfer _ .none []
      (by decide) (.inr rfl) (.inl rfl) rfl).mpr ⟨rfl, by decide⟩⟩,
    ⟨_, rfl, ((binary_round_trip_iff Runtime.ascii).2 "0100110001100000" .none [] _ (by decide)
      rfl).mpr (by decide)⟩⟩

/-- A block transfer of one word. -/
theorem block_transfer_does_not_round_trip :
    ∃ m, MilStd1553BMessage.init (.int 9) (.int 3) (.list [.int 7]) .none .none .none .none none []
        rtToBc blockTransfer = .ok m ∧ ¬ m.RoundTrips Runtime.ascii .none [] := by
  refine ⟨_, rfl, ?_⟩
  rintro ⟨r, hr, -⟩
  have haccepted := (congrArg Except.toBool hr).trans (show (Except.ok r).toBool = true from rfl)
  revert haccepted
  clear hr r
  decide +kernel

end Fmofp.Bus
