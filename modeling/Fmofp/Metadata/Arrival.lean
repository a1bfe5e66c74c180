import Fmofp.Messaging.Words
import Fmofp.Metadata.Decode
import Fmofp.Metadata.TypeWord

/-! Encoded metadata on the bus: each word goes out in a frame of twenty characters and comes back
without the sync and the parity, if the frame has that length. -/

namespace Fmofp.Metadata

open Python Messaging

/-- The frame of a word of `encode_metadata`, which is already formatted from the number that it is. -/
def frameWord (word : String) : String :=
  addSyncAndParity (if word.length = 20 then slice word 3 19 else word) false

/-- The data bits that `route_inc_frame` takes of a frame. -/
def unframe (frame : String) : Option String :=
  if frame.length = 20 ∧ startsWith frame "001" then some (slice frame 3 19) else none

/-- The words that arrive. -/
def carried (words : List String) : List String := (words.map frameWord).filterMap unframe

/-- A number whose binary digits fill a frame: sixteen of them with the sign, or twenty, of which the
outer ones are taken for a sync and a parity. -/
def Passes (n : ℤ) : Prop := (formatBin 16 n).length = 16 ∨ (formatBin 16 n).length = 20

instance (n : ℤ) : Decidable (Passes n) := inferInstanceAs (Decidable (_ ∨ _))

/-- The word that arrives for a number that passes. -/
def passed (n : ℤ) : String :=
  if (formatBin 16 n).length = 20 then slice (formatBin 16 n) 3 19 else formatBin 16 n

/-- The number that is read when three characters of the word are gone. -/
def readNumber (n : ℤ) : ℕ := ofBits ((passed n).toList.drop 3)

theorem startsWith_frameWord (word : String) : startsWith (frameWord word) "001" = true := by
  unfold frameWord
  generalize (if word.length = 20 then slice word 3 19 else word) = data
  have hsync : addSyncAndParity data false = String.ofList ("001".toList ++ (data.toList ++
      [Bus.calculateParity (Bus.dataSync ++ data.toList)])) := by
    rw [addSyncAndParity_eq, Bus.withParity, List.append_assoc]
    rfl
  rw [hsync, startsWith, List.isPrefixOf_iff_prefix, String.toList_ofList (l := "001".toList ++ _)]
  exact List.prefix_append _ _

theorem slice_length {word : String} (h : word.length = 20) : (slice word 3 19).length = 16 := by
  rw [slice, String.length_ofList, List.length_take, List.length_drop, String.length_toList, h]
  rfl

theorem unframe_frameWord (n : ℤ) :
    unframe (frameWord (formatBin 16 n)) = if Passes n then some (passed n) else none := by
  have hstarts := startsWith_frameWord (formatBin 16 n)
  unfold unframe frameWord Passes passed at *
  by_cases htwenty : (formatBin 16 n).length = 20
  · have hslice := slice_length htwenty
    simp only [htwenty, if_true] at hstarts ⊢
    simp [addSyncAndParity_length, hslice, hstarts, addSyncAndParity_payload false hslice]
  · simp only [htwenty, if_false, or_false] at hstarts ⊢
    by_cases hsixteen : (formatBin 16 n).length = 16
    · simp [addSyncAndParity_length, hsixteen, hstarts, addSyncAndParity_payload false hsixteen]
    · simp only [addSyncAndParity_length, hsixteen, if_false]
      rw [if_neg (by omega)]

theorem carried_map (numbers : List ℤ) :
    carried (numbers.map (formatBin 16)) = (numbers.filter fun n => Passes n).map passed := by
  unfold carried
  induction numbers with
  | nil => rfl
  | cons n numbers ih =>
    rw [List.map_cons, List.map_cons]
    by_cases hpasses : Passes n
    · rw [List.filterMap_cons_some (by rw [unframe_frameWord, if_pos hpasses]), ih,
        List.filter_cons_of_pos (by simpa using hpasses), List.map_cons]
    · rw [List.filterMap_cons_none (by rw [unframe_frameWord, if_neg hpasses]), ih,
        List.filter_cons_of_neg (by simpa using hpasses)]

/-- After the place of the sign all characters of a number are binary digits. -/
theorem isBit_formatBin (w : ℕ) (n : ℤ) : ∀ c ∈ (formatBin w n).toList.drop 1, isBit c = true := by
  intro c hc
  cases n with
  | ofNat n =>
    rw [formatBin, String.toList_ofList] at hc
    exact isBit_of_mem_bits (List.mem_of_mem_drop hc)
  | negSucc n =>
    rw [formatBin, String.toList_ofList, List.drop_succ_cons, List.drop_zero] at hc
    exact isBit_of_mem_bits hc

theorem isBit_passed (n : ℤ) : ∀ c ∈ (passed n).toList.drop 3, isBit c = true := by
  intro c hc
  refine isBit_formatBin 16 n c ?_
  unfold passed at hc
  split_ifs at hc
  · rw [slice, String.toList_ofList] at hc
    have hmem := List.mem_of_mem_take (List.mem_of_mem_drop hc)
    exact List.mem_of_mem_drop (i := 2) (by rwa [List.drop_drop])
  · exact List.mem_of_mem_drop (i := 2) (by rwa [List.drop_drop])

theorem passed_length {n : ℤ} (h : Passes n) : (passed n).length = 16 := by
  unfold passed
  split_ifs with htwenty
  · exact slice_length htwenty
  · exact h.resolve_right htwenty

/-- The number of a word that arrives, once it is cleaned. -/
theorem intBase2_cleaned (py : Runtime) {n : ℤ} (h : Passes n) :
    py.intBase2 (cleanWord (passed n)) = .ok (readNumber n : ℤ) := by
  have hbits := isBit_passed n
  have hlength : ((passed n).toList.drop 3).length = 13 := by
    rw [List.length_drop, String.length_toList, passed_length h]
  unfold readNumber
  rw [cleanWord, if_pos (by rw [passed_length h]; omega)]
  generalize (passed n).toList.drop 3 = digits at hbits hlength
  obtain ⟨d, ds, rfl⟩ : ∃ d ds, digits = d :: ds := by
    cases digits with
    | nil => simp at hlength
    | cons d ds => exact ⟨d, ds, rfl⟩
  have hsign : ¬(d = '+' ∨ d = '-') := by
    have hbit := hbits d List.mem_cons_self
    rintro (rfl | rfl) <;> simp [isBit] at hbit
  have hzfill : zfill (String.ofList (d :: ds)) 16 =
      String.ofList (['0', '0', '0'] ++ d :: ds) := by
    simp only [zfill, String.toList_ofList, String.length_ofList, hlength, hsign, if_false]
    rfl
  simp only [String.length_ofList, hlength, show (13 : ℕ) < 16 by norm_num, if_true, hzfill]
  rw [py.intBase2_of_isBinary]
  · simp [ofBits]
  · rw [isBinary_ofList]
    intro c hc
    rcases List.mem_append.mp hc with hzero | hc
    · simp only [List.mem_cons, List.not_mem_nil, or_false, or_self] at hzero
      subst hzero
      rfl
    · exact hbits c hc
  · intro hempty
    have hnone := congrArg String.length hempty
    simp [String.length_ofList] at hnone

theorem passes_of_isWord {n : ℤ} (h : IsWord n) : Passes n :=
  .inl ((formatBin_wellFormed_iff (w := 16) (by norm_num) n).mpr h).1

/-- Of a word the three highest bits are lost. -/
theorem readNumber_of_isWord {n : ℕ} (h : n < 65536) : readNumber n = n % 8192 := by
  have hformat : formatBin 16 (n : ℤ) = String.ofList (bits 16 n) := formatBin_of_lt (by norm_num) h
  have hpassed : passed n = String.ofList (bits 16 n) := by
    rw [passed, hformat, if_neg (by simp [String.length_ofList])]
  have hdrop : (bits 16 n).drop 3 = bits 13 n := rfl
  rw [readNumber, hpassed, String.toList_ofList, hdrop, ofBits_bits]
  norm_num

end Fmofp.Metadata

/-! The words of encoded metadata as they arrive: the numbers that `decode_metadata` reads of the type word, of the
extended word and of the last one, if all words pass. -/

namespace Fmofp.Metadata

open Python Machine

variable {py : Runtime} {m : Message}

/-- The byte that the mode is sent as. -/
def modeByte (py : Runtime) (m : Message) : ℤ := (modeWord py m).toOption.getD 0

/-- The word of the block transfer, where there is one. -/
def transferNumber (m : Message) : Option ℤ := if isTransfer m then (transferWord m).toOption else none

/-! ### The type word -/

/-- The codes of two types in a word, of which three bits are lost. -/
theorem readNumber_types {c code : ℕ} (hc : c < 128) (hcode : code < 256) :
    Passes (c * 256 + code : ℕ) ∧ readNumber (c * 256 + code : ℕ) / 256 % 256 = c % 32 ∧
      readNumber (c * 256 + code : ℕ) % 256 = code := by
  have hlt : c * 256 + code < 65536 := by omega
  refine ⟨passes_of_isWord ((isWord_natCast _).mpr hlt), ?_, ?_⟩
  · rw [readNumber_of_isWord hlt]
    omega
  · rw [readNumber_of_isWord hlt]
    omega

theorem passes_neg_one : Passes (-1) ∧ readNumber (-1) = 1 := by decide +kernel

theorem commandTypes_table : ∀ e ∈ knownCommandTypes, commandTypeName (e.2 % 32) = some e.1 ↔
    e.1 ∈ ["mode_change", "mode_change_complete"] := by
  decide +kernel

/-- Two command types are read as what they are. -/
theorem commandTypeName_iff {s : String} (h : Dict.getD m "command_type" .none = .str s) :
    commandTypeName (commandTypeCode m % 32) = some s ↔ s ∈ ["mode_change", "mode_change_complete"] := by
  have hunknown {code : ℕ} (hcode : code = 0 ∨ code = 127) : commandTypeName (code % 32) ≠ some s := by
    rcases hcode with rfl | rfl <;> exact nofun
  unfold commandTypeCode codeOf
  rw [h]
  dsimp only
  split_ifs with hempty
  · subst hempty
    exact iff_of_false (hunknown (.inl rfl)) (by decide)
  · unfold Dict.getD
    cases hget : Dict.get? knownCommandTypes s with
    | some code => exact commandTypes_table _ (Dict.mem_of_get?_eq_some hget)
    | none =>
      refine iff_of_false (hunknown (.inr rfl)) fun hmem => ?_
      simp only [List.mem_cons, List.not_mem_nil, or_false] at hmem
      rcases hmem with rfl | rfl
      · revert hget
        decide +kernel
      · revert hget
        decide +kernel

/-! ### The extended word -/

theorem transferKey_eq_none {t : ℕ} (h : t < 4) : transferKey t = none ↔ t = 0 := by
  revert h t
  decide

/-- The flag of the request id is always set, so that no mode is read of the flags of the extended word. -/
theorem decodedMode_extendedFlags {schema : Schema} (h : schemaOf m = .ok schema) :
    decodedMode (extendedFlags schema m % 32) = .none := by
  have hrequest : schema.metadataFields.contains "request_id" = true :=
    List.contains_iff_mem.mpr (schemaOf_fields h (by simp))
  have hbit : (extendedFlags schema m).testBit 3 = true := by
    unfold extendedFlags
    simp only [hrequest, Bool.true_or, flagBit, if_true, Nat.testBit_or]
    rw [show Nat.testBit 8 3 = true by decide, Bool.or_true, Bool.true_or, Bool.true_or]
  rw [Nat.testBit_eq_decide_div_mod_eq, decide_eq_true_eq] at hbit
  have hlength : decodedModes.length ≤ extendedFlags schema m % 32 % 16 := by
    show 8 ≤ _
    omega
  rw [decodedMode, List.getElem?_eq_none hlength]
  rfl

namespace Parts

theorem modeByte_eq (p : Parts py m) : modeByte py m = p.mode := by
  rw [modeByte, p.mode_eq]
  rfl

theorem transfer_eq_number (p : Parts py m) : p.transfer = (transferNumber m).toList := by
  have htransfer := p.transfer_eq
  unfold transferWords at htransfer
  unfold transferNumber
  split_ifs at htransfer ⊢
  · cases hword : transferWord m with
    | error e =>
      rw [hword] at htransfer
      cases htransfer
    | ok w =>
      rw [hword] at htransfer
      exact (Except.ok.inj htransfer).symm
  · exact (Except.ok.inj htransfer).symm

/-- The extended word passes for one of a block transfer where the mode has low bits, and names no mode. -/
theorem extended_read (p : Parts py m) : Passes p.extended ∧
    (transferKey (readNumber p.extended % 4) = none ↔ modeByte py m % 4 = 0) ∧
    (modeByte py m % 4 = 0 → extendedMode (readNumber p.extended) = .none) := by
  rw [p.modeByte_eq, transferKey_eq_none (Nat.mod_lt _ (by norm_num))]
  rcases modeWord_byte p.mode_eq with ⟨-, hmode⟩ | ⟨-, hnonneg, hlt⟩
  · have hextended : p.extended = -1 := by rw [extended, hmode, lor_neg_one]
    rw [hextended, passes_neg_one.2, hmode]
    exact ⟨passes_neg_one.1, by decide, by decide⟩
  · have hflags := extendedFlags_lt p.schema m
    obtain ⟨mode, hmode⟩ := Int.eq_ofNat_of_zero_le hnonneg
    rw [hmode] at hlt ⊢
    have hextended : p.extended = (extendedFlags p.schema m * 256 + mode : ℕ) := by
      have hor : extendedFlags p.schema m * 256 ||| mode = extendedFlags p.schema m * 256 + mode :=
        or_eq_add (k := 8) (by omega)
      rw [extended, hmode, ← hor, ← lor_natCast, Nat.cast_mul]
      rfl
    have hword : extendedFlags p.schema m * 256 + mode < 65536 := by omega
    have hfound : readNumber p.extended / 256 % 256 = extendedFlags p.schema m % 32 := by
      rw [hextended, readNumber_of_isWord hword]
      omega
    refine ⟨?_, ?_, fun _ => ?_⟩
    · rw [hextended]
      exact passes_of_isWord ((isWord_natCast _).mpr hword)
    · rw [hextended, readNumber_of_isWord hword]
      omega
    · rw [extendedMode, hfound, decodedMode_extendedFlags p.schema_eq]
      exact ite_self _

end Parts

/-! ### The words that arrive -/

/-- A word as it is read. -/
def readWord (n : ℤ) : String := cleanWord (passed n)

theorem readsAs_map (py : Runtime) {numbers : List ℤ} (hpass : ∀ n ∈ numbers, Passes n) {i : ℕ} {n : ℤ}
    (hn : numbers[i]? = some n) : ReadsAs py (numbers.map readWord) i (readNumber n) :=
  ⟨readWord n, by rw [List.getElem?_map, hn, Option.map_some],
    intBase2_cleaned py (hpass n (List.mem_of_getElem? hn))⟩

theorem readable_map (py : Runtime) {numbers : List ℤ} (hpass : ∀ n ∈ numbers, Passes n) :
    Readable py (numbers.map readWord) := by
  intro w hw
  obtain ⟨n, hn, rfl⟩ := List.mem_map.mp hw
  exact ⟨_, intBase2_cleaned py (hpass n hn)⟩

/-- The header keeps its number, so that the metadata are decoded exactly if all words arrive. -/
theorem decodeMetadata_carried (py : Runtime) {flags : ℕ} {numbers : List ℤ} (hcount : numbers.length ≤ 15)
    (hflags : flags < 256) :
    decodeMetadata py (carried (((header numbers.length flags : ℤ) :: numbers).map (formatBin 16))) =
      if ∀ n ∈ numbers, Passes n then
        decodeFields py (((header numbers.length flags : ℤ) :: numbers).map readWord) flags
      else .ok [] := by
  have hheader := header_of_le hcount hflags
  set head := header numbers.length flags
  have hword : head < 65536 := by omega
  have hpass : Passes head := passes_of_isWord ((isWord_natCast _).mpr hword)
  have hread : py.intBase2 ((cleanWord ∘ passed) head) = .ok ((head : ℕ) : ℤ) := by
    rw [Function.comp_apply, intBase2_cleaned py hpass, readNumber_of_isWord hword, Nat.mod_eq_of_lt (by omega)]
  have hversion : bitField head 12 15 = metadataVersion := by
    rw [bitField_eq, bitRange, metadataVersion]
    omega
  have hnumber : bitField head 8 11 = numbers.length := by
    rw [bitField_eq, bitRange]
    omega
  have hlow : bitField head 0 7 = flags := by
    rw [bitField_low]
    omega
  rw [carried_map, List.filter_cons_of_pos (by simpa using hpass)]
  unfold decodeMetadata
  rw [List.map_map, List.map_cons]
  dsimp only [bind, Except.bind]
  rw [hread]
  dsimp only
  rw [hversion, hnumber, hlow, List.length_map]
  by_cases hall : ∀ n ∈ numbers, Passes n
  · have hfilter : numbers.filter (fun n => Passes n) = numbers := List.filter_eq_self.mpr (by simpa using hall)
    have hwords : readWord = cleanWord ∘ passed := rfl
    rw [if_pos hall, hfilter, if_neg (by simp), List.map_cons, hwords]
  · have hfewer : (numbers.filter fun n => Passes n).length < numbers.length := by
      push Not at hall
      obtain ⟨n, hn, hnot⟩ := hall
      exact List.length_filter_lt_length_iff_exists.mpr ⟨n, hn, by simpa using hnot⟩
    rw [if_neg hall, if_pos (.inr hfewer)]
    rfl

namespace Parts

/-- The words after the two that all metadata begin with. -/
def laterWords (p : Parts py m) : List ℤ := p.transfer ++ p.names ++ p.precipitation ++ p.vil ++ [(checksum py m : ℤ)]

theorem words_eq (p : Parts py m) {w : ℤ} (hw : p.typeWords = [w]) : p.words = w :: p.extended :: p.laterWords := by
  simp [words, laterWords, hw]

/-- The first of the later words is that of the block transfer, where there is one. -/
theorem exists_fourth (p : Parts py m) :
    ∃ fourth, p.laterWords[0]? = some fourth ∧ ∀ w ∈ transferNumber m, fourth = w := by
  unfold laterWords
  rw [p.transfer_eq_number]
  cases transferNumber m with
  | some w => exact ⟨w, rfl, fun w' hw' => Option.some.inj hw'⟩
  | none =>
    cases hlater : (none : Option ℤ).toList ++ p.names ++ p.precipitation ++ p.vil ++ [(checksum py m : ℤ)] with
    | nil => simp at hlater
    | cons fourth rest => exact ⟨fourth, rfl, nofun⟩

theorem laterWords_pos (p : Parts py m) : 0 < p.laterWords.length := by
  rw [laterWords, List.length_append]
  exact Nat.lt_add_left _ Nat.one_pos

end Parts

theorem fieldFlags_testBit {schema : Schema} (h : schemaOf m = .ok schema) :
    (fieldFlags schema m).testBit 0 = true ∧ (fieldFlags schema m).testBit 1 = true := by
  have hfield {k : String} (hk : k ∈ ["message_type", "command_type", "command_name", "request_id"]) :
      schema.metadataFields.contains k = true := List.contains_iff_mem.mpr (schemaOf_fields h hk)
  unfold fieldFlags
  simp only [hfield (k := "message_type") (by simp), hfield (k := "command_type") (by simp),
    hfield (k := "command_name") (by simp), Bool.true_or, flagBit, if_true]
  decide

/-- Encoded metadata are decoded from what arrives of their words, if that is all of them. -/
theorem decodeMetadata_encoded {words : List String} (h : encodeMetadata py m = .ok words) (hcount : words.length ≤ 16) :
    ∃ (p : Parts py m) (head : ℤ) (flags : ℕ), Passes head ∧ flags.testBit 0 = true ∧ flags.testBit 1 = true ∧
      decodeMetadata py (carried words) =
        if ∀ n ∈ p.words, Passes n then decodeFields py ((head :: p.words).map readWord) flags else .ok [] := by
  unfold encodeMetadata at h
  obtain ⟨payload, hpayload, h⟩ := bind_eq_ok h
  obtain ⟨schema, hschema, h⟩ := bind_eq_ok h
  obtain ⟨p, rfl⟩ := payload_parts hpayload
  cases h
  rw [List.length_map, List.length_cons] at hcount
  have hflags := fieldFlags_lt schema m
  obtain ⟨htype, hcommand⟩ := fieldFlags_testBit hschema
  have hheader := header_of_le (by omega : p.words.length ≤ 15) hflags
  exact ⟨p, _, _, passes_of_isWord ((isWord_natCast _).mpr (by omega)), htype, hcommand,
    decodeMetadata_carried py (by omega) hflags⟩

/-! ### What is read -/

/-- The words of metadata that have all arrived, and the numbers that decoding looks at. -/
structure Arrived (p : Parts py m) (words : List String) (w fourth : ℤ) : Prop where
  readable : Readable py words
  length : 4 ≤ words.length
  second : ReadsAs py words 1 (readNumber w)
  third : ReadsAs py words 2 (readNumber p.extended)
  later : ReadsAs py words 3 (readNumber fourth)
  last : py.intBase2 (words.getD (words.length - 1) "") = .ok (readNumber (checksum py m) : ℤ)
  transfer : ∀ w ∈ transferNumber m, fourth = w

theorem exists_arrived (p : Parts py m) {head w : ℤ} (hhead : Passes head) (hpass : ∀ n ∈ p.words, Passes n)
    (hw : p.typeWords = [w]) : ∃ fourth, Arrived p ((head :: p.words).map readWord) w fourth := by
  have hall : ∀ n ∈ head :: p.words, Passes n := List.forall_mem_cons.mpr ⟨hhead, hpass⟩
  obtain ⟨fourth, hfourth, htransfer⟩ := p.exists_fourth
  have hpos := p.laterWords_pos
  rw [p.words_eq hw] at hall ⊢
  refine ⟨fourth, readable_map py hall, ?_, readsAs_map py hall rfl, readsAs_map py hall rfl,
    readsAs_map py hall hfourth, ?_, htransfer⟩
  · simp only [List.length_map, List.length_cons]
    omega
  · have hlast : (head :: w :: p.extended :: p.laterWords).getLast? = some (checksum py m : ℤ) := by
      rw [Parts.laterWords, ← List.cons_append, ← List.cons_append, ← List.cons_append, List.getLast?_concat]
    rw [List.getLast?_eq_getElem?] at hlast
    obtain ⟨word, hword, hn⟩ := readsAs_map py hall hlast
    rw [List.length_map, List.getD_eq_getElem?_getD, hword, Option.getD_some]
    exact hn

/-- Only the low eight bits of the last word are read. -/
theorem namedMode_readNumber {s : String} {schema : Schema} (hschema : Dict.get? messageSchemas s = some schema) {n : ℕ}
    (hn : n < 65536) : schema.namedMode (readNumber n) = schema.namedMode n := by
  unfold Schema.namedMode
  cases hsize : schema.modeBits with
  | none => rw [Option.bind_none, Option.bind_none]
  | some size =>
    obtain ⟨_, _, _, _, _, _, hsizes⟩ := modeBits_eq_some hschema hsize
    rw [Option.bind_some, Option.bind_some, readNumber_of_isWord hn]
    have hdvd : 2 ^ size ∣ 8192 := by
      simp only [List.mem_cons, List.not_mem_nil, or_false] at hsizes
      rcases hsizes with rfl | rfl | rfl <;> decide
    rw [Nat.mod_mod_of_dvd _ hdvd]

end Fmofp.Metadata
