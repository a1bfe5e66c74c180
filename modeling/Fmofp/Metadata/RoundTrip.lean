import Fmofp.Metadata.Arrival

/-! Metadata that come back from the bus: which types, modes and block transfers `decode_metadata` finds in the words
that arrive of those of `encode_metadata`. -/

namespace Fmofp.Metadata

open Python

variable {py : Runtime} {m : Message}

/-- The types and the mode are those that were sent, and no block transfer is found where none was sent. -/
structure Returned (m d : Message) : Prop where
  messageType : Dict.getD d "message_type" .none = Dict.getD m "message_type" .none
  commandType : Dict.getD d "command_type" .none = Dict.getD m "command_type" .none
  mode : hasMode m = true → Dict.getD d "mode" .none = Dict.getD m "mode" .none
  transfer : isTransfer m = false → isTransfer d = false

/-- Decoding what arrives of the words gives them back. -/
def ComesBack (py : Runtime) (m : Message) (words : List String) : Prop :=
  ∃ d, decodeMetadata py (carried words) = .ok d ∧ Returned m d

/-- The mode that is read: the one that the checksum names, where the schema has one; else the flags of the block
transfer word, where the low bits of the mode make the word before it pass for one. -/
def Schema.readMode (schema : Schema) (py : Runtime) (m : Message) : Value :=
  (schema.namedMode (checksum py m)).elim
    (if modeByte py m % 4 = 0 then .none else (transferNumber m).elim .none fun w => extendedMode (readNumber w)) .str

/-- Metadata that come back. -/
structure Restorable (py : Runtime) (m : Message) (schema : Schema) (messageType : String) : Prop where
  commandType : ∃ s ∈ ["mode_change", "mode_change_complete"], Dict.getD m "command_type" .none = .str s
  messageType : messageTypeName (schema.markedCode py m) = messageType
  ranges : ∀ d ∈ schema.dataStructure, d.bits.isSingle = false
  transfer : ∀ w ∈ transferNumber m, Passes w
  requestId : ∀ n ∈ textWords py requestIdWords m "request_id", Passes n
  lowBits : isTransfer m = false → modeByte py m % 4 = 0
  mode : hasMode m = true → Dict.getD m "mode" .none = schema.readMode py m

/-! ### The tables -/

/-- No code is read as a message type whose schema puts a parameter into the type word. -/
theorem parameter_not_named : ∀ e ∈ messageSchemas, Dict.has knownTypes e.1 = true →
    "command_parameter" ∈ e.2.metadataFields →
      e.2.modeBits = none ∧ ∀ code < 256, messageTypeName code ≠ e.1 := by
  decide +kernel

/-- The places of the bits that are spelled as one number are there in four words. -/
theorem single_places : ∀ e ∈ messageSchemas, Dict.has knownTypes e.1 = true → ∀ d ∈ e.2.dataStructure,
    d.bits.isSingle = true → d.wordIndex = 3 ∨ d.wordIndex = -2 := by
  decide +kernel

theorem actualIndex_isSome {length : ℕ} {wordIndex : ℤ} (hindex : wordIndex = 3 ∨ wordIndex = -2) (hlength : 4 ≤ length) :
    (actualIndex length wordIndex).isSome = true := by
  unfold actualIndex
  dsimp only
  rcases hindex with rfl | rfl
  · rw [if_pos (by norm_num : (0 : ℤ) ≤ 3), if_pos ⟨by norm_num, by omega⟩]
    rfl
  · rw [if_neg (by norm_num : ¬(0 : ℤ) ≤ -2), if_pos ⟨by omega, by omega⟩]
    rfl

/-- Where the value of a mode stands in another word than the last one, the type is not read as what it is. -/
theorem no_other_mode : ∀ e ∈ messageSchemas, ∀ code ∈ Dict.get? knownTypes e.1, e.2.modeBits = none →
    messageTypeName code = e.1 → (∀ d ∈ e.2.dataStructure, d.bits.isSingle = false) →
      "mode_value" ∉ e.2.dataStructure.map FieldDef.field := by
  decide +kernel

/-- The names of the modes that can be read. -/
def readableModes : List String :=
  decodedModes ++ (modeNameMap.filter fun e => decide (0 ≤ e.1)).map Prod.snd

theorem readableModes_upper : ∀ s ∈ readableModes, isAscii s = true ∧ Runtime.ascii.upper s ≠ "INITIALIZING" := by
  decide +kernel

theorem messageTypeCode_eq {s : String} (htype : Dict.getD m "message_type" .none = .str s) {code : ℕ}
    (hcode : Dict.get? knownTypes s = some code) : messageTypeCode m = code := by
  have hne : s ≠ "" := by
    rintro rfl
    have hno : Dict.get? knownTypes "" = none := by decide +kernel
    rw [hno] at hcode
    cases hcode
  unfold messageTypeCode codeOf
  rw [htype]
  dsimp only
  rw [if_neg hne, Dict.getD, hcode, Option.getD_some]

theorem getD_ne_none_of_text {d : Message} {k t : String} (h : Dict.get? d k = some (.str t)) :
    Dict.getD d k .none ≠ .none := by
  rw [Dict.getD, h]
  simp

/-! ### The mode -/

theorem mem_readableModes_of_extended {n : ℕ} {s : String} (h : extendedMode n = .str s) : s ∈ readableModes := by
  unfold extendedMode decodedMode at h
  split_ifs at h
  cases hname : decodedModes[n / 256 % 256 % 16]? with
  | none =>
    rw [hname] at h
    cases h
  | some name =>
    rw [hname] at h
    cases h
    exact List.mem_append_left _ (List.mem_of_getElem? hname)

theorem mem_readableModes {schema : Schema} {s : String} (h : schema.readMode py m = .str s) : s ∈ readableModes := by
  unfold Schema.readMode at h
  cases hnamed : schema.namedMode (checksum py m) with
  | some name =>
    rw [hnamed, Option.elim_some] at h
    cases h
    unfold Schema.namedMode at hnamed
    obtain ⟨size, -, hget⟩ := Option.bind_eq_some_iff.mp hnamed
    have hmem := Dict.mem_of_get?_eq_some hget
    exact List.mem_append_right _ (List.mem_map.mpr
      ⟨_, List.mem_filter.mpr ⟨hmem, decide_eq_true (Int.natCast_nonneg _)⟩, rfl⟩)
  | none =>
    rw [hnamed, Option.elim_none] at h
    split_ifs at h
    cases hnumber : transferNumber m with
    | none =>
      rw [hnumber] at h
      cases h
    | some w =>
      rw [hnumber, Option.elim_some] at h
      exact mem_readableModes_of_extended h

/-- A mode whose value is below zero is never read. -/
theorem not_negativeMode {schema : Schema}
    (h : hasMode m = true → Dict.getD m "mode" .none = schema.readMode py m) : ¬NegativeMode py m := by
  rintro ⟨s, hget, hname⟩
  have hgiven : Dict.getD m "mode" .none = .str s := getD_eq_str.mpr hget
  have hmode : hasMode m = true := by
    rw [hasMode, hgiven]
    exact decide_eq_true (by simp)
  obtain ⟨hascii, hupper⟩ := readableModes_upper s (mem_readableModes ((h hmode).symm.trans hgiven))
  apply hupper
  rw [← hname, Runtime.upper, Runtime.upper, if_pos hascii, if_pos hascii]

section Read

variable {s commandType : String} {words : List String} {found : Message} {w fourth : ℤ} {p : Parts py m}
  (harrived : Arrived p words w fourth) (hschema : Dict.get? messageSchemas s = some p.schema)
  (hfound : Found found (readNumber w) (readNumber p.extended) (readNumber fourth) commandType)

include harrived hschema hfound

/-- The step of the schema gives the mode that is read. -/
theorem decodeSchema_readMode (hname : messageTypeName (readNumber w % 256) = s)
    (hranges : ∀ d ∈ p.schema.dataStructure, d.bits.isSingle = false)
    (hvalue : p.schema.modeBits = none → "mode_value" ∉ p.schema.dataStructure.map FieldDef.field)
    (hlow : isTransfer m = false → modeByte py m % 4 = 0) :
    ∃ d, decodeSchema py words found = .ok d ∧ Dict.getD d "mode" .none = p.schema.readMode py m := by
  have htext : textOf found "message_type" = some s := by
    unfold textOf
    rw [hfound.messageType, hname]
  have hlength := harrived.length
  obtain ⟨d, hd, hmode⟩ := decodeSchema_mode htext hschema harrived.readable hranges hvalue (by omega) harrived.last
  refine ⟨d, hd, ?_⟩
  obtain ⟨-, hkey, hnone⟩ := p.extended_read
  rw [hmode, namedMode_readNumber hschema (checksum_lt py m), Schema.readMode, hfound.mode]
  congr 1
  by_cases hbyte : modeByte py m % 4 = 0
  · rw [if_pos (hkey.mpr hbyte), if_pos hbyte, hnone hbyte]
  · rw [if_neg fun hno => hbyte (hkey.mp hno), if_neg hbyte]
    -- only a block transfer has a mode with low bits
    have htransfer : isTransfer m = true := by
      by_contra hno
      exact hbyte (hlow (Bool.eq_false_iff.mpr hno))
    cases hnumber : transferNumber m with
    | some v => rw [harrived.transfer v hnumber, Option.elim_some]
    | none =>
      have hlist := p.transfer_length
      rw [p.transfer_eq_number, hnumber, if_pos htransfer] at hlist
      cases hlist

end Read

theorem isTransfer_eq_false {d : Message} : isTransfer d = false ↔ ∀ k ∈ transferKeys, Dict.has d k = false := by
  rw [isTransfer, List.any_eq_false]
  simp only [Bool.not_eq_true]

theorem mem_transferKeys {t : ℕ} {k : String} (h : transferKey t = some k) : k ∈ transferKeys := by
  unfold transferKey at h
  split_ifs at h
  exact List.mem_of_getElem? h

section Both

variable {s : String} {p : Parts py m} (hschema : Dict.get? messageSchemas s = some p.schema)
  (htype : Dict.getD m "message_type" .none = .str s) (hknown : Dict.has knownTypes s = true)

include hschema htype hknown

/-- A schema without a bit for the mode has no value of a mode at all, if the type is read as what it is. -/
theorem no_mode_value (hranges : ∀ d ∈ p.schema.dataStructure, d.bits.isSingle = false)
    (hname : messageTypeName (p.schema.markedCode py m) = s) (hbits : p.schema.modeBits = none) :
    "mode_value" ∉ p.schema.dataStructure.map FieldDef.field := by
  obtain ⟨code, hcode⟩ := Dict.has_iff.mp hknown
  have hmarked : p.schema.markedCode py m = code := by
    have hnone : p.schema.marking py m = none := by
      rw [Schema.marking, hbits, Option.bind_none]
      exact ite_self _
    rw [Schema.markedCode, hnone]
    exact messageTypeCode_eq htype hcode
  rw [hmarked] at hname
  exact no_other_mode _ (Dict.mem_of_get?_eq_some hschema) code hcode hbits hname hranges

variable {words : List String} {head : ℤ} {flags : ℕ} (hhead : Passes head) (hmessage : flags.testBit 0 = true)
  (hcommand : flags.testBit 1 = true)

include hhead hmessage hcommand

theorem restorable_of_returned (hpass : ∀ n ∈ p.words, Passes n) {d : Message}
    (hd : decodeFields py ((head :: p.words).map readWord) flags = .ok d) (hreturned : Returned m d) :
    Restorable py m p.schema s := by
  have hmem := Dict.mem_of_get?_eq_some hschema
  obtain ⟨w, hw⟩ := List.length_eq_one_iff.mp (applySchema_length p.typeWords_eq)
  obtain ⟨fourth, harrived⟩ := exists_arrived p hhead hpass hw
  cases hnamed : commandTypeName (readNumber w / 256 % 256) with
  | none =>
    rw [decodeFields_unknown harrived.second hmessage hcommand hnamed] at hd
    cases hd
  | some commandType =>
    obtain ⟨found, hfound, hdecode⟩ := decodeFields_found harrived.readable harrived.second harrived.third
      harrived.later hmessage hcommand hnamed
    rw [hdecode] at hd
    have hmessageType : messageTypeName (readNumber w % 256) = s := by
      have hkept := decodeSchema_kept hd (k := "message_type") (by decide)
        (getD_ne_none_of_text hfound.messageType)
      have hsame := hreturned.messageType
      rw [Dict.getD, hkept, hfound.messageType, Option.getD_some, htype] at hsame
      exact Value.str.inj hsame
    have hcommandType : Dict.getD m "command_type" .none = .str commandType := by
      have hkept := decodeSchema_kept hd (k := "command_type") (by decide)
        (getD_ne_none_of_text hfound.commandType)
      rw [← hreturned.commandType, Dict.getD, hkept, hfound.commandType, Option.getD_some]
    have hparameter : "command_parameter" ∉ p.schema.metadataFields := fun hfield =>
      (parameter_not_named _ hmem hknown hfield).2 _ (Nat.mod_lt _ (by norm_num)) hmessageType
    -- the type word is not the one of a mode below zero, which names no command type
    obtain ⟨w', hw', hsent⟩ := typeWords_sent p hschema hparameter
    rw [hw, List.cons.injEq] at hw'
    obtain ⟨rfl, -⟩ := hw'
    obtain ⟨hword, hmarked⟩ := hsent.resolve_left fun hneg => by
      rw [hneg.1, passes_neg_one.2] at hnamed
      cases hnamed
    obtain ⟨-, hhigh, hlow⟩ := readNumber_types (commandTypeCode_lt m) hmarked
    rw [← hword] at hhigh hlow
    rw [hhigh] at hnamed
    rw [hlow] at hmessageType
    have hranges : ∀ field ∈ p.schema.dataStructure, field.bits.isSingle = false := by
      intro field hfield
      by_contra hsingle
      have hplace := single_places _ hmem hknown field hfield (Bool.eq_true_of_not_eq_false hsingle)
      refine hsingle (decodeSchema_ranges ?_ hschema hd hfield ?_)
      · rw [textOf, hfound.messageType, hlow, hmessageType]
      · exact actualIndex_isSome hplace harrived.length
    have hbyte : isTransfer m = false → modeByte py m % 4 = 0 := by
      intro hplain
      rw [← p.extended_read.2.1]
      cases hkey : transferKey (readNumber p.extended % 4) with
      | none => rfl
      | some k =>
        have hk := mem_transferKeys hkey
        have hno := isTransfer_eq_false.mp (hreturned.transfer hplain) k hk
        rw [Dict.has, decodeSchema_transfer hd hk, ← Dict.has, hfound.transfer k hk, hkey] at hno
        simp at hno
    refine ⟨⟨commandType, (commandTypeName_iff hcommandType).mp hnamed, hcommandType⟩, hmessageType, hranges,
      fun v hv => hpass v ?_, fun n hn => hpass n ?_, hbyte, fun hmode => ?_⟩
    · rw [p.words_eq hw, Parts.laterWords, p.transfer_eq_number]
      simp [Option.mem_def.mp hv]
    · rw [p.words_eq hw, Parts.laterWords, Parts.names]
      simp [hn]
    · obtain ⟨d', hd', hread⟩ := decodeSchema_readMode harrived hschema hfound (by rw [hlow, hmessageType]) hranges
        (no_mode_value hschema htype hknown hranges hmessageType) hbyte
      rw [hd] at hd'
      rw [← hreturned.mode hmode, Except.ok.inj hd', hread]

omit htype hknown hhead hmessage hcommand in
/-- The word of the types of metadata that come back, and its two codes. -/
theorem typeWords_of_restorable (hparameter : "command_parameter" ∉ p.schema.metadataFields)
    (h : Restorable py m p.schema s) :
    ∃ w, p.typeWords = [w] ∧ Passes w ∧ readNumber w / 256 % 256 = commandTypeCode m % 32 ∧
      readNumber w % 256 = p.schema.markedCode py m := by
  obtain ⟨w, hw, hsent⟩ := typeWords_sent p hschema hparameter
  obtain ⟨rfl, hmarked⟩ := hsent.resolve_left fun hneg => not_negativeMode h.mode hneg.2
  exact ⟨_, hw, readNumber_types (commandTypeCode_lt m) hmarked⟩

omit hschema htype hknown hhead hmessage hcommand in
/-- All words of metadata that come back pass: there are no data points among them. -/
theorem passes_of_restorable (h : Restorable py m p.schema s) {w : ℤ} (hw : p.typeWords = [w]) (hpass : Passes w) :
    ∀ n ∈ p.words, Passes n := by
  obtain ⟨commandType, hmem, hcommand⟩ := h.commandType
  have hother {name : String} (hname : name ∉ ["mode_change", "mode_change_complete"]) :
      isCommandType m name = false := by
    rw [isCommandType, hcommand, decide_eq_false_iff_not]
    intro heq
    exact hname (Value.str.inj heq ▸ hmem)
  have hprecipitation : p.precipitation = [] := by
    have hlength := p.precipitation_spec.1
    rw [precipitationPoints, hother (by decide)] at hlength
    exact List.eq_nil_of_length_eq_zero hlength
  have hvil : p.vil = [] := by
    have hlength := p.vil_spec.1
    rw [vilPoints, hother (by decide)] at hlength
    exact List.eq_nil_of_length_eq_zero hlength
  rw [p.words_eq hw, Parts.laterWords, Parts.names, hprecipitation, hvil, p.transfer_eq_number]
  intro n hn
  simp only [List.mem_cons, List.mem_append, List.not_mem_nil, or_false, Option.mem_toList] at hn
  rcases hn with rfl | rfl | (htransfer | hname | hid) | rfl
  · exact hpass
  · exact p.extended_read.1
  · exact h.transfer n htransfer
  · exact passes_of_isWord (Parts.isWord_commandName py m n hname)
  · exact h.requestId n hid
  · exact passes_of_isWord ((isWord_natCast _).mpr (checksum_lt py m))

theorem returned_of_restorable (h : Restorable py m p.schema s) :
    (∀ n ∈ p.words, Passes n) ∧
      ∃ d, decodeFields py ((head :: p.words).map readWord) flags = .ok d ∧ Returned m d := by
  have hmem := Dict.mem_of_get?_eq_some hschema
  have hparameter : "command_parameter" ∉ p.schema.metadataFields := by
    intro hfield
    obtain ⟨hbits, hnever⟩ := parameter_not_named _ hmem hknown hfield
    have hcode := messageTypeCode_lt m
    refine hnever (messageTypeCode m) (by omega) ?_
    have hmarked := h.messageType
    rwa [Schema.markedCode, Schema.marking, hbits, Option.bind_none, ite_self] at hmarked
  obtain ⟨w, hw, hpassed, hhigh, hlow⟩ := typeWords_of_restorable hschema hparameter h
  have hpass := passes_of_restorable h hw hpassed
  refine ⟨hpass, ?_⟩
  obtain ⟨fourth, harrived⟩ := exists_arrived p hhead hpass hw
  obtain ⟨commandType, hmemCommand, hcommandType⟩ := h.commandType
  have hnamed : commandTypeName (readNumber w / 256 % 256) = some commandType := by
    rw [hhigh]
    exact (commandTypeName_iff hcommandType).mpr hmemCommand
  have hmessageType : messageTypeName (readNumber w % 256) = s := by rw [hlow, h.messageType]
  obtain ⟨found, hfound, hdecode⟩ := decodeFields_found harrived.readable harrived.second harrived.third
    harrived.later hmessage hcommand hnamed
  obtain ⟨d, hd, hmode⟩ := decodeSchema_readMode harrived hschema hfound hmessageType h.ranges
    (no_mode_value hschema htype hknown h.ranges h.messageType) h.lowBits
  refine ⟨d, hdecode.trans hd, ?_, ?_, fun hgiven => hmode.trans (h.mode hgiven).symm, fun hplain => ?_⟩
  · have hkept := decodeSchema_kept hd (k := "message_type") (by decide)
      (getD_ne_none_of_text hfound.messageType)
    rw [Dict.getD, hkept, hfound.messageType, Option.getD_some, htype, hmessageType]
  · have hkept := decodeSchema_kept hd (k := "command_type") (by decide)
      (getD_ne_none_of_text hfound.commandType)
    rw [Dict.getD, hkept, hfound.commandType, Option.getD_some, hcommandType]
  · have hkey := p.extended_read.2.1.mpr (h.lowBits hplain)
    refine isTransfer_eq_false.mpr fun k hk => ?_
    rw [Dict.has, decodeSchema_transfer hd hk, ← Dict.has, hfound.transfer k hk, hkey]
    rfl

end Both

/-- Metadata of a known type come back from the bus with their types and their mode exactly when the codes of both types
are read as they are written, all words pass, no range of bits is spelled as one number, and the mode is the one that is
read. -/
theorem comes_back_iff {words : List String} (h : encodeMetadata py m = .ok words) (hcount : words.length ≤ 16) {s : String}
    (htype : Dict.getD m "message_type" .none = .str s) (hknown : Dict.has knownTypes s = true) :
    ∃ schema, Dict.get? messageSchemas s = some schema ∧ (ComesBack py m words ↔ Restorable py m schema s) := by
  obtain ⟨p, head, flags, hhead, hmessage, hcommand, hdecode⟩ := decodeMetadata_encoded h hcount
  have hschema := schemaOf_get? p.schema_eq htype
  refine ⟨p.schema, hschema, ?_⟩
  rw [ComesBack, hdecode]
  constructor
  · rintro ⟨d, hd, hreturned⟩
    split_ifs at hd with hpass
    · exact restorable_of_returned hschema htype hknown hhead hmessage hcommand hpass hd hreturned
    · -- nothing is decoded of words that have not all arrived
      cases hd
      have hnone := hreturned.messageType
      rw [htype] at hnone
      cases hnone
  · intro hrestorable
    obtain ⟨hpass, d, hd, hreturned⟩ :=
      returned_of_restorable hschema htype hknown hhead hmessage hcommand hrestorable
    exact ⟨d, by rw [if_pos hpass, hd], hreturned⟩

/-- A command to change no mode in particular. -/
def modeCommand : Message := [("message_type", .str "targeting_radarCommand"), ("command_type", .str "mode_change")]

theorem mode_command_comes_back : ComesBack .ascii modeCommand
    ["0001001100000111", "0000001100101010", "0000100100000000", "0000000000000000"] := by
  have hmodeBits : Dict.get? messageSchemas "targeting_radarCommand" =
      some (schema [⟨"mode_value", -1, .range 0 3⟩] ["mode"]) := by
    decide +kernel
  have hsent : encodeMetadata .ascii modeCommand =
      .ok ["0001001100000111", "0000001100101010", "0000100100000000", "0000000000000000"] := by
    decide +kernel
  obtain ⟨found, hfound, hiff⟩ :=
    comes_back_iff hsent (by decide) (s := "targeting_radarCommand") rfl (by decide +kernel)
  rw [hmodeBits] at hfound
  cases hfound
  refine hiff.mpr ⟨⟨"mode_change", by decide, rfl⟩, by decide +kernel, by decide, ?_, ?_, ?_, ?_⟩
  · intro w hw
    cases hw
  · intro n hn
    cases hn
  · intro _
    decide +kernel
  · intro hmode
    exact absurd hmode (by decide)

/-- The type code of a request for the mode STANDBY loses its low bits to the value of the mode. -/
def standbyRequest : Message :=
  [("message_type", .str "weather_radarModeChangeRequest"), ("command_type", .str "mode_change"), ("mode", .str "STANDBY")]

theorem standby_request_lost : ¬∀ (py : Runtime) (m : Message) (words : List String) (s : String),
    encodeMetadata py m = .ok words → words.length ≤ 16 → Dict.getD m "message_type" .none = .str s →
      Dict.has knownTypes s = true → ComesBack py m words := by
  intro h
  obtain ⟨d, hd, hreturned⟩ := h .ascii standbyRequest
    ["0001001100000111", "0000001100000000", "0000100100000000", "0000000000000000"]
    "weather_radarModeChangeRequest" (by decide +kernel) (by decide) rfl (by decide +kernel)
  have htype : (decodeMetadata .ascii (carried
      ["0001001100000111", "0000001100000000", "0000100100000000", "0000000000000000"])).toOption.map
        (fun d => Dict.getD d "message_type" .none) = some (.str "display_data_request") := by
    decide +kernel
  rw [hd] at htype
  have hread : Dict.getD d "message_type" .none = .str "display_data_request" := Option.some.inj htype
  rw [hreturned.messageType] at hread
  exact absurd (Value.str.inj hread) (by decide)

end Fmofp.Metadata
