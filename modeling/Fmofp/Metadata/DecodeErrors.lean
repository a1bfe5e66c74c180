import Fmofp.Metadata.Decode

/-! What `decode_metadata` can raise on binary words: only what the source raises itself, for a command type that
has no name and for a field of a schema whose bits are not spelled as a range.  The flags of the extended word are
unset only where there are no words for the two steps that read them. -/

namespace Fmofp.Metadata

open Python

section Words

variable {py : Runtime} {words : List String} {flags current : ℕ} {metadata : Message}

/-- Every word can be read as a number. -/
def Readable (py : Runtime) (words : List String) : Prop := ∀ w ∈ words, ∃ n, py.intBase2 w = .ok n

/-- `raise ValueError("Unknown command type code")`. -/
def UnknownCommandType (py : Runtime) (words : List String) (flags : ℕ) : Prop :=
  flags.testBit 1 = true ∧ ∃ word n, words[1]? = some word ∧ py.intBase2 word = .ok n ∧
    commandTypeName (bitField n 8 15) = none

/-- The message type that the second word is read as. -/
def NamesType (py : Runtime) (words : List String) (flags : ℕ) (messageType : String) : Prop :=
  flags.testBit 0 = true ∧ ∃ word n, words[1]? = some word ∧ py.intBase2 word = .ok n ∧
    messageType = messageTypeName (bitField n 0 7)

/-- `raise ValueError("Invalid bit range format")`, of a field whose word is there. -/
def BadBitRange (py : Runtime) (words : List String) (flags : ℕ) : Prop :=
  ∃ messageType schema, NamesType py words flags messageType ∧ Dict.get? messageSchemas messageType = some schema ∧
    ∃ d ∈ schema.dataStructure, (actualIndex words.length d.wordIndex).isSome = true ∧
      extractBitRange d.bits = .error .valueError

/-- A word of sixteen digits or more stays one without its first three characters. -/
theorem intBase2_cleanWord (py : Runtime) {w : String} (hbinary : isBinary w = true) (hlength : 16 ≤ w.length) :
    ∃ n, py.intBase2 (cleanWord w) = .ok n := by
  have hrest : ∀ c ∈ w.toList.drop 3, isBit c = true := fun c hc =>
    List.all_eq_true.mp hbinary c (List.mem_of_mem_drop hc)
  have hlong : 13 ≤ (w.toList.drop 3).length := by
    rw [List.length_drop, String.length_toList]
    omega
  unfold cleanWord
  rw [if_pos (by omega)]
  dsimp only
  split_ifs with hshort
  · cases hchars : w.toList.drop 3 with
    | nil =>
      rw [hchars, List.length_nil] at hlong
      omega
    | cons c cs =>
      rw [hchars] at hrest
      have hc : isBit c = true := hrest c List.mem_cons_self
      have hsign : ¬(c = '+' ∨ c = '-') := by
        rintro (rfl | rfl) <;> cases hc
      unfold zfill
      rw [String.toList_ofList]
      dsimp only
      rw [if_neg hsign]
      refine ⟨_, py.intBase2_of_isBinary (isBinary_ofList.mpr fun c' hc' => ?_) fun hempty => ?_⟩
      · rcases List.mem_append.mp hc' with hzero | hdigit
        · rw [List.eq_of_mem_replicate hzero]
          rfl
        · exact hrest c' hdigit
      · have hnil := congrArg String.toList hempty
        rw [String.toList_ofList] at hnil
        exact List.append_ne_nil_of_right_ne_nil _ (List.cons_ne_nil _ _) hnil
  · refine ⟨_, py.intBase2_of_isBinary (isBinary_ofList.mpr hrest) fun hempty => ?_⟩
    have hnil := congrArg String.toList hempty
    rw [String.toList_ofList] at hnil
    rw [hnil] at hlong
    simp at hlong

theorem exists_intBase2 (h : Readable py words) {i : ℕ} {word : String} (hword : words[i]? = some word) :
    ∃ n, py.intBase2 word = .ok n := h word (List.mem_of_getElem? hword)

theorem textOf_set_ne (m : Message) {k j : String} (h : k ≠ j) (v : Value) : textOf (Dict.set m k v) j = textOf m j := by
  unfold textOf
  rw [Dict.get?_set_ne _ _ h]

/-! ### Steps -/

theorem decodeTypes_cases (h : Readable py words) (flags : ℕ) :
    (∃ m, decodeTypes py words flags = .ok m ∧
        ∀ messageType, textOf m "message_type" = some messageType → NamesType py words flags messageType) ∨
      decodeTypes py words flags = .error .valueError ∧ UnknownCommandType py words flags := by
  unfold decodeTypes
  cases hword : words[1]? with
  | none => exact .inl ⟨[], rfl, nofun⟩
  | some word =>
    obtain ⟨n, hn⟩ := exists_intBase2 h hword
    have hnames : ∀ messageType,
        textOf (if flags.testBit 0 then [("message_type", Value.str (messageTypeName (bitField n 0 7)))] else [])
          "message_type" = some messageType → NamesType py words flags messageType := by
      intro messageType htext
      split_ifs at htext with hflag
      · exact ⟨hflag, word, n, hword, hn, (Option.some.inj htext).symm⟩
      · cases htext
    dsimp only [bind, Except.bind]
    rw [hn]
    dsimp only
    cases hflag : flags.testBit 1 with
    | false => exact .inl ⟨_, rfl, hnames⟩
    | true =>
      cases hname : commandTypeName (bitField n 8 15) with
      | none => exact .inr ⟨rfl, hflag, word, n, hword, hn, hname⟩
      | some name =>
        refine .inl ⟨_, rfl, fun messageType htext => hnames messageType ?_⟩
        rw [textOf_set_ne _ (by decide)] at htext
        exact htext

theorem transferKey_ne {transferType : ℕ} {k : String} (h : transferKey transferType = some k) : k ≠ "message_type" := by
  unfold transferKey at h
  split_ifs at h
  have hmem : k ∈ transferKeys := List.mem_of_getElem? h
  have hall : ∀ k ∈ transferKeys, k ≠ "message_type" := by decide
  exact hall k hmem

theorem decodeTransfer_ok (h : Readable py words) (metadata : Message) :
    ∃ m current, decodeTransfer py words metadata = .ok (m, current) ∧ current ≤ 3 ∧
      textOf m "message_type" = textOf metadata "message_type" := by
  unfold decodeTransfer
  cases hword : words[2]? with
  | none => exact ⟨metadata, 2, rfl, by omega, rfl⟩
  | some word =>
    obtain ⟨n, hn⟩ := exists_intBase2 h hword
    dsimp only [bind, Except.bind]
    rw [hn]
    dsimp only
    cases hkey : transferKey (bitField n 0 1) with
    | none => exact ⟨metadata, 2, rfl, by omega, rfl⟩
    | some k =>
      refine ⟨_, 3, rfl, le_rfl, ?_⟩
      rw [textOf_set_ne _ (by decide), textOf_set_ne _ (by decide), textOf_set_ne _ (transferKey_ne hkey)]

/-- Where the flags are unset, there are no more words. -/
theorem decodeExtended_ok (h : Readable py words) (current : ℕ) (metadata : Message) :
    ∃ m current' flags, decodeExtended py words current metadata = .ok (m, current', flags) ∧
      (flags = none → words.length ≤ current ∧ current' = current) ∧
      textOf m "message_type" = textOf metadata "message_type" := by
  unfold decodeExtended
  cases hword : words[current]? with
  | none => exact ⟨metadata, current, none, rfl, fun _ => ⟨List.getElem?_eq_none_iff.mp hword, rfl⟩, rfl⟩
  | some word =>
    obtain ⟨n, hn⟩ := exists_intBase2 h hword
    dsimp only [bind, Except.bind]
    rw [hn]
    dsimp only
    split_ifs with hzero hmode hvalue hvalue
    · exact ⟨_, _, _, rfl, nofun, rfl⟩
    · refine ⟨_, _, _, rfl, nofun, ?_⟩
      rw [textOf_set_ne _ (by decide), textOf_set_ne _ (by decide)]
    · refine ⟨_, _, _, rfl, nofun, ?_⟩
      rw [textOf_set_ne _ (by decide)]
    · refine ⟨_, _, _, rfl, nofun, ?_⟩
      rw [textOf_set_ne _ (by decide)]
    · exact ⟨_, _, _, rfl, nofun, rfl⟩

theorem decodeCommandName_ok (h : Readable py words) (flags current : ℕ) (metadata : Message) :
    ∃ m current', decodeCommandName py words flags current metadata = .ok (m, current') ∧ current ≤ current' ∧
      textOf m "message_type" = textOf metadata "message_type" := by
  unfold decodeCommandName
  cases hflag : flags.testBit 2 with
  | false => exact ⟨metadata, current, rfl, le_rfl, rfl⟩
  | true =>
    cases hword : words[current]? with
    | none => exact ⟨metadata, current, rfl, le_rfl, rfl⟩
    | some word =>
      obtain ⟨n, hn⟩ := exists_intBase2 h hword
      dsimp only [bind, Except.bind]
      rw [hn]
      dsimp only
      cases resolveCommandName py (Dict.set metadata "command_name_hash" (.int n)) n with
      | none =>
        refine ⟨_, _, rfl, Nat.le_succ current, ?_⟩
        rw [textOf_set_ne _ (by decide)]
      | some name =>
        refine ⟨_, _, rfl, Nat.le_succ current, ?_⟩
        rw [textOf_set_ne _ (by decide), textOf_set_ne _ (by decide)]

/-- The flags are read where there is a word only. -/
theorem decodeRequestId_ok (h : Readable py words) (current : ℕ) (flags : Option ℕ)
    (hflags : flags = none → words.length ≤ current)
    (metadata : Message) :
    ∃ m, decodeRequestId py words current flags metadata = .ok m ∧
      textOf m "message_type" = textOf metadata "message_type" := by
  unfold decodeRequestId
  cases hword : words[current]? with
  | none => exact ⟨metadata, rfl, rfl⟩
  | some word =>
    obtain ⟨n, hn⟩ := exists_intBase2 h hword
    obtain ⟨hlt, -⟩ := List.getElem?_eq_some_iff.mp hword
    cases flags with
    | none => exact absurd (hflags rfl) (not_le.mpr hlt)
    | some flags =>
      dsimp only [bind, Except.bind]
      rw [hn]
      dsimp only
      split_ifs with hflag
      · refine ⟨_, rfl, ?_⟩
        rw [textOf_set_ne _ (by decide), textOf_set_ne _ (by decide)]
      · refine ⟨_, rfl, ?_⟩
        rw [textOf_set_ne _ (by decide)]

/-- The flags are read where there are four words only. -/
theorem decodePrecipitation_ok (py : Runtime) (words : List String) (flags : Option ℕ)
    (hflags : flags = none → words.length ≤ 3)
    (metadata : Message) :
    ∃ m, decodePrecipitation py words flags metadata = .ok m ∧
      textOf m "message_type" = textOf metadata "message_type" := by
  unfold decodePrecipitation
  split_ifs with hdata
  · cases flags with
    | none =>
      have hfew := hflags rfl
      omega
    | some flags =>
      dsimp only
      cases decodedPoints py (words.drop (if 0 < flags then 3 else 2)) with
      | nil => exact ⟨metadata, rfl, rfl⟩
      | cons point points =>
        refine ⟨_, rfl, ?_⟩
        rw [textOf_set_ne _ (by decide)]
  · exact ⟨metadata, rfl, rfl⟩

theorem actualIndex_lt {length i : ℕ} {wordIndex : ℤ} (h : actualIndex length wordIndex = some i) : i < length := by
  unfold actualIndex at h
  dsimp only at h
  split_ifs at h with hindex hrange hrange
  · cases h
    omega
  · cases h
    omega

theorem extractBitRange_error {bits : BitsInfo} {e : Exception} (h : extractBitRange bits = .error e) :
    e = .valueError := by
  cases bits with
  | all => cases h
  | range start stop =>
    unfold extractBitRange at h
    dsimp only at h
    split_ifs at h
    cases h
    rfl
  | single bit =>
    cases h
    rfl

theorem extractField_error (h : Readable py words) {fields : Message} {d : FieldDef} {e : Exception}
    (herror : extractField py words fields d = .error e) :
    (actualIndex words.length d.wordIndex).isSome = true ∧ extractBitRange d.bits = .error .valueError ∧
      e = .valueError := by
  unfold extractField at herror
  cases hindex : actualIndex words.length d.wordIndex with
  | none =>
    rw [hindex] at herror
    cases herror
  | some i =>
    obtain ⟨word, hword⟩ : ∃ word, words[i]? = some word := ⟨_, List.getElem?_eq_getElem (actualIndex_lt hindex)⟩
    obtain ⟨n, hn⟩ := exists_intBase2 h hword
    rw [hindex] at herror
    dsimp only [bind, Except.bind] at herror
    rw [List.getD_eq_getElem?_getD, hword, Option.getD_some] at herror
    cases hbits : extractBitRange d.bits with
    | error e' =>
      rw [hbits] at herror
      cases herror
      have he := extractBitRange_error hbits
      exact ⟨rfl, by rw [he], he⟩
    | ok range =>
      rw [hbits] at herror
      dsimp only at herror
      rw [hn] at herror
      cases herror

theorem foldlM_extractField_error (h : Readable py words) {ds : List FieldDef} {fields : Message} {e : Exception}
    (herror : ds.foldlM (extractField py words) fields = .error e) :
    (∃ d ∈ ds, (actualIndex words.length d.wordIndex).isSome = true ∧ extractBitRange d.bits = .error .valueError) ∧
      e = .valueError := by
  induction ds generalizing fields with
  | nil => cases herror
  | cons d ds ih =>
    rw [List.foldlM_cons] at herror
    cases hfield : extractField py words fields d with
    | error e' =>
      rw [hfield] at herror
      cases herror
      obtain ⟨hindex, hbits, he⟩ := extractField_error h hfield
      exact ⟨⟨d, List.mem_cons_self, hindex, hbits⟩, he⟩
    | ok fields' =>
      rw [hfield] at herror
      obtain ⟨⟨d', hd', hbad⟩, he⟩ := ih herror
      exact ⟨⟨d', List.mem_cons_of_mem _ hd', hbad⟩, he⟩

theorem decodeSchema_error (h : Readable py words)
    (hnames : ∀ messageType, textOf metadata "message_type" = some messageType → NamesType py words flags messageType)
    {e : Exception} (herror : decodeSchema py words metadata = .error e) :
    e = .valueError ∧ BadBitRange py words flags := by
  unfold decodeSchema at herror
  cases hschema : (textOf metadata "message_type").bind (Dict.get? messageSchemas) with
  | none =>
    rw [hschema] at herror
    cases herror
  | some schema =>
    rw [hschema] at herror
    obtain ⟨messageType, htext, hget⟩ := Option.bind_eq_some_iff.mp hschema
    dsimp only at herror
    cases hfields : extractFields py schema words with
    | ok fields =>
      rw [hfields] at herror
      cases herror
    | error e' =>
      rw [hfields] at herror
      cases herror
      obtain ⟨hbad, he⟩ := foldlM_extractField_error h hfields
      exact ⟨he, messageType, schema, hnames messageType htext, hget, hbad⟩

theorem decodeFields_error (h : Readable py words) {e : Exception} (herror : decodeFields py words flags = .error e) :
    e = .valueError ∧ (UnknownCommandType py words flags ∨ BadBitRange py words flags) := by
  unfold decodeFields at herror
  dsimp only [bind, Except.bind] at herror
  rcases decodeTypes_cases h flags with ⟨types, htypes, hnames⟩ | ⟨htypes, hunknown⟩
  · obtain ⟨transfer, current, htransfer, hcurrent, htype₁⟩ := decodeTransfer_ok h types
    obtain ⟨extended, current', extFlags, hextended, hunset, htype₂⟩ := decodeExtended_ok h current transfer
    obtain ⟨named, current'', hnamed, hle, htype₃⟩ := decodeCommandName_ok h flags current' extended
    have hrequest : extFlags = none → words.length ≤ current'' := by
      intro hnone
      obtain ⟨hlength, hsame⟩ := hunset hnone
      omega
    obtain ⟨requested, hrequested, htype₄⟩ := decodeRequestId_ok h _ _ hrequest named
    have hfew : extFlags = none → words.length ≤ 3 := by
      intro hnone
      obtain ⟨hlength, -⟩ := hunset hnone
      omega
    obtain ⟨precipitation, hprecipitation, htype₅⟩ := decodePrecipitation_ok py _ _ hfew requested
    rw [htypes] at herror
    dsimp only at herror
    rw [htransfer] at herror
    dsimp only at herror
    rw [hextended] at herror
    dsimp only at herror
    rw [hnamed] at herror
    dsimp only at herror
    rw [hrequested] at herror
    dsimp only at herror
    rw [hprecipitation] at herror
    have hdecoded : ∀ messageType, textOf precipitation "message_type" = some messageType →
        NamesType py words flags messageType := by
      intro messageType htext
      apply hnames
      rw [← htext, htype₅, htype₄, htype₃, htype₂, htype₁]
    obtain ⟨he, hbad⟩ := decodeSchema_error h hdecoded herror
    exact ⟨he, .inr hbad⟩
  · rw [htypes] at herror
    cases herror
    exact ⟨rfl, .inl hunknown⟩

end Words

/-- On words of sixteen binary digits or more, `decode_metadata` reads no variable that is unset and no word that is not
there: what it raises is a value error for an unknown command type or for bits that are no range. -/
theorem decodeMetadata_error (py : Runtime) {words : List String}
    (hwords : ∀ w ∈ words, 16 ≤ w.length ∧ isBinary w = true) :
    (∀ e, decodeMetadata py words = .error e → e = .valueError ∧ ∃ first header,
        (words.map cleanWord)[0]? = some first ∧ py.intBase2 first = .ok header ∧
          (UnknownCommandType py (words.map cleanWord) (bitField header 0 7) ∨
            BadBitRange py (words.map cleanWord) (bitField header 0 7))) ∧
      ∀ wordIndex i, actualIndex (words.map cleanWord).length wordIndex = some i → i < (words.map cleanWord).length := by
  refine ⟨fun e herror => ?_, fun _ _ => actualIndex_lt⟩
  have hreadable : Readable py (words.map cleanWord) := by
    intro w hw
    obtain ⟨word, hword, rfl⟩ := List.mem_map.mp hw
    obtain ⟨hlength, hbinary⟩ := hwords word hword
    exact intBase2_cleanWord py hbinary hlength
  unfold decodeMetadata at herror
  cases hclean : words.map cleanWord with
  | nil =>
    rw [hclean] at herror
    cases herror
  | cons first rest =>
    rw [hclean] at herror hreadable
    obtain ⟨header, hheader⟩ := hreadable first List.mem_cons_self
    dsimp only [bind, Except.bind] at herror
    rw [hheader] at herror
    dsimp only at herror
    split_ifs at herror with hskip
    · cases herror
    · obtain ⟨he, hraised⟩ := decodeFields_error hreadable herror
      exact ⟨he, first, header, rfl, hheader, hraised⟩

/-- A header with the flag of a command type, and a type word without a code. -/
def headerWithoutType : List String := ["0000001000100000010", "0000000000000000000"]

theorem decodeMetadata_error_of_header :
    decodeMetadata Runtime.ascii headerWithoutType = .error .valueError ∧
      ∃ first header, (headerWithoutType.map cleanWord)[0]? = some first ∧ Runtime.ascii.intBase2 first = .ok header ∧
        (UnknownCommandType Runtime.ascii (headerWithoutType.map cleanWord) (bitField header 0 7) ∨
          BadBitRange Runtime.ascii (headerWithoutType.map cleanWord) (bitField header 0 7)) := by
  have herror : decodeMetadata Runtime.ascii headerWithoutType = .error .valueError := by decide +kernel
  exact ⟨herror, ((decodeMetadata_error Runtime.ascii (by decide +kernel)).1 _ herror).2⟩

end Fmofp.Metadata
