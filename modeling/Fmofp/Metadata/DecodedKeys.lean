import Fmofp.Metadata.DecodeErrors
import Fmofp.Metadata.FieldRoundTrip

/-! What `decode_metadata` leaves under the keys of the types, of the mode and of the block transfer: each step
writes some of them, and the steps after it keep what stands there. -/

namespace Fmofp.Metadata

open Python Machine

/-- The keys that the types, the mode and the block transfer are found under. -/
def trackedKeys : List String := ["message_type", "command_type", "mode"] ++ transferKeys

/-- The dictionaries agree on the tracked keys. -/
def Agree (m m' : Message) : Prop := ∀ k ∈ trackedKeys, Dict.get? m' k = Dict.get? m k

theorem Agree.refl (m : Message) : Agree m m := fun _ _ => rfl

theorem Agree.trans {a b c : Message} (hab : Agree a b) (hbc : Agree b c) : Agree a c :=
  fun k hk => (hbc k hk).trans (hab k hk)

theorem Agree.set {m : Message} {k : String} (h : k ∉ trackedKeys) (v : Value) : Agree m (Dict.set m k v) := by
  intro j hj
  apply Dict.get?_set_ne
  rintro rfl
  exact h hj

section Steps

variable {py : Runtime} {words : List String} {flags current : ℕ} {metadata : Message} {n : ℕ}

theorem bitField_eq (n start stop : ℕ) : bitField n start stop = bitRange n start (stop + 1 - start) := by
  rw [bitField, extractBits_natCast, Int.toNat_natCast]

theorem bitField_low (n : ℕ) : bitField n 0 7 = n % 256 := by
  rw [bitField_eq, bitRange, pow_zero, Nat.div_one]
  norm_num

theorem bitField_high (n : ℕ) : bitField n 8 15 = n / 256 % 256 := bitField_eq n 8 15

theorem bitField_transfer (n : ℕ) : bitField n 0 1 = n % 4 := by
  rw [bitField_eq, bitRange, pow_zero, Nat.div_one]
  norm_num

theorem decodeTypes_eq {word : String} (hword : words[1]? = some word) (hn : py.intBase2 word = .ok (n : ℤ))
    (htype : flags.testBit 0 = true) (hcommand : flags.testBit 1 = true) :
    decodeTypes py words flags = match commandTypeName (n / 256 % 256) with
      | some s => .ok [("message_type", .str (messageTypeName (n % 256))), ("command_type", .str s)]
      | none => .error .valueError := by
  unfold decodeTypes
  rw [hword]
  dsimp only [bind, Except.bind]
  rw [hn]
  simp only [htype, hcommand, if_true, bitField_low, bitField_high]
  cases commandTypeName (n / 256 % 256) with
  | none => rfl
  | some s => rfl

variable (metadata) in
/-- The third word gives a key of the block transfer where its low bits name a type. -/
theorem decodeTransfer_eq {word : String} (hword : words[2]? = some word) (hn : py.intBase2 word = .ok (n : ℤ)) :
    ∃ m, decodeTransfer py words metadata = .ok (m, if transferKey (n % 4) = none then 2 else 3) ∧
      (∀ k ∉ transferKeys, k ∈ trackedKeys → Dict.get? m k = Dict.get? metadata k) ∧
      ∀ k ∈ transferKeys, Dict.has metadata k = false → Dict.has m k = decide (transferKey (n % 4) = some k) := by
  unfold decodeTransfer
  rw [hword]
  dsimp only [bind, Except.bind]
  rw [hn]
  dsimp only
  rw [bitField_transfer]
  cases hkey : transferKey (n % 4) with
  | none => exact ⟨metadata, rfl, fun _ _ _ => rfl, fun k _ hno => by rw [hno]; rfl⟩
  | some key =>
    have hmem : key ∈ transferKeys := by
      unfold transferKey at hkey
      split_ifs at hkey
      exact List.mem_of_getElem? hkey
    have htotals (m : Message) (v v' : Value) : Agree m (Dict.set (Dict.set m "total_messages" v) "total_frames" v') :=
      (Agree.set (by decide) v).trans (Agree.set (by decide) v')
    refine ⟨_, rfl, fun k hk htracked => ?_, fun k hk hno => ?_⟩
    · rw [htotals _ _ _ k htracked, Dict.get?_set_ne]
      rintro rfl
      exact hk hmem
    · rw [Dict.has, htotals _ _ _ k (List.mem_append_right _ hk), Dict.get?_set]
      by_cases hsame : key = k
      · simp [hsame]
      · rw [if_neg hsame, Dict.has_eq_false.mp hno]
        simp [hsame]

variable (metadata) in
/-- The extended word gives the mode that its flags are read as. -/
theorem decodeExtended_eq {word : String} (hword : words[current]? = some word) (hn : py.intBase2 word = .ok (n : ℤ)) :
    ∃ m current', decodeExtended py words current metadata = .ok (m, current', some (n / 256 % 256)) ∧
      (∀ k ≠ "mode", k ∈ trackedKeys → Dict.get? m k = Dict.get? metadata k) ∧
      Dict.getD m "mode" .none = if (n / 256 % 256).testBit 0 then decodedMode (n / 256 % 256)
        else Dict.getD metadata "mode" .none := by
  unfold decodeExtended
  rw [hword]
  dsimp only [bind, Except.bind]
  rw [hn]
  dsimp only
  rw [bitField_high]
  generalize n / 256 % 256 = found
  have hvalue (m : Message) (b : Bool) (v : Value) : Agree m (if b then Dict.set m "mode_value" v else m) := by
    cases b
    · exact Agree.refl m
    · exact Agree.set (by decide) v
  have hmode : "mode" ∈ trackedKeys := by decide
  by_cases hzero : found = 0
  · subst hzero
    exact ⟨_, _, rfl, fun _ _ _ => rfl, rfl⟩
  · rw [if_neg hzero]
    refine ⟨_, _, rfl, fun k hk htracked => ?_, ?_⟩
    · rw [hvalue _ _ _ k htracked]
      split_ifs
      · exact Dict.get?_set_ne _ _ (Ne.symm hk)
      · rfl
    · rw [Dict.getD, hvalue _ _ _ _ hmode]
      split_ifs
      · rw [Dict.get?_set_self, Option.getD_some]
      · rfl

theorem decodeCommandName_agree {m : Message} {current' : ℕ}
    (h : decodeCommandName py words flags current metadata = .ok (m, current')) : Agree metadata m := by
  unfold decodeCommandName at h
  split at h
  · obtain ⟨hash, -, h⟩ := bind_eq_ok h
    have hhash : Agree metadata (Dict.set metadata "command_name_hash" (.int hash)) := Agree.set (by decide) _
    dsimp only at h
    split at h
    · cases h
      exact hhash.trans (Agree.set (by decide) _)
    · cases h
      exact hhash
  · cases h
    exact Agree.refl _

theorem decodeRequestId_agree {m : Message} {extended : Option ℕ}
    (h : decodeRequestId py words current extended metadata = .ok m) : Agree metadata m := by
  unfold decodeRequestId at h
  split at h
  · cases h
    exact Agree.refl _
  · obtain ⟨hash, -, h⟩ := bind_eq_ok h
    have hhash : Agree metadata (Dict.set metadata "request_id_hash" (.int hash)) := Agree.set (by decide) _
    dsimp only at h
    split at h
    · cases h
    · cases h
      split_ifs
      · exact hhash.trans (Agree.set (by decide) _)
      · exact hhash

theorem decodePrecipitation_agree {m : Message} {extended : Option ℕ}
    (h : decodePrecipitation py words extended metadata = .ok m) : Agree metadata m := by
  unfold decodePrecipitation at h
  split_ifs at h
  · split at h
    · cases h
    · split at h
      · cases h
        exact Agree.refl _
      · cases h
        exact Agree.set (by decide) _
  · cases h
    exact Agree.refl _

end Steps

/-! ### The fields of the schema -/

section Fields

variable {py : Runtime} {words : List String} {ds : List FieldDef} {fields fields' : Message}

/-- A field of the schema writes its own key, and the mode where it is the value of one. -/
theorem extractField_get? {d : FieldDef} (h : extractField py words fields d = .ok fields') {k : String}
    (hk : k ≠ d.field) (hmode : k ≠ "mode" ∨ d.field ≠ "mode_value") :
    Dict.get? fields' k = Dict.get? fields k := by
  unfold extractField at h
  split at h
  · cases h
    rfl
  · obtain ⟨range, -, h⟩ := bind_eq_ok h
    obtain ⟨n, -, h⟩ := bind_eq_ok h
    cases h
    rw [Dict.get?_set_ne _ _ (Ne.symm hk)]
    split
    · rename_i hfield _
      exact Dict.get?_set_ne _ _ (Ne.symm (hmode.resolve_right (not_not.mpr (of_decide_eq_true hfield))))
    · rfl

theorem foldlM_extractField_get? (h : ds.foldlM (extractField py words) fields = .ok fields') {k : String}
    (hk : ∀ d ∈ ds, k ≠ d.field) (hmode : k ≠ "mode" ∨ ∀ d ∈ ds, d.field ≠ "mode_value") :
    Dict.get? fields' k = Dict.get? fields k := by
  induction ds generalizing fields with
  | nil =>
    cases h
    rfl
  | cons d ds ih =>
    rw [List.foldlM_cons] at h
    obtain ⟨next, hnext, h⟩ := bind_eq_ok h
    rw [ih h (fun d hd => hk d (List.mem_cons_of_mem _ hd))
        (hmode.imp_right fun hno d hd => hno d (List.mem_cons_of_mem _ hd)),
      extractField_get? hnext (hk d List.mem_cons_self) (hmode.imp_right fun hno => hno d List.mem_cons_self)]

/-- The value of the mode is read from its word, with the name of the mode beside it. -/
theorem foldlM_extractField_mode (h : ds.foldlM (extractField py words) fields = .ok fields')
    (hnames : (ds.map FieldDef.field).Nodup) (hmode : "mode" ∉ ds.map FieldDef.field) {d : FieldDef} (hd : d ∈ ds)
    (hfield : d.field = "mode_value") {i start stop : ℕ} (hindex : actualIndex words.length d.wordIndex = some i)
    (hbits : extractBitRange d.bits = .ok (start, stop)) {n : ℤ} (hn : py.intBase2 (words.getD i "") = .ok n) :
    Dict.get? fields' "mode_value" = some (.int (extractBits n start stop)) ∧
      Dict.get? fields' "mode" =
        ((Dict.get? modeNameMap (extractBits n start stop)).map Value.str).or (Dict.get? fields "mode") := by
  induction ds generalizing fields with
  | nil => cases hd
  | cons e ds ih =>
    rw [List.foldlM_cons] at h
    obtain ⟨next, hnext, hrest⟩ := bind_eq_ok h
    rw [List.map_cons, List.nodup_cons] at hnames
    rw [List.map_cons, List.mem_cons, not_or] at hmode
    rcases List.mem_cons.mp hd with rfl | hlater
    · -- the fields after that of the mode leave its two keys alone
      rw [hfield] at hnames hmode
      have hvalue : ∀ e ∈ ds, "mode_value" ≠ e.field := fun e he heq => hnames.1 (heq ▸ List.mem_map_of_mem he)
      have hname : ∀ e ∈ ds, "mode" ≠ e.field := fun e he heq => hmode.2 (heq ▸ List.mem_map_of_mem he)
      rw [foldlM_extractField_get? hrest hvalue (.inl (by decide)),
        foldlM_extractField_get? hrest hname (.inr fun e he => (hvalue e he).symm)]
      unfold extractField at hnext
      rw [hindex] at hnext
      dsimp only [bind, Except.bind] at hnext
      rw [hbits] at hnext
      dsimp only at hnext
      rw [hn] at hnext
      cases hnext
      rw [hfield, Dict.get?_set_self, Dict.get?_set_ne _ _ (by decide)]
      refine ⟨rfl, ?_⟩
      cases hname : Dict.get? modeNameMap (extractBits n start stop) with
      | none => rfl
      | some name => exact Dict.get?_set_self _ _ _
    · have hne : e.field ≠ "mode_value" := by
        intro heq
        exact hnames.1 (heq ▸ hfield ▸ List.mem_map_of_mem hlater)
      obtain ⟨hvalue, hname⟩ := ih hrest hnames.2 hmode.2 hlater
      refine ⟨hvalue, ?_⟩
      rw [hname, extractField_get? hnext hmode.1 (.inr hne)]

theorem mergeField_get? (m : Message) {e : String × Value} {k : String}
    (h : k ≠ e.1 ∨ Dict.getD m k .none ≠ .none) : Dict.get? (mergeField m e) k = Dict.get? m k := by
  unfold mergeField
  split_ifs with hnone
  · refine Dict.get?_set_ne _ _ ?_
    rintro rfl
    exact h.elim (fun hne => hne rfl) fun hsome => hsome hnone
  · rfl

theorem foldl_mergeField_get? {m : Message} {k : String}
    (h : Dict.get? fields k = none ∨ Dict.getD m k .none ≠ .none) :
    Dict.get? (fields.foldl mergeField m) k = Dict.get? m k := by
  induction fields generalizing m with
  | nil => rfl
  | cons e fields ih =>
    have hstep : k ≠ e.1 ∨ Dict.getD m k .none ≠ .none := by
      refine h.imp_left fun hnone heq => ?_
      rw [Dict.get?_cons, if_pos heq.symm] at hnone
      cases hnone
    have hkeep := mergeField_get? m hstep
    rw [List.foldl_cons, ih ?_, hkeep]
    rw [Dict.getD, hkeep]
    refine h.imp_left fun hnone => ?_
    rw [Dict.get?_cons] at hnone
    split_ifs at hnone
    exact hnone

theorem mergeFields_get? {m : Message} {k : String} (hk : k ≠ "mode")
    (h : Dict.get? fields k = none ∨ Dict.getD m k .none ≠ .none) :
    Dict.get? (mergeFields m fields) k = Dict.get? m k := by
  unfold mergeFields
  dsimp only
  split
  · split
    · rw [Dict.get?_set_ne _ _ (Ne.symm hk), foldl_mergeField_get? h]
    · exact foldl_mergeField_get? h
  · exact foldl_mergeField_get? h

/-- A schema writes the keys of its own fields, and the mode. -/
theorem extractFields_get? {schema : Schema} (h : extractFields py schema words = .ok fields) {k : String}
    (hk : k ∉ schema.dataStructure.map FieldDef.field) (hmode : k ≠ "mode") : Dict.get? fields k = none :=
  foldlM_extractField_get? h (fun _ hd heq => hk (heq ▸ List.mem_map_of_mem hd)) (.inl hmode)

end Fields

/-! ### The mode of the schema -/

/-- The bits of the last word that the value of the mode is read from. -/
def Schema.modeBits (schema : Schema) : Option ℕ :=
  (schema.fieldPosition "mode_value").bind fun d => if d.wordIndex = -1 then some d.bits.size else none

/-- The mode that the last word names. -/
def Schema.namedMode (schema : Schema) (last : ℕ) : Option String :=
  schema.modeBits.bind fun size => Dict.get? modeNameMap (last % 2 ^ size : ℕ)

theorem modeBits_table : ∀ e ∈ messageSchemas, ∀ d ∈ e.2.dataStructure, d.field = "mode_value" →
    d.wordIndex = -1 → d.bits = .range 0 (d.bits.size - 1) ∧ d.bits.size ∈ [3, 4, 8] := by
  decide +kernel

/-- The value of the mode stands in the lowest bits of the last word. -/
theorem modeBits_eq_some {messageType : String} {schema : Schema}
    (h : Dict.get? messageSchemas messageType = some schema) {size : ℕ} (hsize : schema.modeBits = some size) :
    ∃ d ∈ schema.dataStructure, schema.fieldPosition "mode_value" = some d ∧ d.field = "mode_value" ∧
      d.wordIndex = -1 ∧ extractBitRange d.bits = .ok (0, size - 1) ∧ size ∈ [3, 4, 8] := by
  unfold Schema.modeBits at hsize
  obtain ⟨d, hposition, hsize⟩ := Option.bind_eq_some_iff.mp hsize
  split_ifs at hsize with hlast
  cases hsize
  have hd : d ∈ schema.dataStructure := List.mem_of_find?_eq_some hposition
  have hfield : d.field = "mode_value" := by
    have hfound := List.find?_some hposition
    exact eq_of_beq hfound
  obtain ⟨hbits, hsizes⟩ := modeBits_table _ (Dict.mem_of_get?_eq_some h) d hd hfield hlast
  refine ⟨d, hd, hposition, hfield, hlast, ?_, hsizes⟩
  rw [hbits]
  generalize d.bits.size = size at hsizes
  simp only [List.mem_cons, List.not_mem_nil, or_false] at hsizes
  rcases hsizes with rfl | rfl | rfl <;> rfl

theorem transferKeys_no_field : ∀ e ∈ messageSchemas, ∀ k ∈ transferKeys,
    k ∉ e.2.dataStructure.map FieldDef.field := by
  decide +kernel

section Schemas

variable {py : Runtime} {words : List String} {m d : Message}

/-- What is there already is kept, but for the mode. -/
theorem decodeSchema_kept (h : decodeSchema py words m = .ok d) {k : String} (hk : k ≠ "mode")
    (hsome : Dict.getD m k .none ≠ .none) : Dict.get? d k = Dict.get? m k := by
  unfold decodeSchema at h
  split at h
  · cases h
    rfl
  · rename_i schema _
    cases hfields : extractFields py schema words with
    | error e =>
      rw [hfields] at h
      cases h
    | ok fields =>
      rw [hfields] at h
      cases h
      exact mergeFields_get? hk (.inr hsome)

theorem decodeSchema_transfer (h : decodeSchema py words m = .ok d) {k : String} (hk : k ∈ transferKeys) :
    Dict.get? d k = Dict.get? m k := by
  have hmode : k ≠ "mode" := by
    rintro rfl
    revert hk
    decide
  unfold decodeSchema at h
  split at h
  · cases h
    rfl
  · rename_i schema hschema
    obtain ⟨messageType, -, hget⟩ := Option.bind_eq_some_iff.mp hschema
    have hno := transferKeys_no_field _ (Dict.mem_of_get?_eq_some hget) k hk
    cases hfields : extractFields py schema words with
    | error e =>
      rw [hfields] at h
      cases h
    | ok fields =>
      rw [hfields] at h
      cases h
      exact mergeFields_get? hmode (.inl (extractFields_get? hfields hno hmode))

variable {messageType : String} {schema : Schema} (htype : textOf m "message_type" = some messageType)
  (hschema : Dict.get? messageSchemas messageType = some schema)

include htype hschema

/-- A range of bits that is spelled as one number raises. -/
theorem decodeSchema_ranges (h : decodeSchema py words m = .ok d) {field : FieldDef} (hfield : field ∈ schema.dataStructure)
    (hindex : (actualIndex words.length field.wordIndex).isSome = true) : field.bits.isSingle = false := by
  apply Bool.eq_false_iff.mpr
  intro hsingle
  obtain ⟨i, hi⟩ := Option.isSome_iff_exists.mp hindex
  have hbits : extractBitRange field.bits = .error .valueError := by
    cases hspelled : field.bits with
    | single bit => rfl
    | _ =>
      rw [hspelled] at hsingle
      exact Bool.noConfusion hsingle
  unfold decodeSchema at h
  rw [htype, Option.bind_some, hschema] at h
  dsimp only at h
  cases hfields : extractFields py schema words with
  | error e =>
    rw [hfields] at h
    cases h
  | ok fields =>
    refine foldlM_ne_ok hfield (fun before after hok => ?_) [] fields hfields
    unfold extractField at hok
    rw [hi] at hok
    dsimp only at hok
    rw [hbits] at hok
    cases hok

/-- Where all ranges are spelled as such, the schema gives the mode that the last word names. -/
theorem decodeSchema_mode (hreadable : Readable py words) (hranges : ∀ d ∈ schema.dataStructure, d.bits.isSingle = false)
    (hvalue : schema.modeBits = none → "mode_value" ∉ schema.dataStructure.map FieldDef.field) {last : ℕ}
    (hlength : 0 < words.length) (hlast : py.intBase2 (words.getD (words.length - 1) "") = .ok (last : ℤ)) :
    ∃ d, decodeSchema py words m = .ok d ∧
      Dict.getD d "mode" .none = (schema.namedMode last).elim (Dict.getD m "mode" .none) .str := by
  have hplaced := placed_of_get? hschema
  have hmode := hplaced.mode hranges
  unfold decodeSchema
  rw [htype, Option.bind_some, hschema]
  dsimp only
  cases hfields : extractFields py schema words with
  | error e =>
    obtain ⟨⟨field, hfield, -, hbad⟩, -⟩ := foldlM_extractField_error hreadable hfields
    obtain ⟨stop, hok, -⟩ := extractBitRange_of_spelled (hplaced.spelled field hfield) (hranges field hfield)
    rw [hbad] at hok
    cases hok
  | ok fields =>
    refine ⟨mergeFields m fields, rfl, ?_⟩
    unfold Schema.namedMode
    cases hsize : schema.modeBits with
    | none =>
      -- no field of the schema is the value of a mode
      have hno := hvalue hsize
      have hnone : Dict.get? fields "mode" = none :=
        foldlM_extractField_get? hfields (fun e he heq => hmode (heq ▸ List.mem_map_of_mem he))
          (.inr fun e he heq => hno (heq ▸ List.mem_map_of_mem he))
      have hvalue : Dict.get? fields "mode_value" = none := extractFields_get? hfields hno (by decide)
      rw [mergeFields, hvalue, Option.bind_none, Option.bind_none, Option.elim_none, Dict.getD,
        foldl_mergeField_get? (.inl hnone)]
      rfl
    | some size =>
      obtain ⟨field, hfield, -, hname, hindex, hbits, hsizes⟩ := modeBits_eq_some hschema hsize
      have hi : actualIndex words.length field.wordIndex = some (words.length - 1) := by
        rw [hindex]
        unfold actualIndex
        simp only [show ¬(0 : ℤ) ≤ -1 by norm_num, if_false]
        rw [if_pos (by omega)]
        congr 1
        omega
      obtain ⟨hread, hnamed⟩ := foldlM_extractField_mode hfields hplaced.names hmode hfield hname hi hbits hlast
      have hpos : 0 < size := by
        simp only [List.mem_cons, List.not_mem_nil, or_false] at hsizes
        omega
      have hextract : extractBits last 0 (size - 1) = (last % 2 ^ size : ℕ) := by
        rw [extractBits_natCast, bitRange, pow_zero, Nat.div_one, Nat.sub_zero, Nat.sub_add_cancel hpos]
      rw [hextract] at hread hnamed
      rw [mergeFields, hread, Option.bind_some, Option.bind_some]
      dsimp only [Value.int?]
      cases hmap : Dict.get? modeNameMap ((last % 2 ^ size : ℕ) : ℤ) with
      | none =>
        rw [hmap, Option.map_none, Option.none_or, Dict.get?_nil] at hnamed
        rw [Option.elim_none, Dict.getD, foldl_mergeField_get? (.inl hnamed)]
        rfl
      | some name => rw [Option.elim_some, Dict.getD_set_self]

end Schemas

/-! ### The steps together -/

/-- The word in the place is read as the number. -/
def ReadsAs (py : Runtime) (words : List String) (i n : ℕ) : Prop :=
  ∃ word, words[i]? = some word ∧ py.intBase2 word = .ok (n : ℤ)

/-- The mode that an extended word is read as. -/
def extendedMode (n : ℕ) : Value := if (n / 256 % 256).testBit 0 then decodedMode (n / 256 % 256) else .none

/-- What the steps before that of the schema leave: the types of the second word, a key of a block transfer from the
third one, and the mode from that one, or from the fourth one after such a key. -/
structure Found (m : Message) (types third fourth : ℕ) (commandType : String) : Prop where
  commandName : commandTypeName (types / 256 % 256) = some commandType
  messageType : Dict.get? m "message_type" = some (.str (messageTypeName (types % 256)))
  commandType : Dict.get? m "command_type" = some (.str commandType)
  transfer : ∀ k ∈ transferKeys, Dict.has m k = decide (transferKey (third % 4) = some k)
  mode : Dict.getD m "mode" .none = extendedMode (if transferKey (third % 4) = none then third else fourth)

theorem Found.agree {m m' : Message} {types third fourth : ℕ} {commandType : String}
    (h : Found m types third fourth commandType) (hagree : Agree m m') : Found m' types third fourth commandType where
  commandName := h.commandName
  messageType := (hagree _ (by decide)).trans h.messageType
  commandType := (hagree _ (by decide)).trans h.commandType
  transfer k hk := by rw [Dict.has, hagree k (List.mem_append_right _ hk), ← Dict.has, h.transfer k hk]
  mode := by rw [Dict.getD, hagree _ (by decide), ← Dict.getD, h.mode]

section Together

variable {py : Runtime} {words : List String} {flags types third fourth : ℕ} (hreadable : Readable py words)
  (htypes : ReadsAs py words 1 types) (hthird : ReadsAs py words 2 third) (hfourth : ReadsAs py words 3 fourth)
  (htype : flags.testBit 0 = true) (hcommand : flags.testBit 1 = true)

include htypes htype hcommand

theorem decodeFields_unknown (h : commandTypeName (types / 256 % 256) = none) :
    decodeFields py words flags = .error .valueError := by
  obtain ⟨word, hword, hn⟩ := htypes
  unfold decodeFields
  rw [decodeTypes_eq hword hn htype hcommand, h]
  rfl

include hreadable hthird hfourth

/-- Only the step of the schema is left. -/
theorem decodeFields_found {commandType : String} (h : commandTypeName (types / 256 % 256) = some commandType) :
    ∃ m, Found m types third fourth commandType ∧ decodeFields py words flags = decodeSchema py words m := by
  obtain ⟨word₁, hword₁, hn₁⟩ := htypes
  obtain ⟨word₂, hword₂, hn₂⟩ := hthird
  obtain ⟨word₃, hword₃, hn₃⟩ := hfourth
  have htypes := decodeTypes_eq hword₁ hn₁ htype hcommand
  rw [h] at htypes
  dsimp only at htypes
  set start : Message := [("message_type", .str (messageTypeName (types % 256))), ("command_type", .str commandType)]
    with hstart
  obtain ⟨transferred, htransfer, hkept, hkeys⟩ := decodeTransfer_eq start hword₂ hn₂
  obtain ⟨extendedWord, hextendedWord, hn⟩ : ∃ word, words[if transferKey (third % 4) = none then 2 else 3]? = some word ∧
      py.intBase2 word = .ok ((if transferKey (third % 4) = none then third else fourth : ℕ) : ℤ) := by
    split_ifs
    · exact ⟨word₂, hword₂, hn₂⟩
    · exact ⟨word₃, hword₃, hn₃⟩
  obtain ⟨extended, current, hextended, hkept', hmode⟩ := decodeExtended_eq transferred hextendedWord hn
  have hfound : Found extended types third fourth commandType := by
    refine ⟨h, ?_, ?_, fun k hk => ?_, ?_⟩
    · rw [hkept' _ (by decide) (by decide), hkept _ (by decide) (by decide)]
      rfl
    · rw [hkept' _ (by decide) (by decide), hkept _ (by decide) (by decide)]
      rfl
    · have hne : k ≠ "mode" := by
        rintro rfl
        revert hk
        decide
      have hno : Dict.has start k = false := by
        simp only [transferKeys, List.mem_cons, List.not_mem_nil, or_false] at hk
        rcases hk with rfl | rfl | rfl <;> rfl
      rw [Dict.has, hkept' k hne (List.mem_append_right _ hk), ← Dict.has, hkeys k hk hno]
    · have hnone : Dict.getD transferred "mode" .none = .none := by
        rw [Dict.getD, hkept _ (by decide) (by decide)]
        rfl
      rw [hmode, hnone]
      rfl
  obtain ⟨named, current', hnamed, -, -⟩ := decodeCommandName_ok hreadable flags current extended
  obtain ⟨requested, hrequested, -⟩ := decodeRequestId_ok hreadable current'
    (some ((if transferKey (third % 4) = none then third else fourth) / 256 % 256)) (by simp) named
  obtain ⟨precipitation, hprecipitation, -⟩ := decodePrecipitation_ok py words
    (some ((if transferKey (third % 4) = none then third else fourth) / 256 % 256)) (by simp) requested
  refine ⟨precipitation, ((hfound.agree (decodeCommandName_agree hnamed)).agree
    (decodeRequestId_agree hrequested)).agree (decodePrecipitation_agree hprecipitation), ?_⟩
  unfold decodeFields
  rw [htypes]
  dsimp only [bind, Except.bind]
  rw [htransfer]
  dsimp only
  rw [hextended]
  dsimp only
  rw [hnamed]
  dsimp only
  rw [hrequested]
  dsimp only
  rw [hprecipitation]

end Together

end Fmofp.Metadata
