import Fmofp.Metadata.Encode
import Fmofp.Python.Quantum

/-! The sections of encoded metadata: how many words each has, and when the numbers in them are words. -/

namespace Fmofp.Metadata

open Python

/-- What the words of metadata are made of. -/
structure Parts (py : Runtime) (m : Message) where
  schema : Schema
  typeWords : List ℤ
  transfer : List ℤ
  mode : ℤ
  precipitation : List ℤ
  vil : List ℤ
  schema_eq : schemaOf m = .ok schema
  typeWords_eq : applySchema schema [(typeWord m : ℤ)] (schemaFields py schema m) = .ok typeWords
  transfer_eq : transferWords m = .ok transfer
  mode_eq : modeWord py m = .ok mode
  precipitation_eq : precipitationWords py m = .ok precipitation
  vil_eq : vilWords py m = .ok vil

variable {py : Runtime} {m : Message}

namespace Parts

def names (_ : Parts py m) : List ℤ :=
  textWords py commandNameWords m "command_name" ++ textWords py requestIdWords m "request_id"

/-- The word of the extended flags and the mode. -/
def extended (p : Parts py m) : ℤ := Int.lor (extendedFlags p.schema m * 256) p.mode

def words (p : Parts py m) : List ℤ :=
  p.typeWords ++ p.extended :: (p.transfer ++ p.names) ++ p.precipitation ++ p.vil ++
    [(checksum py m : ℤ)]

end Parts

theorem schemas_first : ∀ e ∈ messageSchemas, e.2.metadataFields.take 4 =
    ["message_type", "command_type", "command_name", "request_id"] := by
  decide +kernel

theorem schemaOf_mem {schema : Schema} (h : schemaOf m = .ok schema) :
    ∃ s, Dict.getD m "message_type" .none = .str s ∧ (s, schema) ∈ messageSchemas := by
  unfold schemaOf at h
  split at h
  · rename_i s hs
    cases hget : Dict.get? messageSchemas s with
    | none => simp [hget] at h
    | some found =>
      simp only [hget, Except.ok.injEq] at h
      exact ⟨s, hs, h ▸ Dict.mem_of_get?_eq_some hget⟩
  · split at h <;> cases h

/-- Every schema has the four fields that all metadata have. -/
theorem schemaOf_fields {schema : Schema} (h : schemaOf m = .ok schema) {k : String}
    (hk : k ∈ ["message_type", "command_type", "command_name", "request_id"]) :
    k ∈ schema.metadataFields := by
  obtain ⟨s, -, hmem⟩ := schemaOf_mem h
  rw [← schemas_first _ hmem] at hk
  exact List.mem_of_mem_take hk

theorem extendedFlags_pos {schema : Schema} (h : schemaOf m = .ok schema) :
    0 < extendedFlags schema m := by
  have hrequest : schema.metadataFields.contains "request_id" = true :=
    List.contains_iff_mem.mpr (schemaOf_fields h (by simp))
  have hle : 8 ≤ extendedFlags schema m := by
    unfold extendedFlags
    simp only [hrequest, Bool.true_or, flagBit, if_true]
    exact (Nat.right_le_or.trans Nat.left_le_or).trans Nat.left_le_or
  omega

theorem applyField_length {schema : Schema} {words words' : List ℤ} {field : String × Value}
    (h : applyField schema words field = .ok words') : words'.length = words.length := by
  unfold applyField at h
  split at h
  · cases h
    rfl
  · split at h
    · cases h
      rfl
    · obtain ⟨range, -, h⟩ := bind_eq_ok h
      obtain ⟨word, -, h⟩ := bind_eq_ok h
      cases h
      exact List.length_set

theorem applySchema_length {schema : Schema} {fields : Message} {words words' : List ℤ}
    (h : applySchema schema words fields = .ok words') : words'.length = words.length := by
  unfold applySchema at h
  induction fields generalizing words with
  | nil =>
    cases h
    rfl
  | cons field rest ih =>
    rw [List.foldlM_cons] at h
    obtain ⟨next, hnext, h⟩ := bind_eq_ok h
    rw [ih h, applyField_length hnext]

/-- The words that metadata are encoded to. -/
theorem payload_parts {words : List ℤ} (h : payload py m = .ok words) :
    ∃ p : Parts py m, words = p.words := by
  unfold payload at h
  obtain ⟨schema, hschema, h⟩ := bind_eq_ok h
  obtain ⟨typeWords, htype, h⟩ := bind_eq_ok h
  obtain ⟨transfer, htransfer, h⟩ := bind_eq_ok h
  obtain ⟨mode, hmode, h⟩ := bind_eq_ok h
  obtain ⟨precipitation, hprecipitation, h⟩ := bind_eq_ok h
  obtain ⟨vil, hvil, h⟩ := bind_eq_ok h
  refine ⟨⟨schema, typeWords, transfer, mode, precipitation, vil, hschema, htype, htransfer, hmode,
    hprecipitation, hvil⟩, ?_⟩
  obtain ⟨word, rfl⟩ := List.length_eq_one_iff.mp (applySchema_length htype)
  cases h
  simp [Parts.words, Parts.extended, Parts.names, extendedFlags_pos hschema]

/-! ### The type word -/

theorem extractBits_bounds (w : ℤ) (start stop : ℕ) :
    0 ≤ extractBits w start stop * 2 ^ start ∧
      (0 ≤ w → extractBits w start stop * 2 ^ start ≤ w) ∧
      (w < 0 → w - extractBits w start stop * 2 ^ start < 0) := by
  unfold extractBits
  set a : ℤ := 2 ^ start
  set b : ℤ := 2 ^ (stop + 1 - start)
  have ha : 0 < a := by positivity
  have hb : 0 < b := by positivity
  have hmod := Int.emod_nonneg (w / a) hb.ne'
  have hlow : w / a * a ≤ w := Int.ediv_mul_le w ha.ne'
  have hhigh : w < (w / a + 1) * a := Int.lt_ediv_add_one_mul_self w ha
  have hsplit := Int.emod_add_mul_ediv (w / a) b
  refine ⟨by positivity, fun hw => ?_, fun hw => ?_⟩
  · have hq : 0 ≤ w / a := Int.ediv_nonneg hw ha.le
    have hle : w / a % b ≤ w / a := by
      have hquot : 0 ≤ b * (w / a / b) := by positivity
      omega
    exact (Int.mul_le_mul_of_nonneg_right hle ha.le).trans hlow
  · have hq : w / a < 0 := Int.ediv_neg_of_neg_of_pos hw ha
    have hqb : w / a / b < 0 := Int.ediv_neg_of_neg_of_pos hq hb
    have hdiff : w / a - w / a % b ≤ -b := by nlinarith
    nlinarith

theorem extractBitRange_le {b : BitsInfo} {start stop : ℕ}
    (h : extractBitRange b = .ok (start, stop)) : start ≤ stop ∧ stop ≤ 15 := by
  unfold extractBitRange at h
  split at h
  · cases h
    omega
  · split_ifs at h
    cases h
    omega
  · cases h

/-- A word stays one when bits are set, unless a negative number is put in. -/
theorem setBits_isWord {w w' n : ℤ} {v : Value} {start stop : ℕ} (hrange : start ≤ stop ∧ stop ≤ 15)
    (h : setBits w v start stop = .ok w') (hn : v.int? = some n) (hw : IsWord w ∨ w < 0) :
    (IsWord w' ↔ IsWord w ∧ 0 ≤ n) ∧ (IsWord w' ∨ w' < 0) := by
  unfold setBits at h
  rw [hn] at h
  simp only at h
  split_ifs at h with hfits
  cases h
  obtain ⟨hbits, hpos, hneg⟩ := extractBits_bounds w start stop
  have hcleared : IsWord (w - extractBits w start stop * 2 ^ start) ↔ IsWord w := by
    unfold IsWord at hw ⊢
    rcases hw with hw | hw
    · have hle := hpos hw.1
      omega
    · have hlt := hneg hw
      omega
  have hshifted : IsWord (n * 2 ^ start) ↔ 0 ≤ n := by
    have hpow : (2 : ℤ) ^ (stop + 1 - start) * 2 ^ start ≤ 65536 := by
      rw [← pow_add, Nat.sub_add_cancel (by omega)]
      calc (2 : ℤ) ^ (stop + 1) ≤ 2 ^ 16 := pow_le_pow_right₀ (by norm_num) (by omega)
        _ = 65536 := by norm_num
    have hstart : (0 : ℤ) < 2 ^ start := by positivity
    constructor
    · intro hword
      exact nonneg_of_mul_nonneg_left hword.1 hstart
    · intro hnonneg
      exact ⟨by positivity, by nlinarith⟩
  have hiff : IsWord (Int.lor (w - extractBits w start stop * 2 ^ start) (n * 2 ^ start)) ↔
      IsWord w ∧ 0 ≤ n := by
    rw [isWord_lor, hcleared, hshifted]
  refine ⟨hiff, ?_⟩
  by_cases hword : IsWord w ∧ 0 ≤ n
  · exact .inl (hiff.mpr hword)
  · refine .inr (not_le.mp fun hnonneg => hword ?_)
    obtain ⟨hleft, hright⟩ := (lor_nonneg_iff _ _).mp hnonneg
    rcases hw with hw | hw
    · have hstart : (0 : ℤ) < 2 ^ start := by positivity
      exact ⟨hw, nonneg_of_mul_nonneg_left hright hstart⟩
    · exact absurd hleft (not_le.mpr (hneg hw))

/-- A field that the schema puts into the type word, which is the only word then. -/
def effective (schema : Schema) (k : String) : Bool :=
  (schema.fieldPosition k).any fun d => (actualIndex 1 d.wordIndex).isSome

theorem applySchema_isWord {schema : Schema} {fields : Message} {w : ℤ} {words : List ℤ}
    (hw : IsWord w ∨ w < 0) (h : applySchema schema [w] fields = .ok words) :
    ∃ w', words = [w'] ∧ (IsWord w' ↔ IsWord w ∧
      ∀ e ∈ fields, effective schema e.1 = true → ∀ n, e.2.int? = some n → 0 ≤ n) := by
  unfold applySchema at h
  induction fields generalizing w with
  | nil =>
    cases h
    exact ⟨w, rfl, by simp⟩
  | cons field rest ih =>
    rw [List.foldlM_cons] at h
    obtain ⟨next, hnext, h⟩ := bind_eq_ok h
    have hkept (heff : effective schema field.1 = false) (hsame : next = [w]) :
        ∃ w', words = [w'] ∧ (IsWord w' ↔ IsWord w ∧
          ∀ e ∈ field :: rest, effective schema e.1 = true → ∀ n, e.2.int? = some n → 0 ≤ n) := by
      subst hsame
      obtain ⟨w', hw', hiff⟩ := ih hw h
      refine ⟨w', hw', hiff.trans (and_congr_right fun _ => ?_)⟩
      rw [List.forall_mem_cons]
      simp [heff]
    unfold applyField at hnext
    unfold effective at hkept
    cases hposition : schema.fieldPosition field.1 with
    | none =>
      simp only [hposition, Except.ok.injEq] at hnext
      exact hkept (by simp [hposition]) hnext.symm
    | some d =>
      simp only [hposition] at hnext
      cases hindex : actualIndex [w].length d.wordIndex with
      | none =>
        simp only [hindex, Except.ok.injEq] at hnext
        exact hkept (by simpa [hposition] using hindex) hnext.symm
      | some i =>
        simp only [hindex] at hnext
        obtain ⟨⟨start, stop⟩, hbits, hnext⟩ := bind_eq_ok hnext
        obtain ⟨w₁, hset, hnext⟩ := bind_eq_ok hnext
        have hi : i = 0 := by
          simp only [actualIndex, List.length_singleton] at hindex
          split_ifs at hindex
          · cases hindex
            omega
          · cases hindex
            omega
        subst hi
        cases hnext
        cases hint : field.2.int? with
        | none => simp [setBits, hint] at hset
        | some n =>
          obtain ⟨hiff₁, hw₁⟩ := setBits_isWord (extractBitRange_le hbits) hset hint hw
          obtain ⟨w', hw', hiff⟩ := ih hw₁ h
          refine ⟨w', hw', hiff.trans ?_⟩
          have heff : effective schema field.1 = true := by
            simpa [effective, hposition] using Option.isSome_iff_exists.mpr ⟨0, hindex⟩
          rw [hiff₁, List.forall_mem_cons]
          constructor
          · rintro ⟨⟨hword, hnonneg⟩, hrest⟩
            refine ⟨hword, fun _ n' hn' => ?_, hrest⟩
            rw [hint, Option.some.injEq] at hn'
            exact hn' ▸ hnonneg
          · rintro ⟨hword, hfirst, hrest⟩
            exact ⟨⟨hword, hfirst heff n hint⟩, hrest⟩

theorem codeOf_lt {table : Dict String ℕ} (htable : ∀ e ∈ table, e.2 < 128) (m : Message) (k : String) :
    codeOf table m k < 128 := by
  have hgetD (s : String) : Dict.getD table s 127 < 128 := by
    cases hget : Dict.get? table s with
    | none => simp [Dict.getD, hget]
    | some n =>
      have hmem := htable _ (Dict.mem_of_get?_eq_some hget)
      simpa [Dict.getD, hget] using hmem
  unfold codeOf
  split
  · split_ifs
    · omega
    · exact hgetD _
  · split_ifs <;> omega

theorem isWord_typeWord (m : Message) : IsWord (typeWord m : ℤ) := by
  have hmessage : messageTypeCode m < 128 := codeOf_lt (by decide +kernel) m _
  have hcommand : commandTypeCode m < 128 := codeOf_lt (by decide +kernel) m _
  rw [isWord_natCast]
  exact (or_lt_iff _ _ 16).mpr ⟨by omega, by omega⟩

/-- Of its own fields a schema puts into the type word only the parameter of a command. -/
theorem effective_fields : ∀ e ∈ messageSchemas, ∀ k ∈ e.2.metadataFields,
    effective e.2 k = true ↔ k = "command_parameter" := by
  decide +kernel

theorem mode_value_no_field : ∀ e ∈ messageSchemas, "mode_value" ∉ e.2.metadataFields := by
  decide +kernel

/-- What a field of the metadata puts into `schema_fields`. -/
def FieldSource (py : Runtime) (m : Message) (k : String) (e : String × Value) : Prop :=
  (e.1 = k ∧ Dict.get? m k = some e.2) ∨
    (e.1 = "mode_value" ∧ ∃ s n, Dict.get? m "mode" = some (.str s) ∧
      Dict.get? modeValueMap (py.upper s) = some n ∧ e.2 = .int n)

theorem schemaField_cases (py : Runtime) (m fields : Message) (k : String) :
    schemaField py m fields k = fields ∨
      ∃ e, FieldSource py m k e ∧ schemaField py m fields k = Dict.set fields e.1 e.2 := by
  unfold schemaField
  cases hget : Dict.get? m k with
  | none => exact .inl rfl
  | some v =>
    have hplain : ∃ e, FieldSource py m k e ∧ Dict.set fields k v = Dict.set fields e.1 e.2 :=
      ⟨(k, v), .inl ⟨rfl, hget⟩, rfl⟩
    split
    · exact .inl rfl
    · rename_i v' hv
      cases hv
      split
      · rename_i s hmode
        have hk : k = "mode" := by simpa using hmode
        subst hk
        cases hvalue : Dict.get? modeValueMap (py.upper s) with
        | none => exact .inl rfl
        | some n => exact .inr ⟨("mode_value", .int n), .inr ⟨rfl, s, n, hget, hvalue, rfl⟩, rfl⟩
      · exact .inr hplain

theorem mem_schemaFields {schema : Schema} {e : String × Value}
    (h : e ∈ schemaFields py schema m) : ∃ k ∈ schema.metadataFields, FieldSource py m k e := by
  have hfold (keys : List String) (fields : Message) (h : e ∈ keys.foldl (schemaField py m) fields) :
      e ∈ fields ∨ ∃ k ∈ keys, FieldSource py m k e := by
    induction keys generalizing fields with
    | nil => exact .inl h
    | cons k keys ih =>
      rcases ih _ h with hstep | ⟨j, hj, hsource⟩
      · rcases schemaField_cases py m fields k with heq | ⟨e', hsource, heq⟩
        · exact .inl (heq ▸ hstep)
        · rw [heq] at hstep
          rcases Dict.mem_set hstep with hnew | hold
          · exact .inr ⟨k, List.mem_cons_self, hnew ▸ hsource⟩
          · exact .inl hold
      · exact .inr ⟨j, List.mem_cons_of_mem _ hj, hsource⟩
  exact (hfold _ _ h).resolve_left List.not_mem_nil

/-- The parameter of a command stays what it is through all later fields. -/
theorem get?_schemaFields (py : Runtime) {schema : Schema} {k : String} {v : Value} (hk : k ≠ "mode")
    (hvalue : k ≠ "mode_value") (hmem : k ∈ schema.metadataFields) (hget : Dict.get? m k = some v) :
    Dict.get? (schemaFields py schema m) k = some v := by
  have hown (fields : Message) : schemaField py m fields k = Dict.set fields k v := by
    simp [schemaField, hget, hk]
  have hstep (fields : Message) (j : String) (h : Dict.get? fields k = some v) :
      Dict.get? (schemaField py m fields j) k = some v := by
    by_cases hj : j = k
    · rw [hj, hown, Dict.get?_set_self]
    · rcases schemaField_cases py m fields j with heq | ⟨e, hsource, heq⟩
      · rw [heq, h]
      · have hne : e.1 ≠ k := by
          rcases hsource with ⟨hsame, -⟩ | ⟨hmode, -⟩
          · exact hsame ▸ hj
          · exact hmode ▸ hvalue.symm
        rw [heq, Dict.get?_set_ne _ _ hne, h]
  have hkept (keys : List String) (fields : Message) (h : Dict.get? fields k = some v) :
      Dict.get? (keys.foldl (schemaField py m) fields) k = some v := by
    induction keys generalizing fields with
    | nil => exact h
    | cons j keys ih => exact ih _ (hstep _ _ h)
  obtain ⟨before, after, hsplit⟩ := List.append_of_mem hmem
  unfold schemaFields
  rw [hsplit, List.foldl_append, List.foldl_cons, hown]
  exact hkept _ _ (Dict.get?_set_self _ _ _)

/-- A mode that its name gives a value below zero. -/
def NegativeMode (py : Runtime) (m : Message) : Prop :=
  ∃ s, Dict.get? m "mode" = some (.str s) ∧ py.upper s = "INITIALIZING"

theorem modeValueMap_nonneg : ∀ e ∈ modeValueMap, e.1 ≠ "INITIALIZING" → 0 ≤ e.2 ∧ e.2 < 256 := by
  decide +kernel

/-- The type word of a message whose mode has a value stays a word if no negative number is put in. -/
theorem isWord_typeWords (p : Parts py m) (hmode : ¬NegativeMode py m) :
    (∀ w ∈ p.typeWords, IsWord w) ↔ ("command_parameter" ∈ p.schema.metadataFields →
      ∀ v n, Dict.get? m "command_parameter" = some v → v.int? = some n → 0 ≤ n) := by
  obtain ⟨s, -, hmem⟩ := schemaOf_mem p.schema_eq
  obtain ⟨w, hw, hiff⟩ := applySchema_isWord (.inl (isWord_typeWord m)) p.typeWords_eq
  rw [hw, List.forall_mem_singleton, hiff, and_iff_right (isWord_typeWord m)]
  constructor
  · intro h hfield v n hget hn
    have hentry := Dict.mem_of_get?_eq_some
      (get?_schemaFields py (by decide) (by decide) hfield hget)
    exact h _ hentry ((effective_fields _ hmem _ hfield).mpr rfl) n hn
  · intro h e he heff n hn
    obtain ⟨k, hk, ⟨hsame, hget⟩ | ⟨-, mode, value, hget, hvalue, hv⟩⟩ := mem_schemaFields he
    · rw [hsame] at heff
      have hparameter := (effective_fields _ hmem _ hk).mp heff
      subst hparameter
      exact h hk e.2 n hget hn
    · have hname : py.upper mode ≠ "INITIALIZING" := fun heq => hmode ⟨mode, hget, heq⟩
      have hbounds := modeValueMap_nonneg _ (Dict.mem_of_get?_eq_some hvalue) hname
      rw [hv] at hn
      cases hn
      exact hbounds.1

/-! ### The words of the flags, the mode and the block transfer -/

theorem getD_eq_str {k s : String} :
    Dict.getD m k .none = .str s ↔ Dict.get? m k = some (.str s) := by
  cases hget : Dict.get? m k <;> simp [Dict.getD, hget]

theorem extendedFlags_lt (schema : Schema) (m : Message) : extendedFlags schema m < 64 := by
  have hflag (b : Bool) {bit : ℕ} (hbit : bit < 2 ^ 6) : flagBit b bit < 2 ^ 6 := by
    cases b
    · exact Nat.two_pow_pos 6
    · exact hbit
  unfold extendedFlags
  refine (or_lt_iff _ _ 6).mpr ⟨(or_lt_iff _ _ 6).mpr ⟨(or_lt_iff _ _ 6).mpr ⟨?_, ?_⟩, ?_⟩, ?_⟩ <;>
    exact hflag _ (by norm_num)

/-- The mode is sent as a byte, but for the one with a value below zero. -/
theorem modeWord_byte {w : ℤ} (h : modeWord py m = .ok w) :
    (NegativeMode py m ∧ w = -1) ∨ (¬NegativeMode py m ∧ 0 ≤ w ∧ w < 256) := by
  unfold modeWord at h
  have hbyte (n : ℤ) : 0 ≤ n % 256 ∧ n % 256 < 256 := by omega
  have hnumber (hno : ∀ s, Dict.getD m "mode" .none ≠ .str s) : ¬NegativeMode py m := by
    rintro ⟨s, hget, -⟩
    exact hno s (getD_eq_str.mpr hget)
  split at h
  · rename_i hnone
    cases h
    refine .inr ⟨hnumber fun s hs => ?_, by decide⟩
    rw [hnone] at hs
    cases hs
  · rename_i s hs
    have hname : NegativeMode py m ↔ py.upper s = "INITIALIZING" := by
      rw [getD_eq_str] at hs
      constructor
      · rintro ⟨s', hs', hname⟩
        rw [hs] at hs'
        cases hs'
        exact hname
      · exact fun hname => ⟨s, hs, hname⟩
    rw [hname]
    cases hvalue : Dict.get? modeValueMap (py.upper s) with
    | some n =>
      simp only [hvalue, Except.ok.injEq] at h
      subst h
      by_cases hinit : py.upper s = "INITIALIZING"
      · rw [hinit] at hvalue
        cases hvalue
        exact .inl ⟨hinit, rfl⟩
      · exact .inr ⟨hinit, modeValueMap_nonneg _ (Dict.mem_of_get?_eq_some hvalue) hinit⟩
    | none =>
      simp only [hvalue] at h
      have hinit : py.upper s ≠ "INITIALIZING" := by
        intro heq
        rw [heq] at hvalue
        cases hvalue
      split_ifs at h
      cases hint : py.intBase10 s with
      | error e =>
        rw [hint] at h
        cases h
      | ok n =>
        rw [hint] at h
        cases h
        exact .inr ⟨hinit, hbyte n⟩
  · rename_i hno
    split at h
    · cases h
      exact .inr ⟨hnumber hno, hbyte _⟩
    · cases h

theorem isWord_modeWord {w : ℤ} (h : modeWord py m = .ok w) : IsWord w ↔ ¬NegativeMode py m := by
  rcases modeWord_byte h with ⟨hnegative, rfl⟩ | ⟨hmode, hbyte⟩
  · exact iff_of_false (by decide) (not_not.mpr hnegative)
  · exact iff_of_true ⟨hbyte.1, by omega⟩ hmode

theorem isWord_extended (p : Parts py m) : IsWord p.extended ↔ ¬NegativeMode py m := by
  have hflags := extendedFlags_lt p.schema m
  have hword : IsWord (extendedFlags p.schema m * 256 : ℤ) := by
    unfold IsWord
    omega
  unfold Parts.extended
  rw [isWord_lor, and_iff_right hword, isWord_modeWord p.mode_eq]

/-- A total of a block transfer that is not below zero. -/
def TotalFits (m : Message) (k : String) : Prop :=
  ∀ q, (Dict.getD m k (.int 0)).number? = some q → 0 ≤ q

theorem total_bounds {k : String} {bound n : ℤ} (hbound : 0 ≤ bound) (h : total m k bound = .ok n) :
    n ≤ bound ∧ (0 ≤ n ↔ TotalFits m k) := by
  unfold total at h
  simp only at h
  cases hnumber : (Dict.getD m k (.int 0)).number? with
  | none => simp [hnumber] at h
  | some q =>
    have hfits : TotalFits m k ↔ 0 ≤ q := by
      unfold TotalFits
      rw [hnumber]
      simp
    rw [hfits]
    simp only [hnumber] at h
    split_ifs at h with hlt
    · cases h
      have hq : (0 : ℚ) ≤ bound := by exact_mod_cast hbound
      exact ⟨le_refl _, iff_of_true hbound (hq.trans hlt.le)⟩
    · split at h
      · rename_i n' hint
        cases h
        have hq : q = n := by
          cases hv : Dict.getD m k (.int 0) with
          | bool b =>
            rw [hv] at hint hnumber
            cases b <;> cases hint <;> cases hnumber <;> norm_num
          | int i =>
            rw [hv] at hint hnumber
            cases hint
            cases hnumber
            rfl
          | _ => simp [hv, Value.int?] at hint
        rw [hq] at hlt ⊢
        exact ⟨by exact_mod_cast not_lt.mp hlt, by norm_cast⟩
      · cases h

theorem transferType_lt (m : Message) : transferType m < 4 := by
  unfold transferType
  split_ifs <;> omega

theorem isWord_transferWords {words : List ℤ} (h : transferWords m = .ok words) :
    (∀ w ∈ words, IsWord w) ↔
      (isTransfer m = true → TotalFits m "total_messages" ∧ TotalFits m "total_frames") := by
  unfold transferWords at h
  split_ifs at h with htransfer
  · cases hword : transferWord m with
    | error e => simp [hword, Except.map] at h
    | ok w =>
      rw [hword] at h
      cases h
      unfold transferWord at hword
      obtain ⟨messages, hmessages, hword⟩ := bind_eq_ok hword
      obtain ⟨frames, hframes, hword⟩ := bind_eq_ok hword
      cases hword
      obtain ⟨hle, hfits⟩ := total_bounds (by norm_num) hmessages
      obtain ⟨hle', hfits'⟩ := total_bounds (by norm_num) hframes
      have htype := transferType_lt m
      rw [List.forall_mem_singleton, isWord_lor, isWord_lor, ← hfits, ← hfits']
      unfold IsWord
      constructor
      · intro hwords _
        omega
      · intro hnonneg
        have hboth := hnonneg htransfer
        omega
  · cases h
    simp [htransfer]

/-! ### The words of the command name and the request id -/

/-- Codes of which every first one of a pair has eight bits and every second one sixteen. -/
def PairsFit : List ℕ → Prop
  | a :: b :: rest => (a < 256 ∧ b < 65536) ∧ PairsFit rest
  | _ => True

instance : ∀ codes, Decidable (PairsFit codes)
  | [] => .isTrue trivial
  | [_] => .isTrue trivial
  | _ :: _ :: rest => @instDecidableAnd _ _ inferInstance (instDecidablePairsFit rest)

theorem pairWords_length : ∀ codes : List ℕ, (pairWords codes).length = codes.length / 2
  | [] => rfl
  | [_] => by simp [pairWords]
  | _ :: _ :: rest => by
    simp only [pairWords, List.length_cons, pairWords_length rest]
    omega

theorem isWord_pairWords : ∀ codes : List ℕ, (∀ w ∈ pairWords codes, IsWord w) ↔ PairsFit codes
  | [] => by simp [pairWords, PairsFit]
  | [_] => by simp [pairWords, PairsFit]
  | a :: b :: rest => by
    simp only [pairWords, PairsFit, List.forall_mem_cons, isWord_pairWords rest]
    refine and_congr_left fun _ => ?_
    rw [isWord_natCast, show (65536 : ℕ) = 2 ^ 16 by norm_num, or_lt_iff]
    omega

theorem pairsFit_of_lt : ∀ {codes : List ℕ}, (∀ c ∈ codes, c < 256) → PairsFit codes
  | [], _ => trivial
  | [_], _ => trivial
  | a :: b :: rest, h => by
    have ha := h a (by simp)
    have hb := h b (by simp)
    exact ⟨⟨ha, by omega⟩, pairsFit_of_lt fun c hc => h c (by simp [hc])⟩

theorem utf8_lt {s : String} : ∀ c ∈ utf8 s, c < 256 := by
  intro c hc
  obtain ⟨char, -, hbyte⟩ := List.mem_flatMap.mp hc
  obtain ⟨byte, -, rfl⟩ := List.mem_map.mp hbyte
  exact byte.toNat_lt

theorem length_le_utf8 (s : String) : s.length ≤ (utf8 s).length := by
  unfold utf8
  rw [← String.length_toList, List.length_flatMap]
  induction s.toList with
  | nil => exact le_refl 0
  | cons c cs ih =>
    have hpos : 0 < c.utf8Size := Char.utf8Size_pos c
    simp only [List.length_cons, List.map_cons, List.sum_cons, List.length_map,
      String.length_utf8EncodeChar]
    simp only [List.length_map, String.length_utf8EncodeChar] at ih
    omega

theorem le_ljust_length (s : String) (w : ℕ) (c : Char) : w ≤ (ljust s w c).length := by
  simp only [ljust, String.length_ofList, List.length_append, String.length_toList,
    List.length_replicate]
  omega

theorem commandNameWords_length (name : String) : (commandNameWords name).length = 6 := by
  have hlength := (le_ljust_length (slice name 0 12) 12 (Char.ofNat 0)).trans (length_le_utf8 _)
  simp only [commandNameWords, List.length_append, pairWords_length, List.length_take,
    List.length_drop]
  omega

theorem isWord_commandNameWords (name : String) : ∀ w ∈ commandNameWords name, IsWord w := by
  intro w hw
  rcases List.mem_append.mp hw with hw | hw
  · exact (isWord_pairWords _).mpr
      (pairsFit_of_lt fun c hc => utf8_lt c (List.mem_of_mem_take hc)) w hw
  · exact (isWord_pairWords _).mpr
      (pairsFit_of_lt fun c hc => utf8_lt c (List.mem_of_mem_drop (List.mem_of_mem_take hc))) w hw

/-- The codes of a request id that are put into words without a mask. -/
def rawCodes (id : String) : List ℕ :=
  if isUuid id then
    (id.toList.map Char.toNat).take 4 ++ (id.toList.map Char.toNat).drop (id.length - 4)
  else []

theorem requestIdWords_length (id : String) : (requestIdWords id).length = 4 := by
  unfold requestIdWords
  split_ifs with huuid
  · have hlength : 36 ≤ id.length := by
      simp only [isUuid, Bool.and_eq_true, decide_eq_true_eq] at huuid
      exact huuid.1
    simp only [List.length_append, pairWords_length, List.length_take, List.length_drop,
      List.length_map, String.length_toList]
    omega
  · have hlength := (le_ljust_length (slice id 0 8) 8 (Char.ofNat 0)).trans (length_le_utf8 _)
    rw [pairWords_length, List.length_take]
    omega

theorem pairWords_append : ∀ {codes : List ℕ} (rest : List ℕ), codes.length % 2 = 0 →
    pairWords (codes ++ rest) = pairWords codes ++ pairWords rest
  | [], _, _ => rfl
  | [_], _, h => by simp at h
  | a :: b :: codes, rest, h => by
    have heven : codes.length % 2 = 0 := by
      simp only [List.length_cons] at h
      omega
    simp [pairWords, pairWords_append rest heven]

theorem isWord_requestIdWords (id : String) :
    (∀ w ∈ requestIdWords id, IsWord w) ↔ PairsFit (rawCodes id) := by
  unfold requestIdWords rawCodes
  split_ifs with huuid
  · have hlength : 36 ≤ id.length := by
      simp only [isUuid, Bool.and_eq_true, decide_eq_true_eq] at huuid
      exact huuid.1
    have heven : ((id.toList.map Char.toNat).take 4).length % 2 = 0 := by
      rw [List.length_take, List.length_map, String.length_toList]
      omega
    rw [← isWord_pairWords, pairWords_append _ heven]
  · rw [isWord_pairWords]
    generalize ljust (slice id 0 8) 8 (Char.ofNat 0) = padded
    have hfit : PairsFit ((utf8 padded).take 8) :=
      pairsFit_of_lt fun c hc => utf8_lt c (List.mem_of_mem_take hc)
    exact iff_of_true hfit (by simp [PairsFit])

theorem textWords_length (py : Runtime) (m : Message) {words : String → List ℤ} {n : ℕ} (h : ∀ s, (words s).length = n)
    (k : String) : (textWords py words m k).length = if m.flag k then n else 0 := by
  unfold textWords Message.flag
  cases Dict.get? m k with
  | none => rfl
  | some v => cases htruthy : v.truthy <;> simp [htruthy, h]

/-! ### The words of the data points -/

/-- A number of a data point that is above a bound. -/
def Exceeds (py : Runtime) (point : Message) (k : String) (bound : ℚ) : Prop :=
  ∀ q, toFloat py (Dict.getD point k (.int 0)) = .ok q → bound < q

theorem truncate_nonneg_iff (q : ℚ) : 0 ≤ truncate q ↔ -1 < q := by
  unfold truncate
  split_ifs with h
  · exact iff_of_true (Int.floor_nonneg.mpr h) (by linarith)
  · have hceil : 0 ≤ ⌈q⌉ ↔ -1 < q := by
      rw [show (0 : ℤ) = -1 + 1 by norm_num, Int.add_one_le_iff, Int.lt_ceil]
      norm_num
    exact hceil

theorem scaled_bounds {point : Message} {k : String} {scale : ℚ} {bound n : ℤ} (hscale : 0 < scale)
    (hbound : 0 ≤ bound) (h : scaled py point k scale bound = .ok n) :
    n ≤ bound ∧ (0 ≤ n ↔ Exceeds py point k (-1 / scale)) := by
  unfold scaled at h
  cases hfloat : toFloat py (Dict.getD point k (.int 0)) with
  | error e => simp [hfloat, Except.map] at h
  | ok q =>
    rw [hfloat] at h
    cases h
    refine ⟨min_le_left _ _, ?_⟩
    rw [le_min_iff, and_iff_right hbound, truncate_nonneg_iff, ← div_lt_iff₀ hscale]
    simp [Exceeds, hfloat]

theorem isWord_positionWord {point : Message} {w : ℤ} (h : positionWord py point = .ok w) :
    IsWord w := by
  have hlor (x y : ℤ) : IsWord (Int.lor (x % 256 * 256) (y % 256)) := by
    rw [isWord_lor]
    unfold IsWord
    omega
  have hpair (x y : Value) (rest : List Value)
      (h : (if rest = [] then do
        let x ← toFloat py x
        let y ← toFloat py y
        return Int.lor (truncate (x * 10) % 256 * 256) (truncate (y * 10) % 256)
      else .error .valueError : Except Exception ℤ) = .ok w) : IsWord w := by
    split_ifs at h
    obtain ⟨x', -, h⟩ := bind_eq_ok h
    obtain ⟨y', -, h⟩ := bind_eq_ok h
    cases h
    exact hlor _ _
  unfold positionWord at h
  split at h
  · exact hpair _ _ _ h
  · exact hpair _ _ _ h
  · cases h
    decide

theorem isWord_precipitationWord {point : Message} {w : ℤ} (h : precipitationWord py point = .ok w) :
    IsWord w ↔ Exceeds py point "rate" (-2) ∧ Exceeds py point "intensity" (-1 / 63) := by
  unfold precipitationWord at h
  obtain ⟨rate, hrate, h⟩ := bind_eq_ok h
  obtain ⟨intensity, hintensity, h⟩ := bind_eq_ok h
  cases h
  obtain ⟨hle, hfits⟩ := scaled_bounds (by norm_num) (by norm_num) hrate
  obtain ⟨hle', hfits'⟩ := scaled_bounds (by norm_num) (by norm_num) hintensity
  have htype : 0 ≤ precipitationTypeCode py point ∧ precipitationTypeCode py point ≤ 3 := by
    have htable : ∀ e ∈ precipitationTypes, 0 ≤ e.2 ∧ e.2 ≤ 3 := by decide
    unfold precipitationTypeCode
    split
    · unfold Dict.getD
      cases hget : Dict.get? precipitationTypes _ with
      | none => decide
      | some n => exact htable _ (Dict.mem_of_get?_eq_some hget)
    · decide
  rw [show (-2 : ℚ) = -1 / (1 / 2) by norm_num, ← hfits, ← hfits', isWord_lor, isWord_lor]
  unfold IsWord
  omega

theorem isWord_vilWord {point : Message} {w : ℤ} (h : vilWord py point = .ok w) :
    IsWord w ↔ Exceeds py point "value" (-1 / 10) ∧ Exceeds py point "intensity" (-1 / 63) := by
  unfold vilWord at h
  obtain ⟨value, hvalue, h⟩ := bind_eq_ok h
  obtain ⟨intensity, hintensity, h⟩ := bind_eq_ok h
  cases h
  obtain ⟨hle, hfits⟩ := scaled_bounds (by norm_num) (by norm_num) hvalue
  obtain ⟨hle', hfits'⟩ := scaled_bounds (by norm_num) (by norm_num) hintensity
  rw [← hfits, ← hfits', isWord_lor]
  unfold IsWord
  omega

/-- Each point has two words, of which the second is one if the numbers of the point allow it. -/
theorem pointWords_spec {value : Message → Except Exception ℤ} {Fits : Message → Prop}
    (hvalue : ∀ point w, value point = .ok w → (IsWord w ↔ Fits point)) {points : List Message}
    {words : List ℤ} (h : pointWords py value points = .ok words) :
    words.length = 2 * points.length ∧
      ((∀ w ∈ words, IsWord w) ↔ ∀ point ∈ points, Fits point) := by
  induction points generalizing words with
  | nil =>
    cases h
    simp
  | cons point rest ih =>
    unfold pointWords at h
    obtain ⟨position, hposition, h⟩ := bind_eq_ok h
    obtain ⟨w, hw, h⟩ := bind_eq_ok h
    obtain ⟨words', hwords, h⟩ := bind_eq_ok h
    cases h
    obtain ⟨hlength, hrest⟩ := ih hwords
    refine ⟨by simp [hlength]; omega, ?_⟩
    rw [List.forall_mem_cons, List.forall_mem_cons, List.forall_mem_cons, hrest, hvalue _ _ hw,
      and_iff_right (isWord_positionWord hposition)]

theorem checksum_lt (py : Runtime) (m : Message) : checksum py m < 65536 := by
  refine List.foldlRecOn (motive := fun acc => acc < 2 ^ 16) checksumKeys _ ?_ ?_
  · norm_num
  · intro acc hacc k _
    split
    · split_ifs
      · refine Nat.xor_lt_two_pow hacc ?_
        omega
      · exact hacc
    · exact hacc

end Fmofp.Metadata
