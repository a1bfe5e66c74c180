import Fmofp.Metadata.DecodedKeys
import Fmofp.Metadata.Sections

/-! The second word of the metadata: the codes of the two types, and in the low bits the value of the mode where the
schema puts it there. -/

namespace Fmofp.Metadata

open Python Machine

variable {py : Runtime} {m : Message}

/-- The value that the name of the mode stands for. -/
def modeValue (py : Runtime) (m : Message) : Option ℤ :=
  match Dict.get? m "mode" with
  | some (.str s) => Dict.get? modeValueMap (py.upper s)
  | _ => none

/-- The value that goes into the low bits of the type word, with the number of these bits. -/
def Schema.marking (schema : Schema) (py : Runtime) (m : Message) : Option (ℕ × ℤ) :=
  if "mode" ∈ schema.metadataFields then
    schema.modeBits.bind fun size => (modeValue py m).map fun v => (size, v)
  else none

/-- The code of the message type with the value of the mode in its low bits. -/
def Schema.markedCode (schema : Schema) (py : Runtime) (m : Message) : ℕ :=
  match schema.marking py m with
  | some (size, v) => messageTypeCode m / 2 ^ size * 2 ^ size + v.toNat
  | none => messageTypeCode m

/-! ### The fields that are put in -/

theorem nodup_schemaFields (py : Runtime) (schema : Schema) (m : Message) :
    ((schemaFields py schema m).map Prod.fst).Nodup := by
  unfold schemaFields
  refine List.foldlRecOn (motive := fun fields : Message => (fields.map Prod.fst).Nodup) _ _ List.nodup_nil ?_
  intro fields hfields k _
  rcases schemaField_cases py m fields k with heq | ⟨e, -, heq⟩
  · rw [heq]
    exact hfields
  · rw [heq]
    exact Dict.nodup_keys_set hfields _ _

theorem schemaField_of_ne (py : Runtime) (m fields : Message) {k : String} (hk : k ≠ "mode_value") (hmode : k ≠ "mode") :
    Dict.get? (schemaField py m fields k) "mode_value" = Dict.get? fields "mode_value" := by
  rcases schemaField_cases py m fields k with heq | ⟨e, hsource, heq⟩
  · rw [heq]
  · unfold schemaField at heq ⊢
    cases Dict.get? m k with
    | none => rfl
    | some v =>
      simp only [hmode, decide_false]
      exact Dict.get?_set_ne _ _ hk

/-- The mode goes in as its value, if it has one. -/
theorem schemaField_mode (py : Runtime) (m fields : Message) :
    Dict.get? (schemaField py m fields "mode") "mode_value" =
      ((modeValue py m).map Value.int).or (Dict.get? fields "mode_value") := by
  unfold schemaField modeValue
  cases hget : Dict.get? m "mode" with
  | none => rfl
  | some v =>
    cases v with
    | str s =>
      simp only [decide_true]
      cases Dict.get? modeValueMap (py.upper s) with
      | none => rfl
      | some n => exact Dict.get?_set_self _ _ _
    | _ => exact Dict.get?_set_ne _ _ (by decide)

variable (py m) in
theorem get?_modeValue {schema : Schema} {s : String} (hschema : Dict.get? messageSchemas s = some schema) :
    Dict.get? (schemaFields py schema m) "mode_value" =
      if "mode" ∈ schema.metadataFields then (modeValue py m).map Value.int else none := by
  have hno := mode_value_no_field _ (Dict.mem_of_get?_eq_some hschema)
  have hfold (keys : List String) (hkeys : "mode_value" ∉ keys) (fields : Message) :
      Dict.get? (keys.foldl (schemaField py m) fields) "mode_value" =
        if "mode" ∈ keys then ((modeValue py m).map Value.int).or (Dict.get? fields "mode_value")
        else Dict.get? fields "mode_value" := by
    induction keys generalizing fields with
    | nil => rfl
    | cons k keys ih =>
      rw [List.mem_cons, not_or] at hkeys
      rw [List.foldl_cons, ih hkeys.2]
      by_cases hk : k = "mode"
      · subst hk
        rw [schemaField_mode, if_pos List.mem_cons_self]
        split_ifs
        · cases (modeValue py m).map Value.int <;> rfl
        · rfl
      · rw [schemaField_of_ne py m fields (Ne.symm hkeys.1) hk]
        simp only [List.mem_cons, Ne.symm hk, false_or]
  rw [schemaFields, hfold _ hno]
  simp only [Dict.get?_nil, Option.or_none]

/-! ### The type word -/

theorem effective_modeBits : ∀ e ∈ messageSchemas, effective e.2 "mode_value" = e.2.modeBits.isSome := by
  decide +kernel

theorem applyField_of_not_effective {schema : Schema} {w : ℤ} {field : String × Value}
    (h : effective schema field.1 = false) : applyField schema [w] field = .ok [w] := by
  unfold effective at h
  unfold applyField
  cases hposition : schema.fieldPosition field.1 with
  | none => rfl
  | some d =>
    rw [hposition, Option.any_some, Option.isSome_eq_false_iff, Option.isNone_iff_eq_none] at h
    dsimp only
    rw [List.length_singleton, h]

theorem applySchema_of_not_effective {schema : Schema} {w : ℤ} {fields : Message}
    (h : ∀ e ∈ fields, effective schema e.1 = false) : applySchema schema [w] fields = .ok [w] := by
  unfold applySchema
  induction fields with
  | nil => rfl
  | cons e fields ih =>
    rw [List.foldlM_cons, applyField_of_not_effective (h e List.mem_cons_self)]
    exact ih fun e' he' => h e' (List.mem_cons_of_mem _ he')

/-- The only field that the schema puts in. -/
theorem applySchema_of_one {schema : Schema} {w : ℤ} {fields : Message} (hnodup : (fields.map Prod.fst).Nodup) {k : String}
    {v : Value} (hget : Dict.get? fields k = some v) (h : ∀ e ∈ fields, e.1 ≠ k → effective schema e.1 = false) :
    applySchema schema [w] fields = applyField schema [w] (k, v) := by
  obtain ⟨before, after, hsplit⟩ := List.append_of_mem (Dict.mem_of_get?_eq_some hget)
  rw [hsplit, List.map_append, List.map_cons, List.nodup_append] at hnodup
  obtain ⟨-, hafter, hbefore⟩ := hnodup
  rw [List.nodup_cons] at hafter
  have hfirst : ∀ e ∈ before, effective schema e.1 = false := by
    intro e he
    refine h e ?_ (hbefore _ (List.mem_map_of_mem he) _ List.mem_cons_self)
    rw [hsplit]
    exact List.mem_append_left _ he
  have hlast : ∀ e ∈ after, effective schema e.1 = false := by
    intro e he
    refine h e ?_ fun heq => hafter.1 (List.mem_map.mpr ⟨e, he, heq⟩)
    rw [hsplit]
    exact List.mem_append_right _ (List.mem_cons_of_mem _ he)
  have hstart := applySchema_of_not_effective (w := w) hfirst
  unfold applySchema at hstart ⊢
  rw [hsplit, List.foldlM_append, hstart]
  show (applyField schema [w] (k, v)).bind (after.foldlM (applyField schema)) = _
  cases hstep : applyField schema [w] (k, v) with
  | error e => rfl
  | ok words =>
    obtain ⟨w', rfl⟩ := List.length_eq_one_iff.mp (applyField_length hstep)
    exact applySchema_of_not_effective hlast

theorem schemaOf_get? {schema : Schema} (h : schemaOf m = .ok schema) {s : String}
    (htype : Dict.getD m "message_type" .none = .str s) : Dict.get? messageSchemas s = some schema := by
  unfold schemaOf at h
  rw [htype] at h
  dsimp only at h
  split at h
  · rename_i found hfound
    rw [hfound, Except.ok.inj h]
  · cases h

theorem messageTypeCode_lt (m : Message) : messageTypeCode m < 128 := codeOf_lt (by decide +kernel) m _

theorem commandTypeCode_lt (m : Message) : commandTypeCode m < 128 := codeOf_lt (by decide +kernel) m _

theorem typeWord_eq (m : Message) : typeWord m = commandTypeCode m * 256 + messageTypeCode m := by
  have hcode := messageTypeCode_lt m
  exact or_eq_add (k := 8) (by omega)

theorem lor_neg_one (w : ℤ) : Int.lor w (-1) = -1 := by
  cases w with
  | ofNat n =>
    have hzero : Nat.ldiff 0 n = 0 := by
      apply Nat.eq_of_testBit_eq
      intro j
      rw [Nat.testBit_ldiff, Nat.zero_testBit, Bool.false_and]
    show Int.negSucc (Nat.ldiff 0 n) = -1
    rw [hzero]
    rfl
  | negSucc n =>
    show Int.negSucc (n &&& 0) = -1
    rw [Nat.and_zero]
    rfl

theorem negativeMode_of_lt {v : ℤ} (h : modeValue py m = some v) (hv : v < 0) : v = -1 ∧ NegativeMode py m := by
  unfold modeValue at h
  split at h
  · rename_i s hmode
    have hname : py.upper s = "INITIALIZING" := by
      by_contra hne
      have hnonneg := (modeValueMap_nonneg _ (Dict.mem_of_get?_eq_some h) hne).1
      omega
    refine ⟨?_, s, hmode, hname⟩
    rw [hname] at h
    cases h
    rfl
  · cases h

/-- The codes of the two types, with the value of the mode in the low bits; a value below zero takes the whole word. -/
theorem typeWords_sent (p : Parts py m) {s : String} (hschema : Dict.get? messageSchemas s = some p.schema)
    (hparameter : "command_parameter" ∉ p.schema.metadataFields) :
    ∃ w, p.typeWords = [w] ∧ ((w = -1 ∧ NegativeMode py m) ∨
      w = (commandTypeCode m * 256 + p.schema.markedCode py m : ℕ) ∧ p.schema.markedCode py m < 256) := by
  have hmem := Dict.mem_of_get?_eq_some hschema
  have hcode := messageTypeCode_lt m
  have hvalue := get?_modeValue py m hschema
  have heffective := effective_modeBits _ hmem
  have hothers : ∀ e ∈ schemaFields py p.schema m, e.1 ≠ "mode_value" → effective p.schema e.1 = false := by
    intro e he hne
    obtain ⟨k, hk, ⟨hsame, -⟩ | ⟨hmode, -⟩⟩ := mem_schemaFields he
    · rw [hsame]
      apply Bool.eq_false_iff.mpr
      intro heff
      exact hparameter ((effective_fields _ hmem k hk).mp heff ▸ hk)
    · exact absurd hmode hne
  have hsent := p.typeWords_eq
  have hplain (hmarking : p.schema.marking py m = none)
      (hnone : effective p.schema "mode_value" = false ∨ Dict.get? (schemaFields py p.schema m) "mode_value" = none) :
      ∃ w, p.typeWords = [w] ∧ ((w = -1 ∧ NegativeMode py m) ∨
        w = (commandTypeCode m * 256 + p.schema.markedCode py m : ℕ) ∧ p.schema.markedCode py m < 256) := by
    have hmarked : p.schema.markedCode py m = messageTypeCode m := by rw [Schema.markedCode, hmarking]
    rw [applySchema_of_not_effective] at hsent
    · refine ⟨_, (Except.ok.inj hsent).symm, .inr ⟨?_, by omega⟩⟩
      rw [typeWord_eq, hmarked]
    · intro e he
      by_cases hname : e.1 = "mode_value"
      · refine hname ▸ hnone.resolve_right fun hno => ?_
        exact Dict.get?_eq_none_iff.mp hno (hname ▸ List.mem_map_of_mem he)
      · exact hothers e he hname
  unfold Schema.marking at hplain
  by_cases hfield : "mode" ∈ p.schema.metadataFields
  · rw [if_pos hfield] at hplain hvalue
    cases hsize : p.schema.modeBits with
    | none =>
      rw [hsize] at heffective
      exact hplain (by rw [hsize]; rfl) (.inl heffective)
    | some size =>
      cases hmode : modeValue py m with
      | none =>
        rw [hmode] at hvalue
        exact hplain (by rw [hsize, hmode]; rfl) (.inr hvalue)
      | some v =>
        rw [hmode, Option.map_some] at hvalue
        obtain ⟨d, -, hposition, -, hindex, hbits, hsizes⟩ := modeBits_eq_some hschema hsize
        rw [applySchema_of_one (nodup_schemaFields py p.schema m) hvalue hothers] at hsent
        unfold applyField at hsent
        rw [hposition] at hsent
        dsimp only at hsent
        have hplace : actualIndex [(typeWord m : ℤ)].length d.wordIndex = some 0 := by
          rw [hindex]
          rfl
        rw [hplace] at hsent
        dsimp only at hsent
        rw [hbits] at hsent
        obtain ⟨range, hrange, hsent⟩ := bind_eq_ok hsent
        cases hrange
        obtain ⟨w, hset, hsent⟩ := bind_eq_ok hsent
        refine ⟨w, (Except.ok.inj hsent).symm, ?_⟩
        rw [List.getD_cons_zero] at hset
        rcases lt_or_ge v 0 with hneg | hnonneg
        · obtain ⟨rfl, hnegative⟩ := negativeMode_of_lt hmode hneg
          refine .inl ⟨?_, hnegative⟩
          unfold setBits at hset
          simp only [Value.int?] at hset
          split_ifs at hset
          rw [pow_zero, mul_one (-1 : ℤ), lor_neg_one] at hset
          exact (Except.ok.inj hset).symm
        · obtain ⟨value, rfl⟩ := Int.eq_ofNat_of_zero_le hnonneg
          have hpos : size - 1 + 1 - 0 = size := by
            simp only [List.mem_cons, List.not_mem_nil, or_false] at hsizes
            omega
          have hlt : value < 2 ^ size := by
            by_contra hge
            unfold setBits at hset
            simp only [Value.int?] at hset
            rw [hpos, if_pos] at hset
            · cases hset
            · have hcast : (2 : ℤ) ^ size ≤ value := by exact_mod_cast not_lt.mp hge
              omega
          rw [setBits_natCast (by rw [hpos]; exact hlt), hpos, setRange_low _ _ hlt] at hset
          have hmarked : p.schema.markedCode py m = messageTypeCode m / 2 ^ size * 2 ^ size + value := by
            rw [Schema.markedCode, Schema.marking, if_pos hfield, hsize, hmode]
            rfl
          rw [hmarked, ← Except.ok.inj hset, typeWord_eq]
          simp only [List.mem_cons, List.not_mem_nil, or_false] at hsizes
          refine .inr ?_
          rcases hsizes with rfl | rfl | rfl <;> norm_num at hlt ⊢ <;> omega
  · rw [if_neg hfield] at hplain hvalue
    exact hplain rfl (.inr hvalue)

end Fmofp.Metadata
