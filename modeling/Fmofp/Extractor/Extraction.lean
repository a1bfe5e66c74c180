import Fmofp.Extractor.Critical
import Fmofp.Extractor.OrderFree

/-! What a dictionary message's extraction returns: every field of the message that is neither a dictionary
nor `None`, and the same whatever the order of the keys, where the flattened dictionaries agree with the
message and with each other. -/

namespace Fmofp.Extractor

open Python Machine

variable {py : Runtime}

/-! ### Merging -/

/-- What a key reads when a value is merged into what is found there. -/
def merged (py : Runtime) (key : String) (found : Option Value) (w : Value) : Value :=
  match found with
  | none | some .none => w
  | some v =>
    if v.equal w then v
    else match resolveFieldConflict py key v w with
      | .ok u => u
      | .error _ => v

theorem get?_mergeField (result : Message) (e : String × Value) (key : String) :
    Dict.get? (mergeField py result e) key =
      if e.1 = key then some (merged py key (Dict.get? result key) e.2) else Dict.get? result key := by
  obtain ⟨j, w⟩ := e
  rw [mergeField]
  dsimp only
  by_cases hj : j = key
  · subst hj
    rw [if_pos rfl]
    cases hfound : Dict.get? result j with
    | none => exact Dict.get?_set_self _ _ _
    | some v =>
      by_cases hv : v = .none
      · subst hv
        exact Dict.get?_set_self _ _ _
      · have hmerged : merged py j (some v) w = if v.equal w then v
            else match resolveFieldConflict py j v w with
              | .ok u => u
              | .error _ => v := by
          cases v with
          | none => exact absurd rfl hv
          | _ => rfl
        have hresult : Dict.get? (if v.equal w = true then result
            else match resolveFieldConflict py j v w with
              | .ok u => Dict.set result j u
              | .error _ => result) j = some (merged py j (some v) w) := by
          rw [hmerged]
          split_ifs
          · exact hfound
          · cases resolveFieldConflict py j v w with
            | ok u => exact Dict.get?_set_self _ _ _
            | error text => exact hfound
        cases v with
        | none => exact absurd rfl hv
        | _ => exact hresult
  · rw [if_neg hj]
    split
    · exact Dict.get?_set_ne _ _ hj
    · exact Dict.get?_set_ne _ _ hj
    · split_ifs
      · rfl
      · cases resolveFieldConflict py j _ w with
        | ok u => exact Dict.get?_set_ne _ _ hj
        | error text => rfl

theorem get?_mergeFields {source : Message} (h : (source.map Prod.fst).Nodup) (target : Message)
    (key : String) :
    Dict.get? (mergeFields py target source) key = match Dict.get? source key with
      | some w => some (merged py key (Dict.get? target key) w)
      | none => Dict.get? target key := by
  rw [mergeFields]
  induction source generalizing target with
  | nil => rfl
  | cons e source ih =>
    obtain ⟨j, w⟩ := e
    rw [List.map_cons, List.nodup_cons] at h
    rw [List.foldl_cons, ih h.2, get?_mergeField, Dict.get?_cons]
    by_cases hj : j = key
    · subst hj
      rw [Dict.get?_eq_none_iff.mpr h.1, if_pos rfl, if_pos rfl]
    · rw [if_neg hj, if_neg hj]

/-! ### What is gathered -/

variable {now : ℚ}

theorem extractedFields_of_calm {m : Message} (h : calm maxNestingLevel m = true) :
    extractedFields py m = flat maxNestingLevel m := by
  rw [extractedFields, (extractFromDict_eq py maxNestingLevel m).1 h]

/-- The fields that the extractor writes itself, whatever the message has there. -/
def ownFields : List String := ["metadata", "original_message", "extraction_timestamp"]

theorem guaranteedFields_none {key : String} {v : Value} (h : Dict.get? guaranteedFields key = some v)
    (hkey : key ≠ "metadata") : v = .none := by
  have hall : ∀ e ∈ guaranteedFields, e.2 = .none ∨ e.1 = "metadata" := by decide
  exact (hall _ (Dict.mem_of_get?_eq_some h)).resolve_right hkey

theorem get?_gatheredFields_original (m : Message) :
    Dict.get? (gatheredFields py now m) "original_message" = some (.dict m) := Dict.get?_set_self _ _ _

section Gathered

variable {m : Message} (h : calm maxNestingLevel m = true)
include h

theorem get?_gatheredFields {key : String} (hkey : key ≠ "original_message") :
    Dict.get? (gatheredFields py now m) key = match Dict.get? (flat maxNestingLevel m) key with
      | some w => some (merged py key
        (Dict.get? (Dict.set guaranteedFields "extraction_timestamp" (.float now)) key) w)
      | none => Dict.get? (Dict.set guaranteedFields "extraction_timestamp" (.float now)) key := by
  rw [gatheredFields, Dict.get?_set_ne _ _ (Ne.symm hkey), extractedFields_of_calm h]
  exact get?_mergeFields (nodup_keys_flat maxNestingLevel m) _ key

/-- A field of the message is gathered, or else a guaranteed one that is `None`. -/
theorem get?_gatheredFields_of_not_own {key : String} (hkey : key ∉ ownFields) :
    Dict.get? (gatheredFields py now m) key =
      (Dict.get? (flat maxNestingLevel m) key).or (Dict.get? guaranteedFields key) := by
  have hne : ∀ field ∈ ownFields, key ≠ field := fun field hfield heq => hkey (heq ▸ hfield)
  rw [get?_gatheredFields h (hne _ (by decide)), Dict.get?_set_ne _ _ (Ne.symm (hne _ (by decide)))]
  cases Dict.get? (flat maxNestingLevel m) key with
  | none => rfl
  | some w =>
    cases hguaranteed : Dict.get? guaranteedFields key with
    | none => rfl
    | some v =>
      rw [guaranteedFields_none hguaranteed (hne _ (by decide))]
      rfl

theorem getD_gatheredFields {key : String} (hkey : key ∉ ownFields) :
    Dict.getD (gatheredFields py now m) key .none = Dict.getD (flat maxNestingLevel m) key .none := by
  rw [Dict.getD, get?_gatheredFields_of_not_own h hkey, Dict.getD]
  cases Dict.get? (flat maxNestingLevel m) key with
  | some w => rfl
  | none =>
    cases hguaranteed : Dict.get? guaranteedFields key with
    | none => rfl
    | some v =>
      rw [guaranteedFields_none hguaranteed fun heq => hkey (heq ▸ by decide)]
      rfl

/-- The metadata of the message do not get past the empty ones that are guaranteed. -/
theorem get?_gatheredFields_metadata :
    Dict.get? (gatheredFields py now m) "metadata" = some (.dict []) := by
  rw [get?_gatheredFields h (by decide)]
  have hguaranteed : Dict.get? (Dict.set guaranteedFields "extraction_timestamp" (.float now)) "metadata" =
      some (.dict []) := rfl
  rw [hguaranteed]
  cases Dict.get? (flat maxNestingLevel m) "metadata" with
  | none => rfl
  | some w =>
    cases hequal : (Value.dict []).equal w with
    | true => simp [merged, hequal]
    | false => simp [merged, hequal, resolveFieldConflict]

end Gathered

/-! ### What is returned -/

/-- The value under which a field of the message is returned. -/
def reported (py : Runtime) (key : String) (v : Value) : Value :=
  if key = "command_name" then standardName py v
  else if key ∈ Adapter.uuidFields then .str (py.str v)
  else v

theorem get?_of_processed {m r : Message} (h : Processed py m r) {key : String} {v : Value}
    (hv : Dict.get? m key = some v)
    (hset : key ∈ "message_type" :: "command_type" :: Adapter.uuidFields → v.truthy = true) :
    Dict.get? r key = some (reported py key v) := by
  rw [reported]
  by_cases hname : key = "command_name"
  · subst hname
    rw [if_pos rfl, h.name, hv, Option.map_some]
  rw [if_neg hname]
  by_cases huuid : key ∈ Adapter.uuidFields
  · rw [if_pos huuid]
    exact h.uuid key huuid v hv (hset (List.mem_cons_of_mem _ (List.mem_cons_of_mem _ huuid)))
  rw [if_neg huuid]
  by_cases htype : key = "message_type"
  · subst htype
    rw [h.messageType, foundType, Dict.getD_of_get? hv, inferredType_of_truthy (hset (by decide))]
  by_cases hcommand : key = "command_type"
  · subst hcommand
    rw [h.commandType, foundCommand, Dict.getD_of_get? hv, commandTypeFor.eq_def, hset (by decide)]
    cases foundType py m <;> rfl
  rw [h.others key huuid hname htype hcommand, hv]

theorem consolidateMetadata_ok {r : Message} {metadata : Message}
    (h : Dict.get? r "metadata" = some (.dict metadata)) :
    ∃ r', consolidateMetadata py r = .ok r' ∧ (∃ consolidated, Dict.get? r' "metadata" = some (.dict consolidated)) ∧
      ∀ key, key ≠ "metadata" → Dict.get? r' key = Dict.get? r key := by
  rw [consolidateMetadata, metadataOf, h]
  exact ⟨_, rfl, ⟨_, Dict.get?_set_self _ _ _⟩, fun key hkey => Dict.get?_set_ne _ _ (Ne.symm hkey)⟩

/-- Where nothing clashes and the types can be read, extraction returns what is gathered. -/
theorem extractAllFields_ok {m : Message} (h : calm maxNestingLevel m = true)
    (htypes : TypesReadable py (Dict.getD (flat maxNestingLevel m) "message_type" .none)
      (Dict.getD (flat maxNestingLevel m) "command_type" .none)) :
    ∃ r r', Processed py (gatheredFields py now m) r ∧ extractAllFields py now m = .ok r' ∧
      ∀ key, key ≠ "metadata" → Dict.get? r' key = Dict.get? r key := by
  have hread : TypesReadable py (Dict.getD (gatheredFields py now m) "message_type" .none)
      (Dict.getD (gatheredFields py now m) "command_type" .none) := by
    rw [getD_gatheredFields h (by decide), getD_gatheredFields h (by decide)]
    exact htypes
  obtain ⟨r, hr, hprocessed⟩ := processCriticalFields_ok py hread
  have hmetadata : Dict.get? r "metadata" = some (.dict []) := by
    rw [hprocessed.others _ (by decide) (by decide) (by decide) (by decide), get?_gatheredFields_metadata h]
  obtain ⟨r', hr', -, hothers⟩ := @consolidateMetadata_ok py _ _ hmetadata
  refine ⟨r, r', hprocessed, ?_, hothers⟩
  rw [extractAllFields, extractWith, hr]
  exact hr'

end Fmofp.Extractor

/-! The order of the keys: messages that read the same are processed alike, and so a message whose flattened
dictionaries agree with it is extracted alike in every order of its keys, with its fields as they are. -/

namespace Fmofp.Extractor

open Python Machine

/-- Two dictionaries read the same, but for the original message. -/
def Reads (r r' : Message) : Prop :=
  ∀ key, key ≠ "original_message" → Dict.get? r' key = Dict.get? r key

/-- Two computations raise the same, or their results read the same. -/
inductive Similar : Except Exception Message → Except Exception Message → Prop
  | error (e : Exception) : Similar (.error e) (.error e)
  | ok {r r' : Message} (h : Reads r r') : Similar (.ok r) (.ok r')

theorem Similar.bind {x x' : Except Exception Message} {f f' : Message → Except Exception Message}
    (h : Similar x x') (hf : ∀ r r', Reads r r' → Similar (f r) (f' r')) :
    Similar (x.bind f) (x'.bind f') := by
  cases h with
  | error e => exact .error e
  | ok h => exact hf _ _ h

section Reads

variable (py : Runtime) {r r' : Message} (h : Reads r r')
include h

theorem Reads.set (key : String) (v : Value) : Reads (Dict.set r key v) (Dict.set r' key v) := by
  intro j hj
  rw [Dict.get?_set, Dict.get?_set, h j hj]

theorem Reads.flag {key : String} (hkey : key ≠ "original_message") :
    Message.flag r' key = Message.flag r key := flag_congr (h key hkey)

theorem Reads.getD {key : String} (hkey : key ≠ "original_message") :
    Dict.getD r' key .none = Dict.getD r key .none := getD_congr (h key hkey) .none

theorem Reads.standardizeCommandName :
    Reads (standardizeCommandName py r) (standardizeCommandName py r') := by
  rw [Extractor.standardizeCommandName, Extractor.standardizeCommandName, h.flag (by decide), h.getD (by decide)]
  split_ifs
  · exact h.set _ _
  · exact h

theorem Reads.fillFrom {field : String} (hfield : field ≠ "original_message") {sources : List String}
    (hsources : "original_message" ∉ sources) :
    Reads (fillFrom field sources r) (fillFrom field sources r') := by
  have hflag : ∀ source ∈ sources, Message.flag r' source = Message.flag r source :=
    fun source hsource => h.flag fun heq => hsources (heq ▸ hsource)
  rw [Extractor.fillFrom, Extractor.fillFrom, h.flag hfield, List.find?_congr hflag]
  split_ifs
  · exact h
  · cases hfound : sources.find? (Message.flag r) with
    | none => exact h
    | some source =>
      have hne : source ≠ "original_message" := fun heq => hsources (heq ▸ List.mem_of_find?_eq_some hfound)
      dsimp only
      rw [h.getD hne]
      exact h.set _ _

theorem Reads.ensureUuid (purpose : String) : Reads (ensureUuid purpose r) (ensureUuid purpose r') := by
  unfold Extractor.ensureUuid
  split_ifs
  · exact h.fillFrom (by decide) (by decide)
  · exact h.fillFrom (by decide) (by decide)
  · exact h.fillFrom (by decide) (by decide)
  · exact h.fillFrom (by decide) (by decide)
  · exact h

theorem Reads.fillUuids (purpose : String) : Reads (fillUuids py purpose r) (fillUuids py purpose r') := by
  have hsources : "original_message" ∉ (Dict.get? purposeToField purpose).toList := by
    rw [Option.mem_toList]
    intro hfield
    have hall : ∀ e ∈ purposeToField, e.2 ≠ "original_message" := by decide
    exact hall _ (Dict.mem_of_get?_eq_some hfield) rfl
  intro key hkey
  rw [Extractor.fillUuids, Extractor.fillUuids, get?_foldl_stringify, get?_foldl_stringify,
    (h.ensureUuid purpose).fillFrom (by decide) hsources key hkey]

theorem Reads.determineMessagePurpose : determineMessagePurpose py r' = determineMessagePurpose py r := by
  unfold Extractor.determineMessagePurpose purposeOfField
  rw [h.flag (by decide), h.getD (by decide : "message_type" ≠ "original_message"), h.flag (by decide),
    h.getD (by decide : "command_type" ≠ "original_message")]

theorem Reads.processUuidFields : Similar (processUuidFields py r) (processUuidFields py r') := by
  rw [Extractor.processUuidFields, Extractor.processUuidFields, h.determineMessagePurpose py]
  cases Extractor.determineMessagePurpose py r with
  | error e => exact .error e
  | ok purpose => exact .ok (h.fillUuids py purpose)

theorem Reads.inferMessageType : Reads (inferMessageType r) (inferMessageType r') := by
  rw [Extractor.inferMessageType, Extractor.inferMessageType, h.getD (by decide),
    h.getD (by decide : "command_name" ≠ "original_message")]
  exact h.set _ _

theorem Reads.inferCommandType : Similar (inferCommandType py r) (inferCommandType py r') := by
  rw [Extractor.inferCommandType, Extractor.inferCommandType, h.getD (by decide),
    h.getD (by decide : "message_type" ≠ "original_message")]
  cases inferredCommand py _ _ with
  | error e => exact .error e
  | ok commandType => exact .ok (h.set _ _)

theorem Reads.processCriticalFields :
    Similar (processCriticalFields py r) (processCriticalFields py r') :=
  ((h.standardizeCommandName py).processUuidFields py).bind fun _ _ hfilled =>
    hfilled.inferMessageType.inferCommandType py

theorem Reads.consolidateMetadata : Similar (consolidateMetadata py r) (consolidateMetadata py r') := by
  have hpreserve : ∀ metadata, preserveFields.foldl (preserveField r') metadata =
      preserveFields.foldl (preserveField r) metadata := by
    intro metadata
    apply List.foldl_ext
    intro metadata field hfield
    have hne : ∀ field ∈ preserveFields, field ≠ "original_message" := by decide
    rw [preserveField, h field (hne field hfield), preserveField]
  have hmetadata : metadataOf r' = metadataOf r := by
    rw [metadataOf, h "metadata" (by decide), metadataOf]
  rw [Extractor.consolidateMetadata, Extractor.consolidateMetadata, hmetadata, h "additional_info" (by decide)]
  cases metadataOf r with
  | error e => exact .error e
  | ok metadata =>
    refine .ok ?_
    dsimp only
    rw [hpreserve]
    exact h.set _ _

end Reads

/-! ### Every order of the keys -/

/-- The result has each field of the message that is neither a dictionary nor `None`, but for the exempt
ones, and equals the result for the same entries in any other order. -/
structure KeepsFields (py : Runtime) (now : ℚ) (exempt : String × Value → Prop) (m : Message) : Prop where
  kept : ∃ r, extractAllFields py now m = .ok r ∧ ∀ e ∈ m, e.2.dict? = none → e.2 ≠ .none → ¬ exempt e →
    Dict.get? r e.1 = some (reported py e.1 e.2)
  orderFree : ∀ m' : Message, m'.Perm m → ∃ r r', extractAllFields py now m = .ok r ∧
    extractAllFields py now m' = .ok r' ∧
    ∀ key, Option.Rel (fun v w : Value => v.equal w = true) (Dict.get? r' key) (Dict.get? r key)

/-- Fields that the extractor writes itself, and empty types and identifiers, which it fills in. -/
def ownedOrEmpty (e : String × Value) : Prop :=
  e.1 ∈ ownFields ∨ e.1 ∈ "message_type" :: "command_type" :: Adapter.uuidFields ∧ e.2.truthy = false

/-- The levels of nesting below the message itself. -/
def nestedLevels : ℕ := 4

variable {py : Runtime} {now : ℚ} {m : Message}

theorem equalReads_self (found : Option Value) : Option.Rel (fun v w : Value => v.equal w = true) found found := by
  cases found with
  | none => exact .none
  | some v => exact .some (Value.equal_self v)

theorem gatheredFields_reads (hkeys : (m.map Prod.fst).Nodup) (h : Agreeing nestedLevels m) {m' : Message}
    (hperm : m'.Perm m) : Reads (gatheredFields py now m) (gatheredFields py now m') := by
  have hkeys' : (m'.map Prod.fst).Nodup := (hperm.map Prod.fst).nodup_iff.mpr hkeys
  intro key hkey
  rw [get?_gatheredFields (calm_of_agreeing hkeys h) hkey,
    get?_gatheredFields (calm_of_agreeing hkeys' (h.perm hperm)) hkey]
  have hsame := get?_flat_of_perm hkeys h hperm key
  rw [show maxNestingLevel = nestedLevels + 1 from rfl, hsame]

theorem hardAt_of_direct {nested : Message → Message} {e : String × Value} (h : e.2.dict? = none) :
    hardAt nested e.1 e = some e.2 := by
  obtain ⟨key, v⟩ := e
  rw [hardAt, if_pos rfl]
  cases v with
  | dict d => cases h
  | _ => rfl

/-- Flattened dictionaries that agree with the message and with each other cost it no field, in whatever
order the keys are. -/
theorem keepsFields_of_agreeing (hkeys : (m.map Prod.fst).Nodup) (h : Agreeing nestedLevels m)
    (htypes : TypesReadable py (Dict.getD (flat maxNestingLevel m) "message_type" .none)
      (Dict.getD (flat maxNestingLevel m) "command_type" .none)) :
    KeepsFields py now ownedOrEmpty m := by
  have hcalm : calm maxNestingLevel m = true := calm_of_agreeing hkeys h
  obtain ⟨r, result, hprocessed, hresult, hothers⟩ := @extractAllFields_ok py now m hcalm htypes
  refine ⟨⟨result, hresult, fun e he hdirect hne hexempt => ?_⟩, fun m' hperm => ?_⟩
  · have hown : e.1 ∉ ownFields := fun hown => hexempt (.inl hown)
    have hflat : Dict.get? (flat maxNestingLevel m) e.1 = some e.2 :=
      get?_flat_of_hardAt hkeys h he (hardAt_of_direct hdirect)
    have hgathered : Dict.get? (gatheredFields py now m) e.1 = some e.2 := by
      rw [get?_gatheredFields_of_not_own hcalm hown, hflat]
      rfl
    rw [hothers e.1 fun heq => hown (heq ▸ by decide)]
    refine get?_of_processed hprocessed hgathered fun hfillable => ?_
    by_contra hempty
    exact hexempt (.inr ⟨hfillable, by simpa using hempty⟩)
  · have hkeys' : (m'.map Prod.fst).Nodup := (hperm.map Prod.fst).nodup_iff.mpr hkeys
    have hcalm' : calm maxNestingLevel m' = true := calm_of_agreeing hkeys' (h.perm hperm)
    have hflat : ∀ key, Dict.get? (flat maxNestingLevel m') key = Dict.get? (flat maxNestingLevel m) key :=
      get?_flat_of_perm hkeys h hperm
    have htypes' : TypesReadable py (Dict.getD (flat maxNestingLevel m') "message_type" .none)
        (Dict.getD (flat maxNestingLevel m') "command_type" .none) := by
      rw [getD_congr (hflat _), getD_congr (hflat _)]
      exact htypes
    obtain ⟨r', result', hprocessed', hresult', hothers'⟩ := @extractAllFields_ok py now m' hcalm' htypes'
    have hsimilar : Similar (extractAllFields py now m) (extractAllFields py now m') :=
      ((gatheredFields_reads hkeys h hperm).processCriticalFields py).bind fun _ _ hr =>
        hr.consolidateMetadata py
    rw [hresult, hresult'] at hsimilar
    refine ⟨result, result', hresult, hresult', fun key => ?_⟩
    by_cases hkey : key = "original_message"
    · subst hkey
      rw [hothers _ (by decide), hothers' _ (by decide),
        hprocessed.others _ (by decide) (by decide) (by decide) (by decide),
        hprocessed'.others _ (by decide) (by decide) (by decide) (by decide),
        get?_gatheredFields_original, get?_gatheredFields_original]
      exact .some (Value.equal_dict_of_perm hperm)
    · cases hsimilar with
      | ok hreads =>
        rw [hreads key hkey]
        exact equalReads_self _

/-- A message whose metadata repeat its address. -/
def repeatedAddress : Message :=
  [("rt_address", .int 9), ("metadata", .dict [("rt_address", .int 9)])]

theorem softAt_repeatedAddress {e : String × Value} (he : e ∈ repeatedAddress) {key : String} {w : Value}
    (hw : softAt (flat nestedLevels) key e = some w) :
    e.1 = "metadata" ∧ key = "rt_address" ∧ w = .int 9 := by
  rcases List.mem_cons.mp he with rfl | he
  · cases hw
  · rw [List.mem_singleton.mp he] at hw ⊢
    have hread : (if "rt_address" = key then some (Value.int 9) else none) = some w := hw
    split_ifs at hread with hkey
    · exact ⟨rfl, hkey.symm, (Option.some.inj hread).symm⟩

theorem repeatedAddress_agreeing : Agreeing nestedLevels repeatedAddress where
  nested key d hd := by
    simp only [repeatedAddress, List.mem_cons, Prod.mk.injEq, reduceCtorEq, and_false, List.not_mem_nil,
      or_false, Value.dict.injEq, false_or] at hd
    rw [hd.2]
    decide
  top e he e' he' key v w hv hw := by
    obtain ⟨-, rfl, rfl⟩ := softAt_repeatedAddress he' hw
    rcases List.mem_cons.mp he with rfl | he
    · cases hv
      exact ⟨fun hnone => absurd hnone (by decide), fun _ => .inl (by decide)⟩
    · rw [List.mem_singleton.mp he] at hv
      cases hv
  sides e he e' he' hne key w w' hw hw' := by
    obtain ⟨-, -, rfl⟩ := softAt_repeatedAddress he hw
    obtain ⟨-, -, rfl⟩ := softAt_repeatedAddress he' hw'
    exact .inl rfl

theorem repeatedAddress_kept : KeepsFields Runtime.ascii 0 ownedOrEmpty repeatedAddress :=
  keepsFields_of_agreeing (by decide) repeatedAddress_agreeing
    ⟨fun h => absurd h (by decide), fun h => absurd h (by decide)⟩

/-- A message whose metadata have another address than it has itself. -/
def otherAddress : Message :=
  [("rt_address", .int 9), ("metadata", .dict [("rt_address", .int 5)])]

/-- A conflict discards every field. -/
theorem otherAddress_lost : ¬ KeepsFields Runtime.ascii 0 (fun _ => False) otherAddress := by
  rintro ⟨⟨r, hr, hkept⟩, -⟩
  have hread := hkept ("rt_address", .int 9) (by decide) rfl (by decide) id
  have hlost : (extractAllFields Runtime.ascii 0 otherAddress).map (Dict.get? · "rt_address") =
      .ok (some .none) := by decide +kernel
  rw [hr] at hlost
  have hnone : Dict.get? r "rt_address" = some .none := Except.ok.inj hlost
  rw [hnone] at hread
  cases hread

end Fmofp.Extractor
