import Fmofp.Extractor.BusIdentity

/-! The bus controller's extraction from end to end: the critical fields are the same at top level and in
the metadata whenever it returns, and it returns the message's own identity exactly where flattening meets
no conflict and the special cases can read what they read. -/

namespace Fmofp.Extractor

open Python Machine

/-! ### Mirroring -/

/-- A field that is set on either side reads the same on both. -/
def Agrees (s : Message × Message) (field : String) : Prop :=
  (∃ v, v ≠ .none ∧ (Dict.get? s.1 field = some v ∨ Dict.get? s.2 field = some v)) →
    Dict.get? s.1 field = Dict.get? s.2 field

/-- Nothing, or `None`. -/
def unset (found : Option Value) : Bool :=
  match found with
  | none | some .none => true
  | some _ => false

theorem unset_iff {found : Option Value} : unset found = true ↔ ∀ v, v ≠ .none → found ≠ some v := by
  cases found with
  | none => exact iff_of_true rfl fun _ _ h => by cases h
  | some v =>
    by_cases hv : v = .none
    · subst hv
      exact iff_of_true rfl fun w hw h => hw (Option.some.inj h).symm
    · have hfalse : unset (some v) = false := by
        cases v with
        | none => exact absurd rfl hv
        | _ => rfl
      rw [hfalse]
      exact iff_of_false (by decide) fun h => h v hv rfl

theorem mirrorField_eq (s : Message × Message) (field : String) : mirrorField s field =
    if unset (Dict.get? s.1 field) then
      if unset (Dict.get? s.2 field) then s
      else (Dict.set s.1 field ((Dict.get? s.2 field).getD .none), s.2)
    else (s.1, Dict.set s.2 field ((Dict.get? s.1 field).getD .none)) := by
  rw [mirrorField]
  cases hfirst : Dict.get? s.1 field with
  | none =>
    cases hsecond : Dict.get? s.2 field with
    | none => rfl
    | some w => cases w <;> rfl
  | some v =>
    cases v with
    | none =>
      cases hsecond : Dict.get? s.2 field with
      | none => rfl
      | some w => cases w <;> rfl
    | _ => rfl

theorem get?_mirrorField_ne (s : Message × Message) {field key : String} (h : key ≠ field) :
    Dict.get? (mirrorField s field).1 key = Dict.get? s.1 key ∧
      Dict.get? (mirrorField s field).2 key = Dict.get? s.2 key := by
  rw [mirrorField_eq]
  split_ifs
  · exact ⟨rfl, rfl⟩
  · exact ⟨Dict.get?_set_ne _ _ (Ne.symm h), rfl⟩
  · exact ⟨rfl, Dict.get?_set_ne _ _ (Ne.symm h)⟩

theorem mirrorField_agrees (s : Message × Message) (field : String) : Agrees (mirrorField s field) field := by
  rw [mirrorField_eq]
  split_ifs with hfirst hsecond
  · rintro ⟨v, hv, h | h⟩
    · exact absurd h (unset_iff.mp hfirst v hv)
    · exact absurd h (unset_iff.mp hsecond v hv)
  · intro _
    cases hfound : Dict.get? s.2 field with
    | none => rw [hfound] at hsecond; exact absurd rfl hsecond
    | some w => exact Dict.get?_set_self _ _ _
  · intro _
    cases hfound : Dict.get? s.1 field with
    | none => rw [hfound] at hfirst; exact absurd rfl hfirst
    | some v => exact (Dict.get?_set_self _ _ _).symm

theorem agrees_congr {s s' : Message × Message} {field : String}
    (hfirst : Dict.get? s'.1 field = Dict.get? s.1 field)
    (hsecond : Dict.get? s'.2 field = Dict.get? s.2 field) (h : Agrees s field) : Agrees s' field := by
  rw [Agrees, hfirst, hsecond]
  exact h

/-- Every field that is mirrored reads the same on both sides. -/
theorem foldl_mirrorField_agrees (fields : List String) (s : Message × Message) {field : String}
    (h : field ∈ fields ∨ Agrees s field) : Agrees (fields.foldl mirrorField s) field := by
  induction fields generalizing s with
  | nil => exact h.resolve_left List.not_mem_nil
  | cons other fields ih =>
    apply ih
    by_cases heq : field = other
    · subst heq
      exact .inr (mirrorField_agrees s field)
    · rcases h with hmem | hagrees
      · exact .inl ((List.mem_cons.mp hmem).resolve_left heq)
      · obtain ⟨hfirst, hsecond⟩ := get?_mirrorField_ne s heq
        exact .inr (agrees_congr hfirst hsecond hagrees)

/-- A field of the result that is set stays as it is. -/
theorem get?_foldl_mirrorField (fields : List String) (s : Message × Message) {field : String} {v : Value}
    (hv : v ≠ .none) (h : Dict.get? s.1 field = some v) :
    Dict.get? (fields.foldl mirrorField s).1 field = some v := by
  induction fields generalizing s with
  | nil => exact h
  | cons other fields ih =>
    apply ih
    by_cases heq : field = other
    · subst heq
      have hset : ¬ unset (Dict.get? s.1 field) = true := fun hunset => unset_iff.mp hunset v hv h
      rw [mirrorField_eq, if_neg hset, h]
    · rw [(get?_mirrorField_ne s heq).1, h]

/-- Fields that the metadata do not have leave the result as it is. -/
theorem foldl_mirrorField_fst {fields : List String} (hnodup : fields.Nodup) {s : Message × Message}
    (h : ∀ field ∈ fields, Dict.get? s.2 field = none) : (fields.foldl mirrorField s).1 = s.1 := by
  induction fields generalizing s with
  | nil => rfl
  | cons field fields ih =>
    rw [List.nodup_cons] at hnodup
    have hfield : (mirrorField s field).1 = s.1 := by
      have hunset : unset none = true := rfl
      rw [mirrorField_eq, h field List.mem_cons_self, hunset, if_pos rfl]
      split_ifs <;> rfl
    rw [List.foldl_cons, ih hnodup.2, hfield]
    intro other hother
    have hne : other ≠ field := by
      rintro rfl
      exact hnodup.1 hother
    rw [(get?_mirrorField_ne s hne).2]
    exact h other (List.mem_cons_of_mem _ hother)

theorem mirrorRequestId_agrees {s : Message × Message} {field : String} (h : Agrees s field) :
    Agrees (mirrorRequestId s) field := by
  rw [mirrorRequestId]
  split_ifs
  · by_cases heq : field = "request_uuid"
    · subst heq
      intro _
      rw [Dict.get?_set_self, Dict.get?_set_self]
    · exact agrees_congr (Dict.get?_set_ne _ _ (Ne.symm heq)) (Dict.get?_set_ne _ _ (Ne.symm heq)) h
  · exact h

theorem get?_mirrorRequestId (s : Message × Message) {key : String} (h : key ≠ "request_uuid") :
    Dict.get? (mirrorRequestId s).1 key = Dict.get? s.1 key := by
  rw [mirrorRequestId]
  split_ifs
  · exact Dict.get?_set_ne _ _ (Ne.symm h)
  · rfl

theorem agrees_stored {s : Message × Message} {field : String} (h : Agrees s field) (hne : "metadata" ≠ field) :
    Agrees (Dict.set s.1 "metadata" (.dict s.2), s.2) field :=
  agrees_congr (Dict.get?_set_ne _ _ hne) rfl h

/-- Fields that are set are kept and are mirrored, whatever the metadata. -/
theorem ensureUuidFieldsInMetadata_spec {r metadata : Message}
    (h : Dict.get? r "metadata" = some (.dict metadata)) :
    ∃ r' metadata', ensureUuidFieldsInMetadata r = .ok r' ∧
      Dict.get? r' "metadata" = some (.dict metadata') ∧
      (∀ field ∈ criticalFields, Agrees (r', metadata') field) ∧
      ∀ field v, field ≠ "metadata" → field ≠ "request_uuid" → v ≠ .none → Dict.get? r field = some v →
        Dict.get? r' field = some v := by
  have hok : ensureUuidFieldsInMetadata r =
      .ok (Dict.set (mirrorRequestId (criticalFields.foldl mirrorField (r, metadata))).1 "metadata"
        (.dict (mirrorRequestId (criticalFields.foldl mirrorField (r, metadata))).2)) := by
    rw [ensureUuidFieldsInMetadata, metadataOf, h]
    rfl
  refine ⟨_, _, hok, Dict.get?_set_self _ _ _, fun field hfield => ?_, fun field v hmetadata huuid hv hread => ?_⟩
  · have hne : ∀ field ∈ criticalFields, "metadata" ≠ field := by decide
    exact agrees_stored (mirrorRequestId_agrees (foldl_mirrorField_agrees criticalFields _ (.inl hfield)))
      (hne field hfield)
  · rw [Dict.get?_set_ne _ _ (Ne.symm hmetadata), get?_mirrorRequestId _ huuid,
      get?_foldl_mirrorField _ _ hv hread]

/-- With empty metadata, mirroring changes nothing but them and the identifier of the request. -/
theorem ensureUuidFieldsInMetadata_fresh {r : Message} (h : Dict.get? r "metadata" = some (.dict [])) :
    ∃ r', ensureUuidFieldsInMetadata r = .ok r' ∧
      (∃ metadata, Dict.get? r' "metadata" = some (.dict metadata)) ∧
      ∀ key, key ≠ "metadata" → key ≠ "request_uuid" → Dict.get? r' key = Dict.get? r key := by
  rw [ensureUuidFieldsInMetadata, metadataOf, h]
  refine ⟨_, rfl, ⟨_, Dict.get?_set_self _ _ _⟩, fun key hmetadata huuid => ?_⟩
  rw [Dict.get?_set_ne _ _ (Ne.symm hmetadata), get?_mirrorRequestId _ huuid,
    foldl_mirrorField_fst (by decide) fun _ _ => rfl]

/-! ### What the special cases find -/

variable {py : Runtime} {now : ℚ}

/-- The identity that the special cases find in what flattening gathers. -/
def foundIdentity (py : Runtime) (fields : Message) : Identity where
  type := foundType py fields
  command := foundCommand py fields
  name := foundName py fields
  rt := Dict.getD fields "rt_address" .none
  sub := Dict.getD fields "sub_address" .none
  radar := Dict.getD fields "radar_type" .none

/-- The fields are those of a status word. -/
def foundStatus (py : Runtime) (fields : Message) : Bool :=
  Message.flag fields "status_word" || decide (foundType py fields = .str "status_word") ||
    startsAsStatusWord (Dict.get? fields "binary_data")

/-- The extractor can read what it reads of the fields that flattening gathers from a message. -/
structure BusReadable (py : Runtime) (m : Message) : Prop where
  types : TypesReadable py (Dict.getD (flat maxNestingLevel m) "message_type" .none)
    (Dict.getD (flat maxNestingLevel m) "command_type" .none)
  address : foundStatus py (flat maxNestingLevel m) = true →
    (foundIdentity py (flat maxNestingLevel m)).AddressReadable
  special : (if foundStatus py (flat maxNestingLevel m) then
    (foundIdentity py (flat maxNestingLevel m)).asStatusWord m
    else foundIdentity py (flat maxNestingLevel m)).Readable py

/-- What is found is text where it is read as text. -/
theorem foundIdentity_sound {fields : Message}
    (h : TypesReadable py (Dict.getD fields "message_type" .none) (Dict.getD fields "command_type" .none)) :
    (foundIdentity py fields).Sound py where
  type hset := isText_inferredType h.1 _ hset
  name hset := by
    left
    have hname : (foundIdentity py fields).name = standardName py (Dict.getD fields "command_name" .none) := rfl
    rw [hname] at hset ⊢
    rw [standardName] at hset ⊢
    split_ifs at hset ⊢
    · rfl
    · contradiction

/-- The type of a status word does not speak of a completion. -/
theorem asStatusWord_sound (m : Message) (s : Identity) : (s.asStatusWord m).Sound py where
  type _ := rfl
  name _ := by
    right
    have hlower : py.lower "status_word" = "status_word" := py.lower_eq_self (by decide) (by decide)
    show (contains (py.lower "status_word") _ || contains (py.lower "status_word") _) = false
    rw [hlower]
    decide

section Calm

variable {m : Message} (h : calm maxNestingLevel m = true)
include h

theorem get?_gatheredFields_guaranteed {key : String} (hkey : key ∉ ownFields)
    (hguaranteed : Dict.get? guaranteedFields key = some .none) :
    Dict.get? (gatheredFields py now m) key = some (Dict.getD (flat maxNestingLevel m) key .none) := by
  rw [get?_gatheredFields_of_not_own h hkey, hguaranteed, Dict.getD]
  cases Dict.get? (flat maxNestingLevel m) key <;> rfl

/-- After the base processing and the first mirroring, a message gives the identity that is found. -/
theorem mirrored_shows {r : Message} (hprocessed : Processed py (gatheredFields py now m) r) :
    ∃ r', ensureUuidFieldsInMetadata r = .ok r' ∧ Shows r' (foundIdentity py (flat maxNestingLevel m)) ∧
      Dict.has r' "rt_address" = true ∧ Dict.get? r' "original_message" = some (.dict m) ∧
      isStatusWord r' = foundStatus py (flat maxNestingLevel m) := by
  have hother : ∀ key, key ∉ Adapter.uuidFields → key ≠ "command_name" → key ≠ "message_type" →
      key ≠ "command_type" → Dict.get? r key = Dict.get? (gatheredFields py now m) key := hprocessed.others
  have hmetadata : Dict.get? r "metadata" = some (.dict []) := by
    rw [hother _ (by decide) (by decide) (by decide) (by decide), get?_gatheredFields_metadata h]
  obtain ⟨r', hr', hdict, hsame⟩ := ensureUuidFieldsInMetadata_fresh hmetadata
  have hname : foundName py (gatheredFields py now m) = foundName py (flat maxNestingLevel m) := by
    rw [foundName, getD_gatheredFields h (by decide), foundName]
  have htype : foundType py (gatheredFields py now m) = foundType py (flat maxNestingLevel m) := by
    rw [foundType, getD_gatheredFields h (by decide), hname, foundType]
  have hcommand : foundCommand py (gatheredFields py now m) = foundCommand py (flat maxNestingLevel m) := by
    rw [foundCommand, getD_gatheredFields h (by decide), htype, foundCommand]
  have hread : ∀ key, key ∉ ownFields → key ∉ Adapter.uuidFields → key ≠ "command_name" →
      key ≠ "message_type" → key ≠ "command_type" → key ≠ "metadata" → key ≠ "request_uuid" →
      Dict.getD r' key .none = Dict.getD (flat maxNestingLevel m) key .none := by
    intro key hown huuid hname htype hcommand hmeta hrequest
    rw [getD_congr (hsame key hmeta hrequest), getD_congr (hother key huuid hname htype hcommand),
      getD_gatheredFields h hown]
  have hbinary : Dict.get? r' "binary_data" = Dict.get? (flat maxNestingLevel m) "binary_data" := by
    rw [hsame _ (by decide) (by decide), hother _ (by decide) (by decide) (by decide) (by decide),
      get?_gatheredFields_of_not_own h (by decide)]
    exact Option.or_none
  have htypeRead : Dict.get? r' "message_type" = some (foundType py (flat maxNestingLevel m)) := by
    rw [hsame _ (by decide) (by decide), hprocessed.messageType, htype]
  refine ⟨r', hr', ⟨htypeRead, ?_, ?_, ?_, ?_, ?_, hdict⟩, ?_, ?_, ?_⟩
  · rw [hsame _ (by decide) (by decide), hprocessed.commandType, hcommand]
    rfl
  · rw [hsame _ (by decide) (by decide), hprocessed.name, get?_gatheredFields_guaranteed h (by decide) rfl]
    rfl
  · exact hread _ (by decide) (by decide) (by decide) (by decide) (by decide) (by decide) (by decide)
  · exact hread _ (by decide) (by decide) (by decide) (by decide) (by decide) (by decide) (by decide)
  · exact hread _ (by decide) (by decide) (by decide) (by decide) (by decide) (by decide) (by decide)
  · rw [Dict.has, hsame _ (by decide) (by decide), hother _ (by decide) (by decide) (by decide) (by decide),
      get?_gatheredFields_guaranteed h (by decide) rfl]
    rfl
  · rw [hsame _ (by decide) (by decide), hother _ (by decide) (by decide) (by decide) (by decide),
      get?_gatheredFields_original]
  · rw [isStatusWord, foundStatus, flag_eq_truthy, flag_eq_truthy, htypeRead, hbinary,
      hread _ (by decide) (by decide) (by decide) (by decide) (by decide) (by decide) (by decide)]
    simp only [Option.some.injEq]

/-- The bus controller's processing gets through exactly if it can read what it reads. -/
theorem processBusFields_iff :
    (BusReadable py m → Yields (processBusFields py (gatheredFields py now m))) ∧
      (Succeeds (processBusFields py (gatheredFields py now m)) → BusReadable py m) := by
  have htypes := processCriticalFields_ok_iff py (gatheredFields py now m)
  rw [getD_gatheredFields h (by decide), getD_gatheredFields h (by decide)] at htypes
  cases hbase : processCriticalFields py (gatheredFields py now m) with
  | error e =>
    have hnot : ¬ BusReadable py m := fun hread => by
      obtain ⟨r, hr⟩ := htypes.mpr hread.types
      rw [hbase] at hr
      cases hr
    refine ⟨fun hread => absurd hread hnot, fun hsucceeds => ?_⟩
    obtain ⟨r, hr, -⟩ := succeeds_bind.mp hsucceeds
    rw [hbase] at hr
    cases hr
  | ok r =>
    have hreadable := htypes.mp ⟨r, hbase⟩
    have hgathered : TypesReadable py (Dict.getD (gatheredFields py now m) "message_type" .none)
        (Dict.getD (gatheredFields py now m) "command_type" .none) := by
      rw [getD_gatheredFields h (by decide), getD_gatheredFields h (by decide)]
      exact hreadable
    obtain ⟨r₁, hr₁, hprocessed⟩ := processCriticalFields_ok py hgathered
    rw [hbase] at hr₁
    cases hr₁
    obtain ⟨r', hr', hshows, hrt, horiginal, hstatus⟩ := mirrored_shows h hprocessed
    have hprocess : processBusFields py (gatheredFields py now m) =
        processStatusWord py r' >>= processTopics py := by
      rw [processBusFields, hbase]
      show (ensureUuidFieldsInMetadata r >>= fun result => processStatusWord py result >>= processTopics py) = _
      rw [hr']
      rfl
    rw [hprocess]
    cases hfound : foundStatus py (flat maxNestingLevel m) with
    | false =>
      rw [hfound] at hstatus
      have hskip : processStatusWord py r' = .ok r' := by
        rw [processStatusWord, hstatus]
        rfl
      rw [hskip]
      obtain ⟨hyields, hsucceeds⟩ := processTopics_iff hshows (foundIdentity_sound hreadable)
      refine ⟨fun hread => hyields ?_, fun hok => ⟨hreadable, ?_, ?_⟩⟩
      · have hspecial := hread.special
        rwa [hfound, if_neg (by decide)] at hspecial
      · intro htrue
        rw [hfound] at htrue
        cases htrue
      · rw [hfound, if_neg (by decide)]
        exact hsucceeds hok
    | true =>
      rw [hfound] at hstatus
      obtain ⟨hok, haddress⟩ := @processStatusWord_iff py _ _ hshows hstatus hrt m horiginal
      refine ⟨fun hread => ?_, fun hdone => ?_⟩
      · obtain ⟨r'', hr'', hshows'⟩ := hok (hread.address hfound)
        have hspecial := hread.special
        rw [hfound, if_pos rfl] at hspecial
        rw [hr'']
        exact (processTopics_iff hshows' (asStatusWord_sound m _)).1 hspecial
      · obtain ⟨r'', hr'', htopics⟩ := succeeds_bind.mp hdone
        have hread := haddress ⟨r'', hr''⟩
        obtain ⟨r₂, hr₂, hshows'⟩ := hok hread
        rw [hr₂] at hr''
        cases hr''
        refine ⟨hreadable, fun _ => hread, ?_⟩
        rw [hfound, if_pos rfl]
        exact (processTopics_iff hshows' (asStatusWord_sound m _)).2 htopics

end Calm

end Fmofp.Extractor

/-! `BC_MessageExtractor.extract_all_fields`: the message's own identity is restored and mirrored whenever it
returns, and it returns without the error result exactly where nothing clashes and nothing unreadable is
read. -/

namespace Fmofp.Extractor

open Python

variable {py : Runtime} {now : ℚ} {m : Message}

/-- Extraction meets no conflict, the result has the message's own name, request and types, and each critical
field that is set at top level or in the metadata reads the same in both. -/
structure KeepsIdentity (py : Runtime) (now : ℚ) (m : Message) : Prop where
  extracted : ∃ fields, extractFromDict py maxNestingLevel m = .ok fields
  returned : ∃ r metadata, extractBusMessage py now m = .ok r ∧
    Dict.get? r "metadata" = some (.dict metadata) ∧
    (∀ field ∈ identityFields, ∀ v, v ≠ .none → Dict.get? m field = some v → Dict.get? r field = some v) ∧
    ∀ field ∈ criticalFields, Agrees (r, metadata) field

theorem get?_keepOwn_ne (m r : Message) {field key : String} (h : key ≠ field) :
    Dict.get? (keepOwn m r field) key = Dict.get? r key := by
  rw [keepOwn]
  split
  · rfl
  · rfl
  · exact Dict.get?_set_ne _ _ (Ne.symm h)

theorem get?_keepOwn {m : Message} {field : String} {v : Value} (h : Dict.get? m field = some v)
    (hv : v ≠ .none) (r : Message) : Dict.get? (keepOwn m r field) field = some v := by
  rw [keepOwn, h]
  cases v with
  | none => exact absurd rfl hv
  | _ => exact Dict.get?_set_self _ _ _

/-- What is the message's own is restored. -/
theorem get?_foldl_keepOwn (fields : List String) {field : String} {v : Value}
    (h : Dict.get? m field = some v) (hv : v ≠ .none) {r : Message}
    (hmem : field ∈ fields ∨ Dict.get? r field = some v) :
    Dict.get? (fields.foldl (keepOwn m) r) field = some v := by
  induction fields generalizing r with
  | nil => exact hmem.resolve_left List.not_mem_nil
  | cons other fields ih =>
    apply ih
    by_cases heq : field = other
    · subst heq
      exact .inr (get?_keepOwn h hv r)
    · rcases hmem with hmem | hread
      · exact .inl ((List.mem_cons.mp hmem).resolve_left heq)
      · exact .inr ((get?_keepOwn_ne m r heq).trans hread)

theorem get?_foldl_keepOwn_ne {fields : List String} {key : String} (h : key ∉ fields) (r : Message) :
    Dict.get? (fields.foldl (keepOwn m) r) key = Dict.get? r key := by
  induction fields generalizing r with
  | nil => rfl
  | cons other fields ih =>
    rw [List.mem_cons, not_or] at h
    rw [List.foldl_cons, ih h.2, get?_keepOwn_ne m r h.1]

/-- Whatever the processing made of a message, its identity is restored and mirrored. -/
theorem extractBusMessage_restores (hstatus : Dict.has m "status_word" = false) {r : Message} {s : Identity}
    (hprocess : processBusFields py (gatheredFields py now m) = .ok r) (hshows : Shows r s) :
    ∃ r' metadata, extractBusMessage py now m = .ok r' ∧
      Dict.get? r' "metadata" = some (.dict metadata) ∧
      (∀ field ∈ identityFields, ∀ v, v ≠ .none → Dict.get? m field = some v → Dict.get? r' field = some v) ∧
      ∀ field ∈ criticalFields, Agrees (r', metadata) field := by
  obtain ⟨metadata, hmetadata⟩ := hshows.metadata
  obtain ⟨consolidated, hconsolidated, ⟨metadata', hmetadata'⟩, -⟩ := @consolidateMetadata_ok py _ _ hmetadata
  have hkept : Dict.get? (identityFields.foldl (keepOwn m) (Dict.set consolidated "original_message" (.dict m)))
      "metadata" = some (.dict metadata') := by
    rw [get?_foldl_keepOwn_ne (by decide), Dict.get?_set_ne _ _ (by decide), hmetadata']
  obtain ⟨r', metadata'', hr', hread, hagrees, hsame⟩ := ensureUuidFieldsInMetadata_spec hkept
  refine ⟨r', metadata'', ?_, hread, fun field hfield v hv hown => ?_, hagrees⟩
  · rw [extractBusMessage, extractWith, hprocess]
    show (consolidateMetadata py r >>= fun result => _) = _
    rw [hconsolidated]
    show (if Dict.has m "status_word" then _ else _) = _
    rw [hstatus]
    exact hr'
  · have hne : ∀ field ∈ identityFields, field ≠ "metadata" ∧ field ≠ "request_uuid" := by decide
    exact hsame field v (hne field hfield).1 (hne field hfield).2 hv
      (get?_foldl_keepOwn identityFields hown hv (.inl hfield))

/-- A message without a status word keeps its identity exactly if flattening meets no conflict and the
processing can read what it reads. -/
theorem keepsIdentity_iff (hstatus : Dict.has m "status_word" = false) :
    KeepsIdentity py now m ↔ calm maxNestingLevel m = true ∧ BusReadable py m := by
  constructor
  · rintro ⟨⟨fields, hfields⟩, ⟨r, metadata, hr, -⟩⟩
    have hcalm : calm maxNestingLevel m = true := by
      by_contra hclash
      obtain ⟨text, htext⟩ := (extractFromDict_eq py maxNestingLevel m).2 (by simpa using hclash)
      rw [hfields] at htext
      cases htext
    refine ⟨hcalm, (@processBusFields_iff py now m hcalm).2 ?_⟩
    obtain ⟨result, hresult, -⟩ := bind_eq_ok hr
    obtain ⟨processed, hprocessed, -⟩ := bind_eq_ok hresult
    exact ⟨processed, hprocessed⟩
  · rintro ⟨hcalm, hread⟩
    obtain ⟨r, s, hprocess, hshows⟩ := (@processBusFields_iff py now m hcalm).1 hread
    exact ⟨⟨_, (extractFromDict_eq py maxNestingLevel m).1 hcalm⟩,
      extractBusMessage_restores hstatus hprocess hshows⟩

/-- A mode change for the weather radar, whose metadata repeat the address. -/
def modeChange : Message :=
  [("command_name", .str "WEATHER_RADAR_MODE_CHANGE"), ("rt_address", .int 9),
    ("metadata", .dict [("rt_address", .int 9)])]

theorem modeChange_readable : BusReadable Runtime.ascii modeChange where
  types := ⟨fun hset => absurd hset (by decide), fun hset => absurd hset (by decide)⟩
  address hstatus := absurd hstatus (by decide +kernel)
  special := by
    have hstatus : foundStatus Runtime.ascii (flat maxNestingLevel modeChange) = false := by decide +kernel
    rw [hstatus, if_neg (by decide)]
    have hname : (foundIdentity Runtime.ascii (flat maxNestingLevel modeChange)).name =
        .str "WEATHER_RADAR_MODE_CHANGE" := by decide +kernel
    exact ⟨fun _ => by rw [hname]; rfl, fun hunset => absurd hunset (by rw [hname]; decide)⟩

theorem modeChange_kept : KeepsIdentity Runtime.ascii 0 modeChange :=
  (keepsIdentity_iff (by decide)).mpr ⟨by decide +kernel, modeChange_readable⟩

/-- A mode change whose metadata have another address than it has itself. -/
def conflictingModeChange : Message :=
  [("message_type", .str "mode_change"), ("command_name", .str "WEATHER_RADAR_MODE_CHANGE"),
    ("rt_address", .int 9), ("metadata", .dict [("rt_address", .int 5)])]

/-- The conflict makes the base extractor fall back on its error result. -/
theorem conflictingModeChange_discarded :
    Dict.has conflictingModeChange "status_word" = false ∧
      ¬ KeepsIdentity Runtime.ascii 0 conflictingModeChange := by
  refine ⟨by decide, fun ⟨⟨fields, hfields⟩, _⟩ => ?_⟩
  have hclash : calm maxNestingLevel conflictingModeChange = false := by decide +kernel
  obtain ⟨text, htext⟩ := (extractFromDict_eq Runtime.ascii maxNestingLevel conflictingModeChange).2 hclash
  rw [hfields] at htext
  cases htext

end Fmofp.Extractor
