import Fmofp.Normalizer.Completion

/-! When a second normalisation changes nothing.  The message that the first one returns is settled: the
second one finds all its work done, but for an address that comes within reach only with the metadata that
the first one writes, and for the count of data that were not there. -/

namespace Fmofp.Normalizer

open Python Metadata

variable {P : Type} {py : Runtime} {m n done : Msg P} {messageType : Value} {schema : Schema}

/-! ### One pass -/

/-- The message after the schema and the data. -/
def afterData (py : Runtime) (m : Msg P) (messageType : Value) (schema : Schema) :
    Except Exception (Msg P) :=
  if messageType = precipitationResponse then
    (entriesOf py m.data).map fun entries =>
      withEntries (filled m messageType schema) (nested (filled m messageType schema)) entries
  else .ok (filled m messageType schema)

theorem ensureDataStructure_eq :
    ensureDataStructure py (filled m messageType schema) messageType = afterData py m messageType schema := by
  rw [ensureDataStructure, afterData]
  split_ifs
  · exact normalizePrecipitationData_eq (metadataDict_eq_some.mpr rfl)
  · rfl

theorem foundType_routed (py : Runtime) (m : Msg P) : foundType py (routed py m) = foundType py m := by
  have hr := routed_routed py m
  rw [foundType, hr.fields _ (by decide) (by decide), hr.nested, hr.holds precipitation (by decide),
    hr.isModeChange_eq, hr.holds vil (by decide), foundType]

theorem normalize_of_unknown (h : TextFields m) (hschema : schemaOf (foundType py m) = none) :
    (normalizeMessageStructure py m).result = verified py (routed py m) := by
  have hne : foundType py m ≠ precipitationResponse := by
    intro heq
    have hknown : schemaOf precipitationResponse ≠ none := by decide +kernel
    exact hknown (heq ▸ hschema)
  rw [normalizeMessageStructure, prepare_eq h, afterSchema, hschema]
  dsimp only
  rw [ensureDataStructure, if_neg hne]
  dsimp only
  rw [verifyCriticalFields_eq ((routed_routed py m).isText h)]
  rfl

theorem normalize_of_error (h : TextFields m) (hschema : schemaOf (foundType py m) = some schema)
    {e : Exception} (he : afterData py (routed py m) (foundType py m) schema = .error e) :
    (normalizeMessageStructure py m).result =
      shared m (filled (routed py m) (foundType py m) schema) := by
  rw [normalizeMessageStructure, prepare_eq h, afterSchema, hschema]
  dsimp only
  rw [ensureDataStructure_eq, he]
  rfl

theorem afterData_cases (hdone : afterData py m messageType schema = .ok done) :
    (messageType ≠ precipitationResponse ∧ done = filled m messageType schema) ∨
      messageType = precipitationResponse ∧ ∃ entries, entriesOf py m.data = .ok entries ∧
        done = withEntries (filled m messageType schema) (nested (filled m messageType schema)) entries := by
  rw [afterData] at hdone
  split_ifs at hdone with htype
  · cases hentries : entriesOf py m.data with
    | error e =>
      rw [hentries] at hdone
      cases hdone
    | ok entries =>
      rw [hentries] at hdone
      cases hdone
      exact .inr ⟨htype, entries, rfl, rfl⟩
  · cases hdone
    exact .inl ⟨htype, rfl⟩

theorem isText_afterData (hschema : schemaOf messageType = some schema) (h : TextFields m)
    (hdone : afterData py m messageType schema = .ok done) : TextFields done := by
  have hfilled := isText_filled hschema h
  rcases afterData_cases hdone with ⟨-, rfl⟩ | ⟨-, entries, -, rfl⟩
  · exact hfilled
  · exact isText_withEntries entries hfilled

theorem normalize_of_done (h : TextFields m) (hschema : schemaOf (foundType py m) = some schema)
    (hdone : afterData py (routed py m) (foundType py m) schema = .ok done) :
    (normalizeMessageStructure py m).result = verified py done := by
  have htext := isText_afterData hschema ((routed_routed py m).isText h) hdone
  rw [normalizeMessageStructure, prepare_eq h, afterSchema, hschema]
  dsimp only
  rw [ensureDataStructure_eq, hdone]
  dsimp only
  rw [verifyCriticalFields_eq htext]
  rfl

/-- The phase of the data writes the count and its own mark. -/
theorem get?_afterData (hdone : afterData py m messageType schema = .ok done) {key : String}
    (hcount : key ≠ "data_count") :
    Dict.get? done.fields key = Dict.get? (filled m messageType schema).fields key ∧
      (key ≠ "precipitation_data_normalized" →
        Dict.get? (nested done) key = Dict.get? (nested (filled m messageType schema)) key) := by
  rcases afterData_cases hdone with ⟨-, rfl⟩ | ⟨-, entries, -, rfl⟩
  · exact ⟨rfl, fun _ => rfl⟩
  · exact get?_withEntries entries _ hcount

theorem metadata_afterData (hdone : afterData py m messageType schema = .ok done) :
    done.metadata = some (.dict (nested done)) := by
  rcases afterData_cases hdone with ⟨-, rfl⟩ | ⟨-, entries, -, rfl⟩
  · rfl
  · exact metadata_withEntries entries rfl

theorem get?_flag_filled {r : Response} (hschema : schemaOf messageType = some schema)
    (hr : response? messageType = some r) {key : String} (hkey : key ∈ r.flags) :
    Dict.get? (nested (filled m messageType schema)) key = some (.bool true) := by
  have hkeys : ∀ key ∈ flagKeys, key ∉ writtenKeys := by decide
  rw [(get?_filled_of_notMem hschema _ (hkeys key (mem_flagKeys hr hkey))).2, laterMetadata, isFlagOf, hr,
    Option.any_some, if_pos (decide_eq_true hkey)]

theorem get?_precipitation_filled (hschema : schemaOf precipitationResponse = some schema) :
    Dict.get? (nested (filled m precipitationResponse schema)) "precipitation_message" =
      some (.bool true) :=
  get?_flag_filled hschema response?_precipitation (by decide)

theorem isSome_defaultOf {r : Response} (hr : response? messageType = some r) {key : String}
    (hkey : key ∈ ["command_type", "command_name"]) : (defaultOf messageType key).isSome = true := by
  rw [defaultOf, hr, Option.bind_some]
  rcases List.mem_pair.mp hkey with rfl | rfl <;> rfl

theorem foundType_afterData (hschema : schemaOf (foundType py m) = some schema)
    (hdone : afterData py m (foundType py m) schema = .ok done) :
    foundType py done = foundType py m := by
  rcases afterData_cases hdone with ⟨-, rfl⟩ | ⟨htype, entries, -, rfl⟩
  · exact foundType_filled hschema
  · rw [htype]
    refine foundType_withEntries entries ?_ ?_
    · rw [← htype]
      exact foundType_filled hschema
    · exact get?_precipitation_filled (htype ▸ hschema)

theorem weather_afterData (hschema : schemaOf messageType = some schema)
    (hdone : afterData py m messageType schema = .ok done) :
    weather py done = weatherLater py m messageType schema := by
  rw [← weather_filled hschema]
  rcases afterData_cases hdone with ⟨-, rfl⟩ | ⟨rfl, entries, -, rfl⟩
  · rfl
  · have hflag := get?_precipitation_filled (m := m) hschema
    rw [weather_of_flag hflag, weather_of_flag]
    rw [(get?_withEntries entries _ (by decide)).2 (by decide), hflag]

/-! ### The entries -/

theorem standardize_standardize {item : Item P} {d : Message} (h : standardize py item = .ok (some d)) :
    standardize py (.value (.dict d) : Item P) = .ok (some d) := by
  rw [standardize.eq_def] at h
  cases hdict : item.dict? with
  | none =>
    rw [hdict] at h
    cases h
  | some e =>
    rw [hdict] at h
    dsimp only at h
    cases hposition : Dict.get? e "position" with
    | none =>
      rw [hposition] at h
      cases h
    | some position =>
      cases htype : Dict.get? e "type" with
      | none =>
        rw [hposition, htype] at h
        cases h
      | some type =>
        rw [hposition, htype] at h
        dsimp only at h
        cases hrate : toFloat py (Dict.getD e "rate" (.float 0)) with
        | error e =>
          rw [hrate] at h
          cases h
        | ok rate =>
          cases hintensity : toFloat py (Dict.getD e "intensity" (.float 0)) with
          | error e =>
            rw [hrate, hintensity] at h
            cases h
          | ok intensity =>
            rw [hrate, hintensity] at h
            cases h
            have htuple := asTuple_asTuple position
            rw [standardize.eq_def]
            simp only [Item.dict?, Value.dict?]
            exact congrArg (fun p => Except.ok (some [("position", p), ("type", type), ("rate", .float rate),
              ("intensity", .float intensity),
              ("show_values", .bool (Dict.getD e "show_values" (.bool false)).truthy)])) htuple

theorem standardized_standardized {items : List (Item P)} {entries : List Message}
    (h : standardized py items = .ok entries) :
    standardized py (entries.map fun d => (.value (.dict d) : Item P)) = .ok entries := by
  induction items generalizing entries with
  | nil =>
    cases h
    rfl
  | cons item items ih =>
    rw [standardized_cons] at h
    cases hitem : standardize py item with
    | error e =>
      rw [hitem] at h
      cases h
    | ok entry =>
      cases hrest : standardized py items with
      | error e =>
        rw [hitem, hrest] at h
        cases h
      | ok rest =>
        rw [hitem, hrest] at h
        cases h
        cases entry with
        | none => exact ih hrest
        | some d =>
          rw [Option.toList_some, List.cons_append, List.nil_append, List.map_cons, standardized_cons,
            standardize_standardize hitem, ih hrest]
          rfl

/-- The entries of the data are their own entries. -/
theorem entriesOf_entries {data : Option (Data P)} {entries : List Message} (hne : entries ≠ [])
    (h : entriesOf py data = .ok (some entries)) :
    entriesOf py (some (.list (entries.map fun d => (.value (.dict d) : Item P)))) = .ok (some entries) := by
  have hstandard : standardized py (entries.map fun d => (.value (.dict d) : Item P)) = .ok entries := by
    cases data with
    | none => cases h
    | some data =>
      rw [entriesOf.eq_def] at h
      dsimp only at h
      split_ifs at h
      · cases h
      cases hitems : data.iterate with
      | error e =>
        rw [hitems] at h
        cases h
      | ok items =>
        rw [hitems] at h
        have h' : (if items.all Item.isObject = true then (.ok (some []) : Except Exception _) else
          (standardized py items).map some) = .ok (some entries) := by
          rw [← h]
          show _ = (if items.all Item.isObject = true then _ else _)
          split_ifs
          · rfl
          · cases standardized py items <;> rfl
        split_ifs at h'
        · cases h'
          exact absurd rfl hne
        · cases hstandard : standardized py items with
          | error e =>
            rw [hstandard] at h'
            cases h'
          | ok es =>
            rw [hstandard] at h'
            cases h'
            exact standardized_standardized hstandard
  obtain ⟨d, ds, rfl⟩ := List.exists_cons_of_ne_nil hne
  rw [entriesOf.eq_def]
  dsimp only
  rw [if_neg (by simp [Data.truthy])]
  have hiterate : (Data.list ((d :: ds).map fun d => (.value (.dict d) : Item P))).iterate =
      .ok ((d :: ds).map fun d => .value (.dict d)) := rfl
  rw [hiterate]
  simp only [bind, Except.bind, hstandard]
  rw [if_neg (by simp [Item.isObject])]
  rfl

/-! ### The count -/

/-- The message counts its list of data, on both sides, if its type is a response. -/
def CountRight (py : Runtime) (m : Msg P) : Prop :=
  ∀ r, response? (foundType py m) = some r → ∀ items, m.list? = some items →
    Dict.get? m.fields "data_count" = some (.int items.length) ∧
      Dict.get? (nested m) "data_count" = some (.int items.length)

/-- Data of a precipitation response that are no list and become an empty one were counted before. -/
def CountKept (py : Runtime) (m : Msg P) : Prop :=
  foundType py m = precipitationResponse → m.list? = none → (∀ data ∈ m.data, data.truthy = false) →
    either m "data_count" = some (.int 0) ∧
      (Dict.get? (nested m) "data_count").or (Dict.get? m.fields "data_count") = some (.int 0)

theorem entriesOf_eq_none (h : entriesOf py m.data = .ok none) : ∀ data ∈ m.data, data.truthy = false := by
  intro data hdata
  rw [Option.mem_def.mp hdata, entriesOf.eq_def] at h
  dsimp only at h
  split_ifs at h with hfalsy
  · exact hfalsy
  · cases hitems : data.iterate with
    | error e =>
      rw [hitems] at h
      cases h
    | ok items =>
      rw [hitems] at h
      simp only [bind, Except.bind] at h
      split_ifs at h
      · cases h
      · cases hstandard : standardized py items with
        | error e =>
          rw [hstandard] at h
          cases h
        | ok es =>
          rw [hstandard] at h
          cases h

theorem list?_nil_of_falsy {items : List (Item P)} (h : ∀ data ∈ m.data, data.truthy = false)
    (hlist : m.list? = some items) : items = [] := by
  rw [Msg.list?.eq_def] at hlist
  cases hdata : m.data with
  | none =>
    rw [hdata] at hlist
    cases hlist
  | some data =>
    rw [hdata] at hlist
    have hfalsy := h data hdata
    cases data with
    | list xs =>
      cases hlist
      cases items with
      | nil => rfl
      | cons x xs => cases hfalsy
    | tuple xs => cases hlist
    | other v plain => cases hlist

/-- After the data phase the count is right, unless there were none. -/
theorem countRight_afterData (hschema : schemaOf (foundType py m) = some schema)
    (hdone : afterData py m (foundType py m) schema = .ok done) : CountRight py done ↔ CountKept py m := by
  have hfound := foundType_afterData hschema hdone
  rw [CountRight, CountKept, hfound]
  rcases afterData_cases hdone with ⟨hne, rfl⟩ | ⟨htype, entries, hentries, rfl⟩
  · -- a list is counted by the phase of the schema
    refine ⟨fun _ htype => absurd htype hne, fun _ r hr items hlist => ?_⟩
    exact get?_schemaSides_count schema hr hlist
  · have hr : response? (foundType py m) = some response := by rw [htype, response?_precipitation]
    cases entries with
    | none =>
      have hfalsy := entriesOf_eq_none hentries
      have hlist : (withEntries (filled m (foundType py m) schema)
        (nested (filled m (foundType py m) schema)) none).list? = some [] := rfl
      rw [hlist]
      cases hwas : m.list? with
      | some items =>
        refine ⟨fun _ _ hnone => absurd hnone (Option.some_ne_none _), fun _ r _ items' hitems => ?_⟩
        cases hitems
        have hcount := get?_schemaSides_count schema hr hwas
        rw [list?_nil_of_falsy hfalsy hwas] at hcount
        exact hcount
      | none =>
        obtain ⟨hleft, hright⟩ := get?_schemaSides_uncounted hschema hr hwas
        constructor
        · intro h _ _ _
          rw [← hleft, ← hright]
          exact h response hr [] rfl
        · intro h r _ items' hitems
          cases hitems
          rw [← hleft, ← hright] at h
          exact h htype rfl hfalsy
    | some es =>
      have htruthy : ¬∀ data ∈ m.data, data.truthy = false := by
        intro hfalsy
        rw [entriesOf.eq_def] at hentries
        cases hdata : m.data with
        | none =>
          rw [hdata] at hentries
          cases hentries
        | some data =>
          rw [hdata] at hentries
          dsimp only at hentries
          rw [if_pos (hfalsy data hdata)] at hentries
          cases hentries
      refine ⟨fun _ _ _ hfalsy => absurd hfalsy htruthy, fun _ r _ items hlist => ?_⟩
      rw [withEntries] at hlist ⊢
      split_ifs at hlist ⊢
      · exact get?_schemaSides_count schema hr hlist
      · cases hlist
        rw [List.length_map]
        refine ⟨Dict.get?_set_self .., ?_⟩
        show Dict.get? (convertedMetadata es.length (nested (filled m (foundType py m) schema))) _ = _
        rw [convertedMetadata, Dict.get?_set_ne _ _ (by decide), Dict.get?_set_self]

theorem list?_verified (py : Runtime) (m : Msg P) : (verified py m).list? = m.list? := by
  rw [Msg.list?, verified_data, Msg.list?]

theorem countRight_verified (py : Runtime) (m : Msg P) : CountRight py (verified py m) ↔ CountRight py m := by
  obtain ⟨hleft, hright⟩ := get?_verified py m "data_count" (by decide)
  rw [CountRight, foundType_verified, list?_verified, hleft, hright, CountRight]

/-! ### Settled messages -/

/-- The data of a precipitation response are as the conversion leaves them. -/
inductive DataSettled (py : Runtime) (m : Msg P) : Prop
  | empty (h : m.data = some (.list []))
  | plain (h : entriesOf py m.data = .ok (some []))
  | entries (entries : List Message) (hne : entries ≠ [])
      (h : entriesOf py m.data = .ok (some entries))
      (hdata : m.data = some (.list (entries.map fun d => .value (.dict d))))
      (hmark : Dict.get? (nested m) "precipitation_data_normalized" = some (.bool true))

/-- A message in which every phase but that of the addresses finds its work done, up to the count. -/
structure Settled (py : Runtime) (m : Msg P) (schema : Schema) : Prop where
  text : TextFields m
  known : schemaOf (foundType py m) = some schema
  metadata : m.metadata = some (.dict (nested m))
  mirrored : ∀ field ∈ schema.metadataFields,
    Dict.has m.fields field = Dict.has (nested m) field
  response : ∀ r, response? (foundType py m) = some r →
    Dict.has m.fields "command_type" = true ∧ Dict.has m.fields "command_name" = true ∧
      ∀ flag ∈ r.flags, Dict.get? (nested m) flag = some (.bool true)
  data : foundType py m = precipitationResponse → DataSettled py m
  verified : Normalizer.verified py m = m

/-- The phase of the schema writes nothing new. -/
theorem Settled.schemaSides_eq (h : Settled py m schema) (hcount : CountRight py m) :
    schemaSides m (foundType py m) schema = (m.fields, nested m) := by
  have hmirror : mirror schema.metadataFields (m.fields, m.metadataDict.getD []) = (m.fields, nested m) :=
    mirror_eq_self h.mirrored
  rw [schemaSides, hmirror]
  cases hresponse : response? (foundType py m) with
  | none => rfl
  | some r =>
    obtain ⟨htype, hname, hflags⟩ := h.response r hresponse
    have hnamed : r.named (m.fields, nested m) = (m.fields, nested m) := by
      have htyped : setDefault "command_type" (.str r.commandType) (m.fields, nested m) =
          (m.fields, nested m) := setDefault_of_has _ htype
      rw [Response.named, htyped, setDefault_of_has _ hname]
    have hcounted : r.counted (m.list?.map List.length) (m.fields, nested m) = (m.fields, nested m) := by
      rw [Response.counted.eq_def, hnamed]
      cases hlist : m.list? with
      | none => rfl
      | some items =>
        obtain ⟨hleft, hright⟩ := hcount r hresponse items hlist
        show setBoth "data_count" (.int items.length) (m.fields, nested m) = _
        rw [setBoth, Dict.set_of_get? hleft, Dict.set_of_get? hright]
    dsimp only
    rw [Response.apply_eq, hcounted, flags_eq_self hflags]

/-- The phase of the data leaves them as they are. -/
theorem DataSettled.withEntries_eq (h : DataSettled py m) (hmetadata : m.metadata = some (.dict (nested m)))
    (hcount : ∀ items, m.list? = some items →
      Dict.get? m.fields "data_count" = some (.int items.length) ∧
        Dict.get? (nested m) "data_count" = some (.int items.length)) :
    ∃ entries, entriesOf py m.data = .ok entries ∧ withEntries m (nested m) entries = m := by
  cases h with
  | empty hdata =>
    refine ⟨none, by rw [hdata]; rfl, ?_⟩
    rw [withEntries, ← hdata]
  | plain hentries => exact ⟨some [], hentries, rfl⟩
  | entries entries hne hentries hdata hmark =>
    refine ⟨some entries, hentries, ?_⟩
    have hlist : m.list? = some (entries.map fun d => .value (.dict d)) := by rw [Msg.list?, hdata]
    obtain ⟨hleft, hright⟩ := hcount _ hlist
    rw [List.length_map] at hleft hright
    have hconverted : convertedMetadata entries.length (nested m) = nested m := by
      rw [convertedMetadata, Dict.set_of_get? hright, Dict.set_of_get? hmark]
    rw [withEntries, if_neg hne, convertedTo, Dict.set_of_get? hleft, hconverted, ← hmetadata, ← hdata]

theorem has_afterData (hschema : schemaOf messageType = some schema)
    (hdone : afterData py m messageType schema = .ok done) {field : String}
    (hfield : field ∈ schema.metadataFields) (hflag : isFlagOf messageType field = false)
    (hmark : messageType = precipitationResponse → field ≠ "precipitation_data_normalized") :
    Dict.has done.fields field = Dict.has (nested done) field := by
  have hfilled : Dict.has (filled m messageType schema).fields field =
      Dict.has (nested (filled m messageType schema)) field := has_schemaSides hschema hfield hflag
  rcases afterData_cases hdone with ⟨-, rfl⟩ | ⟨htype, entries, -, rfl⟩
  · exact hfilled
  · by_cases hcount : field = "data_count"
    · subst hcount
      cases entries with
      | none => exact hfilled
      | some es =>
        rw [withEntries]
        split_ifs
        · exact hfilled
        · have hright : Dict.get? (nested (convertedTo (filled m messageType schema)
              (nested (filled m messageType schema)) es)) "data_count" = some (.int es.length) := by
            show Dict.get? (convertedMetadata _ _) _ = _
            rw [convertedMetadata, Dict.get?_set_ne _ _ (by decide), Dict.get?_set_self]
          rw [Dict.has, Dict.has, hright, convertedTo, Dict.get?_set_self]
    · obtain ⟨hleft, hright⟩ := get?_withEntries (m := filled m messageType schema) entries _ hcount
      rw [Dict.has, Dict.has, hleft, hright (hmark htype), ← Dict.has, ← Dict.has, hfilled]

theorem isFlagOf_of_mem (hschema : schemaOf messageType = some schema) {field : String}
    (hfield : field ∈ schema.metadataFields) : isFlagOf messageType field = false := by
  cases hr : response? messageType with
  | none =>
    rw [isFlagOf, hr]
    rfl
  | some r =>
    rw [metadataFields_of_response hschema hr] at hfield
    have hall : ∀ field ∈ schemaFields, field ∉ flagKeys := by decide
    exact isFlagOf_eq_false (hall field hfield)

theorem has_verified (hmetadata : m.metadata = some (.dict (nested m))) {field : String}
    (h : Dict.has m.fields field = Dict.has (nested m) field) :
    Dict.has (verified py m).fields field = Dict.has (nested (verified py m)) field := by
  by_cases hcommand : field = "command_type"
  · subst hcommand
    rw [verified]
    split_ifs
    · have hnested : nested (restoreCommandType m) =
          Dict.set (nested m) "command_type" (.str "precipitation_data") := by
        rw [nested_restoreCommandType, metadataDict_eq_some.mpr hmetadata]
        rfl
      rw [hnested, restoreCommandType, Dict.has, Dict.has, Dict.get?_set_self, Dict.get?_set_self]
    · exact h
  · obtain ⟨hleft, hright⟩ := get?_verified py m _ hcommand
    rw [Dict.has, Dict.has, hleft, hright, ← Dict.has, ← Dict.has, h]

theorem has_verified_of_has (py : Runtime) {field : String} (h : Dict.has m.fields field = true) :
    Dict.has (verified py m).fields field = true := by
  rw [verified]
  split_ifs
  · exact Dict.has_set_of_has h _ _
  · exact h

theorem dataSettled_afterData (hdone : afterData py m precipitationResponse schema = .ok done) :
    DataSettled py done := by
  rcases afterData_cases hdone with ⟨hne, -⟩ | ⟨-, entries, hentries, rfl⟩
  · exact absurd rfl hne
  · cases entries with
    | none => exact .empty rfl
    | some es =>
      rw [withEntries]
      split_ifs with hes
      · refine .plain ?_
        rw [hes] at hentries
        exact hentries
      · refine .entries es hes ?_ rfl ?_
        · exact entriesOf_entries hes hentries
        · exact Dict.get?_set_self ..

theorem DataSettled.verified (h : DataSettled py m) : DataSettled py (verified py m) := by
  have hdata := verified_data py m
  cases h with
  | empty h => exact .empty (hdata.trans h)
  | plain h => exact .plain (by rw [hdata, h])
  | entries entries hne h hlist hmark =>
    exact .entries entries hne (by rw [hdata, h]) (hdata.trans hlist)
      ((get?_verified py m _ (by decide)).2.trans hmark)

/-- A response has its command, on both sides, and its flags. -/
theorem response_afterData {r : Response} (hschema : schemaOf messageType = some schema)
    (hr : response? messageType = some r) (hdone : afterData py m messageType schema = .ok done) :
    (∀ key ∈ ["command_type", "command_name"], Dict.has done.fields key = true) ∧
      ∀ flag ∈ r.flags, Dict.get? (nested done) flag = some (.bool true) := by
  constructor
  · intro key hkey
    have hkeys : ∀ key ∈ ["command_type", "command_name"], key ∈ textKeys ∧ key ≠ "data_count" := by decide
    obtain ⟨htext, hcount⟩ := hkeys key hkey
    rw [Dict.has, (get?_afterData hdone hcount).1, (get?_filled_text hschema _ htext).1, Option.isSome_or,
      isSome_defaultOf hr hkey, Bool.or_true]
  · intro flag hflag
    have hkeys : ∀ flag ∈ flagKeys, flag ≠ "data_count" ∧ flag ≠ "precipitation_data_normalized" := by decide
    obtain ⟨hcount, hmark⟩ := hkeys flag (mem_flagKeys hr hflag)
    rw [(get?_afterData hdone hcount).2 hmark]
    exact get?_flag_filled hschema hr hflag

/-- What the first normalisation returns is settled. -/
theorem settled_verified (h : TextFields m) (hschema : schemaOf (foundType py m) = some schema)
    (hdone : afterData py m (foundType py m) schema = .ok done) :
    Settled py (verified py done) schema where
  text := isText_verified (isText_afterData hschema h hdone)
  known := by rw [foundType_verified, foundType_afterData hschema hdone, hschema]
  metadata := metadata_verified (metadata_afterData hdone)
  mirrored field hfield := by
    refine has_verified (metadata_afterData hdone) (has_afterData hschema hdone hfield ?_ ?_)
    · exact isFlagOf_of_mem hschema hfield
    · rintro htype rfl
      rw [metadataFields_of_response hschema (by rw [htype, response?_precipitation])] at hfield
      exact absurd hfield (by decide)
  response r hr := by
    rw [foundType_verified, foundType_afterData hschema hdone] at hr
    obtain ⟨hcommand, hflags⟩ := response_afterData hschema hr hdone
    refine ⟨has_verified_of_has py (hcommand _ (by decide)), has_verified_of_has py (hcommand _ (by decide)),
      fun flag hflag => ?_⟩
    have hkeys : ∀ flag ∈ flagKeys, flag ≠ "command_type" := by decide
    rw [(get?_verified py done _ (hkeys flag (mem_flagKeys hr hflag))).2, hflags flag hflag]
  data htype := by
    rw [foundType_verified, foundType_afterData hschema hdone] at htype
    rw [htype] at hdone
    exact (dataSettled_afterData hdone).verified
  verified := verified_verified py done

theorem metadata_filled_eq (h : schemaSides m messageType schema = (m.fields, nested m))
    (hmetadata : m.metadata = some (.dict (nested m))) : filled m messageType schema = m := by
  rw [filled, h, ← hmetadata]

/-- A settled message is left as it is, unless an address or the count is new. -/
theorem Settled.fixed_iff (h : Settled py m schema) :
    (normalizeMessageStructure py m).result = m ↔
      newRt py m = .none ∧ newSub py m = .none ∧ CountRight py m := by
  have hr := routed_routed py m
  obtain ⟨done, hdone⟩ : ∃ done, afterData py (routed py m) (foundType py m) schema = .ok done := by
    rw [afterData]
    split_ifs with htype
    · have hentries : ∃ entries, entriesOf py m.data = .ok entries := by
        cases h.data htype with
        | empty hdata => exact ⟨none, by rw [hdata]; rfl⟩
        | plain hentries => exact ⟨_, hentries⟩
        | entries entries _ hentries => exact ⟨_, hentries⟩
      obtain ⟨entries, hentries⟩ := hentries
      rw [hr.data, hentries]
      exact ⟨_, rfl⟩
    · exact ⟨_, rfl⟩
  rw [normalize_of_done h.text h.known hdone]
  constructor
  · intro hsame
    have hread : ∀ key ∈ ["rt_address", "sub_address"],
        Dict.get? (routed py m).fields key = Dict.get? m.fields key := by
      intro key hkey
      have hkeys : ∀ key ∈ ["rt_address", "sub_address"], key ∈ unmirrored ∧ key ≠ "command_type" ∧
        key ≠ "data_count" := by decide
      obtain ⟨hmem, hcommand, hcount⟩ := hkeys key hkey
      rw [← get?_filled_of_unmirrored h.known hmem, ← (get?_afterData hdone hcount).1,
        ← (get?_verified py done _ hcommand).1, hsame]
    obtain ⟨hrt, hsub⟩ := routed_eq_self (hread _ (by decide)) (hread _ (by decide))
    refine ⟨hrt, hsub, fun r hresponse items hlist => ?_⟩
    rw [routed_of_none hrt hsub] at hdone
    have hkept : CountKept py m := by
      intro _ hnone
      rw [hlist] at hnone
      cases hnone
    have hcount := (countRight_verified py done).mpr ((countRight_afterData h.known hdone).mpr hkept)
    rw [hsame] at hcount
    exact hcount r hresponse items hlist
  · rintro ⟨hrt, hsub, hcount⟩
    rw [routed_of_none hrt hsub] at hdone
    have hfilled : filled m (foundType py m) schema = m :=
      metadata_filled_eq (h.schemaSides_eq hcount) h.metadata
    have hsame : done = m := by
      rcases afterData_cases hdone with ⟨-, rfl⟩ | ⟨htype, entries, hentries, rfl⟩
      · exact hfilled
      · have hresponse : response? (foundType py m) = some Normalizer.response := by
          rw [htype, response?_precipitation]
        obtain ⟨entries', hentries', heq⟩ :=
          (h.data htype).withEntries_eq h.metadata (hcount Normalizer.response hresponse)
        rw [hentries] at hentries'
        rw [hfilled, Except.ok.inj hentries', heq]
    rw [hsame, h.verified]

/-! ### The second search -/

/-- Where a weather message comes from, by the metadata that the schema leaves. -/
def laterSource (m : Msg P) (messageType : Value) (schema : Schema) : Option Value :=
  match Dict.get? (nested m) "source_rt_address" with
  | some address => some address
  | none =>
    if laterMetadata m messageType schema "radar_type" = some (.str "weather_radar") then some (.int 9)
    else none

/-- The terminal's address in the metadata that the schema leaves, if any. -/
def laterRt (py : Runtime) (m : Msg P) (messageType : Value) (schema : Schema) : Value :=
  (Dict.get? (nested m) "rt_address").getD
    ((if weatherLater py m messageType schema then laterSource m messageType schema else none).getD
      (embeddedAddress (nested m)))

def laterSub (py : Runtime) (m : Msg P) (messageType : Value) (schema : Schema) : Value :=
  ((Dict.get? (nested m) "sub_address").or (Dict.get? (nested m) "subaddress")).getD
    (if weatherLater py m messageType schema then .int 1 else .none)

theorem get?_nested_filled (hschema : schemaOf messageType = some schema) (key : String)
    (hkey : key ∈ ["rt_address", "sub_address", "subaddress", "source_rt_address", "status_word"]) :
    Dict.get? (nested (filled m messageType schema)) key = Dict.get? (nested m) key := by
  have hkeys : ∀ key ∈ ["rt_address", "sub_address", "subaddress", "source_rt_address", "status_word"],
      key ∈ unmirrored ∧ key ∉ writtenKeys ∧
        key ∉ flagKeys := by
    decide
  obtain ⟨hmem, hdefault, hflag⟩ := hkeys key hkey
  rw [(get?_filled_of_notMem hschema _ hdefault).2,
    laterMetadata_of_notMem (isFlagOf_eq_false hflag) (notMem_metadataFields hschema hmem)]

theorem foundRt_filled (hschema : schemaOf messageType = some schema) :
    foundRt py (filled m messageType schema) = laterRt py m messageType schema := by
  have hradar := (get?_filled_of_notMem (m := m) hschema "radar_type" (by decide)).2
  rw [foundRt, weather_filled hschema, sourceAddress.eq_def, embeddedAddress,
    get?_nested_filled hschema "rt_address" (by decide),
    get?_nested_filled hschema "source_rt_address" (by decide),
    get?_nested_filled hschema "status_word" (by decide), hradar]
  rfl

theorem foundSub_filled (hschema : schemaOf messageType = some schema) :
    foundSub py (filled m messageType schema) = laterSub py m messageType schema := by
  have hsome : (filled m messageType schema).metadataDict.isSome = true := rfl
  rw [foundSub, hsome, if_pos rfl, weather_filled hschema,
    get?_nested_filled hschema "sub_address" (by decide),
    get?_nested_filled hschema "subaddress" (by decide), laterSub]

theorem newRt_afterData (hschema : schemaOf messageType = some schema)
    (hdone : afterData py m messageType schema = .ok done) :
    newRt py done = newRt py (filled m messageType schema) := by
  refine newRt_congr (foundRt_congr ?_ fun key hkey => ?_) fun key hkey => ?_
  · rw [weather_afterData hschema hdone, weather_filled hschema]
  · have hkeys : ∀ key ∈ ["rt_address", "source_rt_address", "radar_type", "status_word"],
      key ≠ "data_count" ∧ key ≠ "precipitation_data_normalized" := by decide
    exact (get?_afterData hdone (hkeys key hkey).1).2 (hkeys key hkey).2
  · refine (get?_afterData hdone ?_).1
    rintro rfl
    exact absurd hkey (by decide)

theorem newSub_afterData (hschema : schemaOf messageType = some schema)
    (hdone : afterData py m messageType schema = .ok done) :
    newSub py done = newSub py (filled m messageType schema) := by
  refine newSub_congr (foundSub_congr ?_ ?_ fun key hkey => ?_) (get?_afterData hdone (by decide)).1
  · rw [weather_afterData hschema hdone, weather_filled hschema]
  · rw [metadataDict_eq_some.mpr (metadata_afterData hdone)]
    rfl
  · have hkeys : ∀ key ∈ ["sub_address", "subaddress"],
      key ≠ "data_count" ∧ key ≠ "precipitation_data_normalized" := by decide
    exact (get?_afterData hdone (hkeys key hkey).1).2 (hkeys key hkey).2

/-- A message without a terminal's address gets one now only if the metadata now have one. -/
theorem newRt_filled_iff (hschema : schemaOf messageType = some schema) (hnone : newRt py m = .none) :
    newRt py (filled m messageType schema) = .none ↔
      Dict.has m.fields "rt_address" = true ∨ laterRt py m messageType schema = .none := by
  have hfields : ∀ key ∈ ["rt_address", "frames", "status_word"],
      Dict.get? (filled m messageType schema).fields key = Dict.get? m.fields key := by
    intro key hkey
    have hkeys : ∀ key ∈ ["rt_address", "frames", "status_word"], key ∈ unmirrored := by decide
    exact get?_filled_of_unmirrored hschema (hkeys key hkey)
  have hframes : rtAddressFromFrames py (filled m messageType schema).fields =
      rtAddressFromFrames py m.fields :=
    rtAddressFromFrames_congr fun key hkey => hfields key (List.mem_cons_of_mem _ hkey)
  rw [newRt] at hnone ⊢
  rw [Dict.has, hfields "rt_address" (by decide), ← Dict.has, hframes, foundRt_filled hschema]
  split_ifs at hnone ⊢ with hhas hfound
  · simp [hhas]
  · simp [hhas]
  · exact absurd hnone hfound

theorem newSub_filled_iff (hschema : schemaOf messageType = some schema) :
    newSub py (filled m messageType schema) = .none ↔
      Dict.has m.fields "sub_address" = true ∨ laterSub py m messageType schema = .none := by
  rw [newSub, Dict.has, get?_filled_of_unmirrored hschema (by decide), ← Dict.has, foundSub_filled hschema]
  split_ifs with hhas
  · simp [hhas]
  · simp [hhas]

/-! ### The two searches of a message -/

theorem Routed.laterMetadata (h : Routed m n) (key : String) (hkey : key ∉ ["rt_address", "sub_address"]) :
    laterMetadata n messageType schema key = Normalizer.laterMetadata m messageType schema key := by
  simp only [List.mem_cons, List.not_mem_nil, or_false, not_or] at hkey
  rw [Normalizer.laterMetadata, h.nested, h.fields key hkey.1 hkey.2, Normalizer.laterMetadata]

theorem Routed.weatherLater (h : Routed m n) :
    weatherLater py n messageType schema = Normalizer.weatherLater py m messageType schema := by
  rw [Normalizer.weatherLater, Topic.holdsLater, Topic.holdsLater, h.holds precipitation (by decide),
    h.holds vil (by decide), h.isModeChange_eq, h.laterMetadata precipitation.flag (by decide),
    h.laterMetadata vil.flag (by decide), h.laterMetadata "data_type" (by decide), Normalizer.weatherLater, Topic.holdsLater,
    Topic.holdsLater]

theorem Routed.laterRt (h : Routed m n) :
    laterRt py n messageType schema = Normalizer.laterRt py m messageType schema := by
  rw [Normalizer.laterRt, h.weatherLater, laterSource.eq_def, h.nested, h.laterMetadata _ (by decide),
    Normalizer.laterRt, laterSource.eq_def]

theorem Routed.laterSub (h : Routed m n) :
    laterSub py n messageType schema = Normalizer.laterSub py m messageType schema := by
  rw [Normalizer.laterSub, h.weatherLater, h.nested, Normalizer.laterSub]

theorem has_routed_rt : Dict.has (routed py m).fields "rt_address" = true ↔
    Dict.has m.fields "rt_address" = true ∨ newRt py m ≠ .none := by
  rw [Dict.has, get?_routed_rt, withAddress]
  split_ifs with hnone
  · simp [hnone, Dict.has]
  · simp [hnone]

theorem has_routed_sub : Dict.has (routed py m).fields "sub_address" = true ↔
    Dict.has m.fields "sub_address" = true ∨ newSub py m ≠ .none := by
  rw [routed, withAddress]
  split_ifs with hnone
  · rw [Dict.has, get?_withAddress_ne _ _ (by decide), ← Dict.has]
    simp [hnone]
  · simp [hnone, Dict.has]

/-- Both addresses are there, or the metadata that the schema leaves have none for them either. -/
structure AddressesKept (py : Runtime) (m : Msg P) (schema : Schema) : Prop where
  rt : Dict.has m.fields "rt_address" = true ∨ newRt py m ≠ .none ∨
    laterRt py m (foundType py m) schema = .none
  sub : Dict.has m.fields "sub_address" = true ∨ newSub py m ≠ .none ∨
    laterSub py m (foundType py m) schema = .none

/-- A second normalisation has nothing to do. -/
def Settles (py : Runtime) (m : Msg P) : Prop :=
  ∀ schema, schemaOf (foundType py m) = some schema →
    (foundType py m = precipitationResponse → ∃ entries, entriesOf py m.data = .ok entries) →
      AddressesKept py m schema ∧ CountKept py m

theorem Routed.countKept (h : Routed m (routed py m)) : CountKept py (routed py m) ↔ CountKept py m := by
  rw [CountKept, foundType_routed, h.list?, h.data, h.either (by decide) (by decide), h.nested,
    h.fields _ (by decide) (by decide), CountKept]

/-! ### Two passes -/

theorem idempotent_of_unknown (h : TextFields m) (hschema : schemaOf (foundType py m) = none) :
    (normalizeMessageStructure py (normalizeMessageStructure py m).result).result =
      (normalizeMessageStructure py m).result := by
  rw [normalize_of_unknown h hschema]
  have htext : TextFields (verified py (routed py m)) := isText_verified ((routed_routed py m).isText h)
  have hagain : schemaOf (foundType py (verified py (routed py m))) = none := by
    rw [foundType_verified, foundType_routed, hschema]
  rw [normalize_of_unknown htext hagain, routed_of_none, verified_verified]
  · rw [newRt_verified, newRt_routed]
  · rw [newSub_verified, newSub_routed]

theorem has_nested_filled (hschema : schemaOf messageType = some schema) {field : String}
    (hfield : field ∈ schema.metadataFields) (hhas : Dict.has m.fields field = true) :
    Dict.has (nested (filled m messageType schema)) field = true := by
  obtain ⟨v, hv⟩ := Dict.has_iff.mp hhas
  have hmirror : Dict.get? (mirror schema.metadataFields (m.fields, nested m)).1 field = some v := by
    rw [(get?_mirror _ _ _).1, if_pos hfield, hv]
    rfl
  have hleft : Dict.has (schemaSides m messageType schema).1 field = true := by
    rw [schemaSides]
    cases response? messageType with
    | none => exact Dict.has_iff.mpr ⟨v, hmirror⟩
    | some r =>
      show Dict.has (r.apply _ (mirror schema.metadataFields (m.fields, nested m))).1 field = true
      rw [Dict.has, Response.get?_apply_fst, hmirror]
      split_ifs
      · simp
      · rfl
      · rfl
      · rfl
  rw [has_schemaSides hschema hfield (isFlagOf_of_mem hschema hfield)] at hleft
  exact hleft

theorem has_nested_command {r : Response} (hschema : schemaOf messageType = some schema)
    (hr : response? messageType = some r) {key : String} (hkey : key ∈ ["command_type", "command_name"]) :
    Dict.has (nested (filled m messageType schema)) key = true := by
  have hkeys : ∀ key ∈ ["command_type", "command_name"], key ∈ textKeys := by decide
  rw [Dict.has, (get?_filled_text hschema _ (hkeys key hkey)).2, Option.isSome_or, isSome_defaultOf hr hkey,
    Bool.or_true]

/-- Metadata that have what the schema of a response writes stay as they are. -/
theorem schemaSides_snd_eq {r : Response} (hschema : schemaOf messageType = some schema)
    (hr : response? messageType = some r)
    (hfields : ∀ field ∈ schema.metadataFields, Dict.has m.fields field = true →
      Dict.has (nested m) field = true)
    (hcommand : ∀ key ∈ ["command_type", "command_name"], Dict.has (nested m) key = true)
    (hflags : ∀ flag ∈ r.flags, Dict.get? (nested m) flag = some (.bool true))
    (hcount : ∀ items, m.list? = some items →
      Dict.get? (nested m) "data_count" = some (.int items.length)) :
    (schemaSides m messageType schema).2 = nested m := by
  have hmirror : (mirror schema.metadataFields (m.fields, nested m)).2 = nested m := mirror_snd_eq hfields
  have hboth : ∀ key ∈ ["command_type", "command_name"],
      Dict.has (mirror schema.metadataFields (m.fields, nested m)).1 key = true := by
    intro key hkey
    have htext : key ∈ textKeys := by rcases List.mem_pair.mp hkey with rfl | rfl <;> decide
    have hhas : (Dict.get? (nested m) key).isSome = true := hcommand key hkey
    rw [Dict.has, (get?_mirror _ _ _).1, if_pos (mem_metadataFields hschema htext), Option.isSome_or, hhas,
      Bool.or_true]
  have happly : (schemaSides m messageType schema).2 = (r.apply (m.list?.map List.length)
      (mirror schema.metadataFields (m.fields, nested m))).2 := by
    rw [schemaSides, hr]
    rfl
  rw [happly, Response.apply_snd_eq _ (hboth _ (by decide)) (hboth _ (by decide)), hmirror]
  · cases hlist : m.list? with
    | none => rfl
    | some items => exact Dict.set_of_get? (hcount items hlist)
  · intro flag hflag
    rw [hmirror]
    refine ⟨?_, hflags flag hflag⟩
    rintro rfl
    rcases flags_of_response hr with hnames | hnames <;> rw [hnames] at hflag <;>
      exact absurd hflag (by decide)

section Failed

/-- A message whose data do not convert, with what the schema writes into its metadata. -/
def marked (py : Runtime) (m : Msg P) (schema : Schema) : Msg P :=
  { m with metadata := some (.dict (nested (filled (routed py m) precipitationResponse schema))) }

variable (hschema : schemaOf precipitationResponse = some schema)

include hschema

theorem isText_marked (h : TextFields m) : TextFields (marked py m schema) where
  fields := h.fields
  metadata := (isText_filled hschema ((routed_routed py m).isText h)).metadata

theorem foundType_marked (htype : foundType py m = precipitationResponse) :
    foundType py (marked py m schema) = precipitationResponse := by
  have hr := routed_routed py m
  have heither : either (marked py m schema) "message_type" = either m "message_type" := by
    have hnone : defaultOf precipitationResponse "message_type" = none := rfl
    have hnested : nested (marked py m schema) = nested (filled (routed py m) precipitationResponse schema) :=
      rfl
    rw [either, hnested, (get?_filled_text hschema _ (by decide)).2, hnone, hr.nested,
      hr.fields _ (by decide) (by decide), either, marked]
    cases Dict.get? m.fields "message_type" <;> cases Dict.get? (nested m) "message_type" <;> rfl
  cases hgiven : either m "message_type" with
  | some v => rw [foundType_of_either (heither.trans hgiven), ← htype, foundType_of_either hgiven]
  | none =>
    have hflag : Dict.get? (nested (marked py m schema)) precipitation.flag = some (.bool true) :=
      get?_precipitation_filled hschema
    rw [foundType_of_none (heither.trans hgiven), precipitation.holds_of_flag hflag]
    rfl

/-- The second pass writes the same into the metadata. -/
theorem schemaSides_marked (py : Runtime) (m : Msg P) :
    (schemaSides (routed py (marked py m schema)) precipitationResponse schema).2 =
      nested (filled (routed py m) precipitationResponse schema) := by
  have hr := routed_routed py m
  have hrw := routed_routed py (marked py m schema)
  have hnested : nested (routed py (marked py m schema)) =
      nested (filled (routed py m) precipitationResponse schema) := by
    rw [hrw.nested]
    rfl
  have hlist : (routed py (marked py m schema)).list? = (routed py m).list? := by
    rw [hrw.list?, hr.list?]
    rfl
  rw [← hnested]
  refine schemaSides_snd_eq hschema response?_precipitation ?_ ?_ ?_ ?_
  · intro field hfield hhas
    have hne : field ≠ "rt_address" ∧ field ≠ "sub_address" := by
      rw [metadataFields_of_response hschema response?_precipitation] at hfield
      constructor <;> rintro rfl <;> exact absurd hfield (by decide)
    have hsame : Dict.get? (routed py (marked py m schema)).fields field = Dict.get? (routed py m).fields field :=
      (hrw.fields _ hne.1 hne.2).trans (hr.fields _ hne.1 hne.2).symm
    rw [Dict.has, hsame, ← Dict.has] at hhas
    rw [hnested]
    exact has_nested_filled hschema hfield hhas
  · intro key hkey
    rw [hnested]
    exact has_nested_command hschema response?_precipitation hkey
  · intro flag hflag
    rw [hnested]
    exact get?_flag_filled hschema response?_precipitation hflag
  · intro items hitems
    rw [hnested]
    exact (get?_schemaSides_count schema response?_precipitation (hlist ▸ hitems)).2

end Failed

/-- A message whose data do not convert is returned as it is, with what the schema writes into its
metadata; the second pass writes that again. -/
theorem idempotent_of_error (h : TextFields m) (hschema : schemaOf (foundType py m) = some schema)
    (htype : foundType py m = precipitationResponse) {e : Exception} (he : entriesOf py m.data = .error e) :
    (normalizeMessageStructure py (normalizeMessageStructure py m).result).result =
      (normalizeMessageStructure py m).result := by
  have hpass : ∀ w : Msg P, TextFields w → foundType py w = precipitationResponse → w.data = m.data →
      (normalizeMessageStructure py w).result =
        shared w (filled (routed py w) precipitationResponse schema) := by
    intro w htext hfound hdata
    rw [← hfound]
    refine normalize_of_error htext ?_ (e := e) ?_
    · rw [hfound, ← htype, hschema]
    · rw [afterData, if_pos hfound, (routed_routed py w).data, hdata, he]
      rfl
  rw [htype] at hschema
  rw [hpass m h htype rfl]
  cases hmetadata : m.metadataDict.isSome with
  | false =>
    have hsame : shared m (filled (routed py m) precipitationResponse schema) = m := by
      rw [shared, hmetadata, if_neg Bool.false_ne_true]
    rw [hsame, hpass m h htype rfl, hsame]
  | true =>
    have hmarked : shared m (filled (routed py m) precipitationResponse schema) = marked py m schema := by
      rw [shared, hmetadata, if_pos rfl]
      rfl
    rw [hmarked, hpass _ (isText_marked hschema h) (foundType_marked hschema htype) rfl, shared_eq_iff]
    intro metadata hdict
    rw [filled, schemaSides_marked hschema]
    exact congrArg (fun d => some (Value.dict d)) (Option.some.inj hdict)

/-- The second normalisation of a message with text in its type, command and name changes nothing exactly
when the metadata that the first one writes bring no address within reach, and data that become an empty
list were counted as one. -/
theorem normalize_idempotent_iff (h : TextFields m) :
    (normalizeMessageStructure py (normalizeMessageStructure py m).result).result =
        (normalizeMessageStructure py m).result ↔ Settles py m := by
  have hr := routed_routed py m
  cases hschema : schemaOf (foundType py m) with
  | none =>
    refine ⟨fun _ schema hknown => ?_, fun _ => idempotent_of_unknown h hschema⟩
    rw [hschema] at hknown
    cases hknown
  | some schema =>
    have hschema' : schemaOf (foundType py (routed py m)) = some schema := by rw [foundType_routed, hschema]
    cases hdone : afterData py (routed py m) (foundType py m) schema with
    | error e =>
      have herror : foundType py m = precipitationResponse ∧ entriesOf py m.data = .error e := by
        rw [afterData, hr.data] at hdone
        split_ifs at hdone with htype
        refine ⟨htype, ?_⟩
        cases hentries : entriesOf py m.data with
        | error e' =>
          rw [hentries] at hdone
          cases hdone
          rfl
        | ok entries =>
          rw [hentries] at hdone
          cases hdone
      refine ⟨fun _ schema' _ hentries => ?_, fun _ => idempotent_of_error h hschema herror.1 herror.2⟩
      obtain ⟨entries, hentries⟩ := hentries herror.1
      rw [herror.2] at hentries
      cases hentries
    | ok done =>
      have hentries : foundType py m = precipitationResponse → ∃ entries, entriesOf py m.data = .ok entries := by
        intro htype
        rcases afterData_cases hdone with ⟨hne, -⟩ | ⟨-, entries, hentries, -⟩
        · exact absurd htype hne
        · exact ⟨entries, hr.data ▸ hentries⟩
      have hdone' : afterData py (routed py m) (foundType py (routed py m)) schema = .ok done := by
        rw [foundType_routed, hdone]
      have hsettled := settled_verified (hr.isText h) hschema' hdone'
      have hsettles : Settles py m ↔ AddressesKept py m schema ∧ CountKept py m := by
        constructor
        · exact fun hsettles => hsettles schema hschema hentries
        · intro hkept schema' hschema''
          rw [hschema] at hschema''
          cases hschema''
          exact fun _ => hkept
      rw [normalize_of_done h hschema hdone, hsettled.fixed_iff, newRt_verified, newSub_verified,
        countRight_verified, countRight_afterData hschema' hdone', hr.countKept,
        newRt_afterData hschema hdone, newSub_afterData hschema hdone,
        newRt_filled_iff hschema (newRt_routed py m), newSub_filled_iff hschema, hr.laterRt, hr.laterSub,
        has_routed_rt, has_routed_sub, or_assoc, or_assoc, hsettles]
      exact ⟨fun hkept => ⟨⟨hkept.1, hkept.2.1⟩, hkept.2.2⟩,
        fun hkept => ⟨hkept.1.rt, hkept.1.sub, hkept.2⟩⟩

/-- A response with text in its type, command and name, with empty data and without metadata. -/
def bareResponse : Msg Unit where
  fields := [("message_type", precipitationResponse), ("command_type", .str "precipitation_data"),
    ("command_name", .str "DISPLAY_PRECIPITATION_DATA")]
  metadata := none
  data := some (.list [])

/-- The first pass finds no subaddress, and the second one does by the metadata of the first one. -/
theorem bareResponse_changed :
    TextFields bareResponse ∧
      (normalizeMessageStructure .ascii (normalizeMessageStructure .ascii bareResponse).result).result ≠
        (normalizeMessageStructure .ascii bareResponse).result := by
  refine ⟨⟨fun key hkey v hv => ?_, fun key _ v hv => ?_⟩, fun hsame => ?_⟩
  · have hall : ∀ e ∈ bareResponse.fields, e.2.isText = true := by decide +kernel
    exact hall _ (Dict.mem_of_get?_eq_some hv)
  · cases hv
  · have hfields := congrArg (fun w => Dict.has (Msg.fields w) "sub_address") hsame
    revert hfields
    decide +kernel

/-- A response with metadata, in which the first pass finds the subaddress of weather. -/
def settledResponse : Msg Unit where
  fields := [("message_type", precipitationResponse), ("rt_address", .int 9)]
  metadata := some (.dict [])
  data := some (.list [])

theorem settledResponse_unchanged :
    (normalizeMessageStructure .ascii (normalizeMessageStructure .ascii settledResponse).result).result =
      (normalizeMessageStructure .ascii settledResponse).result := by
  have htext : TextFields settledResponse := by
    refine ⟨fun key hkey v hv => ?_, fun key _ v hv => ?_⟩
    · have hall : ∀ key ∈ textKeys, ∀ v ∈ Dict.get? settledResponse.fields key, v.isText = true := by
        decide +kernel
      exact hall key hkey v hv
    · cases hv
  refine (normalize_idempotent_iff htext).mpr fun schema _ _ => ⟨⟨.inl rfl, .inr (.inl ?_)⟩, ?_⟩
  · decide +kernel
  · intro _ hlist
    cases hlist

end Fmofp.Normalizer
