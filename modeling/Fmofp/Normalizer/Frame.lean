import Fmofp.Normalizer.Phases

/-! When normalising a precipitation message keeps all entries and leaves the caller's message as it
was: the message is copied on its top level only. -/

namespace Fmofp.Normalizer

open Python Metadata

/-! ### The entries -/

section Readings

variable {P : Type} (py : Runtime)

/-- A precipitation object, or a dictionary with a position, a type and numbers. -/
inductive IsReading : Item P → Prop
  | object (p : P) : IsReading (.object p)
  | dict (d : Message) (position : Dict.has d "position" = true) (type : Dict.has d "type" = true)
      (numeric : ∀ key ∈ ["rate", "intensity"], ∀ v, Dict.get? d key = some v →
        v.number?.isSome = true) : IsReading (.value (.dict d))

/-- The same object, or dictionaries with the same position, type and numbers. -/
inductive SameReading : Item P → Item P → Prop
  | object (p : P) : SameReading (.object p) (.object p)
  | dict {d e : Message}
      (position : (Dict.get? e "position").map asTuple = (Dict.get? d "position").map asTuple)
      (type : Dict.get? e "type" = Dict.get? d "type")
      (numbers : ∀ key ∈ ["rate", "intensity"],
        (Dict.getD e key (.float 0)).number? = (Dict.getD d key (.float 0)).number?) :
      SameReading (.value (.dict d)) (.value (.dict e))

theorem IsReading.same {item : Item P} (h : IsReading item) : SameReading item item := by
  cases h with
  | object p => exact .object p
  | dict d => exact .dict rfl rfl fun _ _ => rfl

theorem forall₂_same {items : List (Item P)} (h : ∀ item ∈ items, IsReading item) :
    List.Forall₂ SameReading items items := by
  induction items with
  | nil => exact .nil
  | cons item items ih =>
    exact .cons (h item (List.mem_cons_self ..)).same
      (ih fun other hother => h other (List.mem_cons_of_mem item hother))

/-- The `data_count` of a message is the number of items. -/
def HasCount (items : List (Item P)) (fields : Message) : Prop :=
  (Dict.get? fields "data_count").bind Value.number? = some (items.length : ℚ)

/-- One entry for each item, in order, and their number. -/
structure Conserved (items : List (Item P)) (result : Msg P) : Prop where
  entries : ∃ entries, result.data = some (.list entries) ∧
    List.Forall₂ SameReading items entries
  count : HasCount items result.fields

theorem asTuple_asTuple (v : Value) : asTuple (asTuple v) = asTuple v := by cases v <;> rfl

theorem number?_getD {d : Message} {key : String}
    (h : ∀ v, Dict.get? d key = some v → v.number?.isSome = true) :
    ∃ q, (Dict.getD d key (.float 0)).number? = some q := by
  rw [Dict.getD]
  cases hv : Dict.get? d key with
  | none => exact ⟨0, rfl⟩
  | some v => exact Option.isSome_iff_exists.mp (h v hv)

theorem toFloat_of_number? {v : Value} {q : ℚ} (h : v.number? = some q) : toFloat py v = .ok q := by
  rw [toFloat.eq_def, h]

theorem standardize_reading {d : Message} (h : IsReading (.value (.dict d) : Item P)) :
    ∃ e, standardize py (.value (.dict d) : Item P) = .ok (some e) ∧
      SameReading (.value (.dict d) : Item P) (.value (.dict e)) := by
  cases h with
  | dict _ position type numeric =>
    obtain ⟨p, hp⟩ := Dict.has_iff.mp position
    obtain ⟨t, ht⟩ := Dict.has_iff.mp type
    obtain ⟨rate, hrate⟩ := number?_getD (numeric "rate" (by simp))
    obtain ⟨intensity, hintensity⟩ := number?_getD (numeric "intensity" (by simp))
    refine ⟨[("position", asTuple p), ("type", t), ("rate", .float rate),
      ("intensity", .float intensity),
      ("show_values", .bool (Dict.getD d "show_values" (.bool false)).truthy)], ?_, ?_⟩
    · rw [standardize.eq_def]
      simp only [Item.dict?, Value.dict?, hp, ht, toFloat_of_number? py hrate,
        toFloat_of_number? py hintensity]
      rfl
    · refine .dict ?_ ?_ fun key hkey => ?_
      · rw [hp]
        exact congrArg some (asTuple_asTuple p)
      · rw [ht]
        rfl
      · rcases List.mem_pair.mp hkey with rfl | rfl
        · rw [hrate]
          rfl
        · rw [hintensity]
          rfl

/-- The dictionaries become entries, in order; the objects are not among them. -/
theorem standardized_readings {items : List (Item P)} (h : ∀ item ∈ items, IsReading item) :
    ∃ entries, standardized py items = .ok entries ∧
      List.Forall₂ SameReading (items.filter fun item => !item.isObject)
        (entries.map fun e => .value (.dict e)) := by
  induction items with
  | nil => exact ⟨[], rfl, .nil⟩
  | cons item items ih =>
    obtain ⟨entries, hentries, hsame⟩ :=
      ih fun other hother => h other (List.mem_cons_of_mem item hother)
    have hitem := h item (List.mem_cons_self ..)
    rw [standardized_cons, hentries]
    cases item with
    | object p => exact ⟨entries, rfl, hsame⟩
    | value v =>
      cases hitem with
      | dict d position type numeric =>
        obtain ⟨e, he, hsame'⟩ :=
          standardize_reading py (IsReading.dict (P := P) d position type numeric)
        rw [he]
        exact ⟨e :: entries, rfl, .cons hsame' hsame⟩

/-- The items that the conversion keeps: the objects of a mixed list are left out. -/
def kept (items : List (Item P)) : List (Item P) :=
  if items.all Item.isObject then items else items.filter fun item => !item.isObject

/-- Objects only, or dictionaries only. -/
def Uniform (items : List (Item P)) : Prop :=
  (∀ item ∈ items, item.isObject = true) ∨ ∀ item ∈ items, item.isObject = false

theorem length_kept_eq_iff (items : List (Item P)) :
    (kept items).length = items.length ↔ Uniform items := by
  rw [kept, Uniform, ← List.all_eq_true]
  split_ifs with hall
  · simp [hall]
  · rw [List.length_filter_eq_length_iff]
    simp [hall]

theorem Uniform.kept_eq {items : List (Item P)} (h : Uniform items) : kept items = items := by
  have hlength := (length_kept_eq_iff items).mpr h
  rw [kept] at hlength ⊢
  split_ifs at hlength ⊢
  · rfl
  · exact List.filter_eq_self.mpr (List.length_filter_eq_length_iff.mp hlength)

theorem conserved_iff_hasCount {items : List (Item P)} (h : ∀ item ∈ items, IsReading item)
    {m : Msg P} (hdata : m.data = some (.list items)) :
    Conserved items m ↔ HasCount items m.fields :=
  ⟨fun hm => hm.count, fun hcount => ⟨⟨items, hdata, forall₂_same h⟩, hcount⟩⟩

/-- The items that are kept, as entries, are all items only if the list was uniform. -/
theorem conserved_iff_uniform {items entries : List (Item P)} {m : Msg P}
    (hdata : m.data = some (.list entries)) (hsame : List.Forall₂ SameReading (kept items) entries)
    (hcount : Dict.get? m.fields "data_count" = some (.int (kept items).length)) :
    Conserved items m ↔ Uniform items := by
  constructor
  · rintro ⟨⟨entries', hdata', hall⟩, -⟩
    rw [hdata] at hdata'
    cases hdata'
    exact (length_kept_eq_iff items).mp (hsame.length_eq.trans hall.length_eq.symm)
  · intro huniform
    rw [huniform.kept_eq] at hsame hcount
    refine ⟨⟨entries, hdata, hsame⟩, ?_⟩
    rw [HasCount, hcount]
    rfl

end Readings

/-! ### The phases of a precipitation message -/

section Run

variable {P : Type} (py : Runtime)

/-- The fields of the schema of a precipitation message. -/
def schemaFields : List String :=
  ["message_type", "command_type", "command_name", "request_id", "data_count", "scan_type", "mode"]

theorem getSchema_precipitation :
    ∃ s, getSchema precipitationResponse = .ok (some s) ∧ s.metadataFields = schemaFields :=
  ⟨_, rfl, rfl⟩

/-- The defaults and the flags of a precipitation message. -/
def response : Response :=
  ⟨"precipitation_data", "DISPLAY_PRECIPITATION_DATA",
    ["precipitation_message", "precipitation_data"]⟩

theorem response?_precipitation : response? precipitationResponse = some response := rfl

def mirrored (m : Msg P) : Sides := mirror schemaFields (m.fields, nested m)

def sides (m : Msg P) (items : List (Item P)) : Sides :=
  response.apply (some items.length) (mirrored m)

/-- The message after the schema has been applied. -/
def prepared (m : Msg P) (items : List (Item P)) : Msg P :=
  { m with fields := (sides m items).1, metadata := some (.dict (sides m items).2) }

theorem applySchemaNormalization_eq {m : Msg P} {items : List (Item P)}
    (h : m.data = some (.list items)) :
    applySchemaNormalization m precipitationResponse = .ok (prepared m items) := by
  obtain ⟨s, hschema, hfields⟩ := getSchema_precipitation
  have hlist : m.list? = some items := by rw [Msg.list?, h]
  have hsides : schemaSides m precipitationResponse s = sides m items := by
    rw [schemaSides, hfields, response?_precipitation, hlist]
    rfl
  rw [applySchemaNormalization, hschema]
  simp only [bind, Except.bind, hsides]
  rfl

/-- The metadata after the conversion. -/
def converted (items : List (Item P)) (metadata : Message) : Message :=
  if items.all Item.isObject then metadata else convertedMetadata (kept items).length metadata

theorem kept_objects {items : List (Item P)} (h : items.all Item.isObject = true) :
    kept items = items := if_pos h

theorem kept_ne_nil {items : List (Item P)} (h : ¬items.all Item.isObject = true) :
    kept items ≠ [] := by
  rw [kept, if_neg h]
  intro hnil
  refine h (List.all_eq_true.mpr fun item hitem => ?_)
  have hobject := List.filter_eq_nil_iff.mp hnil item hitem
  simpa using hobject

/-- The conversion: what it keeps, and what it writes into the fields and the metadata. -/
theorem normalizePrecipitationData_readings {items : List (Item P)}
    (h : ∀ item ∈ items, IsReading item) {m : Msg P} {metadata : Message}
    (hdata : m.data = some (.list items)) (hmetadata : m.metadata = some (.dict metadata))
    (hcount : Dict.get? m.fields "data_count" = some (.int items.length)) :
    ∃ done, normalizePrecipitationData py m = .ok done ∧
      done.metadata = some (.dict (converted items metadata)) ∧
      (∀ k, k ≠ "data_count" → Dict.get? done.fields k = Dict.get? m.fields k) ∧
      Dict.get? done.fields "data_count" = some (.int (kept items).length) ∧
      ∃ entries, done.data = some (.list entries) ∧
        List.Forall₂ SameReading (kept items) entries := by
  by_cases hall : items.all Item.isObject = true
  · refine ⟨m, ?_, ?_⟩
    · cases items with
      | nil =>
        have hsame : { m with data := some (.list []) } = m := by rw [← hdata]
        rw [normalizePrecipitationData_falsy py, hsame]
        intro data hmem
        rw [hdata] at hmem
        cases hmem
        rfl
      | cons item items => exact normalizePrecipitationData_objects py hdata rfl rfl hall
    · rw [converted, if_pos hall, kept_objects hall]
      exact ⟨hmetadata, fun k _ => rfl, hcount, items, hdata, forall₂_same h⟩
  · obtain ⟨entries, hentries, hsame⟩ := standardized_readings py h
    have hkept : kept items = items.filter fun item => !item.isObject := if_neg hall
    rw [← hkept] at hsame
    have hlength : entries.length = (kept items).length := by
      rw [hsame.length_eq, List.length_map]
    have hne : entries ≠ [] := by
      rintro rfl
      exact kept_ne_nil hall (List.length_eq_zero_iff.mp hlength.symm)
    have htruthy : (Data.list items).truthy = true := by
      cases items with
      | nil => exact absurd rfl hall
      | cons item items => rfl
    have hdict : m.metadataDict = some metadata := by
      rw [Msg.metadataDict, hmetadata]
      rfl
    refine ⟨convertedTo m metadata entries, ?_, ?_, fun k hk => ?_, ?_, _, rfl, hsame⟩
    · rw [normalizePrecipitationData_convert py hdata htruthy rfl hall hentries hdict, if_neg hne]
    · rw [converted, if_neg hall, ← hlength]
      rfl
    · exact Dict.get?_set_ne _ _ (Ne.symm hk)
    · rw [convertedTo, Dict.get?_set_self, hlength]

/-! ### What is written into the metadata -/

/-- The metadata has all that the schema and the conversion write into it. -/
structure Filled (m : Msg P) (items : List (Item P)) (metadata : Message) : Prop where
  mirrored : ∀ field ∈ schemaFields, Dict.has m.fields field = true →
    Dict.has metadata field = true
  commandType : Dict.has metadata "command_type" = true
  commandName : Dict.has metadata "command_name" = true
  count : Dict.get? metadata "data_count" = some (.int (kept items).length)
  flags : ∀ flag ∈ response.flags, Dict.get? metadata flag = some (.bool true)
  converted : ¬items.all Item.isObject = true →
    Dict.get? metadata "precipitation_data_normalized" = some (.bool true)

theorem Routed.filled_iff {m r : Msg P} (h : Routed m r) (items : List (Item P))
    (metadata : Message) : Filled r items metadata ↔ Filled m items metadata := by
  have hsame : ∀ field ∈ schemaFields, Dict.has r.fields field = Dict.has m.fields field := by
    intro field hfield
    rw [Dict.has, Dict.has, h.fields]
    · rintro rfl
      exact absurd hfield (by decide)
    · rintro rfl
      exact absurd hfield (by decide)
  constructor
  · exact fun hf => { hf with
      mirrored := fun field hfield hhas => hf.mirrored field hfield (hsame field hfield ▸ hhas) }
  · exact fun hf => { hf with
      mirrored := fun field hfield hhas => hf.mirrored field hfield (hsame field hfield ▸ hhas) }

variable {m : Msg P} {items : List (Item P)} {metadata : Message}

theorem get?_mirrored_fst (m : Msg P) {k : String} (hk : k ∈ schemaFields) :
    Dict.get? (mirrored m).1 k = either m k := by
  rw [mirrored, (get?_mirror _ _ k).1, if_pos hk]
  rfl

theorem either_eq (hm : m.metadataDict = some metadata) (k : String) :
    either m k = (Dict.get? m.fields k).or (Dict.get? metadata k) := by
  rw [either, nested, hm]
  rfl

theorem get?_mirrored_snd (hm : m.metadataDict = some metadata) {k : String}
    (hk : k ∈ schemaFields) :
    Dict.get? (mirrored m).2 k = (Dict.get? metadata k).or (Dict.get? m.fields k) := by
  rw [mirrored, (get?_mirror _ _ k).2, if_pos hk, nested, hm]
  rfl

/-- Metadata that has everything stays as it is. -/
theorem Filled.converted_eq (h : Filled m items metadata) (hm : m.metadataDict = some metadata) :
    Normalizer.converted items (sides m items).2 = metadata := by
  have hmirrored : (Normalizer.mirrored m).2 = metadata := by
    rw [Normalizer.mirrored, nested, hm]
    exact mirror_snd_eq h.mirrored
  have hhas : ∀ k ∈ schemaFields, Dict.has metadata k = true →
      Dict.has (Normalizer.mirrored m).1 k = true := by
    intro k hk hhas
    obtain ⟨v, hv⟩ := Dict.has_iff.mp hhas
    rw [Dict.has, get?_mirrored_fst m hk, either_eq hm, hv]
    cases Dict.get? m.fields k <;> rfl
  have hsides : (sides m items).2 = Dict.set metadata "data_count" (.int items.length) := by
    rw [sides, Response.apply_snd_eq (some items.length)
      (hhas "command_type" (by decide) h.commandType) (hhas "command_name" (by decide) h.commandName),
      hmirrored]
    · rfl
    · rw [hmirrored]
      exact fun flag hflag => ⟨by rintro rfl; exact absurd hflag (by decide), h.flags flag hflag⟩
  rw [hsides, Normalizer.converted]
  split_ifs with hall
  · have hcount := h.count
    rw [kept_objects hall] at hcount
    exact Dict.set_of_get? hcount
  · rw [convertedMetadata, Dict.set_set_self, Dict.set_of_get? h.count,
      Dict.set_of_get? (h.converted hall)]

theorem get?_converted (items : List (Item P)) (d : Message) (k : String) :
    Dict.get? (converted items d) k =
      if items.all Item.isObject = true then Dict.get? d k
      else if k = "precipitation_data_normalized" then some (.bool true)
      else if k = "data_count" then some (.int (kept items).length)
      else Dict.get? d k := by
  rw [converted]
  by_cases hall : items.all Item.isObject = true
  · rw [if_pos hall, if_pos hall]
  · rw [if_neg hall, if_neg hall, convertedMetadata, Dict.get?_set, Dict.get?_set]
    simp only [eq_comm]

theorem has_converted {d : Message} {k : String} (h : Dict.has d k = true) :
    Dict.has (converted items d) k = true := by
  rw [converted]
  split_ifs
  · exact h
  · exact Dict.has_set_of_has (Dict.has_set_of_has h _ _) _ _

/-- A field of the schema is on both sides or on none. -/
theorem has_mirrored (hm : m.metadataDict = some metadata) {k : String} (hk : k ∈ schemaFields) :
    Dict.has (mirrored m).2 k = Dict.has (mirrored m).1 k := by
  rw [Dict.has, Dict.has, get?_mirrored_fst m hk, either_eq hm, get?_mirrored_snd hm hk]
  cases Dict.get? m.fields k <;> cases Dict.get? metadata k <;> rfl

theorem has_sides_snd (hm : m.metadataDict = some metadata) {k : String} (hk : k ∈ schemaFields)
    (h : Dict.has m.fields k = true ∨ k = "command_type" ∨ k = "command_name") :
    Dict.has (sides m items).2 k = true := by
  have hsame := has_mirrored hm hk
  rw [Dict.has, sides, Response.get?_apply_snd]
  split_ifs with _ _ _ hname _ htype
  · rfl
  · rfl
  · exact hsame.trans hname
  · rfl
  · exact hsame.trans htype
  · rfl
  · have hfields : Dict.has m.fields k = true := by
      rcases h with h | h | h
      · exact h
      · contradiction
      · contradiction
    obtain ⟨v, hv⟩ := Dict.has_iff.mp hfields
    rw [get?_mirrored_snd hm hk, hv]
    cases Dict.get? metadata k <;> rfl

/-- Metadata that reads as before, its command type apart, had everything. -/
theorem filled_of_get? (hm : m.metadataDict = some metadata)
    (hread : ∀ k, k ≠ "command_type" →
      Dict.get? (converted items (sides m items).2) k = Dict.get? metadata k)
    (htype : Dict.has metadata "command_type" = true) : Filled m items metadata where
  mirrored field hfield hhas := by
    by_cases hk : field = "command_type"
    · rw [hk]
      exact htype
    · rw [Dict.has, ← hread field hk]
      exact has_converted (has_sides_snd hm hfield (.inl hhas))
  commandType := htype
  commandName := by
    rw [Dict.has, ← hread _ (by decide)]
    exact has_converted (has_sides_snd hm (by decide) (.inr (.inr rfl)))
  count := by
    rw [← hread _ (by decide), get?_converted]
    by_cases hall : items.all Item.isObject = true
    · rw [if_pos hall, sides, Response.get?_apply_snd, kept_objects hall]
      rfl
    · rw [if_neg hall, if_neg (by decide), if_pos rfl]
  flags flag hflag := by
    have hne : flag ≠ "command_type" ∧ flag ≠ "precipitation_data_normalized" ∧
        flag ≠ "data_count" := by
      refine ⟨?_, ?_, ?_⟩ <;> rintro rfl <;> exact absurd hflag (by decide)
    rw [← hread _ hne.1, get?_converted, if_neg hne.2.1, if_neg hne.2.2, ite_self, sides,
      Response.get?_apply_snd, if_pos hflag]
  converted hall := by
    rw [← hread _ (by decide), get?_converted, if_neg hall, if_pos rfl]

end Run

/-! ### Whole runs -/

section Runs

variable {P : Type} {py : Runtime} {m : Msg P} {items : List (Item P)}

theorem metadataDict_eq_some {metadata : Message} :
    m.metadataDict = some metadata ↔ m.metadata = some (.dict metadata) := by
  rw [Msg.metadataDict]
  cases m.metadata with
  | none => simp
  | some v => cases v <;> simp [Value.dict?]

theorem shared_eq_iff (m work : Msg P) :
    shared m work = m ↔ ∀ metadata, m.metadataDict = some metadata →
      work.metadata = some (.dict metadata) := by
  rw [shared]
  cases hm : m.metadataDict with
  | none => simp
  | some metadata =>
    have hmetadata := metadataDict_eq_some.mp hm
    obtain ⟨fields, _, data⟩ := m
    dsimp only at hmetadata
    subst hmetadata
    simp

theorem contains_precipitation (py : Runtime) :
    contains (py.lower "weather_radarPrecipitationResponse") "precipitation" = true := by
  have hlower : py.lower "weather_radarPrecipitationResponse" =
      "weather_radarprecipitationresponse" := by
    rw [Runtime.lower, if_pos (by decide)]
    decide
  rw [hlower]
  decide

/-- The phase of the addresses raises. -/
def RoutingRaises (py : Runtime) (m : Msg P) : Prop :=
  (SearchesRt py m ∨ SearchesSub m) ∧ ∃ e, isWeatherMessage py m = .error e

/-- The last test raises: the message has no type, and a command type that is not text. -/
def VerifyRaises (m : Msg P) : Prop :=
  either m "message_type" = none ∧
    ∃ v, either m "command_type" = some v ∧ v.isText = false

/-- The command type is taken back after a transfer. -/
def Restores (m : Msg P) : Prop :=
  Message.flag m.fields "is_transfer_complete" = true ∧
    either m "command_type" = some (.str "transfer_complete")

/-- A message is of this type by its own word, or by the test for precipitation. -/
theorem extract_cases (h : extractMessageType py m = .ok precipitationResponse) :
    either m "message_type" = some precipitationResponse ∨
      either m "message_type" = none ∧ isPrecipitationMessage py m = .ok true := by
  rw [extractMessageType.eq_def] at h
  rw [either]
  cases hfields : Dict.get? m.fields "message_type" with
  | some v =>
    rw [hfields] at h
    cases h
    exact .inl rfl
  | none =>
    rw [hfields] at h
    dsimp only at h
    have hnested : (m.metadataDict.bind fun d => Dict.get? d "message_type") =
        Dict.get? (nested m) "message_type" := by
      rw [nested]
      cases m.metadataDict <;> rfl
    rw [hnested] at h
    cases hmetadata : Dict.get? (nested m) "message_type" with
    | some v =>
      rw [hmetadata] at h
      cases h
      exact .inl rfl
    | none =>
      rw [hmetadata] at h
      refine .inr ⟨rfl, ?_⟩
      cases hprecipitation : isPrecipitationMessage py m with
      | error e =>
        rw [hprecipitation] at h
        cases h
      | ok b =>
        cases b with
        | true => rfl
        | false =>
          rw [hprecipitation] at h
          cases hvil : isVilMessage py m with
          | error e =>
            rw [hvil] at h
            cases h
          | ok b =>
            rw [hvil] at h
            cases b <;>
              simp [precipitationResponse, vilResponse, bind, Except.bind, pure, Except.pure] at h

theorem mentions_text {s : String} {d : Message} {key : String} (word : String)
    (h : Dict.get? d key = some (.str s)) :
    mentions py word d key = .ok (contains (py.lower s) word) := by
  rw [mentions.eq_def, h]

/-- The test for precipitation, once the metadata is marked and a command type is there. -/
theorem isPrecipitationMessage_marked (py : Runtime) {done : Msg P} {metadata : Message} {c : Value}
    (htype : Dict.get? done.fields "message_type" = some precipitationResponse ∨
      Dict.get? done.fields "message_type" = none)
    (hcommand : Dict.get? done.fields "command_type" = some c)
    (hmetadata : done.metadata = some (.dict metadata))
    (hmark : Dict.get? metadata "precipitation_message" = some (.bool true)) :
    isPrecipitationMessage py done =
      if Dict.get? done.fields "message_type" = none ∧ c.isText = false then .error .attributeError
      else .ok true := by
  rw [isPrecipitationMessage, Topic.isAbout]
  rcases htype with htype | htype
  · have hmentions : mentions py precipitation.word done.fields "message_type" = .ok true := by
      rw [mentions_text precipitation.word htype]
      exact congrArg Except.ok (contains_precipitation py)
    rw [hmentions, htype, if_neg (by simp)]
    rfl
  · have hmentions : mentions py precipitation.word done.fields "message_type" = .ok false := by
      rw [mentions.eq_def, htype]
    rw [hmentions]
    cases hc : c.isText with
    | false =>
      rw [if_pos ⟨htype, rfl⟩, mentions.eq_def py _ _ "command_type", hcommand]
      cases c <;> first | rfl | cases hc
    | true =>
      obtain ⟨s, rfl⟩ : ∃ s, c = .str s := by
        cases c with
        | str s => exact ⟨s, rfl⟩
        | _ => cases hc
      have hnested : precipitation.inMetadata py metadata = .ok true := by
        have hflag : Message.flag metadata precipitation.flag = true := by
          rw [Message.flag, precipitation, hmark]
          rfl
        rw [Topic.inMetadata, if_pos hflag]
        rfl
      rw [if_neg (by simp), mentions_text precipitation.word hcommand,
        metadataDict_eq_some.mpr hmetadata]
      dsimp only
      rw [hnested]
      cases contains (py.lower s) precipitation.word <;> rfl

/-- The message before the last test, in terms of the one that got the schema. -/
structure Structured (m : Msg P) (items : List (Item P)) (done : Msg P) : Prop where
  fields : ∀ k, k ≠ "data_count" → Dict.get? done.fields k = Dict.get? (sides m items).1 k
  count : Dict.get? done.fields "data_count" = some (.int (kept items).length)
  metadata : done.metadata = some (.dict (converted items (sides m items).2))
  data : ∃ entries, done.data = some (.list entries) ∧
    List.Forall₂ SameReading (kept items) entries

theorem structured_of_readings (py : Runtime) (h : ∀ item ∈ items, IsReading item)
    (hdata : m.data = some (.list items)) :
    ∃ done, normalizePrecipitationData py (prepared m items) = .ok done ∧
      Structured m items done := by
  have hprepared : (prepared m items).data = some (.list items) := hdata
  have hmetadata : (prepared m items).metadata = some (.dict (sides m items).2) := rfl
  have hcount : Dict.get? (prepared m items).fields "data_count" = some (.int items.length) := by
    rw [prepared, sides, Response.get?_apply_fst, if_pos rfl]
    rfl
  obtain ⟨done, hdone, hmetadata, hfields, hcount', hdata'⟩ :=
    normalizePrecipitationData_readings py h hprepared hmetadata hcount
  exact ⟨done, hdone, hfields, hcount', hmetadata, hdata'⟩

theorem precipitation_marked (m : Msg P) (items : List (Item P)) :
    Dict.get? (converted items (sides m items).2) "precipitation_message" = some (.bool true) := by
  rw [get?_converted, if_neg (c := "precipitation_message" = "precipitation_data_normalized")
    (by decide), if_neg (c := "precipitation_message" = "data_count") (by decide), ite_self, sides,
    Response.get?_apply_snd, if_pos (by decide)]

namespace Structured

variable {done : Msg P}

theorem messageType (h : Structured m items done) :
    Dict.get? done.fields "message_type" = either m "message_type" := by
  rw [h.fields _ (by decide), sides, Response.get?_apply_fst, get?_mirrored_fst m (by decide)]
  rfl

theorem commandType (h : Structured m items done) :
    Dict.get? done.fields "command_type" =
      some ((either m "command_type").getD (.str "precipitation_data")) := by
  rw [h.fields _ (by decide), sides, Response.get?_apply_fst, get?_mirrored_fst m (by decide)]
  rfl

theorem transferComplete (h : Structured m items done) :
    Message.flag done.fields "is_transfer_complete" =
      Message.flag m.fields "is_transfer_complete" := by
  rw [Message.flag, h.fields _ (by decide), sides, Response.get?_apply_fst, mirrored,
    (get?_mirror _ _ _).1]
  rfl

/-- The last test raises in the one case that its name says. -/
theorem lastTest (py : Runtime) (h : Structured m items done)
    (htype : either m "message_type" = some precipitationResponse ∨
      either m "message_type" = none) :
    (VerifyRaises m → isPrecipitationMessage py done = .error .attributeError) ∧
      (¬VerifyRaises m → isPrecipitationMessage py done = .ok true) := by
  have htype' : Dict.get? done.fields "message_type" = some precipitationResponse ∨
      Dict.get? done.fields "message_type" = none := by
    rw [h.messageType]
    exact htype
  have hmarked := isPrecipitationMessage_marked py htype' h.commandType h.metadata
    (precipitation_marked m items)
  rw [h.messageType] at hmarked
  constructor
  · rintro ⟨hnone, v, hv, htext⟩
    rw [hmarked, if_pos ⟨hnone, by rw [hv]; exact htext⟩]
  · intro hnot
    rw [hmarked, if_neg]
    rintro ⟨hnone, htext⟩
    cases hcommand : either m "command_type" with
    | none =>
      rw [hcommand] at htext
      cases htext
    | some v =>
      rw [hcommand] at htext
      exact hnot ⟨hnone, v, hcommand, htext⟩

theorem restores_iff (h : Structured m items done) :
    (Message.flag done.fields "is_transfer_complete" && true &&
      decide (Dict.get? done.fields "command_type" = some (.str "transfer_complete"))) = true ↔
      Restores m := by
  rw [h.transferComplete, h.commandType, Restores]
  cases either m "command_type" with
  | none => simp
  | some v => simp

end Structured

/-- When all entries are kept and the caller's message stays as it was. -/
inductive Keeps (py : Runtime) (m : Msg P) (items : List (Item P)) : Prop
  | unrouted (raises : RoutingRaises py m) (count : HasCount items m.fields)
  | unverified (routes : ¬RoutingRaises py m) (raises : VerifyRaises m)
      (count : HasCount items m.fields)
      (filled : ∀ metadata, m.metadataDict = some metadata → Filled m items metadata)
  | finished (routes : ¬RoutingRaises py m) (verifies : ¬VerifyRaises m) (uniform : Uniform items)
      (filled : ∀ metadata, m.metadataDict = some metadata → Filled m items metadata ∧
        (Restores m → Dict.get? metadata "command_type" = some (.str "precipitation_data")))

theorem normalize_of_unrouted (htype : extractMessageType py m = .ok precipitationResponse)
    (h : RoutingRaises py m) : normalizeMessageStructure py m = ⟨m, m⟩ := by
  obtain ⟨e, he⟩ := (ensureRoutingFields_error_iff py m).mpr h
  rw [normalizeMessageStructure, prepare, htype]
  simp only [bind, Except.bind, he]

theorem normalize_of_routed (htype : extractMessageType py m = .ok precipitationResponse)
    {r done : Msg P} (hr : ensureRoutingFields py m = .ok r) (hdata : r.data = some (.list items))
    (hdone : normalizePrecipitationData py (prepared r items) = .ok done) :
    normalizeMessageStructure py m = returned m done (verifyCriticalFields py done) := by
  have hensure : ensureDataStructure py (prepared r items) precipitationResponse = .ok done := by
    rw [ensureDataStructure, if_pos rfl, hdone]
  rw [normalizeMessageStructure, prepare, htype]
  simp only [bind, Except.bind, hr, applySchemaNormalization_eq hdata]
  dsimp only [pure, Except.pure]
  rw [hensure]

/-- The metadata that a run writes is the caller's if and only if it had everything. -/
theorem converted_eq_iff {metadata : Message} (hm : m.metadataDict = some metadata) :
    converted items (sides m items).2 = metadata ↔ Filled m items metadata := by
  refine ⟨fun heq => filled_of_get? hm (fun k _ => by rw [heq]) ?_, fun h => h.converted_eq hm⟩
  have hhas : Dict.has (sides m items).2 "command_type" = true :=
    has_sides_snd hm (by decide) (.inr (.inl rfl))
  rw [← heq]
  exact has_converted hhas

theorem restored_eq_iff {metadata : Message} (hm : m.metadataDict = some metadata) :
    Dict.set (converted items (sides m items).2) "command_type" (.str "precipitation_data") =
        metadata ↔
      Filled m items metadata ∧
        Dict.get? metadata "command_type" = some (.str "precipitation_data") := by
  constructor
  · intro heq
    have htype : Dict.get? metadata "command_type" = some (.str "precipitation_data") := by
      rw [← heq, Dict.get?_set_self]
    refine ⟨filled_of_get? hm (fun k hk => ?_) (by rw [Dict.has, htype]; rfl), htype⟩
    rw [← heq, Dict.get?_set_ne _ _ (Ne.symm hk)]
  · rintro ⟨h, htype⟩
    rw [h.converted_eq hm, Dict.set_of_get? htype]

theorem Routed.verifyRaises_iff {r : Msg P} (h : Routed m r) : VerifyRaises r ↔ VerifyRaises m := by
  rw [VerifyRaises, h.either (by decide) (by decide), h.either (by decide) (by decide),
    VerifyRaises]

theorem Routed.restores_iff {r : Msg P} (h : Routed m r) : Restores r ↔ Restores m := by
  rw [Restores, Message.flag, h.fields _ (by decide) (by decide), h.either (by decide) (by decide),
    Restores, Message.flag]

theorem untouched_iff {work : Msg P} {written : Message}
    (h : work.metadata = some (.dict written)) :
    shared m work = m ↔ ∀ metadata, m.metadataDict = some metadata → written = metadata := by
  rw [shared_eq_iff, h]
  simp only [Option.some.injEq, Value.dict.injEq]

theorem shared_fields_data (m work : Msg P) :
    (shared m work).fields = m.fields ∧ (shared m work).data = m.data := by
  rw [shared]
  split_ifs <;> exact ⟨rfl, rfl⟩

/-- A run that raises at the end returns the caller's message, with what was written into it. -/
theorem unverified_iff (hdata : m.data = some (.list items))
    (hitems : ∀ item ∈ items, IsReading item) {r done : Msg P} (hr : Routed m r)
    (hdone : Structured r items done) :
    Conserved items (shared m done) ∧ shared m done = m ↔
      HasCount items m.fields ∧
        ∀ metadata, m.metadataDict = some metadata → Filled m items metadata := by
  obtain ⟨hfields, hkept⟩ := shared_fields_data m done
  have hfilled : ∀ metadata, m.metadataDict = some metadata →
      (converted items (sides r items).2 = metadata ↔ Filled m items metadata) := by
    intro metadata hm
    rw [converted_eq_iff (hr.metadataDict.trans hm), hr.filled_iff]
  rw [conserved_iff_hasCount hitems (hkept.trans hdata), hfields, untouched_iff hdone.metadata,
    forall₂_congr hfilled]

theorem unrestored_iff {r done : Msg P} (hr : Routed m r) (hdone : Structured r items done) :
    Conserved items done ∧ shared m done = m ↔
      Uniform items ∧ ∀ metadata, m.metadataDict = some metadata → Filled m items metadata := by
  obtain ⟨entries, hentries, hsame⟩ := hdone.data
  have hfilled : ∀ metadata, m.metadataDict = some metadata →
      (converted items (sides r items).2 = metadata ↔ Filled m items metadata) := by
    intro metadata hm
    rw [converted_eq_iff (hr.metadataDict.trans hm), hr.filled_iff]
  rw [conserved_iff_uniform hentries hsame hdone.count, untouched_iff hdone.metadata,
    forall₂_congr hfilled]

theorem restored_iff {r done : Msg P} (hr : Routed m r) (hdone : Structured r items done) :
    Conserved items (restoreCommandType done) ∧ shared m (restoreCommandType done) = m ↔
      Uniform items ∧ ∀ metadata, m.metadataDict = some metadata → Filled m items metadata ∧
        Dict.get? metadata "command_type" = some (.str "precipitation_data") := by
  obtain ⟨entries, hentries, hsame⟩ := hdone.data
  have hentries' : (restoreCommandType done).data = some (.list entries) := hentries
  have hcount : Dict.get? (restoreCommandType done).fields "data_count" =
      some (.int (kept items).length) := by
    rw [restoreCommandType, Dict.get?_set_ne _ _ (by decide), hdone.count]
  have hmetadata : (restoreCommandType done).metadata =
      some (.dict (Dict.set (converted items (sides r items).2) "command_type"
        (.str "precipitation_data"))) := by
    rw [restoreCommandType, metadataDict_eq_some.mpr hdone.metadata]
  have hfilled : ∀ metadata, m.metadataDict = some metadata →
      (Dict.set (converted items (sides r items).2) "command_type" (.str "precipitation_data") =
          metadata ↔ Filled m items metadata ∧
        Dict.get? metadata "command_type" = some (.str "precipitation_data")) := by
    intro metadata hm
    rw [restored_eq_iff (hr.metadataDict.trans hm), hr.filled_iff]
  rw [conserved_iff_uniform hentries' hsame hcount, untouched_iff hmetadata, forall₂_congr hfilled]

/-- All entries are kept and the caller's message stays as it was exactly when `Keeps` says so. -/
theorem conserved_untouched_iff (htype : extractMessageType py m = .ok precipitationResponse)
    (hdata : m.data = some (.list items)) (hitems : ∀ item ∈ items, IsReading item) :
    Conserved items (normalizeMessageStructure py m).result ∧
        (normalizeMessageStructure py m).caller = m ↔ Keeps py m items := by
  by_cases hroutes : RoutingRaises py m
  · rw [normalize_of_unrouted htype hroutes]
    dsimp only
    rw [conserved_iff_hasCount hitems hdata]
    constructor
    · exact fun h => .unrouted hroutes h.1
    · rintro (⟨-, hcount⟩ | ⟨hnot, -⟩ | ⟨hnot, -⟩)
      · exact ⟨hcount, rfl⟩
      · exact absurd hroutes hnot
      · exact absurd hroutes hnot
  obtain ⟨r, hensure⟩ : ∃ r, ensureRoutingFields py m = .ok r := by
    cases hensure : ensureRoutingFields py m with
    | error e => exact absurd ((ensureRoutingFields_error_iff py m).mp ⟨e, hensure⟩) hroutes
    | ok r => exact ⟨r, rfl⟩
  have hr := ensureRoutingFields_routed py hensure
  have hrdata : r.data = some (.list items) := hr.data.trans hdata
  obtain ⟨done, hdone, hstructured⟩ := structured_of_readings py hitems hrdata
  have hrtype : either r "message_type" = some precipitationResponse ∨
      either r "message_type" = none := by
    rw [hr.either (by decide) (by decide)]
    exact (extract_cases htype).imp_right fun h => h.1
  obtain ⟨hraises, hpasses⟩ := hstructured.lastTest py hrtype
  rw [hr.verifyRaises_iff] at hraises hpasses
  rw [normalize_of_routed htype hensure hrdata hdone, verifyCriticalFields]
  by_cases hverify : VerifyRaises m
  · rw [hraises hverify]
    refine (unverified_iff hdata hitems hr hstructured).trans ⟨fun h => ?_, ?_⟩
    · exact .unverified hroutes hverify h.1 h.2
    · rintro (⟨hnot, -⟩ | ⟨-, -, hcount, hall⟩ | ⟨-, hnot, -⟩)
      · exact absurd hnot hroutes
      · exact ⟨hcount, hall⟩
      · exact absurd hverify hnot
  · rw [hpasses hverify]
    have hkeeps : Keeps py m items ↔ Uniform items ∧ ∀ metadata, m.metadataDict = some metadata →
        Filled m items metadata ∧
          (Restores m → Dict.get? metadata "command_type" = some (.str "precipitation_data")) := by
      constructor
      · rintro (⟨hnot, -⟩ | ⟨-, hnot, -⟩ | ⟨-, -, huniform, hall⟩)
        · exact absurd hnot hroutes
        · exact absurd hnot hverify
        · exact ⟨huniform, hall⟩
      · exact fun h => .finished hroutes hverify h.1 h.2
    rw [hkeeps, Except.map]
    have htransfer := hstructured.restores_iff.trans hr.restores_iff
    by_cases hrestores : Restores m
    · rw [if_pos (htransfer.mpr hrestores)]
      simp only [hrestores, forall_const]
      exact restored_iff hr hstructured
    · rw [if_neg (mt htransfer.mp hrestores)]
      simp only [hrestores, false_implies, and_true]
      exact unrestored_iff hr hstructured

/-- A message without metadata, with one object. -/
def oneObject : Msg Unit where
  fields := [("message_type", precipitationResponse)]
  metadata := none
  data := some (.list [.object ()])

theorem oneObject_kept :
    Conserved [.object ()] (normalizeMessageStructure .ascii oneObject).result ∧
      (normalizeMessageStructure .ascii oneObject).caller = oneObject := by
  have htype : extractMessageType .ascii oneObject = .ok precipitationResponse := rfl
  refine (conserved_untouched_iff htype rfl ?_).mpr ?_
  · intro item hitem
    rw [List.mem_singleton.mp hitem]
    exact .object ()
  · refine .finished ?_ ?_ ?_ ?_
    · rintro ⟨⟨-, -, metadata, hm, -⟩ | ⟨-, metadata, hm, -⟩, -⟩ <;> cases hm
    · rintro ⟨htype, -⟩
      cases htype
    · exact .inl fun item hitem => by rw [List.mem_singleton.mp hitem]; rfl
    · intro metadata hm
      cases hm

/-- A dictionary with a position and a type, as in a mixed list. -/
def drizzle : Message := [("position", .tuple [.int 3, .int 4]), ("type", .str "rain")]

/-- A message with an object and a dictionary, and with metadata that has nothing yet. -/
def mixedList : Msg Unit where
  fields := [("message_type", precipitationResponse)]
  metadata := some (.dict [])
  data := some (.list [.object (), .value (.dict drizzle)])

/-- The object is lost, and the caller's metadata is written. -/
theorem mixedList_loses_object :
    extractMessageType .ascii mixedList = .ok precipitationResponse ∧
      (∀ item ∈ ([.object (), .value (.dict drizzle)] : List (Item Unit)), IsReading item) ∧
      ¬Conserved [.object (), .value (.dict drizzle)]
        (normalizeMessageStructure .ascii mixedList).result ∧
      (normalizeMessageStructure .ascii mixedList).caller ≠ mixedList := by
  refine ⟨rfl, fun item hitem => ?_, fun hconserved => ?_, fun hcaller => ?_⟩
  · rcases List.mem_pair.mp hitem with rfl | rfl
    · exact .object ()
    · refine .dict drizzle rfl rfl fun key hkey v hv => ?_
      rcases List.mem_pair.mp hkey with rfl | rfl <;> cases hv
  · have hcount : Dict.get? (normalizeMessageStructure .ascii mixedList).result.fields "data_count" =
        some (.int 1) := by decide +kernel
    have hlength := hconserved.count
    rw [HasCount, hcount] at hlength
    revert hlength
    decide
  · have hmetadata := congrArg Msg.metadata hcaller
    revert hmetadata
    decide +kernel

end Runs

end Fmofp.Normalizer
