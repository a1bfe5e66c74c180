import Fmofp.Normalizer.Sides

/-! What each phase of a normalisation reads, when it raises, and what it leaves as it is. -/

namespace Fmofp.Normalizer

open Python Metadata

section Routing

variable {P : Type} (py : Runtime)

/-- The metadata, or an empty dictionary. -/
def nested (m : Msg P) : Message := m.metadataDict.getD []

/-- What the fields of a message hold, or else its metadata. -/
def either (m : Msg P) (key : String) : Option Value :=
  (Dict.get? m.fields key).or (Dict.get? (nested m) key)

/-- The message `r` is `m`, but for the two addresses. -/
structure Routed (m r : Msg P) : Prop where
  fields : ∀ k, k ≠ "rt_address" → k ≠ "sub_address" →
    Dict.get? r.fields k = Dict.get? m.fields k
  metadata : r.metadata = m.metadata
  data : r.data = m.data

theorem Routed.refl (m : Msg P) : Routed m m := ⟨fun _ _ _ => rfl, rfl, rfl⟩

theorem Routed.trans {m n r : Msg P} (h : Routed m n) (h' : Routed n r) : Routed m r where
  fields k hrt hsub := (h'.fields k hrt hsub).trans (h.fields k hrt hsub)
  metadata := h'.metadata.trans h.metadata
  data := h'.data.trans h.data

theorem Routed.metadataDict {m r : Msg P} (h : Routed m r) : r.metadataDict = m.metadataDict := by
  rw [Msg.metadataDict, h.metadata, Msg.metadataDict]

theorem Routed.nested {m r : Msg P} (h : Routed m r) : nested r = Normalizer.nested m := by
  rw [Normalizer.nested, h.metadataDict, Normalizer.nested]

theorem Routed.either {m r : Msg P} (h : Routed m r) {k : String} (hrt : k ≠ "rt_address")
    (hsub : k ≠ "sub_address") : Normalizer.either r k = Normalizer.either m k := by
  rw [Normalizer.either, h.fields k hrt hsub, h.nested, Normalizer.either]

theorem Routed.list? {m r : Msg P} (h : Routed m r) : r.list? = m.list? := by
  rw [Msg.list?, h.data, Msg.list?]

theorem withAddress_none (m : Msg P) (key : String) : withAddress m key .none = m := if_pos rfl

theorem get?_withAddress_ne (m : Msg P) {key k : String} (address : Value) (h : k ≠ key) :
    Dict.get? (withAddress m key address).fields k = Dict.get? m.fields k := by
  rw [withAddress]
  split_ifs
  · rfl
  · exact Dict.get?_set_ne _ _ (Ne.symm h)

theorem withAddress_routed (m : Msg P) {key : String} (address : Value)
    (h : key = "rt_address" ∨ key = "sub_address") : Routed m (withAddress m key address) where
  fields k hrt hsub := get?_withAddress_ne m address (by rcases h with rfl | rfl <;> assumption)
  metadata := by
    rw [withAddress]
    split_ifs <;> rfl
  data := by
    rw [withAddress]
    split_ifs <;> rfl

/-- A test reads two types, the metadata, the data and the list that goes by its own name. -/
theorem Topic.isAbout_congr (topic : Topic) {m n : Msg P}
    (htype : Dict.get? n.fields "message_type" = Dict.get? m.fields "message_type")
    (hcommand : Dict.get? n.fields "command_type" = Dict.get? m.fields "command_type")
    (hlist : Dict.get? n.fields topic.listKey = Dict.get? m.fields topic.listKey)
    (hmetadata : n.metadataDict = m.metadataDict) (hdata : n.list? = m.list?) :
    topic.isAbout py n = topic.isAbout py m := by
  unfold Topic.isAbout mentions Topic.inData
  rw [htype, hcommand, hlist, hmetadata, hdata]

theorem Routed.isPrecipitationMessage {m r : Msg P} (h : Routed m r) :
    isPrecipitationMessage py r = Normalizer.isPrecipitationMessage py m :=
  precipitation.isAbout_congr py (h.fields _ (by decide) (by decide))
    (h.fields _ (by decide) (by decide)) (h.fields _ (by decide) (by decide)) h.metadataDict h.list?

theorem Routed.isVilMessage {m r : Msg P} (h : Routed m r) :
    isVilMessage py r = Normalizer.isVilMessage py m := by
  have hmode : isModeChange r = isModeChange m := by
    rw [isModeChange, h.fields _ (by decide) (by decide), h.metadataDict, isModeChange]
  rw [Normalizer.isVilMessage, hmode, Normalizer.isVilMessage,
    vil.isAbout_congr py (h.fields _ (by decide) (by decide)) (h.fields _ (by decide) (by decide))
      (h.fields _ (by decide) (by decide)) h.metadataDict h.list?]

theorem Routed.isWeatherMessage {m r : Msg P} (h : Routed m r) :
    isWeatherMessage py r = Normalizer.isWeatherMessage py m := by
  rw [Normalizer.isWeatherMessage, h.isPrecipitationMessage, h.isVilMessage,
    Normalizer.isWeatherMessage]

theorem ensureRtAddress_eq {m r : Msg P} (h : ensureRtAddress py m = .ok r) :
    ∃ address, r = withAddress m "rt_address" address := by
  rw [ensureRtAddress] at h
  split_ifs at h
  · cases h
    exact ⟨.none, (withAddress_none m _).symm⟩
  · cases haddress : rtAddressFromMetadata py m with
    | error e =>
      rw [haddress] at h
      cases h
    | ok address =>
      rw [haddress] at h
      cases h
      exact ⟨address, rfl⟩
  · cases h
    exact ⟨_, rfl⟩

theorem ensureSubAddress_eq {m r : Msg P} (h : ensureSubAddress py m = .ok r) :
    ∃ address, r = withAddress m "sub_address" address := by
  rw [ensureSubAddress] at h
  split_ifs at h
  · cases h
    exact ⟨.none, (withAddress_none m _).symm⟩
  · cases haddress : subAddress py m with
    | error e =>
      rw [haddress] at h
      cases h
    | ok address =>
      rw [haddress] at h
      cases h
      exact ⟨address, rfl⟩

theorem ensureRoutingFields_routed {m r : Msg P} (h : ensureRoutingFields py m = .ok r) :
    Routed m r := by
  rw [ensureRoutingFields] at h
  cases hrt : ensureRtAddress py m with
  | error e =>
    rw [hrt] at h
    cases h
  | ok n =>
    rw [hrt] at h
    obtain ⟨rt, rfl⟩ := ensureRtAddress_eq py hrt
    obtain ⟨sub, rfl⟩ := ensureSubAddress_eq py h
    exact (withAddress_routed m rt (.inl rfl)).trans (withAddress_routed _ sub (.inr rfl))

/-- The search for the terminal's address comes to the test for weather. -/
def SearchesRt (m : Msg P) : Prop :=
  Dict.has m.fields "rt_address" = false ∧ rtAddressFromFrames py m.fields = .none ∧
    ∃ metadata, m.metadataDict = some metadata ∧ Dict.has metadata "rt_address" = false

/-- The search for the subaddress comes to the test for weather. -/
def SearchesSub (m : Msg P) : Prop :=
  Dict.has m.fields "sub_address" = false ∧
    ∃ metadata, m.metadataDict = some metadata ∧ Dict.has metadata "sub_address" = false ∧
      Dict.has metadata "subaddress" = false

theorem ensureRtAddress_error_iff (m : Msg P) :
    (∃ e, ensureRtAddress py m = .error e) ↔
      SearchesRt py m ∧ ∃ e, isWeatherMessage py m = .error e := by
  rw [ensureRtAddress, SearchesRt, rtAddressFromMetadata]
  cases hhas : Dict.has m.fields "rt_address" with
  | true => simp
  | false =>
    by_cases hframes : rtAddressFromFrames py m.fields = .none
    · cases hmetadata : m.metadataDict with
      | none => simp [hframes, Except.map]
      | some metadata =>
        cases haddress : Dict.get? metadata "rt_address" with
        | some address => simp [hframes, haddress, Dict.has, Except.map]
        | none =>
          cases hweather : isWeatherMessage py m <;>
            simp [hframes, haddress, Dict.has, Except.map]
    · simp [hframes]

theorem ensureSubAddress_error_iff (m : Msg P) :
    (∃ e, ensureSubAddress py m = .error e) ↔
      SearchesSub m ∧ ∃ e, isWeatherMessage py m = .error e := by
  rw [ensureSubAddress, SearchesSub, subAddress]
  cases hhas : Dict.has m.fields "sub_address" with
  | true => simp
  | false =>
    cases hmetadata : m.metadataDict with
    | none => simp [Except.map]
    | some metadata =>
      cases hsub : Dict.get? metadata "sub_address" with
      | some address => simp [hsub, Dict.has, Except.map]
      | none =>
        cases hother : Dict.get? metadata "subaddress" with
        | some address => simp [hsub, hother, Dict.has, Except.map]
        | none =>
          cases hweather : isWeatherMessage py m <;>
            simp [hsub, hother, Dict.has, Except.map]

/-- The phase of the addresses raises where it comes to a test for weather that does. -/
theorem ensureRoutingFields_error_iff (m : Msg P) :
    (∃ e, ensureRoutingFields py m = .error e) ↔
      (SearchesRt py m ∨ SearchesSub m) ∧ ∃ e, isWeatherMessage py m = .error e := by
  have hrt := ensureRtAddress_error_iff py m
  rw [ensureRoutingFields]
  cases hfirst : ensureRtAddress py m with
  | error e =>
    obtain ⟨hsearch, hraises⟩ := hrt.mp ⟨e, hfirst⟩
    exact ⟨fun _ => ⟨.inl hsearch, hraises⟩, fun _ => ⟨e, rfl⟩⟩
  | ok n =>
    have hnot : ¬(SearchesRt py m ∧ ∃ e, isWeatherMessage py m = .error e) := by
      intro h
      obtain ⟨e, he⟩ := hrt.mpr h
      rw [hfirst] at he
      cases he
    obtain ⟨rt, rfl⟩ := ensureRtAddress_eq py hfirst
    have hn := withAddress_routed m rt (.inl rfl)
    have hsame : SearchesSub (withAddress m "rt_address" rt) ↔ SearchesSub m := by
      rw [SearchesSub, SearchesSub, hn.metadataDict, Dict.has, Dict.has,
        get?_withAddress_ne m rt (by decide)]
    have hsub := ensureSubAddress_error_iff py (withAddress m "rt_address" rt)
    rw [hsame, hn.isWeatherMessage] at hsub
    refine hsub.trans ⟨fun h => ⟨.inr h.1, h.2⟩, fun h => ⟨?_, h.2⟩⟩
    exact h.1.resolve_left fun hsearch => hnot ⟨hsearch, h.2⟩

end Routing

/-! ### The data -/

section Conversion

variable {P : Type} (py : Runtime) {m : Msg P}

/-- The metadata after the conversion to `n` entries. -/
def convertedMetadata (n : ℕ) (metadata : Message) : Message :=
  Dict.set (Dict.set metadata "data_count" (.int n)) "precipitation_data_normalized" (.bool true)

/-- The message after the conversion to `entries`. -/
def convertedTo (m : Msg P) (metadata : Message) (entries : List Message) : Msg P where
  fields := Dict.set m.fields "data_count" (.int entries.length)
  metadata := some (.dict (convertedMetadata entries.length metadata))
  data := some (.list (entries.map fun d => .value (.dict d)))

theorem standardized_cons (item : Item P) (items : List (Item P)) :
    standardized py (item :: items) = (do
      let entry ← standardize py item
      let entries ← standardized py items
      return entry.toList ++ entries) := by
  rw [standardized, List.mapM_cons, standardized]
  cases standardize py item with
  | error e => rfl
  | ok entry =>
    cases items.mapM (standardize py) with
    | error e => rfl
    | ok entries => cases entry <;> rfl

theorem normalizePrecipitationData_falsy (h : ∀ data ∈ m.data, data.truthy = false) :
    normalizePrecipitationData py m = .ok { m with data := some (.list []) } := by
  rw [normalizePrecipitationData.eq_def]
  cases hdata : m.data with
  | none => rfl
  | some data =>
    dsimp only
    rw [if_pos (h data hdata)]
    rfl

theorem normalizePrecipitationData_objects {data : Data P} {items : List (Item P)}
    (hdata : m.data = some data) (htruthy : data.truthy = true) (hitems : data.iterate = .ok items)
    (hall : items.all Item.isObject = true) : normalizePrecipitationData py m = .ok m := by
  rw [normalizePrecipitationData.eq_def, hdata]
  dsimp only
  rw [if_neg (by rw [htruthy]; decide), hitems]
  simp only [bind, Except.bind, hall, if_true]
  rfl

theorem normalizePrecipitationData_convert {data : Data P} {items : List (Item P)}
    {entries : List Message} {metadata : Message} (hdata : m.data = some data)
    (htruthy : data.truthy = true) (hitems : data.iterate = .ok items)
    (hall : ¬items.all Item.isObject = true) (hentries : standardized py items = .ok entries)
    (hmetadata : m.metadataDict = some metadata) :
    normalizePrecipitationData py m =
      .ok (if entries = [] then m else convertedTo m metadata entries) := by
  rw [normalizePrecipitationData.eq_def, hdata]
  dsimp only
  rw [if_neg (by rw [htruthy]; decide), hitems]
  simp only [bind, Except.bind, hall, hentries, hmetadata, if_false, Bool.false_eq_true]
  split_ifs <;> rfl

end Conversion

end Fmofp.Normalizer
