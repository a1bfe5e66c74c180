import Fmofp.Adapter.MessageFormat

/-! Dictionaries against objects: the branch for objects asks for `request_id`, which is none of the
standard fields, and so never comes to an end; the branch for dictionaries comes to its end whenever the
metadata are a dictionary. -/

namespace Fmofp.Adapter

open Python

/-- The fields that a caller can give under the same name to both branches, but for `payload`. -/
def standardNames : List String := (standardFields 0).map Prod.fst ++ ["request_id"]

/-- The value that a given field is to keep: identifiers become text. -/
def keptValue (py : Runtime) (field : String) (v : Value) : Value :=
  if field ∈ uuidFields then .str (py.str v) else v

/-- Dictionary and object with the same fields normalize alike, with the fields that are given, and the
caller's message stays as it is. -/
structure Alike (py : Runtime) (now : ℚ) (className : String) (fields : Message) : Prop where
  normalized : ∃ normalized normalized',
    normalizeDictionary py now fields = .ok normalized ∧
      normalizeObject py now ⟨className, fields⟩ = .ok normalized' ∧
      (∀ field ∈ standardNames, (field = "timestamp" → Dict.has fields field = true) →
        Dict.get? normalized field = Dict.get? normalized' field) ∧
      ∀ field ∈ standardNames, ∀ v, Dict.get? fields field = some v → v.truthy = true →
        Dict.get? normalized field = some (keptValue py field v)
  unchanged : messageAfter py now fields = fields

variable {py : Runtime} {now : ℚ}

/-! ### What the steps leave -/

theorem updateMetadata_get? {normalized normalized' : Message} {field : Option Value}
    (h : updateMetadata normalized field = .ok normalized') {k : String} (hk : "metadata" ≠ k) :
    Dict.get? normalized' k = Dict.get? normalized k := by
  unfold updateMetadata at h
  split at h
  · split at h
    · cases h
      exact Dict.get?_set_ne _ _ hk
    · cases h
  · cases h
    rfl

theorem extractMetadata_get? {normalized normalized' fields : Message}
    (h : extractMetadata normalized fields = .ok normalized') {k : String} (hk : "metadata" ≠ k) :
    Dict.get? normalized' k = Dict.get? normalized k := by
  obtain ⟨between, hfirst, hsecond⟩ := bind_eq_ok h
  rw [updateMetadata_get? hsecond hk, updateMetadata_get? hfirst hk]

theorem setFirst_get? (normalized fields : Message) (alternates : List String) {field k : String}
    (hk : field ≠ k) : Dict.get? (setFirst normalized fields field alternates) k =
      Dict.get? normalized k := by
  unfold setFirst
  split
  · exact Dict.get?_set_ne _ _ hk
  · rfl

/-! ### Objects -/

/-- No standard field is `request_id`. -/
theorem get?_standardFields_request_id (fields : Message) :
    Dict.get? ((standardFields now).map fun e => (e.1, Dict.getD fields e.1 e.2)) "request_id" =
      none := by
  refine Dict.get?_eq_none fun e he => ?_
  obtain ⟨e', he', rfl⟩ := List.mem_map.mp he
  have hkeys : ∀ k ∈ (standardFields 0).map Prod.fst, k ≠ "request_id" := by decide +kernel
  have hsame : (standardFields now).map Prod.fst = (standardFields 0).map Prod.fst := rfl
  exact hkeys e'.1 (hsame ▸ List.mem_map_of_mem he')

/-- The branch for objects never comes to an end. -/
theorem normalizeObject_error (message : Object) :
    ∃ e, normalizeObject py now message = .error e := by
  rw [normalizeObject]
  cases hextract : extractMetadata ((standardFields now).map fun e =>
      (e.1, Dict.getD message.attributes e.1 e.2)) message.attributes with
  | error e => exact ⟨e, rfl⟩
  | ok normalized =>
    have hnone : Dict.get? normalized "request_id" = none := by
      rw [extractMetadata_get? hextract (by decide), get?_standardFields_request_id]
    have hdata : Dict.get? (if Dict.getD normalized "data" .none = .none then
        setFirst normalized message.attributes "data" ["payload"] else normalized) "request_id" =
        none := by
      split_ifs
      · rw [setFirst_get? _ _ _ (by decide), hnone]
      · exact hnone
    refine ⟨.keyError, ?_⟩
    dsimp only [bind, Except.bind]
    rw [hdata]

/-! ### Dictionaries -/

/-- The metadata of a message that is being normalized are a dictionary. -/
def HasMetadata (normalized : Message) : Prop :=
  ∃ metadata, Dict.get? normalized "metadata" = some (.dict metadata)

theorem HasMetadata.of_get? {normalized normalized' : Message} (h : HasMetadata normalized)
    (hsame : Dict.get? normalized' "metadata" = Dict.get? normalized "metadata") :
    HasMetadata normalized' := by
  obtain ⟨metadata, hmetadata⟩ := h
  exact ⟨metadata, hsame.trans hmetadata⟩

theorem HasMetadata.updateMetadata {normalized : Message} (h : HasMetadata normalized)
    (field : Option Value) :
    ∃ normalized', Adapter.updateMetadata normalized field = .ok normalized' ∧
      HasMetadata normalized' := by
  obtain ⟨metadata, hmetadata⟩ := h
  unfold Adapter.updateMetadata
  split
  · rw [hmetadata]
    exact ⟨_, rfl, _, Dict.get?_set_self _ _ _⟩
  · exact ⟨normalized, rfl, metadata, hmetadata⟩

theorem HasMetadata.extractMetadata {normalized : Message} (h : HasMetadata normalized)
    (fields : Message) :
    ∃ normalized', Adapter.extractMetadata normalized fields = .ok normalized' ∧
      HasMetadata normalized' := by
  obtain ⟨between, hbetween, h⟩ := h.updateMetadata (Dict.get? fields "additional_info")
  obtain ⟨after, hafter, h⟩ := h.updateMetadata (Dict.get? fields "info")
  refine ⟨after, ?_, h⟩
  rw [Adapter.extractMetadata, hbetween]
  exact hafter

theorem stringify_get? (normalized : Message) {field k : String} (hk : field ≠ k) :
    Dict.get? (stringify py normalized field) k = Dict.get? normalized k := by
  unfold stringify
  split
  · rfl
  · rfl
  · exact Dict.get?_set_ne _ _ hk

/-- A fold of steps none of which writes to `k`. -/
theorem foldl_get? {α : Type} {f : Message → α → Message} {k : String} {xs : List α}
    (h : ∀ normalized, ∀ x ∈ xs, Dict.get? (f normalized x) k = Dict.get? normalized k)
    (normalized : Message) : Dict.get? (xs.foldl f normalized) k = Dict.get? normalized k := by
  induction xs generalizing normalized with
  | nil => rfl
  | cons x xs ih =>
    rw [List.foldl_cons, ih fun normalized x hx => h normalized x (List.mem_cons_of_mem _ hx),
      h normalized x List.mem_cons_self]

variable (py) in
/-- Looking for the identifiers leaves the metadata alone. -/
theorem findUuids_metadata (normalized message : Message) :
    Dict.get? (findUuids py normalized message) "metadata" = Dict.get? normalized "metadata" := by
  have halternates : ∀ normalized, ∀ e ∈ uuidFieldAlternates,
      Dict.get? (if Message.flag normalized e.1 then normalized
        else setFirst normalized message e.1 e.2) "metadata" = Dict.get? normalized "metadata" := by
    intro normalized e he
    have hne : ∀ e ∈ uuidFieldAlternates, e.1 ≠ "metadata" := by decide +kernel
    split_ifs
    · rfl
    · exact setFirst_get? _ _ _ (hne e he)
  have hstringify : ∀ normalized, ∀ field ∈ uuidFields,
      Dict.get? (stringify py normalized field) "metadata" = Dict.get? normalized "metadata" := by
    intro normalized field hfield
    have hne : ∀ field ∈ uuidFields, field ≠ "metadata" := by decide +kernel
    exact stringify_get? normalized (hne field hfield)
  simp only [findUuids]
  rw [foldl_get? hstringify]
  split_ifs
  all_goals first
    | rw [Dict.get?_set_ne _ _ (by decide), foldl_get? halternates,
        Dict.get?_set_ne _ _ (by decide)]
    | rw [Dict.get?_set_ne _ _ (by decide), foldl_get? halternates]
    | rw [foldl_get? halternates, Dict.get?_set_ne _ _ (by decide)]
    | rw [foldl_get? halternates]

theorem HasMetadata.storeUuids {normalized : Message} (h : HasMetadata normalized)
    (fields : List String) :
    ∃ normalized', fields.foldlM storeUuid normalized = .ok normalized' := by
  induction fields generalizing normalized with
  | nil => exact ⟨normalized, rfl⟩
  | cons field fields ih =>
    obtain ⟨metadata, hmetadata⟩ := h
    have hstep : ∃ next, storeUuid normalized field = .ok next ∧ HasMetadata next := by
      unfold storeUuid
      split_ifs
      · rw [hmetadata]
        exact ⟨_, rfl, _, Dict.get?_set_self _ _ _⟩
      · exact ⟨normalized, rfl, metadata, hmetadata⟩
    obtain ⟨next, hnext, h⟩ := hstep
    rw [List.foldlM_cons, hnext]
    exact ih h

/-- The branch for dictionaries comes to its end when there are no metadata or they are a dictionary. -/
theorem normalizeDictionary_ok {message : Message}
    (h : ∀ v, ("metadata", v) ∈ message → ∃ metadata, v = .dict metadata) :
    ∃ normalized, normalizeDictionary py now message = .ok normalized := by
  have hcopied : HasMetadata (Dict.update (standardFields now) message) := by
    rw [HasMetadata, Dict.get?_update]
    cases hget : Dict.get? message.reverse "metadata" with
    | none => exact ⟨[], rfl⟩
    | some v =>
      obtain ⟨metadata, rfl⟩ := h v (List.mem_reverse.mp (Dict.mem_of_get?_eq_some hget))
      exact ⟨metadata, rfl⟩
  obtain ⟨extracted, hextract, hmetadata⟩ := hcopied.extractMetadata message
  have hdata : HasMetadata (if Dict.has message "data" then extracted
      else setFirst extracted message "data" ["payload"]) := by
    refine hmetadata.of_get? ?_
    split_ifs
    · rfl
    · exact setFirst_get? _ _ _ (by decide)
  obtain ⟨stored, hstored⟩ := (hdata.of_get? (findUuids_metadata py _ message)).storeUuids uuidFields
  rw [normalizeDictionary, hextract]
  dsimp only [bind, Except.bind]
  rw [ensureUuidFields, hstored]
  exact ⟨_, rfl⟩

/-- No message normalizes alike: its object always takes the way of an error. -/
theorem never_alike (py : Runtime) (now : ℚ) (className : String) (fields : Message) :
    (∃ e, normalizeObject py now ⟨className, fields⟩ = .error e) ∧ ¬ Alike py now className fields := by
  obtain ⟨e, he⟩ := normalizeObject_error ⟨className, fields⟩
  refine ⟨⟨e, he⟩, fun h => ?_⟩
  obtain ⟨normalized, normalized', -, hobject, -⟩ := h.normalized
  rw [he] at hobject
  cases hobject

/-- A status message and its metadata. -/
def statusMessage : Message :=
  [("message_type", .str "status"), ("status_uuid", .str "s1"), ("metadata", .dict [])]

/-- As an object the message is not normalized at all; as a dictionary it is, and the caller's metadata
are written to. -/
theorem statusMessage_not_alike :
    normalizeObject .ascii 0 ⟨"StatusMessage", statusMessage⟩ = .error .keyError ∧
      messageAfter .ascii 0 statusMessage ≠ statusMessage ∧
      ¬ Alike .ascii 0 "StatusMessage" statusMessage := by
  have hobject : normalizeObject .ascii 0 ⟨"StatusMessage", statusMessage⟩ = .error .keyError := by
    rfl
  refine ⟨hobject, by decide +kernel, fun h => ?_⟩
  obtain ⟨normalized, normalized', -, hnormalized, -⟩ := h.normalized
  rw [hobject] at hnormalized
  cases hnormalized

end Fmofp.Adapter
