import Fmofp.Normalizer.Frame
import Fmofp.Normalizer.Tests

/-! What a normalisation leaves of a message whose type, command and name are text: the type that is found,
what both sides hold after the schema, and the entries that the data become. -/

namespace Fmofp.Normalizer

open Python Metadata

variable {P : Type} (py : Runtime) (m : Msg P)

/-! ### The type and the schema -/

/-- The type that is given, or else the one that the tests say. -/
def foundType : Value :=
  ((Dict.get? m.fields "message_type").or (Dict.get? (nested m) "message_type")).getD
    (if precipitation.holds py m then precipitationResponse
    else if !isModeChange m && vil.holds py m then vilResponse
    else .str "unknown")

def schemaOf (messageType : Value) : Option Schema :=
  match messageType with
  | .str name => Dict.get? messageSchemas name
  | _ => none

/-- The message after its schema. -/
def filled (messageType : Value) (schema : Schema) : Msg P :=
  { m with
    fields := (schemaSides m messageType schema).1
    metadata := some (.dict (schemaSides m messageType schema).2) }

variable {py m}

theorem extractMessageType_eq (h : TextFields m) : extractMessageType py m = .ok (foundType py m) := by
  rw [extractMessageType.eq_def, foundType, nested]
  cases hfield : Dict.get? m.fields "message_type" with
  | some v => rfl
  | none =>
    have hmetadata : (m.metadataDict.bind fun d => Dict.get? d "message_type") =
        Dict.get? (m.metadataDict.getD []) "message_type" := by
      cases m.metadataDict <;> rfl
    dsimp only
    rw [hmetadata, Option.none_or]
    cases Dict.get? (m.metadataDict.getD []) "message_type" with
    | some v => rfl
    | none =>
      dsimp only [Option.getD_none]
      rw [isPrecipitationMessage, precipitation.isAbout_eq h, isVilMessage, vil.isAbout_eq h]
      cases precipitation.holds py m <;> cases isModeChange m <;> cases vil.holds py m <;> rfl

theorem isText_foundType (h : TextFields m) : (foundType py m).isText = true := by
  rw [foundType]
  cases hfield : Dict.get? m.fields "message_type" with
  | some v => exact h.fields "message_type" (by decide) v hfield
  | none =>
    cases hmetadata : Dict.get? (nested m) "message_type" with
    | some v => exact h.metadata "message_type" (by decide) v hmetadata
    | none =>
      dsimp only [Option.or, Option.getD]
      split_ifs <;> rfl

theorem applySchemaNormalization_of (messageType : Value) (htext : messageType.isText = true) :
    applySchemaNormalization m messageType = .ok (match schemaOf messageType with
      | none => m
      | some schema => filled m messageType schema) := by
  cases messageType with
  | str name =>
    rw [applySchemaNormalization, getSchema, Value.key?_str, schemaOf]
    dsimp only
    cases Dict.get? messageSchemas name <;> rfl
  | _ => cases htext

/-- The message after the first two phases. -/
def afterSchema (py : Runtime) (m : Msg P) : Msg P :=
  match schemaOf (foundType py m) with
  | none => routed py m
  | some schema => filled (routed py m) (foundType py m) schema

theorem prepare_eq (h : TextFields m) : prepare py m = .ok (foundType py m, afterSchema py m) := by
  rw [prepare, extractMessageType_eq h]
  show (do let routed ← ensureRoutingFields py m; _) = _
  rw [ensureRoutingFields_eq h]
  show (do let prepared ← applySchemaNormalization (routed py m) (foundType py m); _) = _
  rw [applySchemaNormalization_of _ (isText_foundType h)]
  rfl

/-! ### The data -/

/-- The entries that the data of a precipitation response become: nothing if there are no data. -/
def entriesOf (py : Runtime) (data : Option (Data P)) : Except Exception (Option (List Message)) :=
  match data with
  | none => .ok none
  | some data =>
    if data.truthy = false then .ok none
    else do
      let items ← data.iterate
      if items.all Item.isObject then return some []
      return some (← standardized py items)

/-- The message with the entries in place of its data. -/
def withEntries (m : Msg P) (metadata : Message) : Option (List Message) → Msg P
  | none => { m with data := some (.list []) }
  | some entries => if entries = [] then m else convertedTo m metadata entries

theorem normalizePrecipitationData_eq {metadata : Message} (hmetadata : m.metadataDict = some metadata) :
    normalizePrecipitationData py m = (entriesOf py m.data).map (withEntries m metadata) := by
  cases hdata : m.data with
  | none =>
    rw [normalizePrecipitationData_falsy py (by rw [hdata]; simp), entriesOf]
    rfl
  | some data =>
    rw [entriesOf.eq_def]
    dsimp only
    by_cases htruthy : data.truthy = false
    · rw [normalizePrecipitationData_falsy py (by rw [hdata]; simpa using htruthy), if_pos htruthy]
      rfl
    · rw [if_neg htruthy]
      have htrue : data.truthy = true := by simpa using htruthy
      cases hitems : data.iterate with
      | error e =>
        rw [normalizePrecipitationData.eq_def, hdata]
        dsimp only
        rw [if_neg htruthy, hitems]
        rfl
      | ok items =>
        by_cases hall : items.all Item.isObject = true
        · rw [normalizePrecipitationData_objects py hdata htrue hitems hall]
          show _ = Except.map _ (if items.all Item.isObject = true then _ else _)
          rw [if_pos hall]
          rfl
        · show _ = Except.map _ (if items.all Item.isObject = true then _ else _)
          rw [if_neg hall]
          cases hentries : standardized py items with
          | error e =>
            rw [normalizePrecipitationData.eq_def, hdata]
            dsimp only
            rw [if_neg htruthy, hitems]
            simp only [bind, Except.bind, hall, hentries, if_false, Bool.false_eq_true]
            rfl
          | ok entries =>
            rw [normalizePrecipitationData_convert py hdata htrue hitems hall hentries hmetadata]
            rfl

/-! ### The last phase -/

/-- The message after the last phase. -/
def verified (py : Runtime) (m : Msg P) : Msg P :=
  if Message.flag m.fields "is_transfer_complete" && precipitation.holds py m &&
      decide (Dict.get? m.fields "command_type" = some (.str "transfer_complete")) then
    restoreCommandType m
  else m

theorem verifyCriticalFields_eq (h : TextFields m) :
    verifyCriticalFields py m = .ok (verified py m) := by
  rw [verifyCriticalFields, isPrecipitationMessage, precipitation.isAbout_eq h]
  rfl

theorem verified_data (py : Runtime) (m : Msg P) : (verified py m).data = m.data := by
  rw [verified]
  split_ifs <;> rfl

theorem nested_restoreCommandType (m : Msg P) : nested (restoreCommandType m) =
    if m.metadataDict.isSome then Dict.set (nested m) "command_type" (.str "precipitation_data") else [] := by
  rw [nested, restoreCommandType, nested]
  cases hmetadata : m.metadataDict with
  | some metadata => rfl
  | none =>
    show (m.metadata.bind Value.dict?).getD [] = []
    rw [Msg.metadataDict] at hmetadata
    rw [hmetadata]
    rfl

/-- Only the command type may change in the last phase. -/
theorem get?_verified (py : Runtime) (m : Msg P) (key : String) (hkey : key ≠ "command_type") :
    Dict.get? (verified py m).fields key = Dict.get? m.fields key ∧
      Dict.get? (nested (verified py m)) key = Dict.get? (nested m) key := by
  rw [verified]
  split_ifs
  · refine ⟨Dict.get?_set_ne _ _ (Ne.symm hkey), ?_⟩
    rw [nested_restoreCommandType]
    cases hmetadata : m.metadataDict with
    | some metadata => exact Dict.get?_set_ne _ _ (Ne.symm hkey)
    | none =>
      rw [nested, hmetadata]
      rfl
  · exact ⟨rfl, rfl⟩

/-- The last phase does nothing the second time. -/
theorem verified_verified (py : Runtime) (m : Msg P) : verified py (verified py m) = verified py m := by
  by_cases hrestored : (Message.flag m.fields "is_transfer_complete" && precipitation.holds py m &&
      decide (Dict.get? m.fields "command_type" = some (.str "transfer_complete"))) = true
  · have hm : verified py m = restoreCommandType m := if_pos hrestored
    have hcommand : Dict.get? (restoreCommandType m).fields "command_type" =
        some (.str "precipitation_data") := Dict.get?_set_self _ _ _
    rw [hm, verified, if_neg]
    rw [hcommand, Bool.and_eq_true, decide_eq_true_eq]
    exact fun h => absurd h.2 (by decide)
  · have hm : verified py m = m := if_neg hrestored
    rw [hm, hm]

/-! ### The schemas -/

/-- Keys of a message and its metadata that no schema names. -/
def unmirrored : List String :=
  ["rt_address", "sub_address", "subaddress", "source_rt_address", "status_word", "frames",
    "precipitation_data", "vil_data", "precipitation_message", "is_transfer_complete"]

variable {messageType : Value} {schema : Schema} {r : Response} {key : String}

theorem mem_messageSchemas (h : schemaOf messageType = some schema) :
    ∃ name, messageType = .str name ∧ (name, schema) ∈ messageSchemas := by
  cases messageType with
  | str name => exact ⟨name, rfl, Dict.mem_of_get?_eq_some h⟩
  | _ => cases h

theorem mem_metadataFields (h : schemaOf messageType = some schema) (hkey : key ∈ textKeys) :
    key ∈ schema.metadataFields := by
  have hall : ∀ e ∈ messageSchemas, ∀ key ∈ textKeys, key ∈ e.2.metadataFields := by decide +kernel
  obtain ⟨name, -, hmem⟩ := mem_messageSchemas h
  exact hall _ hmem key hkey

theorem notMem_metadataFields (h : schemaOf messageType = some schema) (hkey : key ∈ unmirrored) :
    key ∉ schema.metadataFields := by
  have hall : ∀ e ∈ messageSchemas, ∀ key ∈ unmirrored, key ∉ e.2.metadataFields := by decide +kernel
  obtain ⟨name, -, hmem⟩ := mem_messageSchemas h
  exact hall _ hmem key hkey

/-- The two responses have schemas with the same metadata fields. -/
theorem metadataFields_of_response (h : schemaOf messageType = some schema)
    (hr : response? messageType = some r) : schema.metadataFields = schemaFields := by
  rw [response?] at hr
  split_ifs at hr with hprecipitation hvil
  · subst hprecipitation
    cases h
    rfl
  · subst hvil
    cases h
    rfl

/-! ### What both sides hold -/

/-- What a response gets where both sides lack it. -/
def defaultOf (messageType : Value) (key : String) : Option Value :=
  (response? messageType).bind fun r =>
    if key = "command_name" then some (.str r.commandName)
    else if key = "command_type" then some (.str r.commandType)
    else none

/-- The flags of the responses. -/
def flagKeys : List String :=
  ["precipitation_message", "precipitation_data", "vil_message", "vil_data_available"]

/-- The keys under which a response gets what it lacks. -/
def writtenKeys : List String := ["data_count", "command_name", "command_type"]

/-- The key is a flag of the response. -/
def isFlagOf (messageType : Value) (key : String) : Bool :=
  (response? messageType).any fun r => decide (key ∈ r.flags)

/-- What the metadata hold after the schema, a default apart. -/
def laterMetadata (m : Msg P) (messageType : Value) (schema : Schema) (key : String) : Option Value :=
  if isFlagOf messageType key then some (.bool true)
  else if key ∈ schema.metadataFields then (Dict.get? (nested m) key).or (Dict.get? m.fields key)
  else Dict.get? (nested m) key

theorem defaultOf_of_ne (hname : key ≠ "command_name") (htype : key ≠ "command_type") :
    defaultOf messageType key = none := by
  rw [defaultOf]
  cases response? messageType with
  | none => rfl
  | some r => rw [Option.bind_some, if_neg hname, if_neg htype]

theorem flags_of_response (hr : response? messageType = some r) :
    r.flags = ["precipitation_message", "precipitation_data"] ∨
      r.flags = ["vil_message", "vil_data_available"] := by
  rw [response?] at hr
  split_ifs at hr
  · cases hr
    exact .inl rfl
  · cases hr
    exact .inr rfl

theorem mem_flagKeys (hr : response? messageType = some r) (hkey : key ∈ r.flags) : key ∈ flagKeys := by
  rcases flags_of_response hr with hflags | hflags
  · rw [hflags] at hkey
    exact List.mem_append_left _ hkey
  · rw [hflags] at hkey
    exact List.mem_append_right ["precipitation_message", "precipitation_data"] hkey

theorem isFlagOf_eq_false (hkey : key ∉ flagKeys) : isFlagOf messageType key = false := by
  rw [isFlagOf]
  cases hr : response? messageType with
  | none => rfl
  | some r =>
    simp only [flagKeys, List.mem_cons, List.not_mem_nil, or_false, not_or] at hkey
    rcases flags_of_response hr with hflags | hflags <;> simp [hflags, hkey]

theorem get?_schemaSides_fst (hkey : key ≠ "data_count") :
    Dict.get? (schemaSides m messageType schema).1 key =
      (if key ∈ schema.metadataFields then either m key else Dict.get? m.fields key).or
        (defaultOf messageType key) := by
  have hmirror := (get?_mirror schema.metadataFields (m.fields, nested m) key).1
  rw [schemaSides, defaultOf]
  cases response? messageType with
  | none => exact hmirror.trans (Option.or_none).symm
  | some r =>
    show Dict.get? (r.apply _ (mirror schema.metadataFields (m.fields, nested m))).1 key = _
    rw [Response.get?_apply_fst, if_neg hkey, hmirror, Option.bind_some]
    split_ifs <;> simp only [either, Option.or_some, Option.or_none]

theorem get?_schemaSides_snd (h : schemaOf messageType = some schema) (hkey : key ≠ "data_count") :
    Dict.get? (schemaSides m messageType schema).2 key =
      (laterMetadata m messageType schema key).or (defaultOf messageType key) := by
  obtain ⟨hleft, hright⟩ := get?_mirror schema.metadataFields (m.fields, nested m) key
  have hsame : key ∈ schema.metadataFields →
      Dict.has (mirror schema.metadataFields (m.fields, nested m)).1 key =
        ((Dict.get? (nested m) key).or (Dict.get? m.fields key)).isSome := by
    intro hmem
    rw [Dict.has, hleft, if_pos hmem]
    cases Dict.get? m.fields key <;> cases Dict.get? (nested m) key <;> rfl
  rw [schemaSides, defaultOf, laterMetadata, isFlagOf]
  cases hr : response? messageType with
  | none => exact hright.trans (Option.or_none).symm
  | some r =>
    show Dict.get? (r.apply _ (mirror schema.metadataFields (m.fields, nested m))).2 key = _
    rw [Response.get?_apply_snd, Option.any_some, Option.bind_some]
    by_cases hflag : key ∈ r.flags
    · rw [if_pos hflag, if_pos (decide_eq_true hflag)]
      rfl
    · rw [if_neg hflag, if_neg hkey, if_neg (c := decide (key ∈ r.flags) = true) (by simpa using hflag)]
      by_cases hdefault : key = "command_name" ∨ key = "command_type"
      · have hmem : key ∈ schema.metadataFields :=
          mem_metadataFields h (by rcases hdefault with rfl | rfl <;> decide)
        rw [hsame hmem, hright, if_pos hmem]
        cases (Dict.get? (nested m) key).or (Dict.get? m.fields key) with
        | none => split_ifs <;> first | rfl | contradiction
        | some v => simp only [Option.isSome_some, if_true, Option.some_or, ite_self]
      · rw [not_or] at hdefault
        rw [if_neg hdefault.1, if_neg hdefault.2, if_neg hdefault.1, if_neg hdefault.2, hright,
          Option.or_none]

/-- A list of data is counted on both sides. -/
theorem get?_schemaSides_count {items : List (Item P)} (schema : Schema)
    (hr : response? messageType = some r) (hlist : m.list? = some items) :
    Dict.get? (schemaSides m messageType schema).1 "data_count" = some (.int items.length) ∧
      Dict.get? (schemaSides m messageType schema).2 "data_count" = some (.int items.length) := by
  have hflag : "data_count" ∉ r.flags := by
    rcases flags_of_response hr with hflags | hflags <;> rw [hflags] <;> decide
  rw [schemaSides, hr, hlist]
  dsimp only
  rw [Response.get?_apply_fst, Response.get?_apply_snd, if_pos rfl, if_neg hflag, if_pos rfl]
  exact ⟨rfl, rfl⟩

theorem get?_schemaSides_uncounted (h : schemaOf messageType = some schema)
    (hr : response? messageType = some r) (hlist : m.list? = none) :
    Dict.get? (schemaSides m messageType schema).1 "data_count" = either m "data_count" ∧
      Dict.get? (schemaSides m messageType schema).2 "data_count" =
        (Dict.get? (nested m) "data_count").or (Dict.get? m.fields "data_count") := by
  have hflag : "data_count" ∉ r.flags := by
    rcases flags_of_response hr with hflags | hflags <;> rw [hflags] <;> decide
  obtain ⟨hleft, hright⟩ := get?_mirror schema.metadataFields (m.fields, nested m) "data_count"
  have hmem : "data_count" ∈ schema.metadataFields := by
    rw [metadataFields_of_response h hr]
    decide
  rw [if_pos hmem] at hleft hright
  rw [schemaSides, hr, hlist]
  dsimp only
  rw [Response.get?_apply_fst, Response.get?_apply_snd, if_pos rfl, if_neg hflag, if_pos rfl]
  exact ⟨hleft, hright⟩

/-- A field of the schema is on both sides or on none. -/
theorem has_schemaSides (h : schemaOf messageType = some schema) (hkey : key ∈ schema.metadataFields)
    (hflag : isFlagOf messageType key = false) :
    Dict.has (schemaSides m messageType schema).1 key =
      Dict.has (schemaSides m messageType schema).2 key := by
  by_cases hcount : key = "data_count"
  · subst hcount
    cases hr : response? messageType with
    | none =>
      have hmirror := get?_mirror schema.metadataFields (m.fields, nested m) "data_count"
      rw [if_pos hkey, if_pos hkey] at hmirror
      rw [schemaSides, hr]
      show Dict.has (mirror schema.metadataFields (m.fields, nested m)).1 _ =
        Dict.has (mirror schema.metadataFields (m.fields, nested m)).2 _
      rw [Dict.has, Dict.has, hmirror.1, hmirror.2]
      cases Dict.get? m.fields "data_count" <;> cases Dict.get? (nested m) "data_count" <;> rfl
    | some r =>
      cases hlist : m.list? with
      | some items =>
        obtain ⟨hleft, hright⟩ := get?_schemaSides_count schema hr hlist
        rw [Dict.has, Dict.has, hleft, hright]
      | none =>
        obtain ⟨hleft, hright⟩ := get?_schemaSides_uncounted h hr hlist
        rw [Dict.has, Dict.has, hleft, hright, either]
        cases Dict.get? m.fields "data_count" <;> cases Dict.get? (nested m) "data_count" <;> rfl
  · rw [Dict.has, Dict.has, get?_schemaSides_fst hcount, get?_schemaSides_snd h hcount, laterMetadata,
      hflag, if_pos hkey, if_neg Bool.false_ne_true, if_pos hkey, either]
    cases Dict.get? m.fields key <;> cases Dict.get? (nested m) key <;> rfl

theorem isText_filled (h : schemaOf messageType = some schema) (htext : TextFields m) :
    TextFields (filled m messageType schema) := by
  have hdefault : ∀ key, ∀ v ∈ defaultOf messageType key, v.isText = true := by
    intro key v hv
    rw [defaultOf] at hv
    obtain ⟨r, -, hv⟩ := Option.bind_eq_some_iff.mp hv
    split_ifs at hv <;> cases hv <;> rfl
  have hkeys : ∀ key ∈ textKeys, key ≠ "data_count" ∧ key ∉ flagKeys := by decide
  constructor
  · intro key hkey v hv
    have hv' : Dict.get? (schemaSides m messageType schema).1 key = some v := hv
    rw [get?_schemaSides_fst (hkeys key hkey).1, if_pos (mem_metadataFields h hkey), either] at hv'
    rcases Option.or_eq_some_iff.mp hv' with hv' | ⟨-, hv'⟩
    · rcases Option.or_eq_some_iff.mp hv' with hv' | ⟨-, hv'⟩
      · exact htext.fields key hkey v hv'
      · exact htext.metadata key hkey v hv'
    · exact hdefault key v hv'
  · intro key hkey v hv
    have hv' : Dict.get? (schemaSides m messageType schema).2 key = some v := hv
    rw [get?_schemaSides_snd h (hkeys key hkey).1, laterMetadata, isFlagOf_eq_false (hkeys key hkey).2,
      if_neg (by decide), if_pos (mem_metadataFields h hkey)] at hv'
    rcases Option.or_eq_some_iff.mp hv' with hv' | ⟨-, hv'⟩
    · rcases Option.or_eq_some_iff.mp hv' with hv' | ⟨-, hv'⟩
      · exact htext.metadata key hkey v hv'
      · exact htext.fields key hkey v hv'
    · exact hdefault key v hv'

/-! ### What the tests say afterwards -/

/-- What a test says once the schema has been applied. -/
def Topic.holdsLater (topic : Topic) (py : Runtime) (m : Msg P) (messageType : Value)
    (schema : Schema) : Bool :=
  topic.holds py m || (((laterMetadata m messageType schema topic.flag).map Value.truthy).getD false ||
    decide (laterMetadata m messageType schema "data_type" = some (.str topic.word)))

/-- Whether the message is about weather once the schema has been applied. -/
def weatherLater (py : Runtime) (m : Msg P) (messageType : Value) (schema : Schema) : Bool :=
  precipitation.holdsLater py m messageType schema ||
    (!isModeChange m && vil.holdsLater py m messageType schema)

theorem tells_or (py : Runtime) (word : String) (a b : Option Value) :
    (tells py word (a.or b) || tells py word (b.or a)) = (tells py word a || tells py word b) := by
  cases a with
  | none => cases b <;> simp [tells]
  | some v => cases b <;> simp [tells]

theorem tells_default (py : Runtime) (word : String) (a b c : Option Value) :
    (tells py word ((a.or b).or c) || tells py word ((b.or a).or c)) =
      (tells py word a || tells py word b || (decide ((a.or b) = none) && tells py word c)) := by
  cases a with
  | none =>
    cases b with
    | none => simp [tells]
    | some v => simp [tells]
  | some v => cases b <;> simp [tells]

theorem laterMetadata_of_get? {v : Value} (h : Dict.get? (nested m) key = some v) :
    laterMetadata m messageType schema key =
      if isFlagOf messageType key then some (.bool true) else some v := by
  rw [laterMetadata, h]
  split_ifs <;> rfl

theorem laterMetadata_of_notMem (hflag : isFlagOf messageType key = false)
    (hkey : key ∉ schema.metadataFields) :
    laterMetadata m messageType schema key = Dict.get? (nested m) key := by
  rw [laterMetadata, hflag, if_neg Bool.false_ne_true, if_neg hkey]

theorem defaultOf_commandType {v : Value} (h : defaultOf messageType "command_type" = some v) :
    messageType = precipitationResponse ∧ v = .str "precipitation_data" ∨
      messageType = vilResponse ∧ v = .str "vil_data" := by
  obtain ⟨r, hr, hv⟩ := Option.bind_eq_some_iff.mp h
  rw [if_neg (by decide), if_pos rfl] at hv
  rw [response?] at hr
  split_ifs at hr with hprecipitation hvil
  · cases hr
    cases hv
    exact .inl ⟨hprecipitation, rfl⟩
  · cases hr
    cases hv
    exact .inr ⟨hvil, rfl⟩

/-- A default tells of the topic only where the flag is written with it. -/
structure Topic.Flagged (topic : Topic) (py : Runtime) : Prop where
  default : ∀ messageType v, defaultOf messageType "command_type" = some v →
    tells py topic.word (some v) = true → isFlagOf messageType topic.flag = true
  flag : topic.flag ∉ writtenKeys
  listKey : topic.listKey ∈ unmirrored

theorem precipitation_flagged (py : Runtime) : precipitation.Flagged py where
  default messageType v hdefault htold := by
    rcases defaultOf_commandType hdefault with ⟨rfl, -⟩ | ⟨-, rfl⟩
    · rfl
    · rw [tells, py.lower_eq_self (by decide) (by decide)] at htold
      exact absurd htold (by decide)
  flag := by decide
  listKey := by decide

theorem vil_flagged (py : Runtime) : vil.Flagged py where
  default messageType v hdefault htold := by
    rcases defaultOf_commandType hdefault with ⟨-, rfl⟩ | ⟨rfl, -⟩
    · rw [tells, py.lower_eq_self (by decide) (by decide)] at htold
      exact absurd htold (by decide)
    · rfl
  flag := by decide
  listKey := by decide

/-- What both sides hold under the keys that a test reads. -/
theorem get?_filled_text (h : schemaOf messageType = some schema) (key : String)
    (hkey : key ∈ textKeys) :
    Dict.get? (filled m messageType schema).fields key =
        (either m key).or (defaultOf messageType key) ∧
      Dict.get? (nested (filled m messageType schema)) key =
        ((Dict.get? (nested m) key).or (Dict.get? m.fields key)).or (defaultOf messageType key) := by
  have hkeys : ∀ key ∈ textKeys, key ≠ "data_count" ∧ key ∉ flagKeys := by decide
  obtain ⟨hcount, hflag⟩ := hkeys key hkey
  have hmem := mem_metadataFields h hkey
  constructor
  · show Dict.get? (schemaSides m messageType schema).1 key = _
    rw [get?_schemaSides_fst hcount, if_pos hmem]
  · show Dict.get? (schemaSides m messageType schema).2 key = _
    rw [get?_schemaSides_snd h hcount, laterMetadata, isFlagOf_eq_false hflag,
      if_neg Bool.false_ne_true, if_pos hmem]

/-- Elsewhere no default is written. -/
theorem get?_filled_of_notMem (h : schemaOf messageType = some schema) (key : String)
    (hkey : key ∉ writtenKeys) :
    Dict.get? (filled m messageType schema).fields key =
        (if key ∈ schema.metadataFields then either m key else Dict.get? m.fields key) ∧
      Dict.get? (nested (filled m messageType schema)) key =
        laterMetadata m messageType schema key := by
  simp only [writtenKeys, List.mem_cons, List.not_mem_nil, or_false, not_or] at hkey
  have hdefault : defaultOf messageType key = none := defaultOf_of_ne hkey.2.1 hkey.2.2
  constructor
  · show Dict.get? (schemaSides m messageType schema).1 key = _
    rw [get?_schemaSides_fst hkey.1, hdefault, Option.or_none]
  · show Dict.get? (schemaSides m messageType schema).2 key = _
    rw [get?_schemaSides_snd h hkey.1, hdefault, Option.or_none]

theorem get?_filled_of_unmirrored (h : schemaOf messageType = some schema) (hkey : key ∈ unmirrored) :
    Dict.get? (filled m messageType schema).fields key = Dict.get? m.fields key := by
  have hall : ∀ key ∈ unmirrored, key ∉ writtenKeys := by decide
  rw [(get?_filled_of_notMem h _ (hall key hkey)).1, if_neg (notMem_metadataFields h hkey)]

theorem Topic.holds_filled {topic : Topic} (hflagged : topic.Flagged py)
    (h : schemaOf messageType = some schema) :
    topic.holds py (filled m messageType schema) = topic.holdsLater py m messageType schema := by
  have htype := get?_filled_text (m := m) h "message_type" (by decide)
  have hcommand := get?_filled_text (m := m) h "command_type" (by decide)
  have hnone : defaultOf messageType "message_type" = none := defaultOf_of_ne (by decide) (by decide)
  rw [hnone, Option.or_none, Option.or_none] at htype
  have hflag := (get?_filled_of_notMem (m := m) h _ hflagged.flag).2
  have hdata := (get?_filled_of_notMem (m := m) h "data_type" (by decide)).2
  have hlist := get?_filled_of_unmirrored (m := m) h hflagged.listKey
  have hwas : Message.flag (nested m) topic.flag = true →
      ((laterMetadata m messageType schema topic.flag).map Value.truthy).getD false = true := by
    intro hwas
    rw [Message.flag] at hwas
    cases hv : Dict.get? (nested m) topic.flag with
    | none =>
      rw [hv] at hwas
      cases hwas
    | some v =>
      rw [hv] at hwas
      rw [laterMetadata_of_get? hv]
      split_ifs
      · rfl
      · exact hwas
  have hdata' : decide (Dict.get? (nested m) "data_type" = some (.str topic.word)) = true →
      decide (laterMetadata m messageType schema "data_type" = some (.str topic.word)) = true := by
    intro htold
    rw [laterMetadata_of_get? (of_decide_eq_true htold), isFlagOf_eq_false (by decide)]
    exact decide_eq_true rfl
  have hdefault : tells py topic.word (defaultOf messageType "command_type") = true →
      ((laterMetadata m messageType schema topic.flag).map Value.truthy).getD false = true := by
    intro htold
    cases hv : defaultOf messageType "command_type" with
    | none =>
      rw [hv] at htold
      cases htold
    | some v =>
      rw [hv] at htold
      rw [laterMetadata, if_pos (hflagged.default messageType v hv htold)]
      rfl
  have hdatas : topic.inData (filled m messageType schema) = topic.inData m := rfl
  have htells := tells_or py topic.word (Dict.get? m.fields "message_type")
    (Dict.get? (nested m) "message_type")
  have htells' := tells_default py topic.word (Dict.get? m.fields "command_type")
    (Dict.get? (nested m) "command_type") (defaultOf messageType "command_type")
  rw [Topic.holds, Topic.holdsIn, Message.flag, htype.1, htype.2, hcommand.1, hcommand.2, hflag, hdata,
    hlist, hdatas, Topic.holdsLater, Topic.holds, Topic.holdsIn]
  rw [Bool.eq_iff_iff] at htells htells' ⊢
  rw [either, either]
  simp only [Bool.or_eq_true, Bool.and_eq_true] at htells htells' ⊢
  grind

theorem isModeChange_filled (h : schemaOf messageType = some schema) :
    isModeChange (filled m messageType schema) = isModeChange m := by
  obtain ⟨hleft, hright⟩ := get?_filled_text (m := m) h "command_type" (by decide)
  have hdefault : defaultOf messageType "command_type" ≠ some (.str "mode_change") := by
    intro hdefault
    rcases defaultOf_commandType hdefault with ⟨-, hv⟩ | ⟨-, hv⟩
    · exact absurd hv (by decide)
    · exact absurd hv (by decide)
  rw [isModeChange_eq, isModeChange_eq, hleft, hright, either]
  cases Dict.get? m.fields "command_type" with
  | none =>
    cases Dict.get? (nested m) "command_type" with
    | none =>
      rw [Option.or_none, Option.none_or, decide_eq_false hdefault]
      rfl
    | some v => simp
  | some v => cases Dict.get? (nested m) "command_type" <;> simp

theorem weather_filled (h : schemaOf messageType = some schema) :
    weather py (filled m messageType schema) = weatherLater py m messageType schema := by
  rw [weather, Topic.holds_filled (precipitation_flagged py) h, Topic.holds_filled (vil_flagged py) h,
    isModeChange_filled h, weatherLater]

theorem Topic.holds_of_flag (topic : Topic)
    (h : Dict.get? (nested m) topic.flag = some (.bool true)) : topic.holds py m = true := by
  have hflag : Message.flag (nested m) topic.flag = true := by
    rw [Message.flag, h]
    rfl
  rw [Topic.holds, Topic.holdsIn, hflag]
  simp

theorem weather_of_flag (h : Dict.get? (nested m) "precipitation_message" = some (.bool true)) :
    weather py m = true := by
  rw [weather, precipitation.holds_of_flag h]
  rfl

/-! ### The type that is found again -/

theorem foundType_of_either {v : Value} (h : either m "message_type" = some v) :
    foundType py m = v := by
  rw [either] at h
  rw [foundType, h]
  rfl

theorem foundType_of_none (h : either m "message_type" = none) :
    foundType py m = if precipitation.holds py m then precipitationResponse
      else if !isModeChange m && vil.holds py m then vilResponse
      else .str "unknown" := by
  rw [either] at h
  rw [foundType, h]
  rfl

theorem either_filled (h : schemaOf messageType = some schema) :
    either (filled m messageType schema) "message_type" = either m "message_type" := by
  obtain ⟨hleft, hright⟩ := get?_filled_text (m := m) h "message_type" (by decide)
  have hnone : defaultOf messageType "message_type" = none := defaultOf_of_ne (by decide) (by decide)
  rw [either, hleft, hright, hnone, either]
  cases Dict.get? m.fields "message_type" <;> cases Dict.get? (nested m) "message_type" <;> rfl

/-- A message that only the tests give a type to is a response, or has no schema. -/
theorem foundType_filled (h : schemaOf (foundType py m) = some schema) :
    foundType py (filled m (foundType py m) schema) = foundType py m := by
  have hsame := either_filled (m := m) h
  cases htype : either m "message_type" with
  | some v =>
    rw [htype] at hsame
    rw [foundType_of_either hsame, foundType_of_either htype]
  | none =>
    rw [htype] at hsame
    rw [foundType_of_none hsame, Topic.holds_filled (precipitation_flagged py) h, isModeChange_filled h,
      Topic.holds_filled (vil_flagged py) h]
    have hfound : foundType py m = _ := foundType_of_none htype
    cases hprecipitation : precipitation.holds py m with
    | true =>
      rw [hprecipitation, if_pos rfl] at hfound
      rw [hfound, Topic.holdsLater, hprecipitation]
      rfl
    | false =>
      rw [hprecipitation, if_neg Bool.false_ne_true] at hfound
      cases hvil : (!isModeChange m && vil.holds py m) with
      | false =>
        rw [hvil, if_neg Bool.false_ne_true] at hfound
        have hunknown : schemaOf (.str "unknown") = none := by decide +kernel
        rw [hfound, hunknown] at h
        cases h
      | true =>
        rw [hvil, if_pos rfl] at hfound
        rw [hfound] at h ⊢
        have hfields : schema.metadataFields = schemaFields := metadataFields_of_response h rfl
        have hin : precipitation.holdsIn py (nested m) = false := by
          rw [Topic.holds] at hprecipitation
          simp only [Bool.or_eq_false_iff] at hprecipitation
          exact hprecipitation.2.2.1
        rw [Topic.holdsIn] at hin
        simp only [Bool.or_eq_false_iff] at hin
        have hlater : precipitation.holdsLater py m vilResponse schema = false := by
          rw [Topic.holdsLater, hprecipitation, laterMetadata_of_notMem (by decide)
            (by rw [hfields]; decide), laterMetadata_of_notMem (by decide) (by rw [hfields]; decide),
            hin.2.2.2]
          exact congrArg (· || false) hin.1
        rw [Bool.and_eq_true] at hvil
        have hlater' : vil.holdsLater py m vilResponse schema = true := by
          rw [Topic.holdsLater, hvil.2]
          rfl
        rw [hlater, hvil.1, hlater']
        rfl

/-! ### After the data and the last phase -/

section Entries

variable (entries : Option (List Message))

theorem metadata_withEntries (hmetadata : m.metadata = some (.dict (nested m))) : (withEntries m (nested m) entries).metadata =
    some (.dict (nested (withEntries m (nested m) entries))) := by
  cases entries with
  | none =>
    show m.metadata = some (.dict (nested m))
    exact hmetadata
  | some es =>
    rw [withEntries]
    split_ifs
    · exact hmetadata
    · rfl

/-- The conversion of the data writes the count and its own mark. -/
theorem get?_withEntries (key : String) (hcount : key ≠ "data_count") :
    Dict.get? (withEntries m (nested m) entries).fields key = Dict.get? m.fields key ∧
      (key ≠ "precipitation_data_normalized" →
        Dict.get? (nested (withEntries m (nested m) entries)) key = Dict.get? (nested m) key) := by
  cases entries with
  | none => exact ⟨rfl, fun _ => rfl⟩
  | some es =>
    rw [withEntries]
    split_ifs
    · exact ⟨rfl, fun _ => rfl⟩
    · refine ⟨Dict.get?_set_ne _ _ (Ne.symm hcount), fun hmark => ?_⟩
      show Dict.get? (convertedMetadata es.length (nested m)) key = _
      rw [convertedMetadata, Dict.get?_set_ne _ _ (Ne.symm hmark), Dict.get?_set_ne _ _ (Ne.symm hcount)]

theorem isText_withEntries (h : TextFields m) : TextFields (withEntries m (nested m) entries) := by
  have hkeys : ∀ key ∈ textKeys, key ≠ "data_count" ∧ key ≠ "precipitation_data_normalized" := by decide
  constructor
  · intro key hkey v hv
    rw [(get?_withEntries entries _ (hkeys key hkey).1).1] at hv
    exact h.fields key hkey v hv
  · intro key hkey v hv
    rw [(get?_withEntries entries _ (hkeys key hkey).1).2 (hkeys key hkey).2] at hv
    exact h.metadata key hkey v hv

theorem foundType_withEntries (hfound : foundType py m = precipitationResponse)
    (hflag : Dict.get? (nested m) "precipitation_message" = some (.bool true)) :
    foundType py (withEntries m (nested m) entries) = precipitationResponse := by
  obtain ⟨hleft, hright⟩ := get?_withEntries entries "message_type" (by decide)
  have hsame : either (withEntries m (nested m) entries) "message_type" = either m "message_type" := by
    rw [either, hleft, hright (by decide), either]
  cases htype : either m "message_type" with
  | some v =>
    rw [htype] at hsame
    rw [foundType_of_either hsame, ← foundType_of_either htype, hfound]
  | none =>
    rw [htype] at hsame
    have hflag' : Dict.get? (nested (withEntries m (nested m) entries)) precipitation.flag =
        some (.bool true) :=
      ((get?_withEntries entries "precipitation_message" (by decide)).2
        (by decide)).trans hflag
    rw [foundType_of_none hsame, precipitation.holds_of_flag hflag']
    rfl

end Entries

theorem metadataDict_verified (py : Runtime) (m : Msg P) :
    (verified py m).metadataDict.isSome = m.metadataDict.isSome := by
  rw [verified]
  split_ifs
  · rw [restoreCommandType, Msg.metadataDict]
    cases hmetadata : m.metadataDict with
    | some metadata => rfl
    | none =>
      show (m.metadata.bind Value.dict?).isSome = _
      rw [Msg.metadataDict] at hmetadata
      rw [hmetadata]
  · rfl

theorem metadata_verified (h : m.metadata = some (.dict (nested m))) :
    (verified py m).metadata = some (.dict (nested (verified py m))) := by
  rw [verified]
  split_ifs
  · rw [nested_restoreCommandType, restoreCommandType, metadataDict_eq_some.mpr h]
    rfl
  · exact h

theorem get?_verified_commandType (h : verified py m ≠ m) :
    precipitation.holds py m = true ∧
      Dict.get? (verified py m).fields "command_type" = some (.str "precipitation_data") := by
  rw [verified] at h ⊢
  split_ifs at h ⊢ with hrestored
  · rw [Bool.and_eq_true, Bool.and_eq_true] at hrestored
    exact ⟨hrestored.1.2, Dict.get?_set_self ..⟩
  · exact absurd rfl h

theorem holds_verified (h : verified py m ≠ m) : precipitation.holds py (verified py m) = true := by
  obtain ⟨-, hcommand⟩ := get?_verified_commandType h
  have htells : tells py precipitation.word (some (.str "precipitation_data")) = true := by
    rw [tells, py.lower_eq_self (by decide) (by decide)]
    decide
  rw [Topic.holds, hcommand, htells]
  simp

theorem weather_verified (py : Runtime) (m : Msg P) : weather py (verified py m) = weather py m := by
  by_cases h : verified py m = m
  · rw [h]
  · rw [weather, holds_verified h, weather, (get?_verified_commandType h).1]
    rfl

theorem foundType_verified (py : Runtime) (m : Msg P) :
    foundType py (verified py m) = foundType py m := by
  by_cases h : verified py m = m
  · rw [h]
  · obtain ⟨hleft, hright⟩ := get?_verified py m "message_type" (by decide)
    have hsame : either (verified py m) "message_type" = either m "message_type" := by
      rw [either, hleft, hright, either]
    cases htype : either m "message_type" with
    | some v =>
      rw [htype] at hsame
      rw [foundType_of_either hsame, foundType_of_either htype]
    | none =>
      rw [htype] at hsame
      rw [foundType_of_none hsame, holds_verified h, foundType_of_none htype,
        (get?_verified_commandType h).1]
      rfl

theorem isText_verified (h : TextFields m) : TextFields (verified py m) := by
  by_cases hsame : verified py m = m
  · rw [hsame]
    exact h
  · have hrestored : verified py m = restoreCommandType m := by
      rw [verified] at hsame ⊢
      split_ifs at hsame ⊢
      · rfl
      · exact absurd rfl hsame
    rw [hrestored]
    constructor
    · intro key hkey v hv
      rw [restoreCommandType, Dict.get?_set] at hv
      split_ifs at hv
      · cases hv
        rfl
      · exact h.fields key hkey v hv
    · intro key hkey v hv
      rw [nested_restoreCommandType] at hv
      split_ifs at hv
      · rw [Dict.get?_set] at hv
        split_ifs at hv
        · cases hv
          rfl
        · exact h.metadata key hkey v hv
      · cases hv

/-! ### The addresses -/

theorem foundRt_congr {n : Msg P} (hweather : weather py n = weather py m)
    (h : ∀ key ∈ ["rt_address", "source_rt_address", "radar_type", "status_word"],
      Dict.get? (nested n) key = Dict.get? (nested m) key) : foundRt py n = foundRt py m := by
  rw [foundRt, foundRt, hweather, sourceAddress, sourceAddress, embeddedAddress, embeddedAddress,
    h "rt_address" (by decide), h "source_rt_address" (by decide), h "radar_type" (by decide),
    h "status_word" (by decide)]

theorem foundSub_congr {n : Msg P} (hweather : weather py n = weather py m)
    (hsome : n.metadataDict.isSome = m.metadataDict.isSome)
    (h : ∀ key ∈ ["sub_address", "subaddress"],
      Dict.get? (nested n) key = Dict.get? (nested m) key) : foundSub py n = foundSub py m := by
  rw [foundSub, foundSub, hweather, hsome, h "sub_address" (by decide), h "subaddress" (by decide)]

theorem rtAddressFromFrames_congr {d e : Message}
    (h : ∀ key ∈ ["frames", "status_word"], Dict.get? e key = Dict.get? d key) :
    rtAddressFromFrames py e = rtAddressFromFrames py d := by
  unfold rtAddressFromFrames
  rw [h "frames" (by decide), h "status_word" (by decide)]

theorem newRt_congr {n : Msg P} (hfound : foundRt py n = foundRt py m)
    (h : ∀ key ∈ ["rt_address", "frames", "status_word"],
      Dict.get? n.fields key = Dict.get? m.fields key) : newRt py n = newRt py m := by
  have hframes : rtAddressFromFrames py n.fields = rtAddressFromFrames py m.fields :=
    rtAddressFromFrames_congr fun key hkey => h key (List.mem_cons_of_mem _ hkey)
  rw [newRt, newRt, Dict.has, Dict.has, h "rt_address" (by decide), hframes, hfound]

theorem newSub_congr {n : Msg P} (hfound : foundSub py n = foundSub py m)
    (h : Dict.get? n.fields "sub_address" = Dict.get? m.fields "sub_address") :
    newSub py n = newSub py m := by
  rw [newSub, newSub, Dict.has, Dict.has, h, hfound]

theorem newRt_verified (py : Runtime) (m : Msg P) : newRt py (verified py m) = newRt py m := by
  refine newRt_congr (foundRt_congr (weather_verified py m) fun key hkey => ?_) fun key hkey => ?_
  · exact (get?_verified py m _ (by rintro rfl; exact absurd hkey (by decide))).2
  · exact (get?_verified py m _ (by rintro rfl; exact absurd hkey (by decide))).1

theorem newSub_verified (py : Runtime) (m : Msg P) : newSub py (verified py m) = newSub py m := by
  refine newSub_congr (foundSub_congr (weather_verified py m) (metadataDict_verified py m)
    fun key hkey => ?_) (get?_verified py m _ (by decide)).1
  exact (get?_verified py m _ (by rintro rfl; exact absurd hkey (by decide))).2

/-! ### What the second search finds -/

theorem Routed.holds {n : Msg P} (h : Routed m n) (topic : Topic)
    (hlist : topic.listKey ∉ ["rt_address", "sub_address"]) : topic.holds py n = topic.holds py m := by
  simp only [List.mem_cons, List.not_mem_nil, or_false, not_or] at hlist
  rw [Topic.holds, h.fields _ (by decide) (by decide), h.fields _ (by decide) (by decide), h.nested,
    h.fields _ hlist.1 hlist.2, Topic.inData, h.list?]
  rfl

theorem Routed.isModeChange_eq {n : Msg P} (h : Routed m n) : isModeChange n = isModeChange m := by
  rw [isModeChange, h.fields _ (by decide) (by decide), h.metadataDict, isModeChange]

theorem Routed.weather {n : Msg P} (h : Routed m n) : weather py n = Normalizer.weather py m := by
  rw [Normalizer.weather, h.holds precipitation (by decide), h.isModeChange_eq,
    h.holds vil (by decide), Normalizer.weather]

/-- No search finds anything after the first one. -/
theorem newRt_routed (py : Runtime) (m : Msg P) : newRt py (routed py m) = .none := by
  have hr := routed_routed py m
  by_cases hnew : newRt py m = .none
  · rw [← hnew]
    refine newRt_congr (foundRt_congr hr.weather fun key _ => by rw [hr.nested]) fun key hkey => ?_
    by_cases hkey' : key = "rt_address"
    · rw [hkey', get?_routed_rt, hnew, withAddress_none]
    · exact hr.fields key hkey' (by rintro rfl; exact absurd hkey (by decide))
  · refine newRt_eq_none (Dict.has_iff.mpr ⟨newRt py m, ?_⟩)
    rw [get?_routed_rt, withAddress, if_neg hnew, Dict.get?_set_self]

theorem newSub_routed (py : Runtime) (m : Msg P) : newSub py (routed py m) = .none := by
  have hr := routed_routed py m
  by_cases hnew : newSub py m = .none
  · rw [← hnew]
    refine newSub_congr (foundSub_congr hr.weather (by rw [hr.metadataDict]) fun key _ => by
      rw [hr.nested]) ?_
    rw [routed, hnew, withAddress_none, get?_withAddress_ne _ _ (by decide)]
  · refine newSub_eq_none (Dict.has_iff.mpr ⟨newSub py m, ?_⟩)
    rw [routed, withAddress, if_neg hnew, Dict.get?_set_self]

end Fmofp.Normalizer
