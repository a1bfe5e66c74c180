import Fmofp.Extractor.Universal

/-! What the processing of the critical fields writes, what it leaves as it is, and when it raises. -/

namespace Fmofp.Extractor

open Python

variable (py : Runtime)

theorem flag_of_get? {m : Message} {key : String} {v : Value} (h : Dict.get? m key = some v) :
    Message.flag m key = v.truthy := by
  rw [Message.flag, h, Option.map_some, Option.getD_some]

theorem flag_congr {m m' : Message} {key : String} (h : Dict.get? m' key = Dict.get? m key) :
    Message.flag m' key = Message.flag m key := by
  rw [Message.flag, h, Message.flag]

theorem getD_congr {m m' : Message} {key : String} (h : Dict.get? m' key = Dict.get? m key) (v : Value) :
    Dict.getD m' key v = Dict.getD m key v := by
  rw [Dict.getD, h, Dict.getD]

/-- The truth of a field is that of the value it reads. -/
theorem flag_eq_truthy (m : Message) (key : String) :
    Message.flag m key = (Dict.getD m key .none).truthy := by
  rw [Message.flag, Dict.getD]
  cases Dict.get? m key <;> rfl

/-! ### The command name -/

theorem standardName_of_not_truthy {v : Value} (h : v.truthy = false) : standardName py v = v := by
  rw [standardName, h]
  exact if_neg (by decide)

theorem get?_standardizeCommandName_ne (m : Message) {key : String} (h : key ≠ "command_name") :
    Dict.get? (standardizeCommandName py m) key = Dict.get? m key := by
  rw [standardizeCommandName]
  split_ifs
  · exact Dict.get?_set_ne _ _ (Ne.symm h)
  · rfl

theorem get?_standardizeCommandName (m : Message) :
    Dict.get? (standardizeCommandName py m) "command_name" =
      (Dict.get? m "command_name").map (standardName py) := by
  rw [standardizeCommandName]
  cases hname : Dict.get? m "command_name" with
  | none => rw [Message.flag, hname, if_neg (by decide), hname]; rfl
  | some v =>
    rw [flag_of_get? hname, Dict.getD_of_get? hname]
    split_ifs with hv
    · exact Dict.get?_set_self _ _ _
    · rw [hname, Option.map_some, standardName_of_not_truthy py (by simpa using hv)]

/-! ### Identifiers -/

theorem get?_fillFrom_ne (m : Message) {field key : String} (sources : List String) (h : key ≠ field) :
    Dict.get? (fillFrom field sources m) key = Dict.get? m key := by
  rw [fillFrom]
  split_ifs
  · rfl
  · split
    · exact Dict.get?_set_ne _ _ (Ne.symm h)
    · rfl

/-- A field that is set stays as it is. -/
theorem get?_fillFrom_of_truthy {m : Message} {key : String} {v : Value} (h : Dict.get? m key = some v)
    (hv : v.truthy = true) (field : String) (sources : List String) :
    Dict.get? (fillFrom field sources m) key = some v := by
  by_cases hkey : key = field
  · subst hkey
    rw [fillFrom, flag_of_get? h, if_pos hv, h]
  · rw [get?_fillFrom_ne m sources hkey, h]

theorem get?_ensureUuid_of_truthy {m : Message} {key : String} {v : Value} (h : Dict.get? m key = some v)
    (hv : v.truthy = true) (purpose : String) : Dict.get? (ensureUuid purpose m) key = some v := by
  unfold ensureUuid ensureRequestUuid ensureQueryUuid ensureStatusUuid ensureCommandUuid
  split_ifs <;> first | exact get?_fillFrom_of_truthy h hv _ _ | exact h

theorem get?_ensureUuid_ne (m : Message) {key : String} (h : key ∉ Adapter.uuidFields) (purpose : String) :
    Dict.get? (ensureUuid purpose m) key = Dict.get? m key := by
  have hne : ∀ field ∈ Adapter.uuidFields, key ≠ field := fun field hfield heq => h (heq ▸ hfield)
  unfold ensureUuid
  split_ifs
  · exact get?_fillFrom_ne m _ (hne _ (by decide))
  · exact get?_fillFrom_ne m _ (hne _ (by decide))
  · exact get?_fillFrom_ne m _ (hne _ (by decide))
  · exact get?_fillFrom_ne m _ (hne _ (by decide))
  · rfl

/-- The text of an identifier that is there. -/
def uuidText (v : Value) : Value := if v = .none then .none else .str (py.str v)

theorem get?_stringify (m : Message) (field key : String) :
    Dict.get? (Adapter.stringify py m field) key =
      if field = key then (Dict.get? m key).map (uuidText py) else Dict.get? m key := by
  rw [Adapter.stringify]
  cases hfield : Dict.get? m field with
  | none =>
    dsimp only
    split_ifs with hkey
    · rw [← hkey, hfield]; rfl
    · rfl
  | some v =>
    by_cases hv : v = .none
    · subst hv
      dsimp only
      split_ifs with hkey
      · rw [← hkey, hfield]; rfl
      · rfl
    · have hset : Dict.get? (Dict.set m field (.str (py.str v))) key =
          if field = key then (Dict.get? m key).map (uuidText py) else Dict.get? m key := by
        rw [Dict.get?_set]
        split_ifs with hkey
        · rw [← hkey, hfield, Option.map_some, uuidText, if_neg hv]
        · rfl
      cases v with
      | none => exact absurd rfl hv
      | _ => exact hset

theorem uuidText_uuidText (v : Value) : uuidText py (uuidText py v) = uuidText py v := by
  by_cases hv : v = .none
  · subst hv
    rfl
  · rw [uuidText.eq_def py v, if_neg hv, uuidText, if_neg (by simp)]
    rfl

/-- Each identifier becomes text, however often it is among the fields. -/
theorem get?_foldl_stringify (fields : List String) (m : Message) (key : String) :
    Dict.get? (fields.foldl (Adapter.stringify py) m) key =
      if key ∈ fields then (Dict.get? m key).map (uuidText py) else Dict.get? m key := by
  induction fields generalizing m with
  | nil => rw [if_neg (by simp)]; rfl
  | cons field fields ih =>
    rw [List.foldl_cons, ih, get?_stringify]
    by_cases hkey : field = key
    · subst hkey
      rw [if_pos rfl, if_pos List.mem_cons_self, Option.map_map]
      have hsame : uuidText py ∘ uuidText py = uuidText py := funext (uuidText_uuidText py)
      rw [hsame, ite_self]
    · rw [if_neg hkey]
      have hmem : key ∈ field :: fields ↔ key ∈ fields := by
        rw [List.mem_cons]
        exact or_iff_right fun heq => hkey heq.symm
      simp only [hmem]

theorem get?_fillUuids_ne (m : Message) {key : String} (h : key ∉ Adapter.uuidFields) (purpose : String) :
    Dict.get? (fillUuids py purpose m) key = Dict.get? m key := by
  have hmessage : key ≠ "message_uuid" := fun heq => h (heq ▸ by decide)
  rw [fillUuids, get?_foldl_stringify, if_neg h, get?_fillFrom_ne _ _ hmessage, get?_ensureUuid_ne m h]

/-- An identifier that is set becomes text. -/
theorem get?_fillUuids_of_truthy {m : Message} {key : String} {v : Value} (h : Dict.get? m key = some v)
    (hv : v.truthy = true) (hkey : key ∈ Adapter.uuidFields) (purpose : String) :
    Dict.get? (fillUuids py purpose m) key = some (.str (py.str v)) := by
  have hnone : v ≠ .none := by
    rintro rfl
    cases hv
  rw [fillUuids, get?_foldl_stringify, if_pos hkey,
    get?_fillFrom_of_truthy (get?_ensureUuid_of_truthy h hv purpose) hv, Option.map_some, uuidText, if_neg hnone]

/-! ### Types that are read as text -/

/-- The types of a message are text where `_determine_message_purpose` reads them: the command type only
if the message type speaks of no purpose. -/
def TypesReadable (messageType commandType : Value) : Prop :=
  (messageType.truthy = true → messageType.isText = true) ∧
    (commandType.truthy = true → commandType.isText = true ∨
      ∃ text, messageType = .str text ∧ text ≠ "" ∧ (purposeOf (py.lower text)).isSome = true)

theorem lower_of_isText {v : Value} (h : v.isText = true) : ∃ text, v = .str text ∧ lower py v = .ok (py.lower text) := by
  cases v with
  | str s => exact ⟨s, rfl, rfl⟩
  | _ => cases h

theorem lower_error {v : Value} (h : v.isText = false) : lower py v = .error .attributeError := by
  cases v with
  | str s => cases h
  | _ => rfl

theorem purposeOfField_ok_iff (m : Message) (field : String) :
    (∃ purpose, purposeOfField py m field = .ok purpose) ↔
      ((Dict.getD m field .none).truthy = true → (Dict.getD m field .none).isText = true) := by
  rw [purposeOfField, flag_eq_truthy]
  split_ifs with hset
  · cases htext : (Dict.getD m field .none).isText with
    | true =>
      obtain ⟨text, -, hlower⟩ := lower_of_isText py htext
      exact iff_of_true ⟨_, by rw [hlower]; rfl⟩ fun _ => rfl
    | false =>
      rw [lower_error py htext]
      refine iff_of_false ?_ fun h => ?_
      · rintro ⟨purpose, h⟩
        cases h
      · cases h hset
  · exact iff_of_true ⟨none, rfl⟩ fun h => absurd h hset

/-- The purpose is read off the command type if the message type speaks of none. -/
theorem determineMessagePurpose_ok_iff (m : Message) :
    (∃ purpose, determineMessagePurpose py m = .ok purpose) ↔
      TypesReadable py (Dict.getD m "message_type" .none) (Dict.getD m "command_type" .none) := by
  have hcommand : (∃ purpose, (do return (← purposeOfField py m "command_type").getD "request" :
        Except Exception String) = .ok purpose) ↔
      ((Dict.getD m "command_type" .none).truthy = true →
        (Dict.getD m "command_type" .none).isText = true) := by
    rw [← purposeOfField_ok_iff]
    cases purposeOfField py m "command_type" with
    | error e => exact iff_of_false (by rintro ⟨_, h⟩; cases h) (by rintro ⟨_, h⟩; cases h)
    | ok purpose => exact iff_of_true ⟨_, rfl⟩ ⟨_, rfl⟩
  cases hread : purposeOfField py m "message_type" with
  | error e =>
    have herror : ∀ purpose, determineMessagePurpose py m ≠ .ok purpose := by
      intro purpose h
      rw [determineMessagePurpose, hread] at h
      cases h
    refine iff_of_false (fun h => herror _ h.choose_spec) fun h => ?_
    obtain ⟨purpose, hok⟩ := (purposeOfField_ok_iff py m "message_type").mpr h.1
    rw [hread] at hok
    cases hok
  | ok found =>
    have htext := (purposeOfField_ok_iff py m "message_type").mp ⟨found, hread⟩
    rw [purposeOfField, flag_eq_truthy] at hread
    cases found with
    | some purpose =>
      have hok : determineMessagePurpose py m = .ok purpose := by
        rw [determineMessagePurpose, purposeOfField, flag_eq_truthy, hread]
        rfl
      refine iff_of_true ⟨purpose, hok⟩ ⟨htext, fun _ => .inr ?_⟩
      split_ifs at hread with hset
      · obtain ⟨text, hvalue, hlower⟩ := lower_of_isText py (htext hset)
        rw [hlower] at hread
        have hsome : purposeOf (py.lower text) = some purpose := Except.ok.inj hread
        refine ⟨text, hvalue, ?_, by rw [hsome]; rfl⟩
        rintro rfl
        rw [hvalue] at hset
        cases hset
      · cases hread
    | none =>
      have hlast : determineMessagePurpose py m =
          (do return (← purposeOfField py m "command_type").getD "request") := by
        rw [determineMessagePurpose, purposeOfField, flag_eq_truthy, hread]
        rfl
      rw [hlast, hcommand]
      refine ⟨fun h => ⟨htext, fun hset => .inl (h hset)⟩, fun h hset => (h.2 hset).resolve_right ?_⟩
      rintro ⟨text, hvalue, hne, hsome⟩
      have htruthy : (Dict.getD m "message_type" .none).truthy = true := by
        rw [hvalue, Value.truthy, decide_eq_true_eq]
        exact hne
      obtain ⟨text', hvalue', hlower⟩ := lower_of_isText py (htext htruthy)
      rw [hvalue] at hvalue'
      cases hvalue'
      rw [if_pos htruthy, hlower] at hread
      have hnone : purposeOf (py.lower text) = none := Except.ok.inj hread
      rw [hnone] at hsome
      cases hsome

/-! ### Types that are inferred -/

theorem inferredType_of_truthy {messageType : Value} (h : messageType.truthy = true) (commandName : Value) :
    inferredType messageType commandName = messageType := if_pos h

/-- A type that is text if it is set stays one. -/
theorem isText_inferredType {messageType : Value} (h : messageType.truthy = true → messageType.isText = true)
    (commandName : Value) (hset : (inferredType messageType commandName).truthy = true) :
    (inferredType messageType commandName).isText = true := by
  by_cases htype : messageType.truthy = true
  · rw [inferredType_of_truthy htype]
    exact h htype
  · unfold inferredType at hset ⊢
    rw [if_neg htype] at hset ⊢
    cases commandName with
    | str name =>
      dsimp only at hset ⊢
      by_cases hname : name ≠ ""
      · rw [if_pos hname] at hset ⊢
        cases hfound : typeOfName name with
        | none =>
          rw [hfound] at hset
          exact absurd hset htype
        | some text => rfl
      · rw [if_neg hname] at hset
        exact absurd hset htype
    | _ => exact absurd hset htype

/-- The command type for a message type that is text. -/
def commandTypeFor (commandType messageType : Value) : Value :=
  match messageType with
  | .str text =>
    if !commandType.truthy && decide (text ≠ "") then
      ((commandOfType (py.lower text)).map Value.str).getD commandType
    else commandType
  | _ => commandType

theorem inferredCommand_eq {commandType messageType : Value}
    (h : messageType.truthy = true → messageType.isText = true) :
    inferredCommand py commandType messageType = .ok (commandTypeFor py commandType messageType) := by
  unfold inferredCommand commandTypeFor
  cases messageType with
  | str text =>
    have htext : (Value.str text).truthy = decide (text ≠ "") := rfl
    rw [htext]
    dsimp only
    split_ifs <;> rfl
  | _ =>
    rw [if_neg]
    intro hset
    rw [Bool.and_eq_true] at hset
    cases h hset.2

/-! ### All of it -/

/-- The name, the message type and the command type that processing makes of what is found. -/
def foundName (m : Message) : Value := standardName py (Dict.getD m "command_name" .none)

def foundType (m : Message) : Value :=
  inferredType (Dict.getD m "message_type" .none) (foundName py m)

def foundCommand (m : Message) : Value :=
  commandTypeFor py (Dict.getD m "command_type" .none) (foundType py m)

/-- What the processing of the critical fields makes of a message that it gets through. -/
structure Processed (m r : Message) : Prop where
  name : Dict.get? r "command_name" = (Dict.get? m "command_name").map (standardName py)
  messageType : Dict.get? r "message_type" = some (foundType py m)
  commandType : Dict.get? r "command_type" = some (foundCommand py m)
  uuid : ∀ key ∈ Adapter.uuidFields, ∀ v, Dict.get? m key = some v → v.truthy = true →
    Dict.get? r key = some (.str (py.str v))
  others : ∀ key, key ∉ Adapter.uuidFields → key ≠ "command_name" → key ≠ "message_type" →
    key ≠ "command_type" → Dict.get? r key = Dict.get? m key

theorem getD_standardizeCommandName (m : Message) :
    Dict.getD (standardizeCommandName py m) "command_name" .none = foundName py m := by
  rw [foundName, Dict.getD, Dict.getD, get?_standardizeCommandName]
  cases Dict.get? m "command_name" <;> rfl

theorem processCriticalFields_ok {m : Message}
    (h : TypesReadable py (Dict.getD m "message_type" .none) (Dict.getD m "command_type" .none)) :
    ∃ r, processCriticalFields py m = .ok r ∧ Processed py m r := by
  have htype := getD_congr (get?_standardizeCommandName_ne py m
    (by decide : "message_type" ≠ "command_name")) .none
  have hcommand := getD_congr (get?_standardizeCommandName_ne py m
    (by decide : "command_type" ≠ "command_name")) .none
  obtain ⟨purpose, hpurpose⟩ := (determineMessagePurpose_ok_iff py (standardizeCommandName py m)).mpr
    (by rw [htype, hcommand]; exact h)
  have hfilled : ∀ key, key ∉ Adapter.uuidFields →
      Dict.get? (fillUuids py purpose (standardizeCommandName py m)) key =
        Dict.get? (standardizeCommandName py m) key := fun key hkey =>
    get?_fillUuids_ne py _ hkey purpose
  have hinferred : inferMessageType (fillUuids py purpose (standardizeCommandName py m)) =
      Dict.set (fillUuids py purpose (standardizeCommandName py m)) "message_type" (foundType py m) := by
    rw [inferMessageType, getD_congr (hfilled "message_type" (by decide)), htype,
      getD_congr (hfilled "command_name" (by decide)), getD_standardizeCommandName, foundType]
  have hok : processCriticalFields py m =
      .ok (Dict.set (Dict.set (fillUuids py purpose (standardizeCommandName py m)) "message_type"
        (foundType py m)) "command_type" (foundCommand py m)) := by
    have hcommandType : inferredCommand py (Dict.getD m "command_type" .none) (foundType py m) =
        .ok (foundCommand py m) := inferredCommand_eq py (isText_inferredType h.1 _)
    rw [processCriticalFields, processUuidFields, hpurpose]
    show inferCommandType py (inferMessageType _) = _
    rw [hinferred, inferCommandType, Dict.getD_set_self,
      Dict.getD_set_ne _ (by decide : "message_type" ≠ "command_type"),
      getD_congr (hfilled "command_type" (by decide)), hcommand, hcommandType]
    rfl
  refine ⟨_, hok, ⟨?_, ?_, Dict.get?_set_self _ _ _, fun key hkey v hv htruthy => ?_,
    fun key huuid hname hmessage hcommandType => ?_⟩⟩
  · rw [Dict.get?_set_ne _ _ (by decide), Dict.get?_set_ne _ _ (by decide), hfilled _ (by decide),
      get?_standardizeCommandName]
  · rw [Dict.get?_set_ne _ _ (by decide), Dict.get?_set_self]
  · have hne : ∀ field ∈ Adapter.uuidFields, field ≠ "command_type" ∧ field ≠ "message_type" ∧
        field ≠ "command_name" := by decide
    obtain ⟨hcommandType, hmessage, hname⟩ := hne key hkey
    rw [Dict.get?_set_ne _ _ (Ne.symm hcommandType), Dict.get?_set_ne _ _ (Ne.symm hmessage)]
    refine get?_fillUuids_of_truthy py ?_ htruthy hkey purpose
    rw [get?_standardizeCommandName_ne py m hname, hv]
  · rw [Dict.get?_set_ne _ _ (Ne.symm hcommandType), Dict.get?_set_ne _ _ (Ne.symm hmessage),
      hfilled key huuid, get?_standardizeCommandName_ne py m hname]

/-- Processing raises exactly where a type is not readable. -/
theorem processCriticalFields_ok_iff (m : Message) :
    (∃ r, processCriticalFields py m = .ok r) ↔
      TypesReadable py (Dict.getD m "message_type" .none) (Dict.getD m "command_type" .none) := by
  refine ⟨fun ⟨r, hr⟩ => ?_, fun h => ?_⟩
  · obtain ⟨filled, hfilled, -⟩ := bind_eq_ok hr
    rw [processUuidFields] at hfilled
    have htypes := determineMessagePurpose_ok_iff py (standardizeCommandName py m)
    rw [getD_congr (get?_standardizeCommandName_ne py m (by decide)),
      getD_congr (get?_standardizeCommandName_ne py m (by decide))] at htypes
    refine htypes.mp ?_
    cases hpurpose : determineMessagePurpose py (standardizeCommandName py m) with
    | error e =>
      rw [hpurpose] at hfilled
      cases hfilled
    | ok purpose => exact ⟨purpose, rfl⟩
  · obtain ⟨r, hr, -⟩ := processCriticalFields_ok py h
    exact ⟨r, hr⟩

end Fmofp.Extractor
