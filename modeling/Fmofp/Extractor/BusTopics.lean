import Fmofp.Extractor.BusController
import Fmofp.Extractor.Critical

/-! The special cases of the bus controller's extractor, stage by stage: what a message says of itself, what
each stage makes of that, and when a stage raises. -/

namespace Fmofp.Extractor

open Python

/-- A computation does not raise. -/
def Succeeds {α : Type} (x : Except Exception α) : Prop := ∃ a, x = .ok a

theorem succeeds_bind {α β : Type} {x : Except Exception α} {f : α → Except Exception β} :
    Succeeds (x >>= f) ↔ ∃ a, x = .ok a ∧ Succeeds (f a) := by
  cases x with
  | error e => exact iff_of_false (by rintro ⟨_, h⟩; cases h) (by rintro ⟨_, h, _⟩; cases h)
  | ok a => exact ⟨fun h => ⟨a, rfl, h⟩, fun ⟨_, h, hf⟩ => by cases h; exact hf⟩

/-- Everything but a number can be searched for a word. -/
theorem holds_succeeds {v : Value} (h : v ≠ .none) (word : String) :
    Succeeds (v.holds word) ↔ v.number? = none := by
  cases v with
  | none => exact absurd rfl h
  | bool b => exact iff_of_false (by rintro ⟨_, h⟩; cases h) (by intro h; cases h)
  | int n => exact iff_of_false (by rintro ⟨_, h⟩; cases h) (by intro h; cases h)
  | float q => exact iff_of_false (by rintro ⟨_, h⟩; cases h) (by intro h; cases h)
  | _ => exact iff_of_true ⟨_, rfl⟩ rfl

theorem ne_none_of_truthy {v : Value} (h : v.truthy = true) : v ≠ .none := by
  rintro rfl
  cases h

/-! ### What a message says of itself -/

/-- The types, the name, the addresses and the radar that a message gives. -/
structure Identity where
  type : Value
  command : Value
  name : Value
  rt : Value
  sub : Value
  radar : Value

/-- A message gives an identity, and its metadata are a dictionary. -/
structure Shows (r : Message) (s : Identity) : Prop where
  type : Dict.get? r "message_type" = some s.type
  command : Dict.get? r "command_type" = some s.command
  name : Dict.get? r "command_name" = some s.name
  rt : Dict.getD r "rt_address" .none = s.rt
  sub : Dict.getD r "sub_address" .none = s.sub
  radar : Dict.getD r "radar_type" .none = s.radar
  metadata : ∃ metadata, Dict.get? r "metadata" = some (.dict metadata)

/-- The fields that an identity is read from. -/
def shownFields : List String :=
  ["message_type", "command_type", "command_name", "rt_address", "sub_address", "radar_type", "metadata"]

namespace Shows

variable {r : Message} {s : Identity} (h : Shows r s)
include h

/-- A message that reads the same in the fields of an identity gives the same one. -/
theorem congr {r' : Message} (hsame : ∀ key ∈ shownFields, Dict.get? r' key = Dict.get? r key) :
    Shows r' s where
  type := (hsame _ (by decide)).trans h.type
  command := (hsame _ (by decide)).trans h.command
  name := (hsame _ (by decide)).trans h.name
  rt := (getD_congr (hsame _ (by decide)) _).trans h.rt
  sub := (getD_congr (hsame _ (by decide)) _).trans h.sub
  radar := (getD_congr (hsame _ (by decide)) _).trans h.radar
  metadata := by
    rw [hsame _ (by decide)]
    exact h.metadata

theorem setOther {key : String} (hkey : key ∉ shownFields) (v : Value) : Shows (Dict.set r key v) s :=
  h.congr fun _ hj => Dict.get?_set_ne _ _ fun heq => hkey (heq ▸ hj)

theorem setType (v : Value) : Shows (Dict.set r "message_type" v) { s with type := v } where
  type := Dict.get?_set_self _ _ _
  command := (Dict.get?_set_ne _ _ (by decide)).trans h.command
  name := (Dict.get?_set_ne _ _ (by decide)).trans h.name
  rt := (Dict.getD_set_ne _ (by decide) _ _).trans h.rt
  sub := (Dict.getD_set_ne _ (by decide) _ _).trans h.sub
  radar := (Dict.getD_set_ne _ (by decide) _ _).trans h.radar
  metadata := by
    rw [Dict.get?_set_ne _ _ (by decide)]
    exact h.metadata

theorem setCommand (v : Value) : Shows (Dict.set r "command_type" v) { s with command := v } where
  type := (Dict.get?_set_ne _ _ (by decide)).trans h.type
  command := Dict.get?_set_self _ _ _
  name := (Dict.get?_set_ne _ _ (by decide)).trans h.name
  rt := (Dict.getD_set_ne _ (by decide) _ _).trans h.rt
  sub := (Dict.getD_set_ne _ (by decide) _ _).trans h.sub
  radar := (Dict.getD_set_ne _ (by decide) _ _).trans h.radar
  metadata := by
    rw [Dict.get?_set_ne _ _ (by decide)]
    exact h.metadata

theorem setName (v : Value) : Shows (Dict.set r "command_name" v) { s with name := v } where
  type := (Dict.get?_set_ne _ _ (by decide)).trans h.type
  command := (Dict.get?_set_ne _ _ (by decide)).trans h.command
  name := Dict.get?_set_self _ _ _
  rt := (Dict.getD_set_ne _ (by decide) _ _).trans h.rt
  sub := (Dict.getD_set_ne _ (by decide) _ _).trans h.sub
  radar := (Dict.getD_set_ne _ (by decide) _ _).trans h.radar
  metadata := by
    rw [Dict.get?_set_ne _ _ (by decide)]
    exact h.metadata

theorem setRadar (v : Value) : Shows (Dict.set r "radar_type" v) { s with radar := v } where
  type := (Dict.get?_set_ne _ _ (by decide)).trans h.type
  command := (Dict.get?_set_ne _ _ (by decide)).trans h.command
  name := (Dict.get?_set_ne _ _ (by decide)).trans h.name
  rt := (Dict.getD_set_ne _ (by decide) _ _).trans h.rt
  sub := (Dict.getD_set_ne _ (by decide) _ _).trans h.sub
  radar := Dict.getD_set_self _ _ _ _
  metadata := by
    rw [Dict.get?_set_ne _ _ (by decide)]
    exact h.metadata

/-- A note in the metadata leaves the identity as it is. -/
theorem note (notes : Value → Message) : ∃ r', noteInMetadata notes r = .ok r' ∧ Shows r' s := by
  obtain ⟨metadata, hmetadata⟩ := h.metadata
  rw [noteInMetadata, hmetadata]
  dsimp only
  rw [h.name]
  have hother : ∀ v key, key ≠ "metadata" →
      Dict.get? (Dict.set r "metadata" v) key = Dict.get? r key := fun v key hkey =>
    Dict.get?_set_ne _ _ (Ne.symm hkey)
  refine ⟨_, rfl, ⟨?_, ?_, ?_, ?_, ?_, ?_, ⟨_, Dict.get?_set_self _ _ _⟩⟩⟩
  · rw [hother _ _ (by decide), h.type]
  · rw [hother _ _ (by decide), h.command]
  · rw [hother _ _ (by decide), h.name]
  · rw [getD_congr (hother _ _ (by decide)), h.rt]
  · rw [getD_congr (hother _ _ (by decide)), h.sub]
  · rw [getD_congr (hother _ _ (by decide)), h.radar]

theorem flagName : Message.flag r "command_name" = s.name.truthy := flag_of_get? h.name

theorem flagType : Message.flag r "message_type" = s.type.truthy := flag_of_get? h.type

/-- The radar of the addresses is read off the identity. -/
theorem radarOfAddresses_eq : radarOfAddresses r =
    if s.rt.equal (.int 9) && s.sub.truthy then radarOfSubaddress s.sub else .ok none := by
  rw [radarOfAddresses, flag_eq_truthy, h.rt, h.sub]

end Shows

/-! ### Words in the types and the name -/

variable (py : Runtime)

/-- A word in one of the types. -/
def Identity.speaksOf (typeWord commandWord : String) (s : Identity) : Bool :=
  contains (py.lower (py.str s.type)) typeWord || contains (py.lower (py.str s.command)) commandWord

/-- The message type speaks of a completion. -/
def Identity.completes (s : Identity) : Bool :=
  contains (py.lower (py.str s.type)) "completion" || contains (py.lower (py.str s.type)) "complete"

/-- A name that is set can be searched for words. -/
def Identity.NameReadable (s : Identity) : Prop := s.name.truthy = true → s.name.number? = none

/-- A type that is set is text, and so is a name that is set, unless the type speaks of no completion. -/
structure Identity.Sound (s : Identity) : Prop where
  type : s.type.truthy = true → s.type.isText = true
  name : s.name.truthy = true → s.name.isText = true ∨ s.completes py = false

/-- The radar that a mode change is for, where no name says it: text, or else read off a subaddress that
can be a key. -/
structure Identity.RadarReadable (s : Identity) : Prop where
  text : s.radar.truthy = true → s.radar.isText = true
  address : s.radar.truthy = false → s.rt.equal (.int 9) = true → s.sub.truthy = true →
    s.sub.key?.isSome = true

variable {py} {r : Message} {s : Identity}

theorem mentions_eq (h : Shows r s) (typeWord commandWord nameWord : String) :
    mentions py typeWord commandWord nameWord r = if s.speaksOf py typeWord commandWord then .ok true
      else if s.name.truthy then s.name.holds nameWord else .ok false := by
  rw [mentions, Dict.getD_of_get? h.type, Dict.getD_of_get? h.command, Dict.getD_of_get? h.name, h.flagName,
    Identity.speaksOf]

theorem mentions_succeeds (h : Shows r s) (hname : s.NameReadable) (typeWord commandWord nameWord : String) :
    Succeeds (mentions py typeWord commandWord nameWord r) := by
  rw [mentions_eq h]
  split_ifs with hword hset
  · exact ⟨_, rfl⟩
  · exact (holds_succeeds (ne_none_of_truthy hset) nameWord).mpr (hname hset)
  · exact ⟨_, rfl⟩

/-- Without a name, only the types can speak of something. -/
theorem mentions_of_nameless (h : Shows r s) (hname : s.name.truthy = false)
    (typeWord commandWord nameWord : String) :
    mentions py typeWord commandWord nameWord r = .ok (s.speaksOf py typeWord commandWord) := by
  rw [mentions_eq h, hname]
  cases s.speaksOf py typeWord commandWord <;> rfl

/-! ### Topics -/

/-- What a topic makes of an identity. -/
def Topic.standardized (topic : Topic) (s : Identity) : Identity :=
  { s with
    type := .str topic.messageType
    command := .str topic.messageType
    name := if s.name.truthy then s.name else .str topic.commandName }

theorem Topic.process_skipped {topic : Topic}
    (h : mentions py topic.typeWord topic.commandWord topic.nameWord r = .ok false) :
    topic.process py r = .ok r := by
  rw [Topic.process, h]
  rfl

theorem Topic.process_taken {topic : Topic} (hflag : topic.flagField ∉ shownFields) (hshows : Shows r s)
    (h : mentions py topic.typeWord topic.commandWord topic.nameWord r = .ok true) :
    ∃ r', topic.process py r = .ok r' ∧ Shows r' (topic.standardized s) := by
  have htypes := (hshows.setType (.str topic.messageType)).setCommand (.str topic.messageType)
  have hnamed : Shows (topic.standardize r) (topic.standardized s) := by
    refine Shows.setOther ?_ hflag _
    rw [htypes.flagName, Topic.standardized]
    dsimp only
    split_ifs
    · exact htypes
    · exact htypes.setName _
  rw [Topic.process, h]
  exact hnamed.note _

/-- A topic whose own types are in lower case and speak neither of a completion nor of VIL if it is not. -/
structure Topic.Plain (topic : Topic) : Prop where
  flagField : topic.flagField ∉ shownFields
  lower : ∀ py : Runtime, py.lower topic.messageType = topic.messageType
  completion : contains topic.messageType "completion" = false
  complete : contains topic.messageType "complete" = false
  commandName : topic.commandName ≠ ""

theorem precipitation_plain : precipitation.Plain where
  flagField := by decide
  lower py := py.lower_eq_self (by decide) (by decide)
  completion := by decide
  complete := by decide
  commandName := by decide

theorem vil_plain : vil.Plain where
  flagField := by decide
  lower py := py.lower_eq_self (by decide) (by decide)
  completion := by decide
  complete := by decide
  commandName := by decide

theorem Topic.Plain.sound {topic : Topic} (h : topic.Plain) (s : Identity) :
    (topic.standardized s).Sound py where
  type _ := rfl
  name _ := by
    right
    show (contains (py.lower topic.messageType) _ || contains (py.lower topic.messageType) _) = false
    rw [h.lower, h.completion, h.complete]
    rfl

theorem Topic.Plain.truthy {topic : Topic} (h : topic.Plain) (s : Identity) :
    (topic.standardized s).name.truthy = true := by
  rw [Topic.standardized]
  dsimp only
  split_ifs with hset
  · exact hset
  · exact decide_eq_true h.commandName

theorem Topic.nameReadable {s : Identity} (topic : Topic) (h : s.NameReadable) :
    (topic.standardized s).NameReadable := by
  rw [Topic.standardized, Identity.NameReadable]
  dsimp only
  split_ifs with hset
  · exact h
  · exact fun _ => rfl

/-- A name that is set and that can be searched is still there after a topic. -/
structure Identity.Named (py : Runtime) (s : Identity) : Prop where
  truthy : s.name.truthy = true
  readable : s.NameReadable
  sound : s.Sound py

theorem Topic.Plain.named {topic : Topic} (h : topic.Plain) (hname : s.NameReadable) :
    (topic.standardized s).Named py :=
  ⟨h.truthy s, topic.nameReadable hname, h.sound s⟩

theorem Topic.Plain.process_named {topic : Topic} (h : topic.Plain) (hshows : Shows r s)
    (hnamed : s.Named py) : ∃ r' s', topic.process py r = .ok r' ∧ Shows r' s' ∧ s'.Named py := by
  obtain ⟨found, hfound⟩ := mentions_succeeds hshows hnamed.readable topic.typeWord topic.commandWord
    topic.nameWord
  cases found with
  | false => exact ⟨r, s, topic.process_skipped hfound, hshows, hnamed⟩
  | true =>
    obtain ⟨r', hr', hshows'⟩ := topic.process_taken h.flagField hshows hfound
    exact ⟨r', _, hr', hshows', h.named hnamed.readable⟩

end Fmofp.Extractor

/-! When the special cases of the bus controller's extractor raise: on a command name that is a number, and
on a radar that is not text or a subaddress that cannot be a key where a mode change without a name is
asked for. -/

namespace Fmofp.Extractor

open Python

variable {py : Runtime} {r : Message} {s : Identity}

/-! ### Mode changes -/

theorem appendText_succeeds {v : Value} (h : v.isText = true) (suffix : String) :
    Succeeds (appendText v suffix) := by
  cases v with
  | str text => exact ⟨_, rfl⟩
  | _ => cases h

theorem completionType_succeeds (h : Shows r s) (hsound : s.Sound py) (originalMessageType : String) :
    Succeeds (completionType py originalMessageType r) := by
  rw [completionType, h.flagType, Dict.getD_of_get? h.type]
  dsimp only
  split_ifs with hwords hset
  · obtain ⟨text, -, hlower⟩ := lower_of_isText py (hsound.type hset)
    rw [hlower]
    show Succeeds (if contains (py.lower text) "completion" then Except.ok s.type else appendText s.type "Completion")
    split_ifs
    · exact ⟨_, rfl⟩
    · exact appendText_succeeds (hsound.type hset) _
  · exact ⟨_, rfl⟩
  · exact ⟨_, rfl⟩

/-- The name of a completion can be made unless there is a name that is neither text nor speaks of one. -/
theorem completionName_succeeds (h : Shows r s) (hname : s.NameReadable)
    (hcompletion : s.name.truthy = true → s.name.isText = true ∨ s.name.holds "COMPLETION" = .ok true) :
    Succeeds (completionName r) := by
  rw [completionName, h.flagName, Dict.getD_of_get? h.name]
  split_ifs with hset
  · obtain ⟨found, hfound⟩ := (holds_succeeds (ne_none_of_truthy hset) "COMPLETION").mpr (hname hset)
    rw [hfound]
    show Succeeds (if found then Except.ok s.name else appendText s.name "_COMPLETION")
    cases found with
    | true => exact ⟨_, rfl⟩
    | false =>
      rcases hcompletion hset with htext | hholds
      · exact appendText_succeeds htext _
      · rw [hfound] at hholds
        cases hholds
  · exact ⟨_, rfl⟩

theorem completeModeChange_shows (h : Shows r s) (hname : s.NameReadable) (hsound : s.Sound py)
    (hcompletion : s.name.truthy = true → s.name.isText = true ∨ s.name.holds "COMPLETION" = .ok true)
    (originalMessageType : String) :
    ∃ r' s', completeModeChange py originalMessageType r = .ok r' ∧ Shows r' s' := by
  obtain ⟨messageType, htype⟩ := completionType_succeeds h hsound originalMessageType
  have hshows := (h.setType messageType).setCommand (.str "mode_change_completion")
  obtain ⟨name, hfound⟩ := completionName_succeeds hshows hname hcompletion
  refine ⟨_, _, ?_, hshows.setName name⟩
  rw [completeModeChange, htype]
  show (do let name ← completionName _; _) = _
  rw [hfound]
  rfl

theorem radarOfSubaddress_succeeds (v : Value) : Succeeds (radarOfSubaddress v) ↔ v.key?.isSome = true := by
  rw [radarOfSubaddress]
  cases v.key? with
  | none => exact iff_of_false (by rintro ⟨_, h⟩; cases h) (by decide)
  | some key => exact iff_of_true ⟨_, rfl⟩ rfl

theorem getRadarCommandName_succeeds {v : Value} (h : v ≠ .none) :
    Succeeds (getRadarCommandName py v "mode_change" false) ↔ v.isText = true := by
  rw [getRadarCommandName, if_neg h]
  cases htext : v.isText with
  | true =>
    obtain ⟨text, -, hlower⟩ := lower_of_isText py htext
    rw [hlower]
    exact iff_of_true ⟨_, rfl⟩ rfl
  | false =>
    rw [lower_error py htext]
    exact iff_of_false (by rintro ⟨_, h⟩; cases h) (by decide)

/-- The radar that a mode change without a name is for. -/
theorem radarOfModeChange_eq (h : Shows r s) : radarOfModeChange r =
    if s.radar.truthy then .ok s.radar
    else (if s.rt.equal (.int 9) && s.sub.truthy then radarOfSubaddress s.sub else .ok none).map fun found =>
      (found.map Value.str).getD s.radar := by
  rw [radarOfModeChange, flag_eq_truthy, h.radar, h.radarOfAddresses_eq]

/-- The name that a mode change without one is given, if there is a radar for it. -/
def nameForRadar (py : Runtime) (r : Message) (radarType : Value) : Except Exception Message :=
  if radarType.truthy then do
    let name ← getRadarCommandName py radarType "mode_change" false
    .ok (Dict.set r "command_name" name)
  else .ok r

theorem nameForRadar_succeeds (r : Message) (v : Value) :
    Succeeds (nameForRadar py r v) ↔ (v.truthy = true → v.isText = true) := by
  rw [nameForRadar]
  split_ifs with hset
  · rw [succeeds_bind]
    have hsucceeds := @getRadarCommandName_succeeds py _ (ne_none_of_truthy hset)
    refine ⟨fun ⟨name, hname, _⟩ _ => hsucceeds.mp ⟨name, hname⟩, fun htext => ?_⟩
    obtain ⟨name, hname⟩ := hsucceeds.mpr (htext hset)
    exact ⟨name, hname, _, rfl⟩
  · exact iff_of_true ⟨_, rfl⟩ fun htruthy => absurd htruthy hset

theorem nameForRadar_shows (h : Shows r s) {v : Value} {r' : Message} (hr' : nameForRadar py r v = .ok r') :
    ∃ s', Shows r' s' := by
  rw [nameForRadar] at hr'
  split_ifs at hr' with hset
  · obtain ⟨name, -, hset⟩ := bind_eq_ok hr'
    cases hset
    exact ⟨_, h.setName name⟩
  · cases hr'
    exact ⟨s, h⟩

/-- The types of a mode change that is no completion. -/
def modeChangeTypes (originalMessageType : String) (r : Message) : Message :=
  Dict.set (Dict.set r "message_type" (.str
    (if contains originalMessageType "weather_radar" then "weather_radarModeChange" else "mode_change")))
    "command_type" (.str "mode_change")

theorem modeChangeTypes_shows (h : Shows r s) (originalMessageType : String) :
    ∃ s', Shows (modeChangeTypes originalMessageType r) s' ∧ s'.name = s.name ∧ s'.rt = s.rt ∧
      s'.sub = s.sub ∧ s'.radar = s.radar :=
  ⟨_, (h.setType _).setCommand _, rfl, rfl, rfl, rfl⟩

theorem requestModeChange_eq (h : Shows r s) (originalMessageType : String) :
    requestModeChange py originalMessageType r =
      if s.name.truthy then .ok (modeChangeTypes originalMessageType r)
      else radarOfModeChange (modeChangeTypes originalMessageType r) >>=
        nameForRadar py (modeChangeTypes originalMessageType r) := by
  obtain ⟨s', hshows, hname, -⟩ := modeChangeTypes_shows h originalMessageType
  have hflag : Message.flag (modeChangeTypes originalMessageType r) "command_name" = s.name.truthy := by
    rw [hshows.flagName, hname]
  rw [← hflag]
  rfl

/-- A mode change with a name is requested whatever the radar. -/
theorem requestModeChange_named (h : Shows r s) (hname : s.name.truthy = true) (originalMessageType : String) :
    ∃ r' s', requestModeChange py originalMessageType r = .ok r' ∧ Shows r' s' := by
  obtain ⟨s', hshows, -⟩ := modeChangeTypes_shows h originalMessageType
  exact ⟨_, s', by rw [requestModeChange_eq h, if_pos hname], hshows⟩

/-- A mode change without a name is requested exactly if the radar can be read. -/
theorem requestModeChange_nameless (h : Shows r s) (hname : s.name.truthy = false)
    (originalMessageType : String) :
    Succeeds (requestModeChange py originalMessageType r) ↔ s.RadarReadable := by
  obtain ⟨s', hshows, -, hrt, hsub, hradar⟩ := modeChangeTypes_shows h originalMessageType
  rw [requestModeChange_eq h, hname, if_neg (by decide), radarOfModeChange_eq hshows, hrt, hsub, hradar,
    succeeds_bind]
  simp only [nameForRadar_succeeds]
  cases hset : s.radar.truthy with
  | true =>
    refine ⟨fun ⟨v, hv, htext⟩ => ?_, fun hread => ⟨s.radar, rfl, hread.text⟩⟩
    cases hv
    exact ⟨htext, fun hfalse => absurd hset (by rw [hfalse]; decide)⟩
  | false =>
    rw [if_neg (by decide)]
    cases haddresses : (s.rt.equal (.int 9) && s.sub.truthy) with
    | true =>
      rw [Bool.and_eq_true] at haddresses
      rw [if_pos rfl]
      have hsucceeds := radarOfSubaddress_succeeds s.sub
      constructor
      · rintro ⟨v, hv, -⟩
        refine ⟨fun htrue => absurd htrue (by rw [hset]; decide), fun _ _ _ => hsucceeds.mp ?_⟩
        cases hfound : radarOfSubaddress s.sub with
        | error e =>
          rw [hfound] at hv
          cases hv
        | ok found => exact ⟨found, rfl⟩
      · intro hread
        obtain ⟨found, hfound⟩ := hsucceeds.mpr (hread.address hset haddresses.1 haddresses.2)
        rw [hfound]
        refine ⟨_, rfl, fun htruthy => ?_⟩
        cases found with
        | some radar => rfl
        | none =>
          have hradar : s.radar.truthy = true := htruthy
          rw [hset] at hradar
          cases hradar
    | false =>
      rw [if_neg (by decide)]
      have htext : s.radar.truthy = true → s.radar.isText = true := fun htrue => absurd htrue (by rw [hset]; decide)
      refine iff_of_true ⟨s.radar, rfl, htext⟩ ⟨htext, fun _ hrt hsub => ?_⟩
      rw [hrt, hsub] at haddresses
      cases haddresses

theorem requestModeChange_shows (h : Shows r s) {originalMessageType : String} {r' : Message}
    (hr' : requestModeChange py originalMessageType r = .ok r') : ∃ s', Shows r' s' := by
  obtain ⟨s', hshows, -⟩ := modeChangeTypes_shows h originalMessageType
  rw [requestModeChange_eq h] at hr'
  split_ifs at hr' with hname
  · cases hr'
    exact ⟨s', hshows⟩
  · obtain ⟨radarType, -, hnamed⟩ := bind_eq_ok hr'
    exact nameForRadar_shows hshows hnamed

/-- A computation comes to a message that gives an identity. -/
def Yields (x : Except Exception Message) : Prop := ∃ r s, x = .ok r ∧ Shows r s

theorem markModeChange_yields (h : Shows r s) (completion : Value) : Yields (markModeChange completion r) := by
  have hmarked := h.setOther (by decide : "is_mode_change" ∉ shownFields) (.bool true)
  have hflagged : Shows (if completion.truthy then
      Dict.set (Dict.set r "is_mode_change" (.bool true)) "is_completion" (.bool true)
      else Dict.set r "is_mode_change" (.bool true)) s := by
    split_ifs
    · exact hmarked.setOther (by decide) _
    · exact hmarked
  obtain ⟨r', hr', hshows⟩ := hflagged.note (fun name => [("mode_change", .bool true),
    ("data_type", .str "mode"), ("command_name", name), ("is_completion", completion)])
  exact ⟨r', s, hr', hshows⟩

/-- The name decides whether a mode change is a completion where the message type does not. -/
theorem isCompletion_eq (h : Shows r s) :
    isCompletion (py.lower (py.str s.type)) r = if s.completes py then .ok (.bool true)
      else if s.name.truthy then (s.name.holds "COMPLETION").map .bool else .ok s.name := by
  rw [isCompletion, h.flagName, Dict.getD_of_get? h.name, Identity.completes]

theorem processModeChange_skipped (h : mentions py "mode" "mode" "MODE" r = .ok false) :
    processModeChange py r = .ok r := by
  rw [processModeChange, h]
  rfl

theorem processModeChange_taken (h : Shows r s) (hmode : mentions py "mode" "mode" "MODE" r = .ok true)
    {completion : Value} (hcompletion : isCompletion (py.lower (py.str s.type)) r = .ok completion) :
    processModeChange py r =
      changeMode py (py.lower (py.str s.type)) completion r >>= markModeChange completion := by
  rw [processModeChange, hmode]
  show (do let completion ← isCompletion _ r; _) = _
  rw [Dict.getD_of_get? h.type, hcompletion]
  rfl

/-- With a name that can be searched, a mode change never raises. -/
theorem processModeChange_named (h : Shows r s) (hnamed : s.Named py) : Yields (processModeChange py r) := by
  obtain ⟨found, hfound⟩ := mentions_succeeds h hnamed.readable "mode" "mode" "MODE"
  cases found with
  | false => exact ⟨r, s, processModeChange_skipped hfound, h⟩
  | true =>
    have hne := ne_none_of_truthy hnamed.truthy
    obtain ⟨spoken, hspoken⟩ := (holds_succeeds hne "COMPLETION").mpr (hnamed.readable hnamed.truthy)
    have hcompletion : isCompletion (py.lower (py.str s.type)) r =
        .ok (.bool (s.completes py || spoken)) := by
      rw [isCompletion_eq h, hnamed.truthy, hspoken]
      cases s.completes py <;> rfl
    rw [processModeChange_taken h hfound hcompletion]
    have hchanged : ∃ r' s', changeMode py (py.lower (py.str s.type)) (.bool (s.completes py || spoken)) r =
        .ok r' ∧ Shows r' s' := by
      rw [changeMode, Value.truthy]
      split_ifs with hcomplete
      · refine completeModeChange_shows h hnamed.readable hnamed.sound (fun htruthy => ?_) _
        rcases hnamed.sound.name htruthy with htext | hsilent
        · exact .inl htext
        · rw [hsilent, Bool.false_or] at hcomplete
          exact .inr (by rw [hspoken, hcomplete])
      · exact requestModeChange_named h hnamed.truthy _
    obtain ⟨r', s', hr', hshows⟩ := hchanged
    rw [hr']
    exact markModeChange_yields hshows _

/-- A mode change without a name, of which the message type does not say that it is complete, needs a
radar. -/
def Identity.ModeReadable (py : Runtime) (s : Identity) : Prop :=
  s.speaksOf py "mode" "mode" = true → s.completes py = false → s.RadarReadable

theorem processModeChange_nameless (h : Shows r s) (hname : s.name.truthy = false) (hsound : s.Sound py) :
    (s.ModeReadable py → Yields (processModeChange py r)) ∧
      (Succeeds (processModeChange py r) → s.ModeReadable py) := by
  have hreadable : s.NameReadable := fun htrue => absurd htrue (by rw [hname]; decide)
  have hmentions := @mentions_of_nameless py _ _ h hname "mode" "mode" "MODE"
  cases hmode : s.speaksOf py "mode" "mode" with
  | false =>
    rw [hmode] at hmentions
    refine ⟨fun _ => ⟨r, s, processModeChange_skipped hmentions, h⟩, fun _ htrue => ?_⟩
    rw [hmode] at htrue
    cases htrue
  | true =>
    rw [hmode] at hmentions
    have hcompletion := @isCompletion_eq py _ _ h
    cases hcomplete : s.completes py with
    | true =>
      rw [hcomplete, if_pos rfl] at hcompletion
      refine ⟨fun _ => ?_, fun _ _ hfalse => ?_⟩
      · rw [processModeChange_taken h hmentions hcompletion, changeMode, Value.truthy, if_pos rfl]
        obtain ⟨r', s', hr', hshows⟩ := completeModeChange_shows h hreadable hsound
          (fun htrue => absurd htrue (by rw [hname]; decide)) (py.lower (py.str s.type))
        rw [hr']
        exact markModeChange_yields hshows _
      · rw [hcomplete] at hfalse
        cases hfalse
    | false =>
      rw [hcomplete, hname, if_neg (by decide), if_neg (by decide)] at hcompletion
      rw [processModeChange_taken h hmentions hcompletion, changeMode, hname, if_neg (by decide)]
      have hnameless := @requestModeChange_nameless py _ _ h hname (py.lower (py.str s.type))
      refine ⟨fun hread => ?_, fun hsucceeds _ _ => ?_⟩
      · obtain ⟨r', hr'⟩ := hnameless.mpr (hread hmode hcomplete)
        obtain ⟨s', hshows⟩ := requestModeChange_shows h hr'
        rw [hr']
        exact markModeChange_yields hshows _
      · obtain ⟨r', hr', -⟩ := succeeds_bind.mp hsucceeds
        exact hnameless.mp ⟨r', hr'⟩

end Fmofp.Extractor
