import Fmofp.Normalizer.Phases

/-! The tests of a message whose type, command and name are text.  They raise nothing, and the phase of
the addresses is a function of what they say. -/

namespace Fmofp.Normalizer

open Python Metadata

variable {P : Type} (py : Runtime) (m : Msg P)

/-- The fields that have to be text. -/
def textKeys : List String := ["message_type", "command_type", "command_name"]

def IsText (d : Message) : Prop := ∀ key ∈ textKeys, ∀ v, Dict.get? d key = some v → v.isText = true

/-- The type, the command and the name are text, in the message and in its metadata. -/
structure TextFields : Prop where
  fields : IsText m.fields
  metadata : IsText (nested m)

def tells (word : String) : Option Value → Bool
  | some (.str s) => contains (py.lower s) word
  | _ => false

/-- What a test says about the metadata. -/
def Topic.holdsIn (topic : Topic) (metadata : Message) : Bool :=
  Message.flag metadata topic.flag ||
    (tells py topic.word (Dict.get? metadata "message_type") ||
      (tells py topic.word (Dict.get? metadata "command_type") ||
        decide (Dict.get? metadata "data_type" = some (.str topic.word))))

/-- What a test says where it does not raise. -/
def Topic.holds (topic : Topic) : Bool :=
  tells py topic.word (Dict.get? m.fields "message_type") ||
    (tells py topic.word (Dict.get? m.fields "command_type") ||
      (topic.holdsIn py (nested m) ||
        (topic.inData m || ((Dict.get? m.fields topic.listKey).bind Value.list?).isSome)))

/-- Whether the message is about weather. -/
def weather : Bool := precipitation.holds py m || (!isModeChange m && vil.holds py m)

variable {py m}

theorem mentions_eq {d : Message} (h : IsText d) {key : String} (hkey : key ∈ textKeys)
    (word : String) : mentions py word d key = .ok (tells py word (Dict.get? d key)) := by
  rw [mentions.eq_def]
  cases hv : Dict.get? d key with
  | none => rfl
  | some v =>
    have htext := h key hkey v hv
    cases v with
    | str s => rfl
    | _ => cases htext

theorem Topic.inMetadata_eq (topic : Topic) {d : Message} (h : IsText d) :
    topic.inMetadata py d = .ok (topic.holdsIn py d) := by
  rw [Topic.inMetadata, mentions_eq h (by decide), mentions_eq h (by decide), Topic.holdsIn]
  cases Message.flag d topic.flag <;> cases tells py topic.word (Dict.get? d "message_type") <;>
    cases tells py topic.word (Dict.get? d "command_type") <;> rfl

theorem Topic.isAbout_eq (topic : Topic) (h : TextFields m) :
    topic.isAbout py m = .ok (topic.holds py m) := by
  have hnested := h.metadata
  rw [Topic.isAbout, mentions_eq h.fields (by decide), mentions_eq h.fields (by decide), Topic.holds]
  rw [nested] at hnested ⊢
  cases hm : m.metadataDict with
  | none =>
    cases tells py topic.word (Dict.get? m.fields "message_type") <;>
      cases tells py topic.word (Dict.get? m.fields "command_type") <;> rfl
  | some metadata =>
    rw [hm] at hnested
    have heq : topic.inMetadata py metadata = .ok (topic.holdsIn py metadata) :=
      topic.inMetadata_eq hnested
    dsimp only [Option.getD_some]
    rw [heq]
    cases tells py topic.word (Dict.get? m.fields "message_type") <;>
      cases tells py topic.word (Dict.get? m.fields "command_type") <;>
      cases topic.holdsIn py metadata <;> rfl

theorem isWeatherMessage_eq (h : TextFields m) :
    isWeatherMessage py m = .ok (weather py m) := by
  rw [isWeatherMessage, isPrecipitationMessage, precipitation.isAbout_eq h, isVilMessage,
    vil.isAbout_eq h, weather]
  cases precipitation.holds py m <;> cases isModeChange m <;> rfl

theorem isModeChange_eq :
    isModeChange m =
      (decide (Dict.get? m.fields "command_type" = some (.str "mode_change")) ||
        decide (Dict.get? (nested m) "command_type" = some (.str "mode_change"))) := by
  rw [isModeChange, nested]
  cases m.metadataDict <;> rfl

/-! ### The addresses -/

variable (py m)

/-- The terminal's address in the metadata, if any. -/
def foundRt : Value :=
  (Dict.get? (nested m) "rt_address").getD
    ((if weather py m then sourceAddress (nested m) else none).getD (embeddedAddress (nested m)))

def foundSub : Value :=
  if m.metadataDict.isSome then
    ((Dict.get? (nested m) "sub_address").or (Dict.get? (nested m) "subaddress")).getD
      (if weather py m then .int 1 else .none)
  else .none

/-- The terminal's address that is written. -/
def newRt : Value :=
  if Dict.has m.fields "rt_address" then .none
  else if rtAddressFromFrames py m.fields = .none then foundRt py m
  else rtAddressFromFrames py m.fields

def newSub : Value := if Dict.has m.fields "sub_address" then .none else foundSub py m

/-- The message after the phase of the addresses. -/
def routed : Msg P :=
  withAddress (withAddress m "rt_address" (newRt py m)) "sub_address" (newSub py m)

variable {py m}

theorem rtAddressFromMetadata_eq (h : TextFields m) :
    rtAddressFromMetadata py m = .ok (foundRt py m) := by
  rw [rtAddressFromMetadata.eq_def, isWeatherMessage_eq h, foundRt, nested]
  cases m.metadataDict with
  | none => cases weather py m <;> rfl
  | some metadata =>
    dsimp only [Option.getD]
    cases Dict.get? metadata "rt_address" <;> rfl

theorem subAddress_eq (h : TextFields m) : subAddress py m = .ok (foundSub py m) := by
  rw [subAddress.eq_def, isWeatherMessage_eq h, foundSub, nested]
  cases m.metadataDict with
  | none => rfl
  | some metadata =>
    dsimp only [Option.getD, Option.isSome]
    cases (Dict.get? metadata "sub_address").or (Dict.get? metadata "subaddress") <;> rfl

theorem Routed.isText {r : Msg P} (h : Routed m r) (htext : TextFields m) : TextFields r where
  fields key hkey v hv := by
    refine htext.fields key hkey v ?_
    rw [← hv, h.fields]
    · rintro rfl
      exact absurd hkey (by decide)
    · rintro rfl
      exact absurd hkey (by decide)
  metadata := by
    rw [h.nested]
    exact htext.metadata

theorem routed_routed (py : Runtime) (m : Msg P) : Routed m (routed py m) :=
  (withAddress_routed m _ (.inl rfl)).trans (withAddress_routed _ _ (.inr rfl))

theorem ensureRoutingFields_eq (h : TextFields m) :
    ensureRoutingFields py m = .ok (routed py m) := by
  have hfirst : ensureRtAddress py m = .ok (withAddress m "rt_address" (newRt py m)) := by
    rw [ensureRtAddress, rtAddressFromMetadata_eq h, newRt]
    split_ifs
    · rw [withAddress_none]
    · rfl
    · rfl
  have hr := withAddress_routed m (newRt py m) (.inl rfl)
  have hhas : Dict.has (withAddress m "rt_address" (newRt py m)).fields "sub_address" =
      Dict.has m.fields "sub_address" := by
    rw [Dict.has, get?_withAddress_ne m _ (by decide), Dict.has]
  have hsub : foundSub py (withAddress m "rt_address" (newRt py m)) = foundSub py m := by
    have hweather : weather py (withAddress m "rt_address" (newRt py m)) = weather py m := by
      have heq := hr.isWeatherMessage py
      rw [isWeatherMessage_eq (hr.isText h), isWeatherMessage_eq h] at heq
      exact Except.ok.inj heq
    rw [foundSub, hr.nested, hr.metadataDict, hweather, foundSub]
  rw [ensureRoutingFields, hfirst]
  simp only [bind, Except.bind]
  rw [ensureSubAddress, hhas, subAddress_eq (hr.isText h), hsub, routed, newSub]
  split_ifs
  · rw [withAddress_none]
  · rfl

theorem withAddress_eq_self {key : String} {address : Value}
    (h : Dict.get? (withAddress m key address).fields key = Dict.get? m.fields key)
    (hnew : Dict.has m.fields key = true → address = .none) : address = .none := by
  by_contra hne
  rw [withAddress, if_neg hne, Dict.get?_set_self] at h
  exact hne (hnew (Dict.has_iff.mpr ⟨address, h.symm⟩))

theorem newRt_eq_none (h : Dict.has m.fields "rt_address" = true) : newRt py m = .none := if_pos h

theorem newSub_eq_none (h : Dict.has m.fields "sub_address" = true) : newSub py m = .none := if_pos h

theorem get?_routed_rt :
    Dict.get? (routed py m).fields "rt_address" =
      Dict.get? (withAddress m "rt_address" (newRt py m)).fields "rt_address" := by
  rw [routed, get?_withAddress_ne _ _ (by decide)]

/-- No address is new if both read as before. -/
theorem routed_eq_self
    (hrt : Dict.get? (routed py m).fields "rt_address" = Dict.get? m.fields "rt_address")
    (hsub : Dict.get? (routed py m).fields "sub_address" = Dict.get? m.fields "sub_address") :
    newRt py m = .none ∧ newSub py m = .none := by
  rw [get?_routed_rt] at hrt
  have hfirst := withAddress_eq_self hrt newRt_eq_none
  rw [routed, hfirst, withAddress_none] at hsub
  exact ⟨hfirst, withAddress_eq_self hsub newSub_eq_none⟩

theorem routed_of_none (hrt : newRt py m = .none) (hsub : newSub py m = .none) :
    routed py m = m := by
  rw [routed, hrt, hsub, withAddress_none, withAddress_none]

end Fmofp.Normalizer
