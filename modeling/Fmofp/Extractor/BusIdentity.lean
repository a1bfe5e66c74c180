import Fmofp.Extractor.BusTopics
import Fmofp.Extractor.Extraction

/-! What the bus controller's extractor keeps of a message's identity, and the messages of which it keeps all:
those whose flattening meets no conflict and whose special cases read nothing that they cannot. -/

namespace Fmofp.Extractor

open Python

variable {py : Runtime} {r : Message} {s : Identity}

/-! ### All special cases -/

/-- Without a name, a message that speaks of no topic must be readable as a mode change. -/
def Identity.TopicsReadable (py : Runtime) (s : Identity) : Prop :=
  s.speaksOf py "precipitation" "precip" = false → s.speaksOf py "vil" "vil" = false → s.ModeReadable py

/-- The special cases can read what they read of an identity. -/
structure Identity.Readable (py : Runtime) (s : Identity) : Prop where
  name : s.NameReadable
  topics : s.name.truthy = false → s.TopicsReadable py

theorem Identity.nameReadable_of_nameless (h : s.name.truthy = false) : s.NameReadable :=
  fun htrue => absurd htrue (by rw [h]; decide)

theorem vil_yields (h : Shows r s) (hnamed : s.Named py) :
    Yields (vil.process py r >>= processModeChange py) := by
  obtain ⟨r', s', hr', hshows, hnamed'⟩ := vil_plain.process_named h hnamed
  rw [hr']
  exact processModeChange_named hshows hnamed'

theorem processTopics_named (h : Shows r s) (hnamed : s.Named py) : Yields (processTopics py r) := by
  obtain ⟨r', s', hr', hshows, hnamed'⟩ := precipitation_plain.process_named h hnamed
  rw [processTopics, hr']
  exact vil_yields hshows hnamed'

/-- The types of precipitation data do not speak of VIL, nor does a number. -/
theorem processTopics_number (h : Shows r s) (htruthy : s.name.truthy = true) (hnumber : s.name.number? ≠ none) :
    ¬ Succeeds (processTopics py r) := by
  have hholds : ∀ word, ¬ Succeeds (s.name.holds word) := fun word hword =>
    hnumber ((holds_succeeds (ne_none_of_truthy htruthy) word).mp hword)
  intro hsucceeds
  obtain ⟨r', hr', hrest⟩ := succeeds_bind.mp hsucceeds
  cases hspeaks : s.speaksOf py precipitation.typeWord precipitation.commandWord with
  | false =>
    obtain ⟨found, hfound, -⟩ := bind_eq_ok hr'
    rw [mentions_eq h, hspeaks, htruthy] at hfound
    exact hholds _ ⟨found, hfound⟩
  | true =>
    have hmentions : mentions py precipitation.typeWord precipitation.commandWord precipitation.nameWord r =
        .ok true := by rw [mentions_eq h, hspeaks, if_pos rfl]
    obtain ⟨r'', hr'', hshows⟩ := precipitation.process_taken precipitation_plain.flagField h hmentions
    rw [hr''] at hr'
    cases hr'
    obtain ⟨_, hvil, -⟩ := succeeds_bind.mp hrest
    obtain ⟨found, hfound, -⟩ := bind_eq_ok hvil
    have hname : (precipitation.standardized s).name = s.name := if_pos htruthy
    have hsilent : (precipitation.standardized s).speaksOf py vil.typeWord vil.commandWord = false := by
      show (contains (py.lower "precipitation_data") _ || contains (py.lower "precipitation_data") _) = false
      rw [show py.lower "precipitation_data" = "precipitation_data" from precipitation_plain.lower py]
      decide
    rw [mentions_eq hshows, hsilent, hname, htruthy] at hfound
    exact hholds _ ⟨found, hfound⟩

theorem processTopics_nameless (h : Shows r s) (hname : s.name.truthy = false) (hsound : s.Sound py) :
    (s.TopicsReadable py → Yields (processTopics py r)) ∧
      (Succeeds (processTopics py r) → s.TopicsReadable py) := by
  have hreadable := Identity.nameReadable_of_nameless hname
  have htaken : ∀ topic : Topic, topic.Plain → s.speaksOf py topic.typeWord topic.commandWord = true →
      ∃ r', topic.process py r = .ok r' ∧ Shows r' (topic.standardized s) := fun topic hplain hspeaks =>
    topic.process_taken hplain.flagField h (by rw [mentions_of_nameless h hname, hspeaks])
  have hskipped : ∀ topic : Topic, s.speaksOf py topic.typeWord topic.commandWord = false →
      topic.process py r = .ok r := fun topic hspeaks =>
    topic.process_skipped (by rw [mentions_of_nameless h hname, hspeaks])
  cases hprecipitation : s.speaksOf py precipitation.typeWord precipitation.commandWord with
  | true =>
    refine ⟨fun _ => ?_, fun _ hfalse => ?_⟩
    · obtain ⟨r', hr', hshows⟩ := htaken precipitation precipitation_plain hprecipitation
      rw [processTopics, hr']
      exact vil_yields hshows (precipitation_plain.named hreadable)
    · have htrue : s.speaksOf py "precipitation" "precip" = true := hprecipitation
      rw [htrue] at hfalse
      cases hfalse
  | false =>
    rw [processTopics, hskipped precipitation hprecipitation]
    show (_ → Yields (vil.process py r >>= processModeChange py)) ∧
      (Succeeds (vil.process py r >>= processModeChange py) → _)
    cases hvil : s.speaksOf py vil.typeWord vil.commandWord with
    | true =>
      refine ⟨fun _ => ?_, fun _ _ hfalse => ?_⟩
      · obtain ⟨r', hr', hshows⟩ := htaken vil vil_plain hvil
        rw [hr']
        exact processModeChange_named hshows (vil_plain.named hreadable)
      · have htrue : s.speaksOf py "vil" "vil" = true := hvil
        rw [htrue] at hfalse
        cases hfalse
    | false =>
      rw [hskipped vil hvil]
      obtain ⟨hyields, hsucceeds⟩ := processModeChange_nameless h hname hsound
      exact ⟨fun hread => hyields (hread hprecipitation hvil), fun hok _ _ => hsucceeds hok⟩

/-- The special cases get through exactly if they can read the identity. -/
theorem processTopics_iff (h : Shows r s) (hsound : s.Sound py) :
    (s.Readable py → Yields (processTopics py r)) ∧ (Succeeds (processTopics py r) → s.Readable py) := by
  cases hname : s.name.truthy with
  | false =>
    obtain ⟨hyields, hsucceeds⟩ := processTopics_nameless h hname hsound
    exact ⟨fun hread => hyields (hread.topics hname),
      fun hok => ⟨Identity.nameReadable_of_nameless hname, fun _ => hsucceeds hok⟩⟩
  | true =>
    refine ⟨fun hread => processTopics_named h ⟨hname, hread.name, hsound⟩, fun hok => ⟨fun _ => ?_, ?_⟩⟩
    · by_contra hnumber
      exact processTopics_number h hname hnumber hok
    · intro hfalse
      rw [hname] at hfalse
      cases hfalse

/-! ### Status words -/

/-- The subaddress of a radar can be a key. -/
def Identity.AddressReadable (s : Identity) : Prop :=
  s.rt.equal (.int 9) = true → s.sub.truthy = true → s.sub.key?.isSome = true

/-- The radar that the addresses speak of. -/
def Identity.addressedRadar (s : Identity) : Option String :=
  if s.rt.equal (.int 9) && s.sub.truthy then s.sub.key?.bind (Dict.get? radarMap) else none

/-- The command name that a dictionary has for a name that is not set. -/
def nameFrom (source : Message) (name : Value) : Value :=
  if !name.truthy && Dict.has source "command_name" then Dict.getD source "command_name" .none else name

/-- The command name of a status word, from the message and then from its metadata. -/
def restoredName (message : Message) (name : Value) : Value :=
  match Dict.get? message "metadata" with
  | some (.dict metadata) => nameFrom metadata (nameFrom message name)
  | _ => nameFrom message name

/-- What the branch for status words makes of an identity. -/
def Identity.asStatusWord (message : Message) (s : Identity) : Identity :=
  { s with
    type := .str "status_word"
    name := restoredName message s.name
    radar := (s.addressedRadar.map Value.str).getD s.radar }

theorem radarOfAddresses_iff (h : Shows r s) :
    (s.AddressReadable → radarOfAddresses r = .ok s.addressedRadar) ∧
      (Succeeds (radarOfAddresses r) → s.AddressReadable) := by
  rw [h.radarOfAddresses_eq, Identity.addressedRadar]
  cases haddresses : (s.rt.equal (.int 9) && s.sub.truthy) with
  | true =>
    rw [if_pos rfl, if_pos rfl, radarOfSubaddress]
    rw [Bool.and_eq_true] at haddresses
    cases hkey : s.sub.key? with
    | some key => exact ⟨fun _ => rfl, fun _ _ _ => by rw [hkey]; rfl⟩
    | none =>
      refine ⟨fun hread => ?_, fun hsucceeds => ?_⟩
      · have hsome := hread haddresses.1 haddresses.2
        rw [hkey] at hsome
        cases hsome
      · obtain ⟨_, hfalse⟩ := hsucceeds
        cases hfalse
  | false =>
    refine ⟨fun _ => rfl, fun _ hrt hsub => ?_⟩
    rw [hrt, hsub] at haddresses
    cases haddresses

theorem restoreField_name (h : Shows r s) (source : Message) :
    Shows (restoreField source r "command_name") { s with name := nameFrom source s.name } := by
  rw [restoreField, h.flagName, nameFrom]
  split_ifs
  · exact h.setName _
  · exact h

theorem restoreField_request (h : Shows r s) (source : Message) :
    Shows (restoreField source r "request_id") s := by
  rw [restoreField]
  split_ifs
  · exact h.setOther (by decide) _
  · exact h

theorem restoreFromOriginal_shows (h : Shows r s) {message : Message}
    (horiginal : Dict.get? r "original_message" = some (.dict message)) :
    Shows (restoreFromOriginal r) { s with name := restoredName message s.name } := by
  have hown := restoreField_request (restoreField_name h message) message
  rw [restoreFromOriginal, horiginal]
  unfold restoredName
  dsimp only
  cases hmetadata : Dict.get? message "metadata" with
  | none => exact hown
  | some v =>
    cases v with
    | dict metadata => exact restoreField_request (restoreField_name hown metadata) metadata
    | _ => exact hown

theorem addressFromBinary_of_has (h : Dict.has r "rt_address" = true) : addressFromBinary py r = .ok r := by
  rw [addressFromBinary]
  split
  · rw [h]
    rfl
  · rfl

/-- The branch for status words gets through exactly if the subaddress can be a key. -/
theorem processStatusWord_iff (h : Shows r s) (hstatus : isStatusWord r = true)
    (hrt : Dict.has r "rt_address" = true) {message : Message}
    (horiginal : Dict.get? r "original_message" = some (.dict message)) :
    (s.AddressReadable → ∃ r', processStatusWord py r = .ok r' ∧ Shows r' (s.asStatusWord message)) ∧
      (Succeeds (processStatusWord py r) → s.AddressReadable) := by
  have htyped : Shows (markStatusWord r) { s with type := .str "status_word" } :=
    (h.setType _).setOther (by decide) _
  have horiginal' : Dict.get? (markStatusWord r) "original_message" = some (.dict message) := by
    rw [markStatusWord, Dict.get?_set_ne _ _ (by decide), Dict.get?_set_ne _ _ (by decide), horiginal]
  have hprocess : processStatusWord py r = radarOfAddresses (markStatusWord r) >>= fun found =>
      .ok (restoreFromOriginal (setRadar found (markStatusWord r))) := by
    have hhas : Dict.has (markStatusWord r) "rt_address" = true :=
      Dict.has_set_of_has (Dict.has_set_of_has hrt _ _) _ _
    rw [processStatusWord, if_pos hstatus, addressFromBinary_of_has hhas]
    rfl
  obtain ⟨hok, hsucceeds⟩ := radarOfAddresses_iff htyped
  rw [hprocess]
  refine ⟨fun hread => ?_, fun hdone => ?_⟩
  · rw [hok hread]
    refine ⟨_, rfl, ?_⟩
    have hsame : Identity.addressedRadar { s with type := .str "status_word" } = s.addressedRadar := rfl
    rw [hsame, Identity.asStatusWord]
    cases s.addressedRadar with
    | none => exact restoreFromOriginal_shows htyped horiginal'
    | some radar =>
      exact restoreFromOriginal_shows (htyped.setRadar (.str radar))
        ((Dict.get?_set_ne _ _ (by decide)).trans horiginal')
  · obtain ⟨found, hfound, -⟩ := succeeds_bind.mp hdone
    exact hsucceeds ⟨found, hfound⟩

end Fmofp.Extractor
