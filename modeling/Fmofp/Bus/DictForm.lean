import Fmofp.Bus.RoundTrip

/-! `MIL_STD_1553B_Message` and its form as a dictionary.  `to_dict` writes five fields twice, at the top level and
under `additional_info`, with `None` for those that were not given, and `from_dict` merges `additional_info` over the
metadata: a message comes back exactly when its metadata agree with these fields. -/

namespace Fmofp.Bus

open Python

namespace MilStd1553BMessage

/-- `additional_info` of `to_dict`. -/
def additionalInfo (m : MilStd1553BMessage) : Message :=
  [("message_type", m.messageType), ("command_type", m.commandType), ("command_name", m.commandName),
    ("rt_address", .int m.rtAddress), ("sub_address", .int m.subAddress)]

/-- `to_dict`. -/
def toDict (m : MilStd1553BMessage) : Message :=
  [("rt_address", .int m.rtAddress), ("sub_address", .int m.subAddress), ("data", .str m.data),
    ("message_type", m.messageType), ("command_type", m.commandType), ("command_name", m.commandName),
    ("metadata", .dict m.metadata)] ++
  (if m.originalMessageType.truthy then [("original_message_type", m.originalMessageType)] else []) ++
  [("data_word_count", .int m.dataWordCount), ("direction", .int m.direction), ("transfer_type", .int m.transferType),
    ("additional_info", .dict m.additionalInfo)]

/-- A field that the constructor is modelled with as an integer, as `to_dict` writes it. -/
def intField (d : Message) (k : String) (default : ℤ) : Except Exception ℤ :=
  match Dict.getD d k (.int default) with
  | .int n => .ok n
  | _ => .error .typeError

/-- The metadata of a dictionary: what is under `additional_info` goes over what is under `metadata`. -/
def mergedMetadata (d : Message) : Message :=
  let under (k : String) : Message := ((Dict.get? d k).bind Value.dict?).getD []
  Dict.update (Dict.update [] (under "metadata")) (under "additional_info")

/-- `from_dict`. -/
def fromDict (d : Message) : Except Exception MilStd1553BMessage := do
  let rtAddress := Dict.getD d "rt_address" .none
  let subAddress := Dict.getD d "sub_address" .none
  if rtAddress = .none ∨ subAddress = .none then .error .valueError
  else do
    let dataWordCount ← if Dict.getD d "data_word_count" .none = .none then pure none
      else some <$> intField d "data_word_count" 0
    let direction ← intField d "direction" bcToRt
    let transferType ← intField d "transfer_type" standardTransfer
    init rtAddress subAddress (Dict.getD d "data" (.str "")) (Dict.getD d "message_type" .none)
      (Dict.getD d "original_message_type" .none) (Dict.getD d "command_type" .none) (Dict.getD d "command_name" .none)
      dataWordCount (mergedMetadata d) direction transferType

/-- The message after a number of round trips through its dictionary. -/
def trips : ℕ → MilStd1553BMessage → Except Exception MilStd1553BMessage
  | 0, m => .ok m
  | n + 1, m => fromDict m.toDict >>= trips n

/-- The same core fields and the same metadata, in whatever order. -/
structure Agrees (m m' : MilStd1553BMessage) : Prop where
  rtAddress : m'.rtAddress = m.rtAddress
  subAddress : m'.subAddress = m.subAddress
  messageType : m'.messageType = m.messageType
  originalMessageType : m'.originalMessageType = m.originalMessageType
  commandType : m'.commandType = m.commandType
  commandName : m'.commandName = m.commandName
  dataWordCount : m'.dataWordCount = m.dataWordCount
  direction : m'.direction = m.direction
  transferType : m'.transferType = m.transferType
  data : m'.data = m.data
  metadata : ∀ k, Dict.get? m'.metadata k = Dict.get? m.metadata k

/-- What the constructor has made of the metadata. -/
structure Initialised (m : MilStd1553BMessage) : Prop where
  rtAddress : 0 ≤ m.rtAddress ∧ m.rtAddress ≤ 31
  subAddress : 0 ≤ m.subAddress ∧ m.subAddress ≤ 31
  original : m.originalMessageType.truthy = true → Dict.has m.metadata "original_message_type" = true
  direction : Dict.has m.metadata "direction" = true
  transferType : Dict.has m.metadata "transfer_type" = true
  nodup : (m.metadata.map Prod.fst).Nodup

end MilStd1553BMessage

/-! ### Metadata -/

section Metadata

variable {metadata : Message} {k : String} {v : Value} {given : Bool}

theorem get?_keepField (j : String) :
    Dict.get? (keepField metadata k v given) j =
      (Dict.get? metadata j).or (if k = j ∧ given = true then some v else none) := by
  unfold keepField
  cases given with
  | false =>
    rw [Bool.false_and, if_neg Bool.false_ne_true, if_neg (by simp), Option.or_none]
  | true =>
    cases hk : Dict.get? metadata k with
    | none =>
      rw [Dict.has_eq_false.mpr hk, Bool.not_false, Bool.and_true, if_pos rfl, Dict.get?_set]
      by_cases hkj : k = j
      · rw [if_pos hkj, if_pos ⟨hkj, rfl⟩, ← hkj, hk, Option.none_or]
      · rw [if_neg hkj, if_neg (fun h => hkj h.1), Option.or_none]
    | some w =>
      rw [Dict.has_iff.mpr ⟨w, hk⟩, Bool.not_true, Bool.and_false, if_neg Bool.false_ne_true]
      by_cases hkj : k = j
      · rw [← hkj, hk, Option.some_or]
      · rw [if_neg (fun h => hkj h.1), Option.or_none]

theorem keepField_of_has (h : given = true → Dict.has metadata k = true) : keepField metadata k v given = metadata := by
  unfold keepField
  cases given with
  | false => rfl
  | true =>
    rw [h rfl]
    rfl

theorem nodup_keepField (h : (metadata.map Prod.fst).Nodup) :
    ((keepField metadata k v given).map Prod.fst).Nodup := by
  unfold keepField
  split_ifs
  · exact Dict.nodup_keys_set h k v
  · exact h

end Metadata

theorem update_of_get? {d e : Message} (h : ∀ x ∈ e, Dict.get? d x.1 = some x.2) : Dict.update d e = d := by
  induction e with
  | nil => rfl
  | cons x e ih =>
    show Dict.update (Dict.set d x.1 x.2) e = d
    rw [Dict.set_of_get? (h x List.mem_cons_self)]
    exact ih fun y hy => h y (List.mem_cons_of_mem _ hy)

namespace MilStd1553BMessage

variable {m : MilStd1553BMessage}

/-! ### One round trip -/

/-- The message that a round trip gives. -/
def reread (m : MilStd1553BMessage) : MilStd1553BMessage :=
  { m with
    originalMessageType := if m.originalMessageType.truthy then m.originalMessageType else .none
    metadata := Dict.update m.metadata m.additionalInfo }

theorem truthy_reread (m : MilStd1553BMessage) :
    m.reread.originalMessageType.truthy = m.originalMessageType.truthy := by
  unfold reread
  dsimp only
  split_ifs with hgiven
  · rfl
  · rw [Bool.not_eq_true] at hgiven
    rw [hgiven]
    rfl

theorem keys_additionalInfo (m : MilStd1553BMessage) : m.additionalInfo.map Prod.fst =
    ["message_type", "command_type", "command_name", "rt_address", "sub_address"] := rfl

/-- The metadata that are read back have the fields of `additional_info`. -/
theorem get?_reread (m : MilStd1553BMessage) (k : String) :
    Dict.get? m.reread.metadata k = (Dict.get? m.additionalInfo k).or (Dict.get? m.metadata k) := by
  have hreverse : Dict.get? m.additionalInfo.reverse k = Dict.get? m.additionalInfo k := by
    apply Dict.get?_perm (List.reverse_perm _)
    rw [List.map_reverse, List.nodup_reverse, keys_additionalInfo]
    decide
  rw [reread, Dict.get?_update, hreverse]

theorem has_reread {k : String} (h : Dict.has m.metadata k = true) : Dict.has m.reread.metadata k = true := by
  rw [Dict.has, get?_reread]
  cases Dict.get? m.additionalInfo k with
  | none => exact h
  | some v => rfl

theorem has_reread_of_mem {k : String} (hk : k ∈ m.additionalInfo.map Prod.fst) :
    Dict.has m.reread.metadata k = true := by
  obtain ⟨e, he, rfl⟩ := List.mem_map.mp hk
  obtain ⟨v, hv⟩ := Dict.has_iff.mp (Dict.has_of_mem he)
  rw [Dict.has, get?_reread, hv]
  rfl

theorem mergedMetadata_toDict (h : (m.metadata.map Prod.fst).Nodup) :
    mergedMetadata m.toDict = m.reread.metadata := by
  have hmetadata : Dict.get? m.toDict "metadata" = some (.dict m.metadata) := by
    unfold toDict
    split_ifs <;> rfl
  have hinfo : Dict.get? m.toDict "additional_info" = some (.dict m.additionalInfo) := by
    unfold toDict
    split_ifs <;> rfl
  unfold mergedMetadata reread
  simp only [hmetadata, hinfo, Option.bind_some, Value.dict?_dict, Option.getD_some, Dict.update_nil h]

/-- The constructor adds nothing to metadata that have all fields that it adds. -/
theorem initMetadata_reread (h : Initialised m) :
    initMetadata m.rtAddress m.subAddress m.messageType m.reread.originalMessageType m.commandType m.commandName
      m.direction m.transferType m.reread.metadata = m.reread.metadata := by
  have horiginal : m.reread.originalMessageType.truthy = true →
      Dict.has m.reread.metadata "original_message_type" = true := by
    intro htruthy
    apply has_reread
    apply h.original
    rw [← truthy_reread]
    exact htruthy
  have hinfo : ∀ k ∈ m.additionalInfo.map Prod.fst, Dict.has m.reread.metadata k = true := fun k hk =>
    has_reread_of_mem hk
  rw [keys_additionalInfo] at hinfo
  unfold initMetadata
  dsimp only
  rw [keepField_of_has fun _ => hinfo "command_type" (by decide),
    keepField_of_has fun _ => hinfo "command_name" (by decide),
    keepField_of_has fun _ => hinfo "message_type" (by decide), keepField_of_has horiginal,
    keepField_of_has fun _ => hinfo "rt_address" (by decide),
    keepField_of_has fun _ => hinfo "sub_address" (by decide),
    keepField_of_has fun _ => has_reread h.direction, keepField_of_has fun _ => has_reread h.transferType]

theorem address?_of_range {n : ℤ} (h : 0 ≤ n ∧ n ≤ 31) : address? (.int n) = some n := by
  unfold address?
  rw [show (Value.int n).int? = some n from rfl, Option.filter_some, if_pos (decide_eq_true h)]

/-- The dictionary of a message is read back, unless its data are longer than the constructor takes them. -/
theorem fromDict_toDict (h : Initialised m) :
    fromDict m.toDict = if 512 < m.data.length then .error .valueError else .ok m.reread := by
  have hfield {k : String} {v : Value} (default : Value) (hk : Dict.get? m.toDict k = some v) :
      Dict.getD m.toDict k default = v := Dict.getD_of_get? hk default
  have horiginal : Dict.getD m.toDict "original_message_type" .none = m.reread.originalMessageType := by
    unfold toDict reread
    dsimp only
    split_ifs <;> rfl
  have hint {k : String} {n : ℤ} (default : ℤ) (hk : Dict.get? m.toDict k = some (.int n)) :
      intField m.toDict k default = .ok n := by
    rw [intField, hfield _ hk]
  have hrt : Dict.get? m.toDict "rt_address" = some (.int m.rtAddress) := rfl
  have hsub : Dict.get? m.toDict "sub_address" = some (.int m.subAddress) := rfl
  have hdata : Dict.get? m.toDict "data" = some (.str m.data) := rfl
  have hmessage : Dict.get? m.toDict "message_type" = some m.messageType := rfl
  have hcommand : Dict.get? m.toDict "command_type" = some m.commandType := rfl
  have hname : Dict.get? m.toDict "command_name" = some m.commandName := rfl
  have hcount : Dict.get? m.toDict "data_word_count" = some (.int m.dataWordCount) := by
    unfold toDict
    split_ifs <;> rfl
  have hdirection : Dict.get? m.toDict "direction" = some (.int m.direction) := by
    unfold toDict
    split_ifs <;> rfl
  have htransfer : Dict.get? m.toDict "transfer_type" = some (.int m.transferType) := by
    unfold toDict
    split_ifs <;> rfl
  have hbits : dataBits (.str m.data) = if 512 < m.data.length then .error .valueError else .ok m.data := rfl
  unfold fromDict
  rw [hfield _ hrt, hfield _ hsub, hfield _ hdata, hfield _ hmessage, hfield _ hcommand, hfield _ hname, horiginal,
    hfield _ hcount, hint _ hcount, hint _ hdirection, hint _ htransfer, mergedMetadata_toDict h.nodup]
  dsimp only
  rw [if_neg (by simp), if_neg (by simp)]
  show init (.int m.rtAddress) (.int m.subAddress) (.str m.data) m.messageType m.reread.originalMessageType m.commandType
    m.commandName (some m.dataWordCount) m.reread.metadata m.direction m.transferType = _
  unfold init
  rw [address?_of_range h.rtAddress, address?_of_range h.subAddress]
  dsimp only
  rw [initMetadata_reread h, hbits]
  by_cases hlength : 512 < m.data.length
  · rw [if_pos hlength, if_pos hlength]
    rfl
  · rw [if_neg hlength, if_neg hlength]
    rfl

/-! ### Stable messages -/

/-- The metadata hold each field of `additional_info`, an original type is given or `None`, and the data are not too
long to be read again. -/
structure Stable (m : MilStd1553BMessage) : Prop where
  info : ∀ e ∈ m.additionalInfo, Dict.get? m.metadata e.1 = some e.2
  original : m.originalMessageType.truthy = true ∨ m.originalMessageType = .none
  data : m.data.length ≤ 512

theorem reread_of_stable (h : Stable m) : m.reread = m := by
  have horiginal : (if m.originalMessageType.truthy then m.originalMessageType else .none) = m.originalMessageType := by
    rcases h.original with htruthy | hnone
    · rw [if_pos htruthy]
    · rw [hnone]
      rfl
  unfold reread
  rw [horiginal, update_of_get? h.info]

theorem Agrees.refl (m : MilStd1553BMessage) : Agrees m m :=
  ⟨rfl, rfl, rfl, rfl, rfl, rfl, rfl, rfl, rfl, rfl, fun _ => rfl⟩

/-- What is read back agrees with the message only if it is stable. -/
theorem stable_of_agrees (hdata : m.data.length ≤ 512) (h : Agrees m m.reread) : Stable m := by
  refine ⟨fun e he => ?_, ?_, hdata⟩
  · have hnodup : (m.additionalInfo.map Prod.fst).Nodup := by
      rw [keys_additionalInfo]
      decide
    have hget := h.metadata e.1
    rw [get?_reread, Dict.get?_of_mem hnodup he] at hget
    exact hget.symm
  · have horiginal := h.originalMessageType
    unfold reread at horiginal
    dsimp only at horiginal
    split_ifs at horiginal with htruthy
    · exact .inl htruthy
    · exact .inr horiginal.symm

/-- A round trip leaves a message that further ones do not change. -/
theorem stable_reread (hdata : m.data.length ≤ 512) : Stable m.reread := by
  refine ⟨fun e he => ?_, ?_, hdata⟩
  · have hnodup : (m.additionalInfo.map Prod.fst).Nodup := by
      rw [keys_additionalInfo]
      decide
    have hmem : e ∈ m.additionalInfo := he
    rw [get?_reread, Dict.get?_of_mem hnodup hmem]
    rfl
  · unfold reread
    dsimp only
    split_ifs with htruthy
    · exact .inl htruthy
    · exact .inr rfl

theorem nodup_update {d : Message} (e : Message) (h : (d.map Prod.fst).Nodup) :
    ((Dict.update d e).map Prod.fst).Nodup := by
  induction e generalizing d with
  | nil => exact h
  | cons x e ih => exact ih (Dict.nodup_keys_set h x.1 x.2)

theorem initialised_reread (h : Initialised m) : Initialised m.reread := by
  refine ⟨h.rtAddress, h.subAddress, fun htruthy => ?_, has_reread h.direction, has_reread h.transferType,
    nodup_update _ h.nodup⟩
  apply has_reread
  apply h.original
  rw [← truthy_reread]
  exact htruthy

theorem trips_of_stable (h : Initialised m) (hstable : Stable m) (n : ℕ) : trips n m = .ok m := by
  induction n with
  | zero => rfl
  | succ n ih =>
    rw [trips, fromDict_toDict h, if_neg (not_lt.mpr hstable.data), reread_of_stable hstable]
    exact ih

/-! ### Constructed messages -/

/-- The metadata that the constructor is given hold the field, or it fills the field in. -/
def Holds (metadata : Message) (k : String) (v : Value) (given : Bool) : Prop :=
  Dict.get? metadata k = some v ∨ (Dict.get? metadata k = none ∧ given = true)

section Constructed

variable {rtAddress subAddress data messageType originalMessageType commandType commandName : Value}
  {dataWordCount : Option ℤ} {metadata : Message} {direction transferType : ℤ}

/-- What the constructor makes of its arguments. -/
theorem init_eq_ok (h : init rtAddress subAddress data messageType originalMessageType commandType commandName
      dataWordCount metadata direction transferType = .ok m) :
    ∃ rt sa bits, address? rtAddress = some rt ∧ address? subAddress = some sa ∧ dataBits data = .ok bits ∧
      m = ⟨rt, sa, messageType, originalMessageType, commandType, commandName,
        dataWordCount.getD ((bits.length / dataWordSize : ℕ) : ℤ), direction, transferType,
        (if dataWordCount.isSome then
          initMetadata rt sa messageType originalMessageType commandType commandName direction transferType metadata
        else Dict.set
          (initMetadata rt sa messageType originalMessageType commandType commandName direction transferType metadata)
          "data_word_count" (.int ((bits.length / dataWordSize : ℕ) : ℤ))), bits⟩ := by
  unfold init at h
  cases hrt : address? rtAddress with
  | none =>
    rw [hrt] at h
    cases h
  | some rt =>
    cases hsa : address? subAddress with
    | none =>
      rw [hrt, hsa] at h
      cases h
    | some sa =>
      rw [hrt, hsa] at h
      obtain ⟨bits, hbits, h⟩ := bind_eq_ok h
      cases h
      exact ⟨rt, sa, bits, rfl, rfl, hbits, rfl⟩

/-- Under the keys that it fills in, the constructor keeps what it is given. -/
theorem get?_metadata_of_init (h : init rtAddress subAddress data messageType originalMessageType commandType commandName
      dataWordCount metadata direction transferType = .ok m) {k : String} (hk : k ≠ "data_word_count") :
    Dict.get? m.metadata k = Dict.get? (initMetadata m.rtAddress m.subAddress messageType originalMessageType
      commandType commandName direction transferType metadata) k := by
  obtain ⟨rt, sa, bits, -, -, -, rfl⟩ := init_eq_ok h
  dsimp only
  split_ifs
  · rfl
  · rw [Dict.get?_set_ne _ _ hk.symm]

/-- A constructed message has the fields that a round trip does not fill in again. -/
theorem initialised_of_init (hnodup : (metadata.map Prod.fst).Nodup)
    (h : init rtAddress subAddress data messageType originalMessageType commandType commandName dataWordCount metadata
      direction transferType = .ok m) : Initialised m := by
  have hget {k : String} (hk : k ≠ "data_word_count") := get?_metadata_of_init h hk
  obtain ⟨rt, sa, bits, hrt, hsa, -, rfl⟩ := init_eq_ok h
  have hrange {v : Value} {n : ℤ} (hv : address? v = some n) : 0 ≤ n ∧ n ≤ 31 := by
    obtain ⟨k, hk, rfl⟩ := address?_eq_some hv
    omega
  have hfilled : ((initMetadata rt sa messageType originalMessageType commandType commandName direction transferType
      metadata).map Prod.fst).Nodup := by
    unfold initMetadata
    iterate 8 apply nodup_keepField
    exact hnodup
  refine ⟨hrange hrt, hrange hsa, fun htruthy => ?_, ?_, ?_, ?_⟩
  · rw [Dict.has, hget (by decide)]
    have hgiven : originalMessageType.truthy = true := htruthy
    simp [initMetadata, get?_keepField, hgiven]
  · rw [Dict.has, hget (by decide)]
    simp [initMetadata, get?_keepField]
  · rw [Dict.has, hget (by decide)]
    simp [initMetadata, get?_keepField]
  · dsimp only
    split_ifs
    · exact hfilled
    · exact Dict.nodup_keys_set hfilled _ _

theorem or_given_eq_some {o : Option Value} {v : Value} {given : Prop} [Decidable given] :
    o.or (if given then some v else none) = some v ↔ o = some v ∨ (o = none ∧ given) := by
  cases o <;> simp

/-- When a constructed message is stable. -/
theorem stable_init_iff (h : init rtAddress subAddress data messageType originalMessageType commandType commandName
      dataWordCount metadata direction transferType = .ok m) :
    Stable m ↔ Holds metadata "message_type" messageType messageType.truthy ∧
      Holds metadata "command_type" commandType commandType.truthy ∧
      Holds metadata "command_name" commandName commandName.truthy ∧
      Holds metadata "rt_address" (.int m.rtAddress) true ∧ Holds metadata "sub_address" (.int m.subAddress) true ∧
      (originalMessageType.truthy = true ∨ originalMessageType = .none) ∧ m.data.length ≤ 512 := by
  have hget {k : String} (hk : k ≠ "data_word_count") := get?_metadata_of_init h hk
  have hfields : m.messageType = messageType ∧ m.commandType = commandType ∧ m.commandName = commandName ∧
      m.originalMessageType = originalMessageType := by
    obtain ⟨rt, sa, bits, -, -, -, rfl⟩ := init_eq_ok h
    exact ⟨rfl, rfl, rfl, rfl⟩
  obtain ⟨hmessage, hcommand, hname, horiginal⟩ := hfields
  have hinfo : (∀ e ∈ m.additionalInfo, Dict.get? m.metadata e.1 = some e.2) ↔
      Holds metadata "message_type" messageType messageType.truthy ∧
      Holds metadata "command_type" commandType commandType.truthy ∧
      Holds metadata "command_name" commandName commandName.truthy ∧
      Holds metadata "rt_address" (.int m.rtAddress) true ∧ Holds metadata "sub_address" (.int m.subAddress) true := by
    unfold Holds
    simp only [← or_given_eq_some]
    simp [additionalInfo, hget, hmessage, hcommand, hname, initMetadata, get?_keepField]
  constructor
  · intro hstable
    obtain ⟨h1, h2, h3, h4, h5⟩ := hinfo.mp hstable.info
    exact ⟨h1, h2, h3, h4, h5, horiginal ▸ hstable.original, hstable.data⟩
  · rintro ⟨h1, h2, h3, h4, h5, horig, hdata⟩
    exact ⟨hinfo.mpr ⟨h1, h2, h3, h4, h5⟩, horiginal ▸ horig, hdata⟩

/-- The message comes back from its dictionary, and after any number of round trips it is still the same. -/
def ComesBack (m : MilStd1553BMessage) : Prop :=
  ∀ n, ∃ m', trips n m = .ok m' ∧ Agrees m m' ∧ m'.toDict = m.toDict

/-- A constructed message comes back from its dictionary if and only if the metadata that the constructor is given
hold no other value under the five fields of `additional_info`, each of these fields is given or in the metadata
already, an original type is given or `None`, and its data have at most 512 bits.  Whatever comes back from the first
round trip is not changed by further ones. -/
theorem dictionary_round_trip_iff (hnodup : (metadata.map Prod.fst).Nodup)
    (hinit : init rtAddress subAddress data messageType originalMessageType commandType commandName dataWordCount
      metadata direction transferType = .ok m) :
    (ComesBack m ↔ Holds metadata "message_type" messageType messageType.truthy ∧
      Holds metadata "command_type" commandType commandType.truthy ∧
      Holds metadata "command_name" commandName commandName.truthy ∧
      Holds metadata "rt_address" (.int m.rtAddress) true ∧ Holds metadata "sub_address" (.int m.subAddress) true ∧
      (originalMessageType.truthy = true ∨ originalMessageType = .none) ∧ m.data.length ≤ 512) ∧
    ∀ n, trips (n + 1) m = trips 1 m := by
  have hm : Initialised m := initialised_of_init hnodup hinit
  rw [← stable_init_iff hinit]
  refine ⟨⟨fun h => ?_, fun hstable n => ⟨m, trips_of_stable hm hstable n, Agrees.refl m, rfl⟩⟩, fun n => ?_⟩
  · obtain ⟨m', htrip, hagrees, -⟩ := h 1
    rw [trips, fromDict_toDict hm] at htrip
    by_cases hlong : 512 < m.data.length
    · rw [if_pos hlong] at htrip
      cases htrip
    · rw [if_neg hlong] at htrip
      cases htrip
      exact stable_of_agrees (not_lt.mp hlong) hagrees
  · rw [trips, trips, fromDict_toDict hm]
    by_cases hlong : 512 < m.data.length
    · rw [if_pos hlong]
      rfl
    · rw [if_neg hlong]
      exact trips_of_stable (initialised_reread hm) (stable_reread (not_lt.mp hlong)) n

end Constructed

/-- A message with its three names and no metadata of its own comes back. -/
theorem dictionary_round_trip_status_request :
    ∃ m, init (.int 5) (.int 3) (.list [.int 7]) (.str "weather_radarStatusRequest") .none (.str "status_request")
        (.str "GET_STATUS") none [] bcToRt standardTransfer = .ok m ∧ ComesBack m := by
  have hnodup : (([] : Message).map Prod.fst).Nodup := List.nodup_nil
  obtain ⟨m, hinit⟩ : ∃ m, init (.int 5) (.int 3) (.list [.int 7]) (.str "weather_radarStatusRequest") .none
    (.str "status_request") (.str "GET_STATUS") none [] bcToRt standardTransfer = .ok m := ⟨_, rfl⟩
  have hdata : m.data.length ≤ 512 := by
    cases hinit
    decide
  exact ⟨m, hinit, (dictionary_round_trip_iff hnodup hinit).1.mpr
    ⟨.inr ⟨rfl, rfl⟩, .inr ⟨rfl, rfl⟩, .inr ⟨rfl, rfl⟩, .inr ⟨rfl, rfl⟩, .inr ⟨rfl, rfl⟩, .inr rfl, hdata⟩⟩

/-- A message without a command name comes back with a `None` in its metadata. -/
theorem name_none_added :
    ¬∀ (rtAddress subAddress data messageType originalMessageType commandType commandName : Value)
      (dataWordCount : Option ℤ) (metadata : Message) (direction transferType : ℤ) (m : MilStd1553BMessage),
      (metadata.map Prod.fst).Nodup →
      init rtAddress subAddress data messageType originalMessageType commandType commandName dataWordCount metadata
        direction transferType = .ok m → ComesBack m := by
  intro h
  obtain ⟨m', htrip, hagrees, -⟩ := h (.int 5) (.int 3) (.str "") (.str "weather_radarStatusRequest") .none
    (.str "status_request") .none none [] bcToRt standardTransfer _ List.nodup_nil rfl 1
  have hname := hagrees.metadata "command_name"
  cases htrip
  exact absurd hname (by decide)

end MilStd1553BMessage

end Fmofp.Bus
