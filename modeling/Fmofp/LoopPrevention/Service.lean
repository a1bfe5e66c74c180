import Fmofp.LoopPrevention.Identify
import Fmofp.LoopPrevention.Registry
import Fmofp.Machine.Run
import Fmofp.Python.Dict

/-! `MessageTrackingLibrary`: which message types each request id was seen with, until the last of
them expires. -/

namespace Fmofp.LoopPrevention

open Python

structure TrackingLibrary where
  requestTypeMap : Dict String (Dict String ℕ)
  requestTimestamps : Dict String ℚ
  expirationTime : ℚ
  lastCleanup : ℚ
  cleanupInterval : ℚ

namespace TrackingLibrary

/-- `__init__`, with the clock at `now`. -/
def start (now : ℚ) : TrackingLibrary where
  requestTypeMap := []
  requestTimestamps := []
  expirationTime := 3600
  lastCleanup := now
  cleanupInterval := 300

/-- The request ids that `_cleanup_expired` removes. -/
def expired (t : TrackingLibrary) (now : ℚ) (requestId : String) : Bool :=
  (Dict.get? t.requestTimestamps requestId).any fun at_ => decide (at_ < now - t.expirationTime)

/-- `_cleanup_expired`. -/
def cleanupExpired (t : TrackingLibrary) (now : ℚ) : TrackingLibrary :=
  { t with
    requestTypeMap := t.requestTypeMap.filter fun e => !t.expired now e.1
    requestTimestamps := t.requestTimestamps.filter fun e => !t.expired now e.1 }

/-- `_cleanup_if_needed`, which reads the clock twice. -/
def cleanupIfNeeded (t : TrackingLibrary) (now expiredAt : ℚ) : TrackingLibrary :=
  if t.cleanupInterval < now - t.lastCleanup then
    { t.cleanupExpired expiredAt with lastCleanup := now }
  else t

/-- The types seen with a request id. -/
def typesOf (t : TrackingLibrary) (requestId : String) : Dict String ℕ :=
  (Dict.get? t.requestTypeMap requestId).getD []

/-- `has_seen_message`, after its cleanup. -/
def hasSeenMessage (t : TrackingLibrary) (requestId messageType : String) : Bool :=
  decide (requestId ≠ "") && Dict.has (t.typesOf requestId) messageType

/-- `record_message`. -/
def recordMessage (t : TrackingLibrary) (now : ℚ) (requestId messageType : String) :
    TrackingLibrary :=
  if requestId = "" then t
  else
    { t with
      requestTimestamps := Dict.set t.requestTimestamps requestId now
      requestTypeMap := Dict.set t.requestTypeMap requestId
        (Dict.set (t.typesOf requestId) messageType
          ((Dict.get? (t.typesOf requestId) messageType).getD 0 + 1)) }

/-- The request id is kept with this type, and with a time no earlier than `since`. -/
structure Holds (t : TrackingLibrary) (requestId messageType : String) (since : ℚ) : Prop where
  seen : Dict.has (t.typesOf requestId) messageType = true
  kept : ∃ at_, Dict.get? t.requestTimestamps requestId = some at_ ∧ since ≤ at_
  expirationTime : t.expirationTime = 3600

/-- A cleanup within the expiration time keeps what is held. -/
theorem Holds.cleanupExpired {t : TrackingLibrary} {requestId messageType : String} {since now : ℚ}
    (h : t.Holds requestId messageType since) (hnow : now ≤ since + 3600) :
    (t.cleanupExpired now).Holds requestId messageType since := by
  obtain ⟨hseen, ⟨at_, hat, hsince⟩, htime⟩ := h
  have hnot : t.expired now requestId = false := by
    rw [expired, hat, htime]
    simp only [Option.any_some, decide_eq_false_iff_not, not_lt]
    linarith
  refine ⟨?_, ⟨at_, ?_, hsince⟩, htime⟩
  · show Dict.has ((Dict.get? (t.requestTypeMap.filter fun e => !t.expired now e.1)
      requestId).getD []) messageType = true
    rw [Dict.get?_filter t.requestTypeMap (fun k => !t.expired now k), hnot]
    exact hseen
  · show Dict.get? (t.requestTimestamps.filter fun e => !t.expired now e.1) requestId = _
    rw [Dict.get?_filter t.requestTimestamps (fun k => !t.expired now k), hnot]
    exact hat

theorem Holds.cleanupIfNeeded {t : TrackingLibrary} {requestId messageType : String}
    {since now expiredAt : ℚ} (h : t.Holds requestId messageType since)
    (hnow : expiredAt ≤ since + 3600) :
    (t.cleanupIfNeeded now expiredAt).Holds requestId messageType since := by
  unfold TrackingLibrary.cleanupIfNeeded
  split
  · obtain ⟨hseen, hkept, htime⟩ := h.cleanupExpired hnow
    exact ⟨hseen, hkept, htime⟩
  · exact h

/-- What a request id was seen with, after a message is recorded. -/
theorem typesOf_recordMessage (t : TrackingLibrary) (now : ℚ) {requestId : String}
    (messageType requestId' : String) (hne : requestId ≠ "") :
    (t.recordMessage now requestId messageType).typesOf requestId' =
      if requestId = requestId' then Dict.set (t.typesOf requestId) messageType
        ((Dict.get? (t.typesOf requestId) messageType).getD 0 + 1)
      else t.typesOf requestId' := by
  rw [recordMessage, if_neg hne, typesOf, Dict.get?_set]
  split
  · rfl
  · rfl

theorem has_recordMessage (t : TrackingLibrary) (now : ℚ) {requestId : String}
    (messageType requestId' messageType' : String) (hne : requestId ≠ "") :
    Dict.has ((t.recordMessage now requestId messageType).typesOf requestId') messageType' =
      (decide (requestId = requestId' ∧ messageType = messageType') ||
        Dict.has (t.typesOf requestId') messageType') := by
  rw [typesOf_recordMessage t now messageType requestId' hne]
  by_cases hid : requestId = requestId'
  · subst hid
    rw [if_pos rfl, Dict.has, Dict.get?_set]
    by_cases htype : messageType = messageType' <;> simp [htype, Dict.has]
  · simp [hid]

/-- A message that is recorded is held from then on. -/
theorem holds_recordMessage {t : TrackingLibrary} (htime : t.expirationTime = 3600) (now : ℚ)
    {requestId : String} (messageType : String) (hne : requestId ≠ "") :
    (t.recordMessage now requestId messageType).Holds requestId messageType now := by
  refine ⟨?_, ⟨now, ?_, le_rfl⟩, ?_⟩
  · rw [has_recordMessage t now messageType requestId messageType hne]
    simp
  · rw [recordMessage, if_neg hne]
    exact Dict.get?_set_self _ _ _
  · rw [recordMessage, if_neg hne]
    exact htime

/-- Recording another message later keeps what is held. -/
theorem Holds.recordMessage {t : TrackingLibrary} {requestId messageType : String} {since now : ℚ}
    (h : t.Holds requestId messageType since) (hnow : since ≤ now) {requestId' : String}
    (messageType' : String) (hne : requestId' ≠ "") :
    (t.recordMessage now requestId' messageType').Holds requestId messageType since := by
  obtain ⟨hseen, ⟨at_, hat, hsince⟩, htime⟩ := h
  refine ⟨?_, ?_, ?_⟩
  · rw [has_recordMessage t now messageType' requestId messageType hne, hseen, Bool.or_true]
  · rw [TrackingLibrary.recordMessage, if_neg hne]
    by_cases hid : requestId' = requestId
    · exact ⟨now, by rw [hid, Dict.get?_set_self], hnow⟩
    · exact ⟨at_, by rw [Dict.get?_set_ne _ _ hid, hat], hsince⟩
  · rw [TrackingLibrary.recordMessage, if_neg hne]
    exact htime

@[simp] theorem cleanupIfNeeded_expirationTime (t : TrackingLibrary) (now expiredAt : ℚ) :
    (t.cleanupIfNeeded now expiredAt).expirationTime = t.expirationTime := by
  unfold cleanupIfNeeded
  split <;> rfl

@[simp] theorem recordMessage_expirationTime (t : TrackingLibrary) (now : ℚ)
    (requestId messageType : String) :
    (t.recordMessage now requestId messageType).expirationTime = t.expirationTime := by
  unfold recordMessage
  split <;> rfl

/-- A cleanup only forgets. -/
theorem has_of_cleanupIfNeeded {t : TrackingLibrary} {now expiredAt : ℚ}
    {requestId messageType : String}
    (h : Dict.has ((t.cleanupIfNeeded now expiredAt).typesOf requestId) messageType = true) :
    Dict.has (t.typesOf requestId) messageType = true := by
  unfold cleanupIfNeeded at h
  split at h
  · change Dict.has ((Dict.get? (t.requestTypeMap.filter fun e => !t.expired expiredAt e.1)
      requestId).getD []) messageType = true at h
    rw [Dict.get?_filter t.requestTypeMap (fun k => !t.expired expiredAt k)] at h
    split at h
    · exact h
    · simp [Dict.has] at h
  · exact h

end TrackingLibrary

end Fmofp.LoopPrevention

/-! `MessageLoopPrevention.process_message`: a call as a step of the service, and what it does to the
tracking library and to the registry. -/

namespace Fmofp.LoopPrevention

open Python

/-- What a service does not change while it runs: its configuration, the names of the commands with
their message types, the categories, and the digest of a message's content. -/
structure Settings where
  config : Config
  commandNames : List (String × String)
  commonCategories : List String
  contentHash : Subject → String

/-- The clock as one call reads it. -/
structure Readings where
  identified : ℚ
  checked : ℚ
  expired : ℚ
  recorded : ℚ
  looked : ℚ
  purged : ℚ
  marked : ℚ
  stamped : ℚ

/-- A call of `process_message`, with the identifiers that `uuid4` makes up during it. -/
structure Call where
  message : Subject
  serviceName : String
  clock : Readings
  uuid : String
  transactionId : String

structure Service where
  tracking : TrackingLibrary
  registry : MessageRegistry

/-- `__init__`, with the clock at `now`. -/
def Service.start (now : ℚ) : Service := ⟨.start now, .start now⟩

def Call.messageId (py : Runtime) (env : Settings) (c : Call) : String :=
  generateMessageId py env.contentHash c.uuid c.clock.identified c.message

def Call.category (py : Runtime) (env : Settings) (c : Call) : String :=
  extractCategory py env.commandNames env.commonCategories c.message

/-- Loop prevention is on for the service and the category of the call. -/
def Call.enabled (py : Runtime) (env : Settings) (c : Call) : Bool :=
  env.config.isServiceEnabled c.serviceName && env.config.isCategoryEnabled (c.category py env)

/-- The request id and the type under which a call is tracked, if both are there. -/
def Call.tracked (py : Runtime) (c : Call) : Option (String × String) :=
  match extractRequestId py c.message with
  | some requestId =>
    let messageType := extractMessageType py c.message
    if requestId ≠ "" ∧ messageType ≠ "" then some (requestId, messageType) else none
  | none => none

/-- The entries that `_add_processing_metadata` puts into the metadata. -/
def processingMetadata (c : Call) (metadata : Message) (keepsTransactionId : Bool) : Message :=
  let m := Dict.set metadata ("_processed_by_" ++ c.serviceName) (.bool true)
  let m := Dict.set m "_processing_timestamp" (.float c.clock.stamped)
  if keepsTransactionId && Dict.has m "transaction_id" then m
  else Dict.set m "transaction_id" (.str c.transactionId)

/-- `_add_processing_metadata`, which raises for metadata that is no dictionary. -/
def addProcessingMetadata (c : Call) : Except Exception Subject :=
  match c.message with
  | .dict entries => match Dict.getD entries "metadata" (.dict []) with
    | .dict metadata =>
      .ok (.dict (Dict.set entries "metadata" (.dict (processingMetadata c metadata true))))
    | _ => .error .typeError
  | .object className attributes => match Dict.getD attributes "metadata" .none with
    | .none =>
      .ok (.object className (Dict.set attributes "metadata" (.dict (processingMetadata c [] false))))
    | .dict metadata => .ok (.object className
        (Dict.set attributes "metadata" (.dict (processingMetadata c metadata false))))
    | _ => .error .typeError
  | .plain => .error .attributeError

abbrev Answer := Except Exception (Bool × Subject)

/-- `process_message` from its look into the registry on. -/
def register (py : Runtime) (env : Settings) (s : Service) (c : Call) : Answer × Service :=
  let registry := s.registry.cleanupIfNeeded c.clock.looked c.clock.purged
  if registry.isProcessed (c.messageId py env) (c.category py env) then
    (.ok (false, c.message), { s with registry := registry })
  else
    let marked := registry.markProcessed c.clock.marked (c.messageId py env) (c.category py env)
    ((addProcessingMetadata c).map fun m => (true, m), { s with registry := marked })

/-- `process_message`. -/
def processMessage (py : Runtime) (env : Settings) (s : Service) (c : Call) : Answer × Service :=
  if !c.enabled py env then (.ok (true, c.message), s)
  else match c.tracked py with
    | none => register py env s c
    | some (requestId, messageType) =>
      let tracking := s.tracking.cleanupIfNeeded c.clock.checked c.clock.expired
      if tracking.hasSeenMessage requestId messageType &&
          !isStatusOrCompletion py c.message messageType then
        (.ok (false, c.message), { s with tracking := tracking })
      else
        register py env
          { s with tracking := tracking.recordMessage c.clock.recorded requestId messageType } c

/-- The call returned `True`. -/
def Accepted (answer : Answer) : Prop := ∃ m, answer = .ok (true, m)

/-- The call returned `False`. -/
def Rejected (answer : Answer) : Prop := ∃ m, answer = .ok (false, m)

instance : DecidablePred Accepted
  | .ok (true, m) => .isTrue ⟨m, rfl⟩
  | .ok (false, _) => .isFalse fun ⟨_, h⟩ => by cases h
  | .error _ => .isFalse fun ⟨_, h⟩ => by cases h

instance : DecidablePred Rejected
  | .ok (false, m) => .isTrue ⟨m, rfl⟩
  | .ok (true, _) => .isFalse fun ⟨_, h⟩ => by cases h
  | .error _ => .isFalse fun ⟨_, h⟩ => by cases h

@[simp] theorem register_tracking (py : Runtime) (env : Settings) (s : Service) (c : Call) :
    (register py env s c).2.tracking = s.tracking := by
  unfold register
  simp only
  split <;> rfl

theorem tracked_ne {py : Runtime} {c : Call} {requestId messageType : String}
    (h : c.tracked py = some (requestId, messageType)) : requestId ≠ "" ∧ messageType ≠ "" := by
  unfold Call.tracked at h
  split at h
  · simp only at h
    split at h
    · rename_i hne
      cases h
      exact hne
    · cases h
  · cases h

/-- What a call does to the tracking library. -/
theorem processMessage_tracking (py : Runtime) (env : Settings) (s : Service) (c : Call) :
    (processMessage py env s c).2.tracking = s.tracking ∨
      (processMessage py env s c).2.tracking =
        s.tracking.cleanupIfNeeded c.clock.checked c.clock.expired ∨
      ∃ requestId messageType, c.tracked py = some (requestId, messageType) ∧
        (processMessage py env s c).2.tracking =
          (s.tracking.cleanupIfNeeded c.clock.checked c.clock.expired).recordMessage
            c.clock.recorded requestId messageType := by
  unfold processMessage
  split
  · exact .inl rfl
  · split
    · exact .inl (register_tracking py env s c)
    · rename_i requestId messageType htracked
      simp only
      split
      · exact .inr (.inl rfl)
      · exact .inr (.inr ⟨requestId, messageType, htracked, register_tracking py env _ c⟩)

/-- A tracked call that is accepted had not been seen, unless it is a status or completion message,
and is recorded. -/
theorem accepted_tracked {py : Runtime} {env : Settings} {s : Service} {c : Call}
    {requestId messageType : String} (henabled : c.enabled py env = true)
    (htracked : c.tracked py = some (requestId, messageType))
    (h : Accepted (processMessage py env s c).1) :
    ((s.tracking.cleanupIfNeeded c.clock.checked c.clock.expired).hasSeenMessage requestId
        messageType = false ∨ isStatusOrCompletion py c.message messageType = true) ∧
      (processMessage py env s c).2.tracking =
        (s.tracking.cleanupIfNeeded c.clock.checked c.clock.expired).recordMessage
          c.clock.recorded requestId messageType := by
  obtain ⟨m, hm⟩ := h
  unfold processMessage at hm ⊢
  simp only [henabled, Bool.not_true, Bool.false_eq_true, if_false, htracked] at hm ⊢
  split at hm
  · cases hm
  · rename_i hfree
    rw [if_neg hfree]
    refine ⟨?_, register_tracking py env _ c⟩
    simp only [Bool.and_eq_true, Bool.not_eq_true', not_and, Bool.not_eq_false] at hfree
    cases hseen : (s.tracking.cleanupIfNeeded c.clock.checked c.clock.expired).hasSeenMessage
        requestId messageType with
    | false => exact .inl rfl
    | true => exact .inr (hfree hseen)

end Fmofp.LoopPrevention
