import Fmofp.LoopPrevention.AtMostOnce

/-! Which earlier messages can make the service reject one.  Types are compared after they are
normalised, so two messages of different types may be taken for the same. -/

namespace Fmofp.LoopPrevention

open Python Machine

/-- Every tracked type and every kept id comes from one of the calls. -/
structure Recorded (py : Runtime) (env : Settings) (s : Service) (calls : List Call) : Prop where
  tracking : ∀ requestId messageType,
    Dict.has (s.tracking.typesOf requestId) messageType = true →
      ∃ d ∈ calls, d.tracked py = some (requestId, messageType)
  registry : ∀ messageId, s.registry.Keeps messageId → ∃ d ∈ calls, d.messageId py env = messageId

theorem recorded_start (py : Runtime) (env : Settings) (now : ℚ) :
    Recorded py env (.start now) [] := by
  constructor
  · intro requestId messageType h
    simp [Service.start, TrackingLibrary.start, TrackingLibrary.typesOf, Dict.has] at h
  · rintro messageId (⟨at_, h⟩ | ⟨e, h, -⟩)
    · simp [Service.start, MessageRegistry.start] at h
    · simp [Service.start, MessageRegistry.start] at h

/-- What a call adds to the registry is its own id. -/
theorem keeps_of_register {py : Runtime} {env : Settings} {s : Service} {c : Call} {messageId : String}
    (h : (register py env s c).2.registry.Keeps messageId) :
    messageId = c.messageId py env ∨ s.registry.Keeps messageId := by
  unfold register at h
  simp only at h
  split at h
  · exact .inr (MessageRegistry.keeps_of_cleanupIfNeeded h)
  · exact (MessageRegistry.keeps_of_markProcessed h).imp_right
      MessageRegistry.keeps_of_cleanupIfNeeded

theorem keeps_of_processMessage {py : Runtime} {env : Settings} {s : Service} {c : Call}
    {messageId : String} (h : (processMessage py env s c).2.registry.Keeps messageId) :
    messageId = c.messageId py env ∨ s.registry.Keeps messageId := by
  unfold processMessage at h
  split at h
  · exact .inr h
  · split at h
    · exact keeps_of_register h
    · simp only at h
      split at h
      · exact .inr h
      · have hkeeps := keeps_of_register h
        exact hkeeps

/-- What a call adds to the tracking library is its own request id and type. -/
theorem has_of_processMessage {py : Runtime} {env : Settings} {s : Service} {c : Call}
    {requestId messageType : String}
    (h : Dict.has ((processMessage py env s c).2.tracking.typesOf requestId) messageType = true) :
    c.tracked py = some (requestId, messageType) ∨
      Dict.has (s.tracking.typesOf requestId) messageType = true := by
  rcases processMessage_tracking py env s c with hsame | hsame | ⟨id, type, htracked, hsame⟩
  · rw [hsame] at h
    exact .inr h
  · rw [hsame] at h
    exact .inr (TrackingLibrary.has_of_cleanupIfNeeded h)
  · rw [hsame, TrackingLibrary.has_recordMessage _ _ _ _ _ (tracked_ne htracked).1,
      Bool.or_eq_true, decide_eq_true_eq] at h
    rcases h with ⟨rfl, rfl⟩ | h
    · exact .inl htracked
    · exact .inr (TrackingLibrary.has_of_cleanupIfNeeded h)

theorem recorded_step {py : Runtime} {env : Settings} {s : Service} {calls : List Call}
    (h : Recorded py env s calls) (c : Call) :
    Recorded py env (processMessage py env s c).2 (calls ++ [c]) := by
  constructor
  · intro requestId messageType hhas
    rcases has_of_processMessage hhas with htracked | hold
    · exact ⟨c, by simp, htracked⟩
    · obtain ⟨d, hd, hdt⟩ := h.tracking requestId messageType hold
      exact ⟨d, by simp [hd], hdt⟩
  · intro messageId hkeeps
    rcases keeps_of_processMessage hkeeps with hown | hold
    · exact ⟨c, by simp, hown.symm⟩
    · obtain ⟨d, hd, hdm⟩ := h.registry messageId hold
      exact ⟨d, by simp [hd], hdm⟩

theorem recorded_run (py : Runtime) (env : Settings) (start : ℚ) (calls : List Call) :
    Recorded py env (final (processMessage py env) (.start start) calls) calls := by
  induction calls using List.reverseRecOn with
  | nil => exact recorded_start py env start
  | append_singleton calls c ih =>
    rw [final_append]
    exact recorded_step ih c

/-- A message is rejected for its request id and type, or for its composite id. -/
theorem rejected_cases {py : Runtime} {env : Settings} {s : Service} {c : Call}
    (h : Rejected (processMessage py env s c).1) :
    (∃ requestId messageType, c.tracked py = some (requestId, messageType) ∧
      isStatusOrCompletion py c.message messageType = false ∧
      Dict.has (s.tracking.typesOf requestId) messageType = true) ∨
    s.registry.Keeps (c.messageId py env) := by
  have hregister : ∀ t : Service, t.registry = s.registry → Rejected (register py env t c).1 →
      s.registry.Keeps (c.messageId py env) := by
    rintro t ht ⟨m, hm⟩
    unfold register at hm
    simp only at hm
    split at hm
    · rename_i hprocessed
      rw [← ht]
      exact MessageRegistry.keeps_of_cleanupIfNeeded
        (MessageRegistry.keeps_of_isProcessed hprocessed)
    · cases hadd : addProcessingMetadata c <;> simp [hadd, Except.map] at hm
  cases henabled : c.enabled py env with
  | false =>
    obtain ⟨m, hm⟩ := h
    simp [processMessage, henabled] at hm
  | true =>
    cases htracked : c.tracked py with
    | none =>
      simp only [processMessage, henabled, htracked, Bool.not_true, Bool.false_eq_true,
        if_false] at h
      exact .inr (hregister s rfl h)
    | some key =>
      obtain ⟨requestId, messageType⟩ := key
      simp only [processMessage, henabled, htracked, Bool.not_true, Bool.false_eq_true,
        if_false] at h
      split at h
      · rename_i hseen
        rw [Bool.and_eq_true, Bool.not_eq_true', TrackingLibrary.hasSeenMessage,
          Bool.and_eq_true] at hseen
        exact .inl ⟨requestId, messageType, rfl, hseen.2,
          TrackingLibrary.has_of_cleanupIfNeeded hseen.1.2⟩
      · exact .inr (hregister _ (by rfl) h)

/-- The service may take `c` for the earlier `d`: it has the same request id and normalised type and
is no status or completion message, or it has the same composite id. -/
def Collides (py : Runtime) (env : Settings) (c d : Call) : Prop :=
  (∃ key ∈ c.tracked py, d.tracked py = some key ∧
    isStatusOrCompletion py c.message key.2 = false) ∨
  c.messageId py env = d.messageId py env

instance (py : Runtime) (env : Settings) (c d : Call) : Decidable (Collides py env c d) :=
  inferInstanceAs (Decidable (_ ∨ _))

/-- In a run where no message collides with an earlier one of another type, a message is rejected
only if an earlier one carries its type. -/
theorem rejected_only_for_own_type (py : Runtime) (env : Settings) (start : ℚ) (calls : List Call)
    (hseparate : calls.Pairwise fun d c => Collides py env c d →
      identifiedType py d.message = identifiedType py c.message) :
    ∀ before c after, calls = before ++ c :: after →
      Rejected (processMessage py env
        (final (processMessage py env) (.start start) before) c).1 →
      ∃ d ∈ before, identifiedType py d.message = identifiedType py c.message := by
  rintro before c after rfl hrejected
  have hpairs := (List.pairwise_append.mp hseparate).2.2
  have hrecorded := recorded_run py env start before
  rcases rejected_cases hrejected with ⟨requestId, messageType, htracked, hordinary, hhas⟩ | hkeeps
  · obtain ⟨d, hd, hdt⟩ := hrecorded.tracking requestId messageType hhas
    exact ⟨d, hd, hpairs d hd c (by simp) (.inl ⟨_, htracked, hdt, hordinary⟩)⟩
  · obtain ⟨d, hd, hdm⟩ := hrecorded.registry _ hkeeps
    exact ⟨d, hd, hpairs d hd c (by simp) (.inr hdm.symm)⟩

/-- A request, its response, and the request again. -/
def repeatedRequest : List Call :=
  [callAt 0 [("request_id", .str "r1"), ("message_type", .str "tfr_radarDataRequest")],
    callAt 1 [("request_id", .str "r1"), ("message_type", .str "tfr_radarDataResponse")],
    callAt 2 [("request_id", .str "r1"), ("message_type", .str "tfr_radarDataRequest")]]

theorem repeated_request_rejected_for_itself :
    ∃ d ∈ repeatedRequest.take 2, identifiedType printingRuntime d.message = "tfr_radarDataRequest" :=
  rejected_only_for_own_type printingRuntime openSettings 0 repeatedRequest (by decide +kernel)
    (repeatedRequest.take 2)
    (callAt 2 [("request_id", .str "r1"), ("message_type", .str "tfr_radarDataRequest")]) [] rfl
    (by decide +kernel)

/-- A weather radar command, and its acknowledgement, which is taken for the command. -/
theorem acknowledgement_rejected :
    Rejected (processMessage printingRuntime openSettings
      (final (processMessage printingRuntime openSettings) (.start 0)
        [callAt 0 [("request_id", .str "r1"), ("message_type", .str "weather_radarCommand")]])
      (callAt 1 [("request_id", .str "r1"),
        ("message_type", .str "weather_radarCommandAcknowledgment")])).1 ∧
      "weather_radarCommand" ≠ "weather_radarCommandAcknowledgment" := by
  decide +kernel

end Fmofp.LoopPrevention
