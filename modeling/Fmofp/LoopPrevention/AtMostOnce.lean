import Fmofp.LoopPrevention.Service

/-! A request id and type are accepted at most once within the expiration time of the tracking
library, whatever cleanups and other calls come in between. -/

namespace Fmofp.LoopPrevention

open Python Machine

def Readings.Ordered (r : Readings) : Prop :=
  r.identified ≤ r.checked ∧ r.checked ≤ r.expired ∧ r.expired ≤ r.recorded ∧
    r.recorded ≤ r.looked ∧ r.looked ≤ r.purged ∧ r.purged ≤ r.marked ∧ r.marked ≤ r.stamped

instance (r : Readings) : Decidable r.Ordered := inferInstanceAs (Decidable (_ ∧ _))

/-- The clock does not go back, within a call or from one to the next. -/
def NonDecreasing (calls : List Call) : Prop :=
  (∀ c ∈ calls, c.clock.Ordered) ∧
    calls.Pairwise fun a b => a.clock.stamped ≤ b.clock.identified

/-- `str` of a value that is no text is never empty. -/
def PrintsValues (py : Runtime) : Prop := ∀ v, py.strOther v ≠ ""

theorem firstFound_truthy {found : List (Except Exception Value)} {v : Value}
    (h : firstFound found = some v) : v.truthy = true := by
  induction found with
  | nil => cases h
  | cons r rest ih =>
    cases r with
    | error e => exact ih h
    | ok w =>
      rw [firstFound] at h
      split at h
      · rename_i htruthy
        cases h
        exact htruthy
      · exact ih h

theorem str_ne_empty {py : Runtime} (hpy : PrintsValues py) {v : Value} (h : v.truthy = true) :
    py.str v ≠ "" := by
  cases v with
  | str s => exact of_decide_eq_true h
  | _ => exact hpy _

theorem extractMessageType_ne_empty {py : Runtime} (hpy : PrintsValues py) (m : Subject) :
    extractMessageType py m ≠ "" := by
  unfold extractMessageType
  split
  · decide
  · rename_i v hv
    have hplain := str_ne_empty hpy (firstFound_truthy hv)
    unfold weatherRadarType
    split_ifs
    · exact show "weather_radarModeChangeCompletion" ≠ "" by decide
    · exact hplain
    · exact show "weather_radarCommand" ≠ "" by decide
    · exact show "weather_radarStatus" ≠ "" by decide
    · exact hplain
    · exact hplain

/-- A message with a request id is tracked under it and its normalised type. -/
theorem tracked_of_extracted {py : Runtime} (hpy : PrintsValues py) {c : Call} {requestId : String}
    (h : extractRequestId py c.message = some requestId) :
    c.tracked py = some (requestId, extractMessageType py c.message) := by
  have hne : requestId ≠ "" := by
    obtain ⟨v, hv, rfl⟩ := Option.map_eq_some_iff.mp h
    exact str_ne_empty hpy (firstFound_truthy hv)
  rw [Call.tracked, h]
  exact if_pos ⟨hne, extractMessageType_ne_empty hpy c.message⟩

/-- A call keeps what is held, or comes after it expired. -/
theorem holds_step {py : Runtime} {env : Settings} {s : Service} {c : Call}
    {requestId messageType : String} {since : ℚ}
    (h : s.tracking.Holds requestId messageType since) (hordered : c.clock.Ordered)
    (hsince : since ≤ c.clock.identified) (hwithin : c.clock.expired ≤ since + 3600) :
    (processMessage py env s c).2.tracking.Holds requestId messageType since := by
  obtain ⟨h1, h2, h3, -⟩ := hordered
  have hclean : (s.tracking.cleanupIfNeeded c.clock.checked c.clock.expired).Holds requestId
      messageType since := h.cleanupIfNeeded hwithin
  rcases processMessage_tracking py env s c with hsame | hsame | ⟨id, type, htracked, hsame⟩
  · rw [hsame]
    exact h
  · rw [hsame]
    exact hclean
  · rw [hsame]
    exact hclean.recordMessage (by linarith) type (tracked_ne htracked).1

/-- A run of calls keeps what is held, unless the clock passes its expiration. -/
theorem holds_run (py : Runtime) (env : Settings) {s : Service} {calls : List Call} {requestId messageType : String}
    {since : ℚ} (h : s.tracking.Holds requestId messageType since) (hclock : NonDecreasing calls)
    (hsince : ∀ c ∈ calls, since ≤ c.clock.identified)
    (hwithin : ∀ c ∈ calls, c.clock.expired ≤ since + 3600) :
    (final (processMessage py env) s calls).tracking.Holds requestId messageType since := by
  induction calls generalizing s with
  | nil => exact h
  | cons c rest ih =>
    obtain ⟨hordered, hpairs⟩ := hclock
    refine ih ?_ ⟨fun d hd => hordered d (by simp [hd]), (List.pairwise_cons.mp hpairs).2⟩
      (fun d hd => hsince d (by simp [hd])) (fun d hd => hwithin d (by simp [hd]))
    exact holds_step h (hordered c (by simp)) (hsince c (by simp)) (hwithin c (by simp))

theorem expirationTime_run (py : Runtime) (env : Settings) (start : ℚ) (calls : List Call) :
    (final (processMessage py env) (.start start) calls).tracking.expirationTime = 3600 := by
  have hstep : ∀ (s : Service) (c : Call), s.tracking.expirationTime = 3600 →
      (processMessage py env s c).2.tracking.expirationTime = 3600 := by
    intro s c hs
    rcases processMessage_tracking py env s c with h | h | ⟨id, type, -, h⟩
    · rw [h, hs]
    · rw [h, TrackingLibrary.cleanupIfNeeded_expirationTime, hs]
    · rw [h, TrackingLibrary.recordMessage_expirationTime,
        TrackingLibrary.cleanupIfNeeded_expirationTime, hs]
  exact invariant_reachable hstep (s := .start start) rfl ⟨calls, rfl⟩

/-- Two accepted calls with one request id and one type, the later one neither a status nor a
completion message, were recorded more than 3600 s apart. -/
theorem accepted_more_than_expiration_apart (py : Runtime) (hpy : PrintsValues py) (env : Settings)
    (start : ℚ) (before between : List Call) (first second : Call)
    (hclock : NonDecreasing (before ++ first :: (between ++ [second])))
    (hfirst : first.enabled py env = true) (hsecond : second.enabled py env = true)
    (requestId messageType : String)
    (hid : extractRequestId py first.message = some requestId)
    (hid' : extractRequestId py second.message = some requestId)
    (htype : extractMessageType py first.message = messageType)
    (htype' : extractMessageType py second.message = messageType)
    (hordinary : isStatusOrCompletion py second.message messageType = false)
    (haccepted : Accepted (processMessage py env
      (final (processMessage py env) (.start start) before) first).1)
    (haccepted' : Accepted (processMessage py env
      (final (processMessage py env) (.start start) (before ++ first :: between)) second).1) :
    first.clock.recorded + 3600 < second.clock.recorded := by
  by_contra hsoon
  rw [not_lt] at hsoon
  obtain ⟨hordered, hpairs⟩ := hclock
  obtain ⟨-, hafter, -⟩ := List.pairwise_append.mp hpairs
  obtain ⟨hnext, hpairs⟩ := List.pairwise_cons.mp hafter
  obtain ⟨hpairs, -, hlast⟩ := List.pairwise_append.mp hpairs
  have hsecondOrdered := hordered second (by simp)
  obtain ⟨h1, h2, h3, h4, h5, h6, h7⟩ := hordered first (by simp)
  obtain ⟨g1, g2, g3, -⟩ := hsecondOrdered
  have htracked := tracked_of_extracted hpy hid
  have htracked' := tracked_of_extracted hpy hid'
  rw [htype] at htracked
  rw [htype'] at htracked'
  set s := final (processMessage py env) (.start start) before with hs
  have hrecorded := (accepted_tracked hfirst htracked haccepted).2
  have htime : s.tracking.expirationTime = 3600 := expirationTime_run py env start before
  have hheld : (processMessage py env s first).2.tracking.Holds requestId messageType
      first.clock.recorded := by
    rw [hrecorded]
    refine TrackingLibrary.holds_recordMessage ?_ _ _ (tracked_ne htracked).1
    rw [TrackingLibrary.cleanupIfNeeded_expirationTime, htime]
  have hbetween : ∀ c ∈ between, first.clock.recorded ≤ c.clock.identified ∧
      c.clock.expired ≤ first.clock.recorded + 3600 := by
    intro c hc
    have hfrom := hnext c (by simp [hc])
    have hto := hlast c hc second (by simp)
    obtain ⟨c1, c2, c3, c4, c5, c6, c7⟩ := hordered c (by simp [hc])
    constructor <;> linarith
  have hkept := holds_run py env hheld
    ⟨fun c hc => hordered c (by simp [hc]), hpairs⟩ (fun c hc => (hbetween c hc).1)
    (fun c hc => (hbetween c hc).2)
  rw [final_append, final_cons, ← hs] at haccepted'
  have hclean : (TrackingLibrary.cleanupIfNeeded _ second.clock.checked second.clock.expired).Holds
      requestId messageType first.clock.recorded := hkept.cleanupIfNeeded (by linarith)
  have hseen : ((final (processMessage py env) (processMessage py env s first).2
      between).tracking.cleanupIfNeeded second.clock.checked second.clock.expired).hasSeenMessage
        requestId messageType = true := by
    rw [TrackingLibrary.hasSeenMessage, hclean.seen, Bool.and_true]
    exact decide_eq_true (tracked_ne htracked).1
  rcases (accepted_tracked hsecond htracked' haccepted').1 with hunseen | hstatus
  · rw [hseen] at hunseen
    cases hunseen
  · rw [hordinary] at hstatus
    cases hstatus

/-- A call with every reading of the clock at `now`. -/
def callAt (now : ℚ) (entries : Message) : Call where
  message := .dict entries
  serviceName := "radar_handler"
  clock := ⟨now, now, now, now, now, now, now, now⟩
  uuid := "0f0e"
  transactionId := "0a0b"

/-- Loop prevention as it is configured by default, for messages that no category is in. -/
def openSettings : Settings where
  config := { enabled := .bool true, services := [], categories := [] }
  commandNames := []
  commonCategories := []
  contentHash _ := "d41d"

def printingRuntime : Runtime := { Runtime.ascii with strOther := fun _ => "value" }

theorem repeated_after_expiration :
    (callAt 0 [("request_id", .str "r1"), ("message_type", .str "tfr_radarData")]).clock.recorded +
        3600 <
      (callAt 4000 [("request_id", .str "r1"),
        ("message_type", .str "tfr_radarData")]).clock.recorded :=
  accepted_more_than_expiration_apart printingRuntime (fun _ => show "value" ≠ "" by decide) openSettings 0 [] []
    (callAt 0 [("request_id", .str "r1"), ("message_type", .str "tfr_radarData")])
    (callAt 4000 [("request_id", .str "r1"), ("message_type", .str "tfr_radarData")])
    ⟨by decide +kernel, by decide +kernel⟩ (by decide +kernel) (by decide +kernel) "r1"
    "tfr_radarData" (by decide +kernel) (by decide +kernel) (by decide +kernel) (by decide +kernel)
    (by decide +kernel) (by decide +kernel) (by decide +kernel)

end Fmofp.LoopPrevention
