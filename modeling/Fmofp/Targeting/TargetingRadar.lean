import Fmofp.Fusion.Tracks
import Fmofp.Machine.Run

/-! The targeting radar: its table of targets, the lock on one of them, and the operations that change
them.  The clock, the random draws and what the signature analysis finds are inputs of the calls. -/

namespace Fmofp.Targeting

open Python Fusion

/-- The functions of `numpy` that the geometry calls. -/
structure NumPy where
  sqrt : ℚ → ℚ
  log10 : ℚ → ℚ

/-- `targeting_radarMode`; its aliases are the same members. -/
inductive TargetingRadarMode
  | initializing
  | standby
  | normal
  | degraded
  | test
  | maintenance
  | emergency
  | failure
  | recovery
  | calibration
  | targetSearch
  | targetTrack
  | lock
  | terrainAvoidance
  | groundMapping
  deriving Repr, DecidableEq

namespace TargetingRadarMode

def value : TargetingRadarMode → ℤ
  | initializing => -1
  | standby => 0
  | normal => 1
  | degraded => 2
  | test => 3
  | maintenance => 4
  | emergency => 5
  | failure => 6
  | recovery => 7
  | calibration => 8
  | targetSearch => 40
  | targetTrack => 41
  | lock => 42
  | terrainAvoidance => 43
  | groundMapping => 25

def all : List TargetingRadarMode :=
  [initializing, standby, normal, degraded, test, maintenance, emergency, failure, recovery,
    calibration, targetSearch, targetTrack, lock, terrainAvoidance, groundMapping]

/-- `targeting_radarMode(value)`. -/
def ofValue? (n : ℤ) : Option TargetingRadarMode := all.find? fun mode => mode.value = n

end TargetingRadarMode

structure Target where
  position : Vec
  velocity : Vec
  acceleration : Vec
  classification : String
  snr : ℚ
  lastUpdate : ℚ
  deriving Repr, DecidableEq

structure TargetingRadar where
  mode : TargetingRadarMode := .standby
  running : Bool := false
  currentTargets : Dict ℤ Target := []
  nextTrackId : ℤ := 1
  lockedTrackId : Option ℤ := none
  lockQuality : ℚ := 0
  jammingDetected : Bool := false
  deriving Repr, DecidableEq

/-- In metres. -/
def maxRange : ℚ := 100000

/-- What one call of `_update_targets` draws: the clock, the chance of a new target, the target that
`_generate_target` makes up, and the chance of jamming. -/
structure Draws where
  currentTime : ℚ
  newTarget : ℚ
  generated : Target
  jamming : ℚ

/-- What `set_mode` is called with: a member of the enumeration, an integer, or anything else. -/
inductive ModeArgument
  | member (mode : TargetingRadarMode)
  | int (n : ℤ)
  | other
  deriving Repr, DecidableEq

/-- The mode that the argument of `set_mode` stands for, if it is not refused. -/
def ModeArgument.mode? : ModeArgument → Option TargetingRadarMode
  | .member mode => some mode
  | .int n => TargetingRadarMode.ofValue? n
  | .other => none

/-- `int(data, 2)`, where it does not raise. -/
def trackIdOf (py : Runtime) : Value → Option ℤ
  | .str text => (py.intBase2 text).toOption
  | _ => none

/-- The lock quality for a signal-to-noise ratio. -/
def qualityOf (snr : ℚ) : ℚ := min 1 (snr / 30)

/-- The target moved on to the time of the update. -/
def Target.moved (target : Target) (currentTime : ℚ) : Target :=
  let dt := currentTime - target.lastUpdate
  let velocity := target.velocity.add (target.acceleration.scale dt)
  { target with
    position := target.position.add ((target.velocity.add velocity).scale (1 / 2 * dt))
    velocity := velocity
    lastUpdate := currentTime }

namespace TargetingRadar

variable (np : NumPy)

/-- One target of the loop in `_update_targets`: it moves, or it goes out of range. -/
def moveTarget (currentTime : ℚ) (radar : TargetingRadar) (e : ℤ × Target) : TargetingRadar :=
  let target := e.2.moved currentTime
  let range := np.sqrt target.position.normSq
  if range > maxRange then
    let unlocked :=
      if radar.lockedTrackId = some e.1 then { radar with lockedTrackId := none, lockQuality := 0 }
      else radar
    { unlocked with currentTargets := Dict.erase unlocked.currentTargets e.1 }
  else
    let snr := 30 - 20 * np.log10 (range / 1000)
    { radar with currentTargets := Dict.set radar.currentTargets e.1 { target with snr } }

def moveTargets (currentTime : ℚ) (radar : TargetingRadar) : TargetingRadar :=
  radar.currentTargets.foldl (moveTarget np currentTime) radar

/-- A new target, by chance, in search mode. -/
def addTarget (draws : Draws) (radar : TargetingRadar) : TargetingRadar :=
  if radar.mode = .targetSearch ∧ radar.currentTargets.length < 5 ∧ draws.newTarget < 1 / 10 then
    { radar with
      currentTargets := Dict.set radar.currentTargets radar.nextTrackId draws.generated
      nextTrackId := radar.nextTrackId + 1 }
  else radar

def updateLock (draws : Draws) (radar : TargetingRadar) : TargetingRadar :=
  match radar.lockedTrackId.bind (Dict.get? radar.currentTargets) with
  | some target =>
    { radar with lockQuality := qualityOf target.snr, jammingDetected := draws.jamming < 5 / 100 }
  | none => radar

/-- `_update_targets`. -/
def updateTargets (draws : Draws) (radar : TargetingRadar) : TargetingRadar :=
  updateLock draws (addTarget draws (moveTargets np draws.currentTime radar))

/-- `_run_target_processing`: the classification that the analysis finds, where it does not fail. -/
def runTargetProcessing (signature : ℤ → Option String) (radar : TargetingRadar) : TargetingRadar :=
  { radar with
    currentTargets := radar.currentTargets.map fun e =>
      (e.1, { e.2 with classification := (signature e.1).getD e.2.classification }) }

/-- `start`. -/
def start (radar : TargetingRadar) : TargetingRadar :=
  if radar.running then radar else { radar with running := true, mode := .standby }

/-- `stop`. -/
def stop (radar : TargetingRadar) : TargetingRadar :=
  if radar.running then { radar with running := false, mode := .standby } else radar

/-- `set_mode`, with what it returns. -/
def setMode (mode : ModeArgument) (radar : TargetingRadar) : Bool × TargetingRadar :=
  match mode.mode? with
  | none => (false, radar)
  | some mode =>
    (true,
      if mode = .standby then
        { radar with mode, currentTargets := [], lockedTrackId := none, lockQuality := 0 }
      else { radar with mode })

/-- `_handle_lock_request`; `data` is the data of the message. -/
def handleLockRequest (py : Runtime) (data : Value) (radar : TargetingRadar) : TargetingRadar :=
  if radar.mode ≠ .targetTrack then radar
  else
    match trackIdOf py data with
    | some trackId =>
      match Dict.get? radar.currentTargets trackId with
      | some target =>
        { radar with lockedTrackId := some trackId, lockQuality := qualityOf target.snr }
      | none => radar
    | none => radar

/-- `_handle_track_request`, as far as it changes the radar. -/
def handleTrackRequest (draws : Draws) (signature : ℤ → Option String) (radar : TargetingRadar) :
    TargetingRadar :=
  if radar.mode = .standby then radar
  else runTargetProcessing signature (updateTargets np draws radar)

end TargetingRadar

inductive Action
  | start
  | stop
  | setMode (mode : ModeArgument)
  | updateTargets (draws : Draws)
  | handleLockRequest (data : Value)
  | handleTrackRequest (draws : Draws) (signature : ℤ → Option String)

/-- One call; the calls follow each other. -/
def step (np : NumPy) (py : Runtime) (radar : TargetingRadar) : Action → Unit × TargetingRadar
  | .start => ((), radar.start)
  | .stop => ((), radar.stop)
  | .setMode mode => ((), (radar.setMode mode).2)
  | .updateTargets draws => ((), radar.updateTargets np draws)
  | .handleLockRequest data => ((), radar.handleLockRequest py data)
  | .handleTrackRequest draws signature => ((), radar.handleTrackRequest np draws signature)

end Fmofp.Targeting

/-! What holds of the targets in every run: the lock is on a target of the table, and ids are never used
again.  In standby there are no targets if the radar is started and stopped with an empty table only:
`start` and `stop` set the mode without clearing it. -/

namespace Fmofp.Targeting

open Python Fusion Machine

namespace TargetingRadar

/-- The lock is on a target of the table, and each id is below the next one. -/
structure Sound (radar : TargetingRadar) : Prop where
  locked : ∀ trackId ∈ radar.lockedTrackId, Dict.has radar.currentTargets trackId = true
  below : ∀ e ∈ radar.currentTargets, e.1 < radar.nextTrackId

/-- There is nothing to see in standby. -/
def QuietInStandby (radar : TargetingRadar) : Prop :=
  radar.mode = .standby → radar.currentTargets = [] ∧ radar.lockedTrackId = none

/-- The invariant of the tracks. -/
def TracksOk (radar : TargetingRadar) : Prop := radar.Sound ∧ radar.QuietInStandby

variable {np : NumPy} {py : Runtime} {radar : TargetingRadar}

/-! ### The update -/

variable (np) in
/-- One target of the loop: mode and next id stay as they are. -/
theorem moveTarget_sound (h : radar.Sound) (currentTime : ℚ) {e : ℤ × Target}
    (he : e.1 < radar.nextTrackId) :
    (radar.moveTarget np currentTime e).Sound ∧
      (radar.moveTarget np currentTime e).nextTrackId = radar.nextTrackId ∧
      (radar.moveTarget np currentTime e).mode = radar.mode := by
  rw [moveTarget]
  dsimp only
  split_ifs with hrange hlocked
  · refine ⟨⟨fun trackId htrack => (nomatch htrack), fun e' he' => ?_⟩, rfl, rfl⟩
    exact h.below e' (List.mem_of_mem_filter he')
  · refine ⟨⟨fun trackId htrack => ?_, fun e' he' => ?_⟩, rfl, rfl⟩
    · have hne : e.1 ≠ trackId := by
        rintro rfl
        exact hlocked htrack
      rw [Dict.has, Dict.get?_erase_ne _ hne]
      exact h.locked trackId htrack
    · exact h.below e' (List.mem_of_mem_filter he')
  · refine ⟨⟨fun trackId htrack => Dict.has_set_of_has (h.locked trackId htrack) _ _,
      fun e' he' => ?_⟩, rfl, rfl⟩
    rcases Dict.mem_set he' with rfl | he'
    · exact he
    · exact h.below e' he'

variable (np) in
theorem foldl_moveTarget_sound (currentTime : ℚ) (targets : Dict ℤ Target) (h : radar.Sound)
    (htargets : ∀ e ∈ targets, e.1 < radar.nextTrackId) :
    (targets.foldl (moveTarget np currentTime) radar).Sound ∧
      (targets.foldl (moveTarget np currentTime) radar).mode = radar.mode := by
  induction targets generalizing radar with
  | nil => exact ⟨h, rfl⟩
  | cons e targets ih =>
    obtain ⟨hsound, hnext, hmode⟩ := moveTarget_sound np h currentTime
      (htargets e List.mem_cons_self)
    have hrest := ih hsound fun e' he' => hnext ▸ htargets e' (List.mem_cons_of_mem _ he')
    exact ⟨hrest.1, hrest.2.trans hmode⟩

theorem addTarget_sound (h : radar.Sound) (draws : Draws) :
    (radar.addTarget draws).Sound ∧ (radar.addTarget draws).mode = radar.mode := by
  rw [addTarget]
  split_ifs
  · refine ⟨⟨fun trackId htrack => Dict.has_set_of_has (h.locked trackId htrack) _ _,
      fun e he => ?_⟩, rfl⟩
    rcases Dict.mem_set he with rfl | he
    · exact lt_add_one _
    · exact (h.below e he).trans (lt_add_one _)
  · exact ⟨h, rfl⟩

theorem updateLock_sound (h : radar.Sound) (draws : Draws) :
    (radar.updateLock draws).Sound ∧ (radar.updateLock draws).mode = radar.mode := by
  rw [updateLock]
  split
  · exact ⟨⟨h.locked, h.below⟩, rfl⟩
  · exact ⟨h, rfl⟩

variable (np) in
theorem updateTargets_sound (h : radar.Sound) (draws : Draws) :
    (radar.updateTargets np draws).Sound ∧ (radar.updateTargets np draws).mode = radar.mode := by
  obtain ⟨hmoved, hmovedMode⟩ := foldl_moveTarget_sound np draws.currentTime
    radar.currentTargets h h.below
  obtain ⟨hadded, haddedMode⟩ := addTarget_sound hmoved draws
  obtain ⟨hlock, hlockMode⟩ := updateLock_sound hadded draws
  exact ⟨hlock, hlockMode.trans (haddedMode.trans hmovedMode)⟩

/-- An empty table stays empty, unless the radar is searching. -/
theorem updateTargets_standby (hmode : radar.mode = .standby) (hempty : radar.currentTargets = [])
    (hlock : radar.lockedTrackId = none) (draws : Draws) : radar.updateTargets np draws = radar := by
  rw [updateTargets, moveTargets, hempty, List.foldl_nil, addTarget, if_neg (by simp [hmode]),
    updateLock, hlock]
  rfl

theorem runTargetProcessing_sound (h : radar.Sound) (signature : ℤ → Option String) :
    (radar.runTargetProcessing signature).Sound := by
  constructor
  · intro trackId htrack
    have hknown := h.locked trackId htrack
    rw [Dict.has, Option.isSome_iff_ne_none, ne_eq, Dict.get?_eq_none_iff, not_not] at hknown ⊢
    rw [runTargetProcessing, List.map_map]
    exact hknown
  · intro e he
    obtain ⟨e', he', rfl⟩ := List.mem_map.mp he
    exact h.below e' he'

/-! ### One call -/

theorem setMode_sound (h : radar.Sound) (mode : ModeArgument) : (radar.setMode mode).2.Sound := by
  rw [setMode]
  split
  · exact h
  · dsimp only
    split_ifs
    · exact ⟨fun trackId htrack => (nomatch htrack), fun e he => (nomatch he)⟩
    · exact ⟨h.locked, h.below⟩

theorem handleLockRequest_sound (h : radar.Sound) (data : Value) :
    (radar.handleLockRequest py data).Sound ∧ (radar.handleLockRequest py data).mode = radar.mode := by
  rw [handleLockRequest]
  split_ifs
  · exact ⟨h, rfl⟩
  · split
    · split
      · rename_i trackId _ _ target hget
        refine ⟨⟨fun trackId' htrack => ?_, h.below⟩, rfl⟩
        rw [Option.mem_some] at htrack
        exact htrack ▸ Dict.has_iff.mpr ⟨target, hget⟩
      · exact ⟨h, rfl⟩
    · exact ⟨h, rfl⟩

theorem handleTrackRequest_sound (h : radar.Sound) (draws : Draws) (signature : ℤ → Option String) :
    (radar.handleTrackRequest np draws signature).Sound ∧
      (radar.handleTrackRequest np draws signature).mode = radar.mode := by
  rw [handleTrackRequest]
  split_ifs
  · exact ⟨h, rfl⟩
  · obtain ⟨hsound, hmode⟩ := updateTargets_sound np h draws
    exact ⟨runTargetProcessing_sound hsound signature, hmode⟩

end TargetingRadar

open TargetingRadar

section

variable {np : NumPy} {py : Runtime} {radar : TargetingRadar}

theorem step_sound (h : radar.Sound) (action : Action) : (step np py radar action).2.Sound := by
  cases action with
  | start =>
    rw [step, TargetingRadar.start]
    split_ifs
    · exact h
    · exact ⟨h.locked, h.below⟩
  | stop =>
    rw [step, TargetingRadar.stop]
    split_ifs
    · exact ⟨h.locked, h.below⟩
    · exact h
  | setMode mode => exact setMode_sound h mode
  | updateTargets draws => exact (updateTargets_sound _ h draws).1
  | handleLockRequest data => exact (handleLockRequest_sound h data).1
  | handleTrackRequest draws signature => exact (handleTrackRequest_sound h draws signature).1

/-- A call that starts or stops the radar finds no targets. -/
def FindsNoTargets (radar : TargetingRadar) : Action → Prop
  | .start => radar.running = false → radar.currentTargets = []
  | .stop => radar.running = true → radar.currentTargets = []
  | _ => True

instance (radar : TargetingRadar) : ∀ action, Decidable (FindsNoTargets radar action)
  | .start | .stop => inferInstanceAs (Decidable (_ → _))
  | .setMode _ | .updateTargets _ | .handleLockRequest _ | .handleTrackRequest _ _ => .isTrue trivial

/-- A lock needs a target. -/
theorem TargetingRadar.Sound.unlocked (h : radar.Sound) (hempty : radar.currentTargets = []) :
    radar.lockedTrackId = none := by
  cases hlocked : radar.lockedTrackId with
  | none => rfl
  | some trackId =>
    have hknown := h.locked trackId hlocked
    rw [hempty] at hknown
    cases hknown

theorem step_tracksOk (h : radar.TracksOk) {action : Action} (hfinds : FindsNoTargets radar action) :
    (step np py radar action).2.TracksOk := by
  obtain ⟨hsound, hquiet⟩ := h
  refine ⟨step_sound hsound action, ?_⟩
  cases action with
  | start =>
    rw [step, TargetingRadar.start]
    split_ifs with hrunning
    · exact hquiet
    · have hempty := hfinds (Bool.not_eq_true _ ▸ hrunning)
      exact fun _ => ⟨hempty, hsound.unlocked hempty⟩
  | stop =>
    rw [step, TargetingRadar.stop]
    split_ifs with hrunning
    · exact fun _ => ⟨hfinds hrunning, hsound.unlocked (hfinds hrunning)⟩
    · exact hquiet
  | setMode mode =>
    rw [step, TargetingRadar.setMode]
    split
    · exact hquiet
    · rename_i newMode _
      dsimp only
      split_ifs with hstandby
      · exact fun _ => ⟨rfl, rfl⟩
      · exact fun hmode => absurd hmode hstandby
  | updateTargets draws =>
    intro hmode
    have hbefore : radar.mode = .standby := (updateTargets_sound _ hsound draws).2 ▸ hmode
    obtain ⟨hempty, hlock⟩ := hquiet hbefore
    rw [step, updateTargets_standby hbefore hempty hlock]
    exact ⟨hempty, hlock⟩
  | handleLockRequest data =>
    intro hmode
    have hbefore : radar.mode = .standby := (handleLockRequest_sound hsound data).2 ▸ hmode
    rw [step, handleLockRequest, if_pos (by simp [hbefore])]
    exact hquiet hbefore
  | handleTrackRequest draws signature =>
    intro hmode
    have hbefore : radar.mode = .standby := (handleTrackRequest_sound hsound draws signature).2 ▸ hmode
    rw [step, handleTrackRequest, if_pos hbefore]
    exact hquiet hbefore

/-- A call that starts or stops the radar with targets leaves them there, in standby. -/
theorem step_not_tracksOk {action : Action} (hfinds : ¬ FindsNoTargets radar action) :
    ¬ (step np py radar action).2.TracksOk := by
  cases action with
  | start =>
    rw [FindsNoTargets, Classical.not_imp] at hfinds
    obtain ⟨hrunning, htargets⟩ := hfinds
    rintro ⟨-, hquiet⟩
    rw [step, TargetingRadar.start, if_neg (by simp [hrunning])] at hquiet
    exact htargets (hquiet rfl).1
  | stop =>
    rw [FindsNoTargets, Classical.not_imp] at hfinds
    obtain ⟨hrunning, htargets⟩ := hfinds
    rintro ⟨-, hquiet⟩
    rw [step, TargetingRadar.stop, if_pos hrunning] at hquiet
    exact htargets (hquiet rfl).1
  | setMode _ => exact absurd trivial hfinds
  | updateTargets _ => exact absurd trivial hfinds
  | handleLockRequest _ => exact absurd trivial hfinds
  | handleTrackRequest _ _ => exact absurd trivial hfinds

theorem new_tracksOk : TracksOk {} :=
  ⟨⟨fun _ h => (nomatch h), fun _ h => (nomatch h)⟩, fun _ => ⟨rfl, rfl⟩⟩

end

/-- In every run the lock is on a target of the table and the ids are below the next one; in standby
there are no targets, throughout the run, if and only if the radar is started and stopped with an empty
table only. -/
theorem tracks_ok_iff (np : NumPy) (py : Runtime) (actions : List Action) :
    (final (step np py) {} actions).Sound ∧
      ((∀ before, before <+: actions → (final (step np py) {} before).TracksOk) ↔
        Along (step np py) FindsNoTargets {} actions) := by
  constructor
  · exact invariant_final Sound (fun _ action h => step_sound h action) new_tracksOk.1 actions
  · have hstep : ∀ radar action, TracksOk radar → FindsNoTargets radar action →
        TracksOk (step np py radar action).2 := fun _ _ h hfinds => step_tracksOk h hfinds
    have hexact : ∀ radar action, TracksOk radar → ¬ FindsNoTargets radar action →
        ¬ TracksOk (step np py radar action).2 := fun _ _ _ hfinds => step_not_tracksOk hfinds
    exact (along_iff_of_exact hstep (fun _ h => h) hexact new_tracksOk actions).symm

/-- A target that the radar makes up at 10 kilometres. -/
def drawn : Draws where
  currentTime := 0
  newTarget := 0
  generated := ⟨⟨10000, 0, 0⟩, ⟨100, 0, 0⟩, ⟨0, 0, 0⟩, "UNKNOWN", 20, 0⟩
  jamming := 1

/-- A radar that is stopped while it is searching keeps its target in standby. -/
theorem stopped_with_target :
    ¬ ∀ np py actions, (final (step np py) {} actions).TracksOk := by
  intro h
  have hquiet := (h ⟨id, id⟩ .ascii [.start, .setMode (.member .targetSearch),
    .updateTargets drawn, .stop]).2
  exact absurd (hquiet (by decide +kernel)).1 (by decide +kernel)

end Fmofp.Targeting
