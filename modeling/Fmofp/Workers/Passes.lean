import Fmofp.Fuel.FuelMonitor
import Fmofp.Python.Quantum
import Fmofp.Python.Text
import Fmofp.Machine.Loop
import Fmofp.Machine.Run

/-! `worker_health`, and what the worker loops keep of their failing passes. -/

namespace Fmofp.Workers

open Python

/-- `f"{q:.{digits}f}"`. -/
def fixed (digits : ℕ) (q : ℚ) : String :=
  let units := (roundHalfEven (|q| * 10 ^ digits)).toNat
  let sign := if q < 0 then "-" else ""
  let whole := toString (units / 10 ^ digits)
  if digits = 0 then sign ++ whole
  else sign ++ whole ++ "." ++ zfill (toString (units % 10 ^ digits)) digits

inductive HealthState where
  | healthy
  | unhealthy
  | unknown
  deriving DecidableEq

structure HealthReport where
  name : String
  state : HealthState
  reason : String
  source : String
  deriving DecidableEq

structure Thread where
  name : String
  isAlive : Bool

def defaultFailureGraceS : ℚ := 15

/-- What a worker keeps of its failing passes. -/
structure Failing where
  failingSince : Option ℚ
  lastError : String
  deriving DecidableEq

/-- After a pass that completed, or before the first one. -/
def Failing.cleared : Failing := ⟨none, ""⟩

/-- After a pass that raised: the start of the streak is stamped once. -/
def Failing.stamp (failing : Failing) (monotonic : ℚ) (error : String) : Failing :=
  ⟨some (failing.failingSince.getD monotonic), error⟩

/-- `worker_health`, read at `monotonic`. -/
def workerHealth (name : String) (thread : Option Thread) (stopRequested : Bool) (failing : Failing)
    (failureGraceS monotonic : ℚ) : HealthReport :=
  match thread with
  | none => ⟨name, .unknown, "not started: no worker thread", "health_report"⟩
  | some thread =>
    if stopRequested then
      ⟨name, .unknown, "stop requested; worker '" ++ thread.name ++ "' " ++
        (if thread.isAlive then "still running" else "stopped"), "health_report"⟩
    else if thread.isAlive = false then
      ⟨name, .unhealthy, "worker thread '" ++ thread.name ++ "' is not alive", "health_report"⟩
    else
      let healthy := ⟨name, .healthy, "", "health_report"⟩
      match failing.failingSince with
      | none => healthy
      | some since =>
        let failingFor := monotonic - since
        if 0 < failureGraceS ∧ failureGraceS ≤ failingFor then
          ⟨name, .unhealthy, "worker '" ++ thread.name ++ "' is alive but every pass has failed for " ++
            fixed 1 failingFor ++ "s" ++
            (if failing.lastError = "" then "" else ": " ++ failing.lastError), "health_report"⟩
        else healthy

/-- A live worker that is not to stop is unhealthy exactly when its streak is the grace period old. -/
theorem workerHealth_unhealthy_iff (name : String) {thread : Thread} (halive : thread.isAlive = true)
    (failing : Failing) {grace : ℚ} (hgrace : 0 < grace) (monotonic : ℚ) :
    (workerHealth name (some thread) false failing grace monotonic).state = .unhealthy ↔
      ∃ since, failing.failingSince = some since ∧ grace ≤ monotonic - since := by
  unfold workerHealth
  simp only [halive]
  cases hsince : failing.failingSince with
  | none => simp
  | some since =>
    by_cases hold : grace ≤ monotonic - since
    · simp [hgrace, hold]
    · simp [hold]

end Fmofp.Workers

/-! One pass of the worker loops of `GCAS`, `FlightControlComputer` and `FuelManagementSystem`.  Every
step of a pass may raise; an exception is given as the text that the loops keep of it. -/

namespace Fmofp.Workers

open Python

/-! ### GCAS -/

structure FlightState where
  altitudeFt : ℚ
  verticalSpeedFpm : ℚ

/-- `_get_flight_state`, of what the flight management system answers, if there is one. -/
def getFlightState (py : Runtime) (flightData : Option (Except Exception Value)) : FlightState :=
  let read : Except Exception FlightState := do
    match flightData with
    | none => .error .attributeError
    | some answer =>
      let data ← answer
      let navigation ← data.get "navigation" (.dict [])
      let velocity ← data.get "velocity" (.dict [])
      let altitude ← toFloat py (← navigation.get "altitude" (.int 30000))
      let verticalSpeed ← toFloat py (← velocity.get "vertical_speed" (.int 0))
      return ⟨altitude, verticalSpeed⟩
  match read with
  | .ok state => state
  | .error _ => ⟨30000, 0⟩

/-- `_get_tfr_clearance`, of the data of the processor, if it is there. -/
def getTfrClearance (py : Runtime) (data : Except Exception Value) : Option ℚ :=
  let read : Except Exception (Option ℚ) := do
    let data ← data
    let clearance ← data.get "clearance_ft" .none
    let val ← data.get "terrain_clearance_ft" clearance
    if val = .none then return none
    else return some (← toFloat py val)
  match read with
  | .ok clearance => clearance
  | .error _ => none

structure GcasAlert where
  severity : ℕ
  code : String
  message : String
  ts : ℚ
  deriving DecidableEq

def vsPullupFpm : ℚ := -4000

def vsSinkFpm : ℚ := -2000

def altTerrainFt : ℚ := 500

def altLowFt : ℚ := 200

/-- `_evaluate`. -/
def evaluate (state : FlightState) (tfrClearance : Option ℚ) (now : ℚ) : List GcasAlert :=
  let alt := state.altitudeFt
  let vs := state.verticalSpeedFpm
  let descent : List GcasAlert :=
    if vs ≤ vsPullupFpm ∧ alt < 2000 then
      [⟨1, "PULLUP", "PULL UP  VS " ++ fixed 0 vs ++ " fpm", now⟩]
    else if vs ≤ vsSinkFpm then [⟨1, "SINK RATE", "SINK RATE  " ++ fixed 0 vs ++ " fpm", now⟩]
    else []
  let terrain : List GcasAlert := match tfrClearance with
    | some clearance =>
      if clearance < altTerrainFt then
        [⟨1, "TERRAIN", "TERRAIN  " ++ fixed 0 clearance ++ " ft clearance", now⟩]
      else []
    | none => []
  let low : List GcasAlert :=
    if alt < altLowFt ∧ ¬terrain.any fun a => a.code = "TERRAIN" then
      [⟨2, "ALT LOW", "ALT LOW  " ++ fixed 0 alt ++ " ft", now⟩]
    else []
  descent ++ terrain ++ low

inductive GcasStep where
  | getFlightState
  | getTfrClearance
  | evaluate
  | logActive
  deriving DecidableEq

/-- What a pass reads, and what its steps raise. -/
structure GcasPass where
  flightData : Option (Except Exception Value) := none
  tfrData : Except Exception Value := .error .keyError
  now : ℚ := 0
  raises : GcasStep → Option String := fun _ => none
  monotonic : ℚ

structure Gcas where
  alerts : List GcasAlert
  failing : Failing

def Gcas.initial : Gcas := ⟨[], .cleared⟩

/-- What the pass evaluates. -/
def GcasPass.newAlerts (py : Runtime) (p : GcasPass) : List GcasAlert :=
  evaluate (Workers.getFlightState py p.flightData) (Workers.getTfrClearance py p.tfrData) p.now

/-- The body of a pass of `_poll_loop`, and what it raises.  The streak is cleared where there are
alerts to log. -/
def Gcas.poll (py : Runtime) (g : Gcas) (p : GcasPass) : Option String × Gcas :=
  match p.raises .getFlightState, p.raises .getTfrClearance, p.raises .evaluate with
  | some error, _, _ => (some error, g)
  | none, some error, _ => (some error, g)
  | none, none, some error => (some error, g)
  | none, none, none =>
    let stored := { g with alerts := p.newAlerts py }
    if p.newAlerts py = [] then (none, stored)
    else match p.raises .logActive with
      | some error => (some error, stored)
      | none => (none, { stored with failing := .cleared })

/-- A pass, with its handler. -/
def Gcas.pass (py : Runtime) (g : Gcas) (p : GcasPass) : Option String × Gcas :=
  match g.poll py p with
  | (some error, g') => (some error, { g' with failing := g'.failing.stamp p.monotonic error })
  | (none, g') => (none, g')

/-! ### The flight control computer -/

structure FlightParameters where
  altitude : ℚ
  speed : ℚ
  heading : ℚ
  pitch : ℚ
  roll : ℚ
  verticalSpeed : ℚ
  angleOfAttack : ℚ
  gForce : ℚ
  flaps : ℤ
  landingGear : String

/-- The numbers that `random.uniform` yields in a pass. -/
structure Draws where
  altitude : ℚ := 0
  speed : ℚ := 0
  heading : ℚ := 0
  pitch : ℚ := 0
  roll : ℚ := 0
  verticalSpeed : ℚ := 0
  angleOfAttack : ℚ := 0
  gForce : ℚ := 0

/-- `_adjust`. -/
def adjust (f : FlightParameters) (draws : Draws) : FlightParameters where
  altitude := max 0 (min 60000 (f.altitude + draws.altitude))
  speed := max 100 (min 1000 (f.speed + draws.speed))
  heading := floatMod (f.heading + draws.heading) 360
  pitch := max (-45) (min 45 (f.pitch + draws.pitch))
  roll := max (-60) (min 60 (f.roll + draws.roll))
  verticalSpeed := draws.verticalSpeed
  angleOfAttack := min 25 (max 0 (f.angleOfAttack + draws.angleOfAttack))
  gForce := max (1 / 2) (min 9 (f.gForce + draws.gForce))
  flaps := f.flaps
  landingGear := f.landingGear

/-- `round(q, digits)`. -/
def roundTo (digits : ℕ) (q : ℚ) : ℚ := roundHalfEven (q * 10 ^ digits) / 10 ^ digits

/-- `_snapshot`. -/
def snapshot (f : FlightParameters) (now : ℚ) : Message :=
  [("altitude", .float (roundTo 2 f.altitude)), ("speed", .float (roundTo 2 f.speed)),
    ("heading", .float (roundTo 2 f.heading)), ("pitch", .float (roundTo 2 f.pitch)),
    ("roll", .float (roundTo 2 f.roll)), ("vertical_speed", .float (roundTo 2 f.verticalSpeed)),
    ("angle_of_attack", .float (roundTo 2 f.angleOfAttack)), ("g_force", .float (roundTo 3 f.gForce)),
    ("flaps", .int f.flaps), ("landing_gear", .str f.landingGear), ("timestamp", .float now)]

inductive FccStep where
  | adjust
  | snapshot
  | persist
  deriving DecidableEq

structure FccPass where
  draws : Draws := {}
  now : ℚ := 0
  raises : FccStep → Option String := fun _ => none
  monotonic : ℚ

structure FlightControlComputer where
  parameters : FlightParameters
  fcsData : Message
  failing : Failing

def FlightControlComputer.initial : FlightControlComputer where
  parameters := ⟨10000, 500, 0, 0, 0, 0, 2, 1, 0, "up"⟩
  fcsData := []
  failing := .cleared

/-- The body of a pass of `_update_loop`, and what it raises.  `_persist` writes to the database. -/
def FlightControlComputer.update (fcc : FlightControlComputer) (p : FccPass) :
    Option String × FlightControlComputer :=
  match p.raises .adjust with
  | some error => (some error, fcc)
  | none =>
    let adjusted := { fcc with parameters := Workers.adjust fcc.parameters p.draws }
    match p.raises .snapshot with
    | some error => (some error, adjusted)
    | none =>
      let shown := { adjusted with fcsData := Workers.snapshot adjusted.parameters p.now }
      match p.raises .persist with
      | some error => (some error, shown)
      | none => (none, { shown with failing := .cleared })

def FlightControlComputer.pass (fcc : FlightControlComputer) (p : FccPass) :
    Option String × FlightControlComputer :=
  match fcc.update p with
  | (some error, fcc') => (some error, { fcc' with failing := fcc'.failing.stamp p.monotonic error })
  | (none, fcc') => (none, fcc')

/-! ### Fuel management -/

inductive FuelStep where
  | updateFuelSystem
  | checkFuelLevels
  | performFuelTransfer
  | poll
  | update
  deriving DecidableEq

/-- The thrust calls of other threads within a pass, the writes to the database that go through in each
step before one raises, and what the steps raise besides. -/
structure FuelPass where
  between : List (List Fuel.ThrustCall) := []
  polling : List (List Fuel.ThrustCall) := []
  writes : FuelStep → ℕ := fun _ => 0
  raises : FuelStep → Option String := fun _ => none
  databaseError : String := ""
  monotonic : ℚ

structure FuelManagementSystem where
  fuelSystem : Fuel.FuelSystem
  monitor : Fuel.FuelMonitor
  rules : List Fuel.TransferRule
  failing : Failing

/-- After `setup_aircraft`. -/
def FuelManagementSystem.initial : FuelManagementSystem where
  fuelSystem := Fuel.built Fuel.setupAircraft
  monitor := {}
  rules := []
  failing := .cleared

/-- The text of what an operation of the fuel system raised. -/
def FuelPass.raised (p : FuelPass) (step : FuelStep) (report : Fuel.Report) : Option String :=
  match p.raises step, report.raised with
  | some error, _ => some error
  | none, some (.keyError key) => some ("KeyError: '" ++ key ++ "'")
  | none, some .database => some p.databaseError
  | none, none => none

/-- The body of a pass of `run`, and what it raises.  `check_fuel_levels` only logs. -/
def FuelManagementSystem.work (fms : FuelManagementSystem) (p : FuelPass) :
    Option String × FuelManagementSystem :=
  let (report, fuelSystem) :=
    fms.fuelSystem.update Fuel.updateInterval p.between (p.writes .updateFuelSystem)
  let fed := { fms with fuelSystem := fuelSystem }
  match p.raised .updateFuelSystem report, p.raises .checkFuelLevels with
  | some error, _ => (some error, fed)
  | none, some error => (some error, fed)
  | none, none =>
    let (report, fuelSystem) := fed.fuelSystem.performFuelTransfer (p.writes .performFuelTransfer)
    let transferred := { fed with fuelSystem := fuelSystem }
    match p.raised .performFuelTransfer report, p.raises .poll with
    | some error, _ => (some error, transferred)
    | none, some error => (some error, transferred)
    | none, none =>
      let polled := transferred.monitor.poll transferred.fuelSystem Fuel.updateInterval p.polling
      let watched := { transferred with
        fuelSystem := { transferred.fuelSystem with engines := polled.engines }
        monitor := polled.monitor }
      let (report, fuelSystem) :=
        Fuel.managerUpdate watched.rules watched.fuelSystem Fuel.updateInterval (p.writes .update)
      (p.raised .update report, { watched with fuelSystem := fuelSystem })

/-- A pass: the streak is cleared after the body, unless that raises. -/
def FuelManagementSystem.pass (fms : FuelManagementSystem) (p : FuelPass) :
    Option String × FuelManagementSystem :=
  match fms.work p with
  | (some error, fms') => (some error, { fms' with failing := fms'.failing.stamp p.monotonic error })
  | (none, fms') => (none, { fms' with failing := .cleared })

end Fmofp.Workers

/-! Runs of the three worker loops, with the outcomes of their passes.  The start of a failing streak and
the health reports are right throughout a run exactly when no pass of GCAS without alerts completes while
a streak is stamped. -/

namespace Fmofp.Workers

open Machine Python

/-- The worker loops, with the outcomes of the passes of each, latest first: `none` for a pass that completed,
or the time at which it failed. -/
structure Loops where
  gcas : Gcas := .initial
  gcasOutcomes : List (Option ℚ) := []
  fcc : FlightControlComputer := .initial
  fccOutcomes : List (Option ℚ) := []
  fuel : FuelManagementSystem := .initial
  fuelOutcomes : List (Option ℚ) := []

inductive Pass where
  | gcas (p : GcasPass)
  | fcc (p : FccPass)
  | fuel (p : FuelPass)

/-- How a pass ended, with the time if it failed. -/
def outcome (error : Option String) (monotonic : ℚ) : Option ℚ := error.map fun _ => monotonic

def step (py : Runtime) (w : Loops) : Pass → Option String × Loops
  | .gcas p =>
    let (error, gcas) := w.gcas.pass py p
    (error, { w with gcas := gcas, gcasOutcomes := outcome error p.monotonic :: w.gcasOutcomes })
  | .fcc p =>
    let (error, fcc) := w.fcc.pass p
    (error, { w with fcc := fcc, fccOutcomes := outcome error p.monotonic :: w.fccOutcomes })
  | .fuel p =>
    let (error, fuel) := w.fuel.pass p
    (error, { w with fuel := fuel, fuelOutcomes := outcome error p.monotonic :: w.fuelOutcomes })

/-- What is kept of the failures and reported of them is right: the start of the streak, none after a pass
that completed, and unhealthy when a streak goes on for the grace period. -/
structure Truthful (name : String) (failing : Failing) (outcomes : List (Option ℚ)) : Prop where
  since : failing.failingSince = streakStart outcomes
  none_iff : outcomes ≠ [] → (failing.failingSince = none ↔ outcomes.head? = some none)
  unhealthy_iff : ∀ thread : Thread, thread.isAlive = true → ∀ monotonic,
    (workerHealth name (some thread) false failing defaultFailureGraceS monotonic).state = .unhealthy ↔
      (∃ t, outcomes.head? = some (some t)) ∧ ∃ start, streakStart outcomes = some start ∧
        defaultFailureGraceS ≤ monotonic - start

/-- All three workers are kept and reported rightly. -/
def AllTruthful (w : Loops) : Prop :=
  Truthful "GCAS" w.gcas.failing w.gcasOutcomes ∧ Truthful "FCC" w.fcc.failing w.fccOutcomes ∧
    Truthful "FUEL" w.fuel.failing w.fuelOutcomes

/-- A pass that completes without alerts. -/
def GcasPass.Quiet (py : Runtime) (p : GcasPass) : Prop :=
  p.raises .getFlightState = none ∧ p.raises .getTfrClearance = none ∧ p.raises .evaluate = none ∧
    p.newAlerts py = []

/-- A quiet pass comes only while no streak is stamped. -/
def Guard (py : Runtime) (w : Loops) : Pass → Prop
  | .gcas p => p.Quiet py → w.gcas.failing.failingSince = none
  | _ => True

/-! ### What a pass does to the streak -/

theorem truthful_iff (name : String) (failing : Failing) (outcomes : List (Option ℚ)) :
    Truthful name failing outcomes ↔ failing.failingSince = streakStart outcomes := by
  constructor
  · exact Truthful.since
  · intro h
    have hstreak := streakStart_isSome_iff outcomes
    refine ⟨h, fun hne => ?_, fun thread halive monotonic => ?_⟩
    · rw [h]
      cases outcomes with
      | nil => exact absurd rfl hne
      | cons o rest => cases o <;> simp [streakStart_failure]
    · rw [workerHealth_unhealthy_iff name halive failing (by norm_num [defaultFailureGraceS]), h]
      constructor
      · rintro ⟨start, hstart, hold⟩
        exact ⟨hstreak.mp (by rw [hstart]; rfl), start, hstart, hold⟩
      · rintro ⟨-, start, hstart, hold⟩
        exact ⟨start, hstart, hold⟩

/-- A pass clears the streak, or stamps what it raised. -/
def Failing.after (failing : Failing) (error : Option String) (monotonic : ℚ) : Failing :=
  match error with
  | some error => failing.stamp monotonic error
  | none => .cleared

theorem Failing.since_after {failing : Failing} {outcomes : List (Option ℚ)}
    (h : failing.failingSince = streakStart outcomes) (error : Option String) (monotonic : ℚ) :
    (failing.after error monotonic).failingSince =
      streakStart (outcome error monotonic :: outcomes) := by
  cases error with
  | none => rfl
  | some error =>
    show some (failing.failingSince.getD monotonic) = streakStart (some monotonic :: outcomes)
    rw [streakStart_failure, h]

theorem FlightControlComputer.pass_failing (fcc : FlightControlComputer) (p : FccPass) :
    (fcc.pass p).2.failing = fcc.failing.after (fcc.pass p).1 p.monotonic := by
  unfold FlightControlComputer.pass FlightControlComputer.update
  cases p.raises .adjust with
  | some error => rfl
  | none =>
    cases p.raises .snapshot with
    | some error => rfl
    | none => cases p.raises .persist <;> rfl

/-- The body of a pass leaves the streak alone. -/
theorem FuelManagementSystem.work_failing (fms : FuelManagementSystem) (p : FuelPass) :
    (fms.work p).2.failing = fms.failing := by
  unfold FuelManagementSystem.work
  dsimp only
  split
  · rfl
  · rfl
  · split <;> rfl

theorem FuelManagementSystem.pass_failing (fms : FuelManagementSystem) (p : FuelPass) :
    (fms.pass p).2.failing = fms.failing.after (fms.pass p).1 p.monotonic := by
  have hwork := fms.work_failing p
  unfold FuelManagementSystem.pass
  generalize fms.work p = worked at hwork
  obtain ⟨error, fms'⟩ := worked
  cases error with
  | none => rfl
  | some error =>
    show fms'.failing.stamp p.monotonic error = fms.failing.stamp p.monotonic error
    rw [show fms'.failing = fms.failing from hwork]

/-- A pass that is not quiet does what the other loops do. -/
theorem Gcas.pass_failing {py : Runtime} (g : Gcas) {p : GcasPass} (h : ¬p.Quiet py) :
    (g.pass py p).2.failing = g.failing.after (g.pass py p).1 p.monotonic := by
  unfold Gcas.pass Gcas.poll
  cases hstate : p.raises .getFlightState with
  | some error => rfl
  | none =>
    cases hclearance : p.raises .getTfrClearance with
    | some error => rfl
    | none =>
      cases hevaluate : p.raises .evaluate with
      | some error => rfl
      | none =>
        have halerts : p.newAlerts py ≠ [] := fun halerts => h ⟨hstate, hclearance, hevaluate, halerts⟩
        simp only [halerts, if_false]
        cases p.raises .logActive <;> rfl

/-- A quiet pass completes and leaves the streak as it is. -/
theorem Gcas.pass_quiet {py : Runtime} (g : Gcas) {p : GcasPass} (h : p.Quiet py) :
    (g.pass py p).1 = none ∧ (g.pass py p).2.failing = g.failing := by
  obtain ⟨hstate, hclearance, hevaluate, halerts⟩ := h
  unfold Gcas.pass Gcas.poll
  simp [hstate, hclearance, hevaluate, halerts]

/-! ### Runs -/

/-- The stamps are where the streaks begin. -/
structure Stamped (w : Loops) : Prop where
  gcas : w.gcas.failing.failingSince = streakStart w.gcasOutcomes
  fcc : w.fcc.failing.failingSince = streakStart w.fccOutcomes
  fuel : w.fuel.failing.failingSince = streakStart w.fuelOutcomes

theorem allTruthful_iff (w : Loops) : AllTruthful w ↔ Stamped w := by
  unfold AllTruthful
  rw [truthful_iff, truthful_iff, truthful_iff]
  exact ⟨fun h => ⟨h.1, h.2.1, h.2.2⟩, fun h => ⟨h.gcas, h.fcc, h.fuel⟩⟩

theorem stamped_step (py : Runtime) {w : Loops} {pass : Pass} (h : Stamped w) (hguard : Guard py w pass) :
    Stamped (step py w pass).2 := by
  cases pass with
  | gcas p =>
    refine ⟨?_, h.fcc, h.fuel⟩
    show (w.gcas.pass py p).2.failing.failingSince = streakStart (outcome (w.gcas.pass py p).1 _ :: _)
    by_cases hquiet : p.Quiet py
    · obtain ⟨herror, hfailing⟩ := w.gcas.pass_quiet hquiet
      rw [hfailing, herror, hguard hquiet]
      rfl
    · rw [w.gcas.pass_failing hquiet]
      exact Failing.since_after h.gcas _ _
  | fcc p =>
    refine ⟨h.gcas, ?_, h.fuel⟩
    show (w.fcc.pass p).2.failing.failingSince = streakStart (outcome (w.fcc.pass p).1 _ :: _)
    rw [w.fcc.pass_failing p]
    exact Failing.since_after h.fcc _ _
  | fuel p =>
    refine ⟨h.gcas, h.fcc, ?_⟩
    show (w.fuel.pass p).2.failing.failingSince = streakStart (outcome (w.fuel.pass p).1 _ :: _)
    rw [w.fuel.pass_failing p]
    exact Failing.since_after h.fuel _ _

/-- A quiet pass leaves a stamp behind, though it completed. -/
theorem not_stamped_step (py : Runtime) {w : Loops} {pass : Pass} (hguard : ¬Guard py w pass) :
    ¬Stamped (step py w pass).2 := by
  cases pass with
  | gcas p =>
    intro hstamped
    apply hguard
    intro hquiet
    obtain ⟨herror, hfailing⟩ := w.gcas.pass_quiet hquiet
    have hgcas : (w.gcas.pass py p).2.failing.failingSince =
        streakStart (outcome (w.gcas.pass py p).1 p.monotonic :: w.gcasOutcomes) := hstamped.gcas
    rw [hfailing, herror] at hgcas
    exact hgcas
  | fcc p => exact absurd trivial hguard
  | fuel p => exact absurd trivial hguard

/-- The starts of the streaks and the reports are right after every part of a run exactly when every quiet
pass of GCAS in it comes while no streak is stamped. -/
theorem truthful_throughout_iff (py : Runtime) (passes : List Pass) :
    Along (step py) (Guard py) {} passes ↔
      ∀ before, before <+: passes → AllTruthful (final (step py) {} before) :=
  along_iff_of_exact (fun _ _ h hguard => stamped_step py h hguard)
    (fun w h => (allTruthful_iff w).mpr h)
    (fun _ _ _ hguard htruthful => not_stamped_step py hguard ((allTruthful_iff _).mp htruthful))
    ⟨rfl, rfl, rfl⟩ passes

/-- One failure of GCAS, and then a pass without alerts: the stamp stays. -/
theorem quiet_pass_keeps_stamp : ¬AllTruthful (final (step .ascii) {}
    [.gcas { raises := fun _ => some "RuntimeError: bus", monotonic := 1 },
      .gcas { monotonic := 2 }]) := by
  intro h
  have hsince := h.1.since
  revert hsince
  decide +kernel

end Fmofp.Workers
