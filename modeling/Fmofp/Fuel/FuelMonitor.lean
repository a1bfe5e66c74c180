import Fmofp.Fuel.Conservation

/-! The monitor of the tank levels, the rule-based transfers, and the worker loop that drives both
over a fuel system.  The monitor compares what a tank lost since the last poll with what its engines
would consume in one interval at the rates that they have now. -/

namespace Fmofp.Fuel

open Python

inductive AlertType
  /-- The drop, and the drop that was expected. -/
  | leakSuspected (drop expectedDrop : ℚ)
  | criticalFuel (pct : ℚ)
  | lowFuel (pct : ℚ)
  deriving Repr, DecidableEq

structure Alert where
  tank : String
  type : AlertType
  deriving Repr, DecidableEq

def Alert.isLeak (alert : Alert) : Bool :=
  match alert.type with
  | .leakSuspected _ _ => true
  | _ => false

def lowFuelPct : ℚ := 20

def criticalFuelPct : ℚ := 10

def leakUnexplainedDropFraction : ℚ := 2 / 100

structure FuelMonitor where
  lastLevels : Dict String ℚ := []
  consumptionRate : Dict String ℚ := []
  alerts : List Alert := []
  deriving Repr, DecidableEq

/-- An expected drop, with the engines and the thrust calls still to come after the last reading. -/
structure Expected where
  drop : ℚ
  engines : Dict String Engine
  between : List (List ThrustCall)

/-- `_expected_consumption`: an unknown engine is passed over. -/
def expectedConsumption (dtSeconds : ℚ) :
    List String → Dict String Engine → List (List ThrustCall) → Expected
  | [], engines, between => ⟨0, engines, between⟩
  | engineName :: rest, engines, between =>
    let engines := setThrusts engines (between.headD [])
    let later := expectedConsumption dtSeconds rest engines between.tail
    match Dict.get? engines engineName with
    | some engine => { later with drop := engine.fuelConsumptionRate * dtSeconds + later.drop }
    | none => later

/-- The alert for a tank that lost more than expected by over 2% of its capacity, if that is not 0. -/
def leakAlerts (capacity : Option ℚ) (tankName : String) (drop expectedDrop : ℚ) : List Alert :=
  match capacity with
  | some capacity =>
    if capacity ≠ 0 ∧ drop > expectedDrop + capacity * leakUnexplainedDropFraction then
      [⟨tankName, .leakSuspected drop expectedDrop⟩]
    else []
  | none => []

def levelAlerts (capacity : Option ℚ) (tankName : String) (level : ℚ) : List Alert :=
  match capacity with
  | some capacity =>
    if capacity = 0 then []
    else
      let pct := level / capacity * 100
      if pct ≤ criticalFuelPct then [⟨tankName, .criticalFuel pct⟩]
      else if pct ≤ lowFuelPct then [⟨tankName, .lowFuel pct⟩]
      else []
  | none => []

/-- What a poll leaves: the monitor, the alerts that it raised, and the engines. -/
structure Polled where
  monitor : FuelMonitor
  raised : List Alert
  engines : Dict String Engine

/-- The loop of `poll` over the levels that it read.  `between` holds the thrust calls of other threads
before each reading of an engine. -/
def pollTanks (fs : FuelSystem) (dtSeconds : ℚ) :
    Dict String ℚ → FuelMonitor → Dict String Engine → List (List ThrustCall) → Polled
  | [], monitor, engines, _ => ⟨monitor, [], engines⟩
  | (tankName, level) :: rest, monitor, engines, between =>
    let capacity := (Dict.get? fs.tanks tankName).map FuelTank.capacity
    let lastLevels := Dict.set monitor.lastLevels tankName level
    match Dict.get? monitor.lastLevels tankName with
    | none =>
      let raised := levelAlerts capacity tankName level
      let polled := pollTanks fs dtSeconds rest
        { monitor with lastLevels, alerts := monitor.alerts ++ raised } engines between
      { polled with raised := raised ++ polled.raised }
    | some last =>
      let drop := last - level
      let consumptionRate := Dict.set monitor.consumptionRate tankName (max 0 (drop / dtSeconds))
      let expected := expectedConsumption dtSeconds (fs.lines tankName) engines between
      let raised := leakAlerts capacity tankName drop expected.drop ++
        levelAlerts capacity tankName level
      let polled := pollTanks fs dtSeconds rest
        { lastLevels, consumptionRate, alerts := monitor.alerts ++ raised } expected.engines
        expected.between
      { polled with raised := raised ++ polled.raised }

/-- `FuelMonitor.poll`. -/
def FuelMonitor.poll (monitor : FuelMonitor) (fs : FuelSystem) (dtSeconds : ℚ)
    (between : List (List ThrustCall)) : Polled :=
  if dtSeconds ≤ 0 then ⟨monitor, [], fs.engines⟩
  else pollTanks fs dtSeconds fs.getFuelStatus monitor fs.engines between

/-! ### Transfers by rules -/

structure TransferRule where
  sourceTank : String
  feedTanks : List String
  feedBelowPct : ℚ := 80
  minSourcePct : ℚ := 20
  rateKgPerS : ℚ := 5
  deriving Repr, DecidableEq

/-- `_pct_full`. -/
def pctFull (fs : FuelSystem) (tankName : String) : Option ℚ :=
  match Dict.get? fs.tanks tankName with
  | some tank => if tank.capacity ≤ 0 then none else some (tank.currentLevel / tank.capacity * 100)
  | none => none

/-- The feed tanks of one rule, with the writes that are left; a transfer that raises ends the pass. -/
def feedByRule (rule : TransferRule) (dtSeconds : ℚ) :
    List String → FuelSystem → ℕ → Report × FuelSystem × ℕ
  | [], fs, writes => ({}, fs, writes)
  | feedTank :: rest, fs, writes =>
    if (pctFull fs feedTank).any fun pct => pct < rule.feedBelowPct then
      let (report, fs) := fs.transferFuel rule.sourceTank feedTank (rule.rateKgPerS * dtSeconds) writes
      match report.raised with
      | some _ => (report, fs, writes)
      | none =>
        let (later, fs, writes) := feedByRule rule dtSeconds rest fs (writes - 2)
        ({ later with moved := report.moved ++ later.moved }, fs, writes)
    else feedByRule rule dtSeconds rest fs writes

def applyRules (dtSeconds : ℚ) : List TransferRule → FuelSystem → ℕ → Report × FuelSystem
  | [], fs, _ => ({}, fs)
  | rule :: rest, fs, writes =>
    if (pctFull fs rule.sourceTank).any fun pct => rule.minSourcePct ≤ pct then
      let (report, fs, writes) := feedByRule rule dtSeconds rule.feedTanks fs writes
      match report.raised with
      | some _ => (report, fs)
      | none =>
        let (later, fs) := applyRules dtSeconds rest fs writes
        ({ later with moved := report.moved ++ later.moved }, fs)
    else applyRules dtSeconds rest fs writes

/-- `FuelTransferManager.update`. -/
def managerUpdate (rules : List TransferRule) (fs : FuelSystem) (dtSeconds : ℚ) (writes : ℕ) :
    Report × FuelSystem :=
  if dtSeconds ≤ 0 then ({}, fs) else applyRules dtSeconds rules fs writes

/-! ### The worker loop -/

/-- What the worker does next. -/
inductive Phase
  | update
  | transfer
  | poll
  | rules
  deriving Repr, DecidableEq

structure Worker where
  fs : FuelSystem
  monitor : FuelMonitor := {}
  rules : List TransferRule := []
  phase : Phase := .update
  /-- What engines burned and transfers took out of the tanks since the last poll: a record that the
  program does not keep. -/
  burned : List (String × ℚ) := []
  moved : List (String × ℚ) := []

inductive LoopAction
  /-- The next phase of the worker, with the thrust calls made within it and the writes that go
  through before one raises. -/
  | work (between : List (List ThrustCall)) (writes : ℕ)
  | setEngineThrust (call : ThrustCall)
  | addRule (rule : TransferRule)

def updateInterval : ℚ := 1 / 10

/-- A phase that raises ends the pass: the next one begins with the update. -/
def Report.next (report : Report) (phase : Phase) : Phase :=
  match report.raised with
  | some _ => .update
  | none => phase

/-- The alerts that the step raised, and the loop after it. -/
def loopStep (w : Worker) : LoopAction → List Alert × Worker
  | .work between writes =>
    match w.phase with
    | .update =>
      let (report, fs) := w.fs.update updateInterval between writes
      ([], { w with fs, phase := report.next .transfer, burned := w.burned ++ report.burned })
    | .transfer =>
      let (report, fs) := w.fs.performFuelTransfer writes
      ([], { w with fs, phase := report.next .poll, moved := w.moved ++ report.moved })
    | .poll =>
      let polled := w.monitor.poll w.fs updateInterval between
      (polled.raised,
        { w with
          fs := { w.fs with engines := polled.engines }
          monitor := polled.monitor, phase := .rules, burned := [], moved := [] })
    | .rules =>
      let (report, fs) := managerUpdate w.rules w.fs updateInterval writes
      ([], { w with fs, phase := .update, moved := w.moved ++ report.moved })
  | .setEngineThrust call =>
    ([], { w with fs := { w.fs with engines := setThrusts w.fs.engines [call] } })
  | .addRule rule => ([], { w with rules := w.rules ++ [rule] })

/-- The loop over the aircraft as it is set up. -/
def aircraft : Worker := { fs := built setupAircraft }

end Fmofp.Fuel
