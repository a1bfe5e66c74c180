import Fmofp.Machine.Run
import Fmofp.Python.Dict
import Fmofp.Python.Text

/-! The status monitor of the line-replaceable units: the catalogue, the health that a poll derives, and
the forced faults that a scenario sets and clears by the names of systems. -/

namespace Fmofp.HardwareHealth

open Python

inductive HealthState
  | nominal
  | degraded
  | fault
  | offline
  | unknown
  deriving Repr, DecidableEq

def HealthState.value : HealthState → String
  | .nominal => "NOMINAL"
  | .degraded => "DEGRADED"
  | .fault => "FAULT"
  | .offline => "OFFLINE"
  | .unknown => "UNKNOWN"

/-- `HealthState(value)`. -/
def HealthState.ofValue? (value : String) : Option HealthState :=
  [.nominal, .degraded, .fault, .offline, .unknown].find? fun state => state.value = value

structure LRU where
  lruId : String
  name : String
  systemKey : String
  /-- There is an accessor to the system, as for every unit of the catalogue. -/
  accessor : Bool := true
  health : HealthState := .unknown
  faultDetail : String := ""
  bitResult : Option String := none
  deriving Repr, DecidableEq

def catalogue : List LRU :=
  [{ lruId := "FCC-1", name := "Flight Control Computer", systemKey := "flight_control_computer" },
    { lruId := "FMS-1", name := "Flight Management System", systemKey := "flightManagementSystem" },
    { lruId := "NAV-1", name := "Navigation Service", systemKey := "nav_service" },
    { lruId := "RDR-1", name := "Radar Management", systemKey := "radar_management" },
    { lruId := "ECU-1", name := "Engine Control Unit", systemKey := "engine_control_unit" },
    { lruId := "COMMS-1", name := "Communications Service", systemKey := "comms_service" },
    { lruId := "MSN-1", name := "Mission Planning Service", systemKey := "mission_service" },
    { lruId := "DFS-1", name := "Defensive Systems Service", systemKey := "defensive_service" },
    { lruId := "SNS-1", name := "Sensor Service", systemKey := "sensor_service" },
    { lruId := "GCAS-1", name := "Ground Collision Avoidance", systemKey := "gcas" },
    { lruId := "PERF-1", name := "Performance Monitor", systemKey := "performance_monitor" }]

def catalogueIds : List String := catalogue.map LRU.lruId

/-- What `get_status()` of a system returns, as far as the monitor reads it: `running is False`,
`healthy is False`, the text of `health`, and `fault_detail`. -/
structure Status where
  runningIsFalse : Bool := false
  healthyIsFalse : Bool := false
  health : String := ""
  faultDetail : String := ""
  deriving Repr, DecidableEq

/-- `_derive_health`; an empty status is none. -/
def deriveHealth (py : Runtime) (status : Option Status) (bitResult : Option String) : HealthState :=
  match status with
  | none => .offline
  | some status =>
    let healthStr := py.upper status.health
    if status.runningIsFalse then .fault
    else if status.healthyIsFalse then .degraded
    else if healthStr ∈ ["FAULT", "ERROR", "FAILED"] then .fault
    else if healthStr ∈ ["DEGRADED", "WARNING", "WARN"] then .degraded
    else if healthStr ∈ ["NOMINAL", "RUNNING", "NORMAL", "OK"] then .nominal
    else if bitResult.any fun result => contains result "FAIL" then .degraded
    else .nominal

structure LRUStatusMonitor where
  lrus : Dict String LRU
  /-- The forced state of an id and the detail. -/
  forcedFaults : Dict String (HealthState × String) := []
  deriving Repr, DecidableEq

namespace LRUStatusMonitor

def new : LRUStatusMonitor := { lrus := catalogue.map fun lru => (lru.lruId, lru) }

def updateBitResult (m : LRUStatusMonitor) (lruId resultStr : String) : LRUStatusMonitor :=
  match Dict.get? m.lrus lruId with
  | some lru => { m with lrus := Dict.set m.lrus lruId { lru with bitResult := some resultStr } }
  | none => m

/-- `resolve_lru_id`: an exact id or system key first, then a part of one name only. -/
def resolveLruId (py : Runtime) (m : LRUStatusMonitor) (key : String) : Option String :=
  let needle := py.lower (strip key)
  if needle = "" then none
  else
    match m.lrus.find? fun e => needle = py.lower e.1 ∨ needle = py.lower e.2.systemKey with
    | some e => some e.1
    | none =>
      match m.lrus.filter fun e => contains (py.lower e.2.name) needle with
      | [e] => some e.1
      | _ => none

/-- The id that an unresolvable key gets. -/
def syntheticId (py : Runtime) (key : String) : String :=
  let upper := py.upper (strip key)
  if upper = "" then "UNKNOWN" else upper

def scenarioDeclared : String := "(scenario-declared)"

/-- The entry that such an id gets: no accessor, so that polling leaves it alone. -/
def syntheticLru (py : Runtime) (key : String) : LRU where
  lruId := syntheticId py key
  name := key ++ " " ++ scenarioDeclared
  systemKey := key
  accessor := false

/-- The second section of `force_fault`: the override of an id that has an entry. -/
def override (m : LRUStatusMonitor) (lruId : String) (state : HealthState) (detailTxt : String) :
    LRUStatusMonitor :=
  match Dict.get? m.lrus lruId with
  | some lru =>
    { lrus := Dict.set m.lrus lruId
        { lru with health := state, faultDetail := "FORCED: " ++ detailTxt }
      forcedFaults := Dict.set m.forcedFaults lruId (state, detailTxt) }
  | none => m

/-- `force_fault`: the id that the fault was applied to. -/
def forceFault (py : Runtime) (m : LRUStatusMonitor) (key : String) (state : HealthState)
    (detail source : String) : String × LRUStatusMonitor :=
  let detailTxt := if detail = "" then "forced by " ++ source else detail
  match m.resolveLruId py key with
  | some lruId => (lruId, m.override lruId state detailTxt)
  | none =>
    let lruId := syntheticId py key
    if Dict.has m.lrus lruId then (lruId, m.override lruId state detailTxt)
    else
      let lrus := Dict.set m.lrus lruId (syntheticLru py key)
      (lruId, override { m with lrus } lruId state detailTxt)

/-- A forced id goes by its own name, its system's key, or a part of its name. -/
def matchesKey (py : Runtime) (m : LRUStatusMonitor) (needle candidate : String) : Bool :=
  py.lower candidate = needle ||
    (Dict.get? m.lrus candidate).any fun lru =>
      needle = py.lower lru.systemKey || contains (py.lower lru.name) needle

/-- One override gone: an entry that a scenario declared goes with it. -/
def clearOne (m : LRUStatusMonitor) (lruId : String) : LRUStatusMonitor :=
  { lrus := match Dict.get? m.lrus lruId with
      | some lru =>
        if lru.accessor = false ∧ endsWith lru.name scenarioDeclared then Dict.erase m.lrus lruId
        else Dict.set m.lrus lruId { lru with health := .unknown, faultDetail := "" }
      | none => m.lrus
    forcedFaults := Dict.erase m.forcedFaults lruId }

/-- The overrides that `clear_forced_fault` finds. -/
def clearTargets (py : Runtime) (m : LRUStatusMonitor) : Option String → List String
  | none => m.forcedFaults.map Prod.fst
  | some key =>
    let needle := py.lower (strip key)
    match (m.forcedFaults.map Prod.fst).find? (m.matchesKey py needle) with
    | some lruId => if lruId = "" then [] else [lruId]
    | none => []

/-- `clear_forced_fault`: how many overrides it cleared. -/
def clearForcedFault (py : Runtime) (m : LRUStatusMonitor) (key : Option String) :
    ℕ × LRUStatusMonitor :=
  let targets := m.clearTargets py key
  (targets.length, targets.foldl clearOne m)

/-- What a poll gets from the accessor of a unit. -/
inductive Reading
  | notStarted
  | noStatus
  | status (given : Option Status)
  | raised (text : String)
  deriving Repr, DecidableEq

def Reading.derive (py : Runtime) (bitResult : Option String) : Reading → HealthState × String
  | .notStarted => (.offline, "system not started")
  | .noStatus => (.nominal, "")
  | .status given => (deriveHealth py given bitResult, (given.map Status.faultDetail).getD "")
  | .raised text => (.unknown, slice text 0 80)

/-- `_poll_lru`: a forced fault wins over what is derived. -/
def pollLru (py : Runtime) (m : LRUStatusMonitor) (id : String) (reading : Reading) :
    LRUStatusMonitor :=
  match Dict.get? m.lrus id with
  | some lru =>
    if lru.accessor then
      let derived := reading.derive py lru.bitResult
      let (health, faultDetail) := match Dict.get? m.forcedFaults lru.lruId with
        | some forced => (forced.1, "FORCED: " ++ forced.2)
        | none => derived
      { m with lrus := Dict.set m.lrus id { lru with health, faultDetail } }
    else m
  | none => m

/-- `_poll_all`. -/
def pollAll (py : Runtime) (m : LRUStatusMonitor) (readings : String → Reading) : LRUStatusMonitor :=
  (m.lrus.map Prod.fst).foldl (fun m id => m.pollLru py id (readings id)) m

/-- The worst of some states; a unit that is offline only degrades. -/
def worst (states : List HealthState) : HealthState :=
  if .fault ∈ states then .fault
  else if .degraded ∈ states then .degraded
  else if .offline ∈ states then .degraded
  else if .unknown ∈ states then .unknown
  else .nominal

def overallHealth (m : LRUStatusMonitor) : HealthState := worst (m.lrus.map fun e => e.2.health)

end LRUStatusMonitor

/-! ### Runs -/

inductive Action
  /-- A state given as text is looked up by its value. -/
  | forceFault (key : String) (state : HealthState ⊕ String) (detail source : String)
  | clearForcedFault (key : Option String)
  | updateBitResult (lruId resultStr : String)
  | pollLru (id : String) (reading : LRUStatusMonitor.Reading)

inductive Answer
  | applied (lruId : String)
  | cleared (count : ℕ)
  | valueError
  | done
  deriving Repr, DecidableEq

def step (py : Runtime) (m : LRUStatusMonitor) : Action → Answer × LRUStatusMonitor
  | .forceFault key (.inl state) detail source =>
    let forced := m.forceFault py key state detail source
    (.applied forced.1, forced.2)
  | .forceFault key (.inr text) detail source =>
    match HealthState.ofValue? (py.upper text) with
    | some state =>
      let forced := m.forceFault py key state detail source
      (.applied forced.1, forced.2)
    | none => (.valueError, m)
  | .clearForcedFault key =>
    let cleared := m.clearForcedFault py key
    (.cleared cleared.1, cleared.2)
  | .updateBitResult lruId resultStr => (.done, m.updateBitResult lruId resultStr)
  | .pollLru id reading => (.done, m.pollLru py id reading)

end Fmofp.HardwareHealth
