import Fmofp.Machine.History
import Fmofp.Workers.Passes

/-! When the system counts as ready.  `is_system_ready` reads the state of the system, then the failed starts,
then looks whether the last health sweep is fresh, and then reads its reports; the other threads go on in
between.  The timer that polls it has the state set to normal later, on the event loop.  Nothing else does, so the
system is only ever normal because a call found it in order. -/

namespace Fmofp.Startup

open Python Machine
open Workers (HealthState)

/-! ### Health reports -/

structure HealthReport where
  name : String
  state : HealthState
  reason : String
  probedVia : Option String
  deriving DecidableEq

/-- What a method returned: its truth, and the text of it. -/
structure Verdict where
  truth : Bool
  text : String

/-- How a component answers when it is asked: each method may be missing or raise with a text, and
`health_report` may return something that is no report. -/
structure Component where
  healthReport : Option (Except String (Option HealthReport)) := none
  checkHealth : Option (Except String Verdict) := none
  isHealthy : Option (Except String Verdict) := none

def reportOf (name methodName : String) : Except String Verdict → HealthReport
  | .error exc => ⟨name, .unhealthy, methodName ++ "() raised " ++ exc, some methodName⟩
  | .ok v =>
    if v.truth then ⟨name, .healthy, "", some methodName⟩
    else ⟨name, .unhealthy, methodName ++ "() returned " ++ v.text, some methodName⟩

/-- The answers of `check_health` and `is_healthy`, in this order. -/
def probeMethods (name : String) (c : Component) : HealthReport :=
  match c.checkHealth, c.isHealthy with
  | some answer, _ => reportOf name "check_health" answer
  | none, some answer => reportOf name "is_healthy" answer
  | none, none => ⟨name, .unknown,
      "exposes no health interface (health_report(), check_health() or is_healthy())", none⟩

def probe (name : String) : Option Component → HealthReport
  | none => ⟨name, .unknown, "component is None", none⟩
  | some c => match c.healthReport with
    | some (.error exc) => ⟨name, .unhealthy, "health_report() raised " ++ exc, some "health_report"⟩
    | some (.ok (some report)) => { report with name }
    | some (.ok none) => probeMethods name c
    | none => probeMethods name c

/-! ### The system manager -/

inductive SystemState where
  | boot
  | initializing
  | initialized
  | starting
  | running
  | normal
  | error
  | shuttingDown
  | shutdown
  deriving DecidableEq

/-- `SAFETY_CRITICAL_SUBSYSTEMS`, sorted. -/
def safetyCriticalSubsystems : List String :=
  ["ECU", "FCC", "FlightSurfaceService", "FuelManagementSystem", "GCAS", "HydraulicSystemController",
    "NavService", "PowerManagementSystem", "ThrustManagementSystem"]

/-- `CRITICAL_COMPONENTS`, sorted. -/
def criticalComponents : List String :=
  ["async_message_handler", "bc_listener", "engine_control_unit", "flightManagementSystem",
    "flight_control_computer", "flight_surface_service", "fuel_management_system", "gcas",
    "hydraulic_system_controller", "message_routing_service", "nav_service", "power_management_system",
    "radar_management", "rt_listener", "thrust_management_system"]

def readinessProbeMaxAge : ℚ := 1 / 2

/-- How far a call of `is_system_ready` has come. -/
inductive Stage where
  | stateRead
  | startsChecked
  | swept
  deriving DecidableEq

/-- A call in progress, by the timer or by the loop that waits for the start. -/
structure Call where
  byTimer : Bool
  stage : Stage

/-- What a call of `is_system_ready` comes to. -/
inductive Answer where
  | ready
  | refused (reason : String)
  | raised
  deriving DecidableEq

variable {κ : Type}

/-- The components are objects of type `κ`; what they answer changes. -/
structure SystemManager (κ : Type) where
  state : Option SystemState
  components : Dict String κ
  failedSubsystemStarts : List String
  reports : List HealthReport
  sweptAt : ℚ
  call : Option Call
  timerStopped : Bool
  normalScheduled : Bool

def SystemManager.initial : SystemManager κ := ⟨none, [], [], [], 0, none, false, false⟩

/-- What the components answer at some time; `None` may be registered, too. -/
abbrev World (κ : Type) := κ → Option Component

def probeAll (world : World κ) (components : Dict String κ) : List HealthReport :=
  components.map fun e => probe e.1 (world e.2)

/-- `check_component_health`, as far as it is kept. -/
def checkComponentHealth (now : ℚ) (world : World κ) (m : SystemManager κ) : SystemManager κ :=
  { m with reports := probeAll world m.components, sweptAt := now }

/-- `_record_startup_failure`. -/
def recordStartupFailure (label : String) (m : SystemManager κ) : SystemManager κ :=
  { m with failedSubsystemStarts :=
      if label ∈ m.failedSubsystemStarts then m.failedSubsystemStarts else m.failedSubsystemStarts ++ [label] }

/-- `failed_safety_critical_starts`. -/
def failedSafetyCriticalStarts (m : SystemManager κ) : List String :=
  safetyCriticalSubsystems.filter fun label => decide (label ∈ m.failedSubsystemStarts)

def snapshot (m : SystemManager κ) : Dict String HealthReport :=
  Dict.update [] (m.reports.map fun r => (r.name, r))

def stateText : HealthState → String
  | .healthy => "healthy"
  | .unhealthy => "unhealthy"
  | .unknown => "unknown"

/-- What is said of a critical component that is not healthy. -/
def complaint (m : SystemManager κ) (name : String) : Option String :=
  match Dict.get? (snapshot m) name with
  | none => some (name ++ ": not registered")
  | some report =>
    if report.state = .healthy then none
    else some (name ++ ": " ++ stateText report.state ++ " (" ++ report.reason ++ ")")

def notReady (m : SystemManager κ) : List String := criticalComponents.filterMap (complaint m)

/-- There is no sweep yet, or the last one has aged out. -/
def isStale (now : ℚ) (m : SystemManager κ) : Bool :=
  decide (m.sweptAt ≤ 0 ∨ readinessProbeMaxAge < now - m.sweptAt)

/-- The call is over; the timer has the state set to normal on the event loop, and stops. -/
def finish (call : Call) (answer : Answer) (m : SystemManager κ) : List Answer × SystemManager κ :=
  ([answer], { m with
    call := none
    timerStopped := m.timerStopped || (call.byTimer && decide (answer = .ready))
    normalScheduled := m.normalScheduled || (call.byTimer && decide (answer = .ready)) })

/-- The next part of a call of `is_system_ready`, or the first part of a new one.  A sweep of its own may raise:
then there is no world. -/
def poll (byTimer : Bool) (now : ℚ) (world : Option (World κ)) (m : SystemManager κ) :
    List Answer × SystemManager κ :=
  match m.call with
  | none =>
    if byTimer ∧ m.timerStopped then ([], m)
    else match m.state with
      | none => finish ⟨byTimer, .stateRead⟩ .raised m
      | some state =>
        if state = .running ∨ state = .normal then ([], { m with call := some ⟨byTimer, .stateRead⟩ })
        else finish ⟨byTimer, .stateRead⟩ (.refused "") m
  | some call => match call.stage with
    | .stateRead =>
      if failedSafetyCriticalStarts m = [] then ([], { m with call := some { call with stage := .startsChecked } })
      else finish call (.refused ("safety-critical subsystems did not start: " ++
        String.intercalate ", " (failedSafetyCriticalStarts m))) m
    | .startsChecked =>
      if isStale now m then match world with
        | some w => ([], { checkComponentHealth now w m with call := some { call with stage := .swept } })
        | none => finish call (.refused "") m
      else ([], { m with call := some { call with stage := .swept } })
    | .swept =>
      if notReady m = [] then finish call .ready m
      else finish call (.refused (String.intercalate "; " (notReady m))) m

/-- What the threads do: `setState` is done by the rest of the program, `monitor` is a sweep of the health monitor,
and `runCallback` is the event loop at the callback of the timer. -/
inductive Kind (κ : Type) where
  | setState (state : SystemState)
  | registerComponent (name : String) (component : κ)
  | startFailed (label : String)
  | monitor (world : World κ)
  | poll (byTimer : Bool) (world : Option (World κ))
  | runCallback

structure Action (κ : Type) where
  clock : ℚ
  kind : Kind κ

def step (m : SystemManager κ) (a : Action κ) : List Answer × SystemManager κ :=
  match a.kind with
  | .setState state => ([], { m with state := some state })
  | .registerComponent name component => ([], { m with components := Dict.set m.components name component })
  | .startFailed label => ([], recordStartupFailure label m)
  | .monitor world => ([], checkComponentHealth a.clock world m)
  | .poll byTimer world => poll byTimer a.clock world m
  | .runCallback =>
    if m.normalScheduled then ([], { m with state := some .normal, normalScheduled := false }) else ([], m)

/-! ### What a healthy report says -/

/-- The component itself said that it is healthy. -/
def Affirms (c : Component) : Prop :=
  (∃ report, c.healthReport = some (.ok (some report)) ∧ report.state = .healthy) ∨
    ((c.healthReport = none ∨ c.healthReport = some (.ok none)) ∧
      ((∃ v, c.checkHealth = some (.ok v) ∧ v.truth = true) ∨
        (c.checkHealth = none ∧ ∃ v, c.isHealthy = some (.ok v) ∧ v.truth = true)))

theorem reportOf_healthy {name methodName : String} {answer : Except String Verdict}
    (h : (reportOf name methodName answer).state = .healthy) : ∃ v, answer = .ok v ∧ v.truth = true := by
  cases answer with
  | error exc => cases h
  | ok v =>
    rw [reportOf] at h
    split_ifs at h with htruth
    exact ⟨v, rfl, htruth⟩

theorem probeMethods_healthy {name : String} {c : Component} (h : (probeMethods name c).state = .healthy) :
    (∃ v, c.checkHealth = some (.ok v) ∧ v.truth = true) ∨
      (c.checkHealth = none ∧ ∃ v, c.isHealthy = some (.ok v) ∧ v.truth = true) := by
  unfold probeMethods at h
  split at h
  · rename_i answer _ hcheck
    obtain ⟨v, rfl, htruth⟩ := reportOf_healthy h
    exact .inl ⟨v, hcheck, htruth⟩
  · rename_i answer hcheck hhealthy
    obtain ⟨v, rfl, htruth⟩ := reportOf_healthy h
    exact .inr ⟨hcheck, v, hhealthy, htruth⟩
  · cases h

/-- No component counts as healthy by default. -/
theorem probe_healthy {name : String} {o : Option Component} (h : (probe name o).state = .healthy) :
    ∃ c, o = some c ∧ Affirms c := by
  cases o with
  | none => cases h
  | some c =>
    refine ⟨c, rfl, ?_⟩
    unfold probe at h
    simp only at h
    split at h
    · cases h
    · rename_i report hreport
      exact .inl ⟨report, hreport, h⟩
    · rename_i hreport
      exact .inr ⟨.inr hreport, probeMethods_healthy h⟩
    · rename_i hreport
      exact .inr ⟨.inl hreport, probeMethods_healthy h⟩

/-- Every critical component is registered and says that it is healthy. -/
def FoundHealthy (components : Dict String κ) (world : World κ) : Prop :=
  ∀ name ∈ criticalComponents, ∃ k c, Dict.get? components name = some k ∧ world k = some c ∧ Affirms c

theorem reportOf_name (name methodName : String) (answer : Except String Verdict) :
    (reportOf name methodName answer).name = name := by
  cases answer with
  | error exc => rfl
  | ok v =>
    rw [reportOf]
    split_ifs <;> rfl

theorem probeMethods_name (name : String) (c : Component) : (probeMethods name c).name = name := by
  unfold probeMethods
  split
  · exact reportOf_name name _ _
  · exact reportOf_name name _ _
  · rfl

/-- A report stands under the name that the component is registered with. -/
theorem probe_name (name : String) (o : Option Component) : (probe name o).name = name := by
  unfold probe
  split
  · rfl
  · split
    · rfl
    · rfl
    · exact probeMethods_name name _
    · exact probeMethods_name name _

theorem get?_probeAll (world : World κ) (components : Dict String κ) (name : String) :
    Dict.get? ((probeAll world components).map fun r => (r.name, r)) name =
      (Dict.get? components name).map fun k => probe name (world k) := by
  induction components with
  | nil => rfl
  | cons e rest ih =>
    obtain ⟨n, k⟩ := e
    rw [probeAll] at ih
    rw [probeAll, List.map_cons, List.map_cons, Dict.get?_cons, Dict.get?_cons, ih, probe_name]
    split_ifs with hn
    · rw [hn, Option.map_some]
    · rfl

/-- If nothing is said against readiness, the sweep found every critical component healthy. -/
theorem foundHealthy_of_notReady {m : SystemManager κ} {components : Dict String κ} {world : World κ}
    (hnodup : (components.map Prod.fst).Nodup) (hreports : m.reports = probeAll world components)
    (h : notReady m = []) : FoundHealthy components world := by
  intro name hname
  have hkeys : ((m.reports.map fun r => (r.name, r)).map Prod.fst) = components.map Prod.fst := by
    rw [hreports, probeAll, List.map_map, List.map_map]
    exact List.map_congr_left fun e _ => probe_name e.1 _
  have hsnapshot : snapshot m = m.reports.map fun r => (r.name, r) :=
    Dict.update_nil (hkeys ▸ hnodup)
  have hcomplaint : complaint m name = none := List.filterMap_eq_nil_iff.mp h name hname
  rw [complaint, hsnapshot, hreports, get?_probeAll] at hcomplaint
  cases hget : Dict.get? components name with
  | none => simp [hget] at hcomplaint
  | some k =>
    rw [hget, Option.map_some] at hcomplaint
    simp only at hcomplaint
    split_ifs at hcomplaint with hhealthy
    obtain ⟨c, hworld, haffirms⟩ := probe_healthy hhealthy
    exact ⟨k, c, rfl, hworld, haffirms⟩

/-! ### What a run knows -/

/-- The system after some actions. -/
def after (is : List (Action κ)) : SystemManager κ := final step .initial is

theorem after_concat (is : List (Action κ)) (i : Action κ) : after (is ++ [i]) = (step (after is) i).2 :=
  final_concat _ is i

/-- What the components say at an action that may sweep. -/
def Action.world (a : Action κ) : Option (World κ) :=
  match a.kind with
  | .monitor world => some world
  | .poll _ world => world
  | _ => none

def Operational (is : List (Action κ)) : Prop :=
  (after is).state = some .running ∨ (after is).state = some .normal

/-- No safety-critical subsystem has failed to start. -/
def NoneFailed (is : List (Action κ)) : Prop :=
  ∀ i ∈ is, ∀ label ∈ safetyCriticalSubsystems, i.kind ≠ .startFailed label

/-- The reports are those of a sweep of the run. -/
def SweptIn (is : List (Action κ)) (m : SystemManager κ) : Prop :=
  ∃ before x rest w, is = before ++ x :: rest ∧ x.world = some w ∧ x.clock = m.sweptAt ∧
    ((after before).components.map Prod.fst).Nodup ∧ m.reports = probeAll w (after before).components

/-- The system was found in order: it was running, up to a later time no safety-critical subsystem had failed to
start, and a sweep that was no more than half a second old at a check after that found every critical component
healthy. -/
def Vouched (is : List (Action κ)) : Prop :=
  ∃ a u v rest, is = a ++ u ++ v ++ rest ∧ Operational a ∧ NoneFailed (a ++ u) ∧
    ∃ check ∈ v, ∃ before x behind w, a ++ u ++ v = before ++ x :: behind ∧ x.world = some w ∧
      check.clock - readinessProbeMaxAge ≤ x.clock ∧ FoundHealthy (after before).components w

theorem Vouched.concat {is : List (Action κ)} (h : Vouched is) (i : Action κ) : Vouched (is ++ [i]) := by
  obtain ⟨a, u, v, rest, rfl, hfound⟩ := h
  exact ⟨a, u, v, rest ++ [i], by simp, hfound⟩

theorem SweptIn.concat {is : List (Action κ)} {m : SystemManager κ} (h : SweptIn is m) (i : Action κ) :
    SweptIn (is ++ [i]) m := by
  obtain ⟨before, x, rest, w, rfl, hsweep⟩ := h
  exact ⟨before, x, rest ++ [i], w, by simp, hsweep⟩

/-- What a call that has come so far has established. -/
def Established (is : List (Action κ)) (m : SystemManager κ) : Stage → Prop
  | .stateRead => ∃ a rest, is = a ++ rest ∧ Operational a
  | .startsChecked => ∃ a u rest, is = a ++ u ++ rest ∧ Operational a ∧ NoneFailed (a ++ u)
  | .swept => ∃ a u v, is = a ++ u ++ v ∧ Operational a ∧ NoneFailed (a ++ u) ∧ SweptIn is m ∧
      ∃ check ∈ v, check.clock - readinessProbeMaxAge ≤ m.sweptAt

theorem Established.concat {is : List (Action κ)} {m : SystemManager κ} {stage : Stage}
    (h : Established is m stage) (i : Action κ) : Established (is ++ [i]) m stage := by
  cases stage with
  | stateRead =>
    obtain ⟨a, rest, rfl, hrun⟩ := h
    exact ⟨a, rest ++ [i], by simp, hrun⟩
  | startsChecked =>
    obtain ⟨a, u, rest, rfl, hfound⟩ := h
    exact ⟨a, u, rest ++ [i], by simp, hfound⟩
  | swept =>
    obtain ⟨a, u, v, rfl, hrun, hnone, hswept, check, hcheck, hfresh⟩ := h
    exact ⟨a, u, v ++ [i], by simp, hrun, hnone, hswept.concat i, check, by simp [hcheck], hfresh⟩

/-- What the state of the system says about the run that led to it. -/
structure Kept (is : List (Action κ)) (m : SystemManager κ) : Prop where
  nodup : (m.components.map Prod.fst).Nodup
  recorded : ∀ i ∈ is, ∀ label, i.kind = .startFailed label → label ∈ m.failedSubsystemStarts
  swept : m.sweptAt = 0 ∨ SweptIn is m
  call : ∀ c, m.call = some c → Established is m c.stage
  normal : m.normalScheduled = true ∨ m.state = some .normal → Vouched is

theorem kept_initial : Kept [] (SystemManager.initial : SystemManager κ) where
  nodup := List.nodup_nil
  recorded _ hi := absurd hi List.not_mem_nil
  swept := .inl rfl
  call _ hc := absurd hc (by simp [SystemManager.initial])
  normal hn := absurd hn (by simp [SystemManager.initial])

/-- An action that the state says nothing about. -/
theorem Kept.concat {is : List (Action κ)} {m : SystemManager κ} (h : Kept is m) {i : Action κ}
    (hi : ∀ label, i.kind ≠ .startFailed label) : Kept (is ++ [i]) m where
  nodup := h.nodup
  recorded j hj label hlabel := by
    rcases List.mem_append.mp hj with hj | hj
    · exact h.recorded j hj label hlabel
    · exact absurd (List.mem_singleton.mp hj ▸ hlabel) (hi label)
  swept := h.swept.imp id fun hs => hs.concat i
  call c hc := (h.call c hc).concat i
  normal hn := (h.normal hn).concat i

/-- The clock does not go back. -/
def Timely (is : List (Action κ)) : Prop := (is.map Action.clock).Pairwise (· ≤ ·)

section Step

variable {is : List (Action κ)} {i : Action κ}

theorem sweptIn_now {m : SystemManager κ} (hnodup : (m.components.map Prod.fst).Nodup) (hm : after is = m)
    {w : World κ} (hw : i.world = some w) : SweptIn (is ++ [i]) (checkComponentHealth i.clock w m) := by
  subst hm
  exact ⟨is, i, [], w, rfl, hw, rfl, hnodup, rfl⟩

/-- A later sweep is fresher still. -/
theorem Established.resweep {m m' : SystemManager κ} {stage : Stage} (h : Established is m stage)
    (hlater : ∀ j ∈ is, j.clock ≤ i.clock) (hswept : SweptIn (is ++ [i]) m') (hat : m'.sweptAt = i.clock) :
    Established (is ++ [i]) m' stage := by
  cases stage with
  | stateRead =>
    obtain ⟨a, rest, rfl, hrun⟩ := h
    exact ⟨a, rest ++ [i], by simp, hrun⟩
  | startsChecked =>
    obtain ⟨a, u, rest, rfl, hfound⟩ := h
    exact ⟨a, u, rest ++ [i], by simp, hfound⟩
  | swept =>
    obtain ⟨a, u, v, rfl, hrun, hnone, -, check, hcheck, -⟩ := h
    refine ⟨a, u, v ++ [i], by simp, hrun, hnone, hswept, check, by simp [hcheck], ?_⟩
    have hle := hlater check (by simp [hcheck])
    rw [hat, readinessProbeMaxAge]
    linarith

/-- A sweep, by the monitor or within a call. -/
theorem Kept.sweep (h : Kept is (after is)) (hlater : ∀ j ∈ is, j.clock ≤ i.clock)
    (hi : ∀ label, i.kind ≠ .startFailed label) {w : World κ} (hw : i.world = some w) :
    Kept (is ++ [i]) (checkComponentHealth i.clock w (after is)) := by
  have hswept := sweptIn_now h.nodup rfl hw
  exact ⟨h.nodup, (h.concat hi).recorded, .inr hswept, fun c hc => (h.call c hc).resweep hlater hswept rfl,
    (h.concat hi).normal⟩

theorem Kept.finish {m : SystemManager κ} (h : Kept is m) (call : Call) (answer : Answer)
    (hready : answer = .ready → Vouched is) : Kept is (Startup.finish call answer m).2 where
  nodup := h.nodup
  recorded := h.recorded
  swept := h.swept
  call _ hc := absurd hc (by simp [Startup.finish])
  normal hn := by
    simp only [Startup.finish, Bool.or_eq_true, Bool.and_eq_true, decide_eq_true_eq] at hn
    rcases hn with (hscheduled | ⟨-, hanswer⟩) | hstate
    · exact h.normal (.inl hscheduled)
    · exact hready hanswer
    · exact h.normal (.inr hstate)

/-- A call goes on to its next stage. -/
theorem Kept.advance {m : SystemManager κ} (h : Kept is m) (call : Call) (hcall : Established is m call.stage) :
    Kept is { m with call := some call } where
  nodup := h.nodup
  recorded := h.recorded
  swept := h.swept
  call c hc := by
    obtain rfl := Option.some.inj hc
    exact hcall
  normal := h.normal

theorem noneFailed_of_recorded {m : SystemManager κ} (h : Kept is m) (hnone : failedSafetyCriticalStarts m = []) :
    NoneFailed is := by
  intro i hi label hlabel hkind
  have hfailed := List.filter_eq_nil_iff.mp hnone label hlabel
  exact hfailed (decide_eq_true (h.recorded i hi label hkind))

theorem Established.vouched {m : SystemManager κ} (h : Established is m .swept) (hnone : notReady m = []) :
    Vouched is := by
  obtain ⟨a, u, v, rfl, hrun, hstarts, ⟨before, x, behind, w, hsplit, hw, hat, hnodup, hreports⟩, check, hcheck,
    hfresh⟩ := h
  exact ⟨a, u, v, [], by simp, hrun, hstarts, check, hcheck, before, x, behind, w, hsplit, hw, hat ▸ hfresh,
    foundHealthy_of_notReady hnodup hreports hnone⟩

/-- A part of a call of `is_system_ready`. -/
theorem Kept.poll (h : Kept is (after is)) (hlater : ∀ j ∈ is, j.clock ≤ i.clock) {byTimer : Bool}
    {world : Option (World κ)} (hi : i.kind = .poll byTimer world) :
    Kept (is ++ [i]) (Startup.poll byTimer i.clock world (after is)).2 := by
  have hkind : ∀ label, i.kind ≠ .startFailed label := fun label hl => by simp [hi] at hl
  have hkept := h.concat hkind
  have hworld : i.world = world := by rw [Action.world, hi]
  unfold Startup.poll
  split
  · split
    · exact hkept
    · split
      · exact hkept.finish _ _ fun hr => by cases hr
      · rename_i state hstate
        split
        · rename_i hrunning
          refine hkept.advance ⟨byTimer, .stateRead⟩ ⟨is, [i], rfl, ?_⟩
          rw [Operational, hstate]
          exact hrunning.imp (congrArg some) (congrArg some)
        · exact hkept.finish _ _ fun hr => by cases hr
  · rename_i call hcall
    split
    · rename_i hstage
      split
      · rename_i hnone
        obtain ⟨a, rest, hsplit, hrun⟩ : Established is (after is) .stateRead := hstage ▸ h.call call hcall
        have hstarts := noneFailed_of_recorded h hnone
        refine hkept.advance { call with stage := .startsChecked } ⟨a, rest, [i], by rw [hsplit], hrun, ?_⟩
        rw [← hsplit]
        exact hstarts
      · exact hkept.finish _ _ fun hr => by cases hr
    · rename_i hstage
      obtain ⟨a, u, rest, hsplit, hrun, hstarts⟩ : Established is (after is) .startsChecked :=
        hstage ▸ h.call call hcall
      split
      · split
        · rename_i w
          refine (h.sweep hlater hkind hworld).advance { call with stage := .swept } ?_
          refine ⟨a, u, rest ++ [i], by simp [hsplit], hrun, hstarts, sweptIn_now h.nodup rfl hworld, i,
            by simp, ?_⟩
          show i.clock - readinessProbeMaxAge ≤ i.clock
          rw [readinessProbeMaxAge]
          linarith
        · exact hkept.finish _ _ fun hr => by cases hr
      · rename_i hfresh
        simp only [isStale, decide_eq_true_eq, not_or, not_le, not_lt] at hfresh
        obtain ⟨hswept, hage⟩ := hfresh
        refine hkept.advance { call with stage := .swept } ⟨a, u, rest ++ [i], by simp [hsplit], hrun, hstarts, ?_, i,
          by simp, by linarith⟩
        exact (h.swept.resolve_left hswept.ne').concat i
    · rename_i hstage
      have hestablished : Established is (after is) .swept := hstage ▸ h.call call hcall
      split
      · rename_i hnone
        exact hkept.finish _ _ fun _ => (hestablished.vouched hnone).concat i
      · exact hkept.finish _ _ fun hr => by cases hr

/-- One action of any thread. -/
theorem Kept.step (h : Kept is (after is)) (hlater : ∀ j ∈ is, j.clock ≤ i.clock)
    (hother : i.kind ≠ .setState .normal) : Kept (is ++ [i]) (after (is ++ [i])) := by
  rw [after_concat]
  cases hi : i.kind with
  | setState state =>
    have hkind : ∀ label, i.kind ≠ .startFailed label := fun label hl => by simp [hi] at hl
    have hkept := h.concat hkind
    rw [Startup.step, hi]
    refine ⟨hkept.nodup, hkept.recorded, hkept.swept, hkept.call, fun hn => hkept.normal (hn.imp id fun hstate => ?_)⟩
    obtain rfl : state = .normal := Option.some.inj hstate
    exact absurd hi hother
  | registerComponent name component =>
    have hkind : ∀ label, i.kind ≠ .startFailed label := fun label hl => by simp [hi] at hl
    have hkept := h.concat hkind
    rw [Startup.step, hi]
    exact ⟨Dict.nodup_keys_set h.nodup name component, hkept.recorded, hkept.swept, hkept.call, hkept.normal⟩
  | startFailed label =>
    rw [Startup.step, hi]
    refine ⟨h.nodup, fun j hj l hl => ?_, h.swept.imp id fun hs => hs.concat i, fun c hc => (h.call c hc).concat i,
      fun hn => (h.normal hn).concat i⟩
    show l ∈ if label ∈ (after is).failedSubsystemStarts then _ else _
    rcases List.mem_append.mp hj with hj | hj
    · have hold := h.recorded j hj l hl
      split_ifs
      · exact hold
      · exact List.mem_append_left _ hold
    · obtain rfl := List.mem_singleton.mp hj
      obtain rfl : label = l := Kind.startFailed.inj (hi.symm.trans hl)
      split_ifs with hold
      · exact hold
      · simp
  | monitor world =>
    rw [Startup.step, hi]
    exact h.sweep hlater (fun label hl => by simp [hi] at hl) (by rw [Action.world, hi])
  | poll byTimer world =>
    rw [Startup.step, hi]
    exact h.poll hlater hi
  | runCallback =>
    have hkind : ∀ label, i.kind ≠ .startFailed label := fun label hl => by simp [hi] at hl
    have hkept := h.concat hkind
    rw [Startup.step, hi]
    simp only
    split_ifs with hscheduled
    · exact ⟨hkept.nodup, hkept.recorded, hkept.swept, hkept.call, fun _ => hkept.normal (.inl hscheduled)⟩
    · exact hkept

end Step

theorem kept_run {is : List (Action κ)} (htimely : Timely is) (hothers : ∀ i ∈ is, i.kind ≠ .setState .normal) :
    Kept is (after is) := by
  induction is using List.reverseRecOn with
  | nil => exact kept_initial
  | append_singleton is i ih =>
    rw [Timely, List.map_append, List.pairwise_append] at htimely
    have hlater : ∀ j ∈ is, j.clock ≤ i.clock := fun j hj =>
      htimely.2.2 j.clock (List.mem_map_of_mem hj) i.clock (by simp)
    exact (ih htimely.1 fun j hj => hothers j (List.mem_append_left _ hj)).step hlater (hothers i (by simp))

/-- In every interleaving of the start-up, the sweeps, the registrations and the polls, the system is only ever
normal if a call has found it in order. -/
theorem normal_only_if_vouched {is : List (Action κ)} (htimely : Timely is)
    (hothers : ∀ i ∈ is, i.kind ≠ .setState .normal) (h : (after is).state = some .normal) : Vouched is :=
  (kept_run htimely hothers).normal (.inr h)

/-- The critical components are registered, the start is over, and the timer polls. -/
def boot : List (Action Unit) :=
  criticalComponents.map (fun name => ⟨1, .registerComponent name ()⟩) ++
    [⟨2, .setState .running⟩, ⟨3, .poll true none⟩, ⟨3, .startFailed "SensorService"⟩, ⟨3, .poll true none⟩,
      ⟨3, .poll true (some fun _ => some { isHealthy := some (.ok ⟨true, "True"⟩) })⟩, ⟨3, .poll true none⟩,
      ⟨4, .runCallback⟩]

theorem normal_only_if_vouched_boot : Vouched boot :=
  normal_only_if_vouched (by unfold Timely; decide +kernel)
    (by simp [boot, criticalComponents]) (by decide +kernel)

end Fmofp.Startup
