import Mathlib
import Fmofp.Python.Value

/-! `ScenarioEngine`: the events of a scenario, the loop that dispatches them on a thread of its own, and
the calls that load, start and stop it.  The loop holds the lock for a whole pass over the events. -/

namespace Fmofp.Scenario

open Python

structure ScenarioEvent where
  eventId : String
  eventType : String
  triggerS : ℚ
  params : Message := []
  fired : Bool := false
  deriving DecidableEq

/-- An entry of the replay log. -/
structure LogEntry where
  ts : ℚ
  eventId : String
  eventType : String
  params : Message

/-- What `_dispatch` hands an event to; whatever that raises is caught. -/
inductive Injector where
  | radarContact
  | threat
  | weather
  | waypoint
  | phase
  | failure
  | instructorMessage
  | unknown
  deriving DecidableEq

def injectorFor (eventType : String) : Injector :=
  if eventType = "radar_contact" then .radarContact
  else if eventType = "threat_launch" then .threat
  else if eventType = "weather_cell" then .weather
  else if eventType = "waypoint" then .waypoint
  else if eventType = "phase_change" then .phase
  else if eventType = "system_failure" then .failure
  else if eventType = "message" then .instructorMessage
  else .unknown

/-- Where the thread of the loop is. -/
inductive Thread where
  /-- There is none, or it has ended. -/
  | absent
  /-- Before it reads the start time. -/
  | starting
  /-- Before the test of the loop. -/
  | testing
  /-- Before it reads the time of the pass. -/
  | reading
  /-- Before it gets the lock. -/
  | acquiring (elapsed : ℚ)
  /-- In a pass, with the lock, before the event with the index. -/
  | passing (elapsed : ℚ) (next : ℕ)
  /-- After a pass, without the lock, before the test whether the scenario is complete. -/
  | checking (allFired : Bool)
  deriving DecidableEq

structure Engine where
  events : List ScenarioEvent
  log : List LogEntry
  startTs : Option ℚ
  /-- `_running`, the event that stops the loop. -/
  stopSet : Bool
  thread : Thread
  /-- Since when `stop` waits for the thread. -/
  joining : Option ℚ

namespace Engine

def initial : Engine := ⟨[], [], none, false, .absent, none⟩

variable (engine : Engine)

/-- A pass holds the lock. -/
def locked : Bool :=
  match engine.thread with
  | .passing _ _ => true
  | _ => false

/-- `load`, of the events that `_parse` makes.  It waits for the lock, and the caller for an earlier
`stop`. -/
def load (events : List ScenarioEvent) : Engine :=
  if engine.joining ≠ none ∨ engine.locked = true then engine
  else { engine with
    events := (events.map fun e => { e with fired := false }).insertionSort fun a b => a.triggerS ≤ b.triggerS
    log := [] }

/-- A start takes effect when no thread is alive and there are events. -/
def startable : Bool := decide (engine.thread = .absent) && !engine.events.isEmpty

def start : Engine :=
  if engine.joining = none ∧ engine.startable = true then
    { engine with
      stopSet := false
      events := engine.events.map fun e => { e with fired := false }
      thread := .starting }
  else engine

/-- `stop`, up to its wait for the thread. -/
def stop (now : ℚ) : Engine :=
  if engine.joining = none then { engine with stopSet := true, joining := some now } else engine

/-- `join` returns when the thread has ended, or after two seconds. -/
def joined (now : ℚ) : Bool :=
  match engine.joining with
  | some since => decide (engine.thread = .absent) || decide (since + 2 ≤ now)
  | none => false

/-- The next step of the thread; `now` is the clock as it reads there.  An event that is dispatched is
given with its index. -/
def turn (now : ℚ) : Option (ℕ × ScenarioEvent) × Engine :=
  match engine.thread with
  | .absent => (none, engine)
  | .starting => (none, { engine with startTs := some now, thread := .testing })
  | .testing => (none, { engine with thread := if engine.stopSet then .absent else .reading })
  | .reading => (none, { engine with thread := .acquiring (now - engine.startTs.getD now) })
  | .acquiring elapsed => (none, { engine with thread := .passing elapsed 0 })
  | .passing elapsed next => match engine.events[next]? with
    | some event =>
      if event.fired = false ∧ event.triggerS ≤ elapsed then
        (some (next, event), { engine with
          events := engine.events.set next { event with fired := true }
          log := engine.log ++ [⟨now, event.eventId, event.eventType, event.params⟩]
          thread := .passing elapsed (next + 1) })
      else (none, { engine with thread := .passing elapsed (next + 1) })
    | none => (none, { engine with thread := .checking (engine.events.all ScenarioEvent.fired) })
  | .checking allFired =>
    (none, { engine with thread := if allFired && !engine.events.isEmpty then .absent else .testing })

end Engine

end Fmofp.Scenario
