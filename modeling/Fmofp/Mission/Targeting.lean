import Mathlib
import Fmofp.Python.Dict

/-! `Targeting` of the mission planning system: the targets, and the table of those that are engaged.  A
target is added as its constructor makes it. -/

namespace Fmofp.Mission

open Python

inductive TargetStatus
  | designated | acquired | tracking | engaged | bdaPending | destroyed | lost
  deriving DecidableEq

/-- A target; `κ` are the ids and `ω` the weapons. -/
structure Target (ω : Type) where
  position : ℚ × ℚ × ℚ
  status : TargetStatus
  trackQuality : ℚ
  weaponSystem : Option ω
  lastUpdated : ℚ
  speedKts : ℚ
  headingDeg : ℚ

def Target.new {ω : Type} (position : ℚ × ℚ × ℚ) (now : ℚ) : Target ω where
  position := position
  status := .designated
  trackQuality := 0
  weaponSystem := none
  lastUpdated := now
  speedKts := 0
  headingDeg := 0

structure Targeting (κ ω : Type) where
  targets : Dict κ (Target ω)
  engagedTargets : Dict κ (Option ω)

namespace Targeting

/-- Seconds. -/
def trackDecay : ℚ := 30

variable {κ ω : Type}

def new : Targeting κ ω := ⟨[], []⟩

variable [DecidableEq κ] (s : Targeting κ ω)

/-- A stored target is written to. -/
def store (targetId : κ) (target : Target ω) : Targeting κ ω :=
  { s with targets := Dict.set s.targets targetId target }

def addTarget (targetId : κ) (target : Target ω) : Targeting κ ω := s.store targetId target

def removeTarget (targetId : κ) : Bool × Targeting κ ω :=
  if Dict.has s.targets targetId then
    (true, ⟨Dict.erase s.targets targetId, Dict.erase s.engagedTargets targetId⟩)
  else (false, s)

def acquire (targetId : κ) (now : ℚ) : Bool × Targeting κ ω :=
  match Dict.get? s.targets targetId with
  | some t =>
    if t.status = .designated then
      (true, s.store targetId
        { t with status := .acquired, trackQuality := 1 / 2, lastUpdated := now })
    else (false, s)
  | none => (false, s)

def engageTarget (targetId : κ) (weaponSystem : Option ω) : Bool × Targeting κ ω :=
  match Dict.get? s.targets targetId with
  | some t =>
    if t.status = .acquired ∨ t.status = .tracking then
      let t := { t with status := .engaged, weaponSystem := weaponSystem }
      (true, ⟨Dict.set s.targets targetId t, Dict.set s.engagedTargets targetId weaponSystem⟩)
    else (false, s)
  | none => (false, s)

def disengageTarget (targetId : κ) : Bool × Targeting κ ω :=
  match Dict.get? s.targets targetId with
  | some t =>
    if Dict.has s.engagedTargets targetId then
      let t := { t with status := .tracking, weaponSystem := none }
      (true, ⟨Dict.set s.targets targetId t, Dict.erase s.engagedTargets targetId⟩)
    else (false, s)
  | none => (false, s)

def markBdaPending (targetId : κ) : Bool × Targeting κ ω :=
  match Dict.get? s.targets targetId with
  | some t =>
    if t.status = .engaged then (true, s.store targetId { t with status := .bdaPending })
    else (false, s)
  | none => (false, s)

def assessDamage (targetId : κ) (destroyed : Bool) : Bool × Targeting κ ω :=
  match Dict.get? s.targets targetId with
  | some t =>
    if t.status = .bdaPending then
      (true, s.store targetId { t with status := if destroyed then .destroyed else .acquired })
    else (false, s)
  | none => (false, s)

/-- What the radar says about a target. -/
structure RadarUpdate where
  lat : ℚ
  lon : ℚ
  altFt : ℚ
  speedKts : ℚ
  headingDeg : ℚ
  trackQuality : ℚ

/-- The target that `update_from_radar` finds. -/
def updated (update : RadarUpdate) (now : ℚ) (t : Target ω) : Target ω where
  position := (update.lat, update.lon, update.altFt)
  status :=
    if t.status = .designated then .acquired
    else if t.status = .acquired then .tracking
    else t.status
  trackQuality := min 1 update.trackQuality
  weaponSystem := t.weaponSystem
  lastUpdated := now
  speedKts := update.speedKts
  headingDeg := update.headingDeg

def updateFromRadar (targetId : κ) (update : RadarUpdate) (now : ℚ) : Bool × Targeting κ ω :=
  match Dict.get? s.targets targetId with
  | none => (false, s)
  | some t => (true, s.store targetId (updated update now t))

/-- The loss of quality of one target in `simulate_tick`. -/
def decayed (now : ℚ) (t : Target ω) : Target ω :=
  let stale := now - t.lastUpdated
  if 0 < stale then
    let quality := max 0 (t.trackQuality - stale / trackDecay * (1 / 20))
    { t with
      trackQuality := quality
      status := if quality < 1 / 10 ∧ t.status = .tracking then .lost else t.status }
  else t

def simulateTick (now : ℚ) : Targeting κ ω :=
  { s with targets := s.targets.map fun e => (e.1, decayed now e.2) }

/-- A call, with the time that it reads from the clock. -/
inductive Call (κ ω : Type)
  | addTarget (targetId : κ) (position : ℚ × ℚ × ℚ) (now : ℚ)
  | removeTarget (targetId : κ)
  | acquire (targetId : κ) (now : ℚ)
  | engageTarget (targetId : κ) (weaponSystem : Option ω)
  | disengageTarget (targetId : κ)
  | markBdaPending (targetId : κ)
  | assessDamage (targetId : κ) (destroyed : Bool)
  | updateFromRadar (targetId : κ) (update : RadarUpdate) (now : ℚ)
  | simulateTick (now : ℚ)

/-- One call; those that return nothing are successful. -/
def step : Targeting κ ω → Call κ ω → Bool × Targeting κ ω
  | s, .addTarget targetId position now => (true, s.addTarget targetId (.new position now))
  | s, .removeTarget targetId => s.removeTarget targetId
  | s, .acquire targetId now => s.acquire targetId now
  | s, .engageTarget targetId weaponSystem => s.engageTarget targetId weaponSystem
  | s, .disengageTarget targetId => s.disengageTarget targetId
  | s, .markBdaPending targetId => s.markBdaPending targetId
  | s, .assessDamage targetId destroyed => s.assessDamage targetId destroyed
  | s, .updateFromRadar targetId update now => s.updateFromRadar targetId update now
  | s, .simulateTick now => (true, s.simulateTick now)

end Targeting

end Fmofp.Mission
