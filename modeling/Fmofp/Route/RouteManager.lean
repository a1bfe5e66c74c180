import Fmofp.Machine.Insertion
import Fmofp.Machine.Run
import Fmofp.Python.Dict

/-! The route manager with its callers interleaved.  Each lock-protected section is one step; a call of
`add_waypoint` takes two, as it reads the id before it asks for the lock, and `insert_target` gives the
lock back between choosing a position and using it. -/

namespace Fmofp.Route

open Python Machine

inductive WaypointType
  | ip
  | tgt
  | egr
  | alt
  | nav
  | ref
  | home
  deriving Repr, DecidableEq

/-- A waypoint without its estimated time, which no decision depends on. -/
structure Waypoint where
  id : ℕ
  name : String
  lat : ℚ
  lon : ℚ
  altFt : ℚ
  wpType : WaypointType := .nav
  speedKts : Option ℚ := none
  flyOver : Bool := true
  deriving Repr, DecidableEq

/-- A caller inside one of the methods. -/
inductive Call
  /-- `add_waypoint` with the waypoint made and the lock not yet taken. -/
  | adding (wp : Waypoint) (index : Option ℤ)
  /-- `insert_target` between its two locked sections. -/
  | inserting (name : String) (lat lon altFt : ℚ) (index : ℕ)
  /-- Waits for the lock that it holds. -/
  | stuck
  deriving Repr, DecidableEq

structure RouteManager where
  waypoints : List Waypoint := []
  activeIdx : ℕ := 0
  nextId : ℕ := 1
  calls : Dict ℕ Call := []
  /-- The caller that holds the lock for good. -/
  heldBy : Option ℕ := none
  /-- The ids of the waypoints of the route that have been reached: a record that the program does not
  keep. -/
  reached : List ℕ := []
  deriving Repr, DecidableEq

namespace RouteManager

variable (haversineNm : ℚ → ℚ → ℚ → ℚ → ℚ)

def ids (s : RouteManager) : List ℕ := s.waypoints.map Waypoint.id

def active (s : RouteManager) : Option Waypoint := s.waypoints[s.activeIdx]?

def reachedNm : ℚ := 1 / 2

/-- Where `list.insert(index, x)` puts `x`, or where `append` does. -/
def insertPosition (index : Option ℤ) (length : ℕ) : ℕ :=
  match index with
  | none => length
  | some (.ofNat i) => min i length
  | some (.negSucc i) => length - (i + 1)

/-- The locked section of `add_waypoint`. -/
def insertWaypoint (s : RouteManager) (wp : Waypoint) (index : Option ℤ) : RouteManager :=
  { s with
    waypoints := insertAt s.waypoints (insertPosition index s.waypoints.length) wp
    nextId := s.nextId + 1
    reached := s.reached.filter fun id => id ≠ wp.id }

/-- The locked section of `remove_waypoint`.  The new index is at least 0 without saying so: an empty
route has no last index. -/
def removeWaypoint (s : RouteManager) (wpId : ℕ) : RouteManager :=
  let waypoints := s.waypoints.filter fun wp => wp.id ≠ wpId
  { s with
    waypoints
    activeIdx := if waypoints.length < s.waypoints.length then
        min s.activeIdx (waypoints.length - 1)
      else s.activeIdx
    reached := s.reached.filter fun id => id ≠ wpId }

def clearRoute (s : RouteManager) : RouteManager :=
  { s with waypoints := [], activeIdx := 0, reached := [] }

/-- The position is within the radius of the active waypoint. -/
def reaches (s : RouteManager) (lat lon : ℚ) : Option Waypoint :=
  s.active.filter fun wp => haversineNm lat lon wp.lat wp.lon < reachedNm

def updatePosition (s : RouteManager) (lat lon : ℚ) : RouteManager :=
  match s.reaches haversineNm lat lon with
  | some wp =>
    { s with
      activeIdx := min (s.activeIdx + 1) s.waypoints.length
      reached := wp.id :: s.reached }
  | none => s

/-- The nearest of the waypoints from the active one on, the first of them if there are several, with
the best distance so far. -/
def nearest (lat lon : ℚ) : List Waypoint → ℕ → Option ℚ → ℕ → ℕ
  | [], _, _, bestIdx => bestIdx
  | wp :: rest, i, bestDist, bestIdx =>
    let d := haversineNm wp.lat wp.lon lat lon
    if bestDist.all fun best => d < best then nearest lat lon rest (i + 1) (some d) i
    else nearest lat lon rest (i + 1) bestDist bestIdx

def targetIndex (s : RouteManager) (lat lon : ℚ) : ℕ :=
  nearest haversineNm lat lon (s.waypoints.drop s.activeIdx) s.activeIdx none s.waypoints.length

/-- One waypoint pushed outward. -/
def deviate (threatLat threatLon threatRadiusNm : ℚ) (wp : Waypoint) : Waypoint :=
  let dist := haversineNm wp.lat wp.lon threatLat threatLon
  if 0 < dist ∧ dist < threatRadiusNm then
    let factor := (threatRadiusNm - dist) / dist * (11 / 10)
    { wp with
      lat := wp.lat + (wp.lat - threatLat) * factor
      lon := wp.lon + (wp.lon - threatLon) * factor }
  else wp

def deviateFromThreat (s : RouteManager) (threatLat threatLon threatRadiusNm : ℚ) : RouteManager :=
  { s with waypoints := s.waypoints.map (deviate haversineNm threatLat threatLon threatRadiusNm) }

end RouteManager

/-! ### Interleaved calls -/

inductive Action
  /-- A caller enters `add_waypoint` and makes the waypoint with the id that it reads. -/
  | addWaypoint (caller : ℕ) (wp : Waypoint) (index : Option ℤ)
  /-- The locked section of the `add_waypoint` that the caller is in. -/
  | insertWaypoint (caller : ℕ)
  /-- The locked section of `insert_target`. -/
  | insertTarget (caller : ℕ) (name : String) (lat lon altFt : ℚ)
  /-- `insert_target` goes on with `add_waypoint`. -/
  | addTarget (caller : ℕ)
  | removeWaypoint (wpId : ℕ)
  | clearRoute
  | updatePosition (lat lon : ℚ)
  | deviateFromThreat (threatLat threatLon threatRadiusNm : ℚ)

/-- What a step does when nobody holds the lock for good. -/
def next (haversineNm : ℚ → ℚ → ℚ → ℚ → ℚ) (s : RouteManager) : Action → RouteManager
  | .addWaypoint caller wp index =>
    match Dict.get? s.calls caller with
    | none => { s with calls := Dict.set s.calls caller (.adding { wp with id := s.nextId } index) }
    | some _ => s
  | .insertWaypoint caller =>
    match Dict.get? s.calls caller with
    | some (.adding wp index) =>
      { s.insertWaypoint wp index with calls := Dict.erase s.calls caller }
    | _ => s
  | .insertTarget caller name lat lon altFt =>
    match Dict.get? s.calls caller with
    | none =>
      -- an empty route is handed to `add_waypoint` with the lock still held
      if s.waypoints = [] then
        { s with calls := Dict.set s.calls caller .stuck, heldBy := some caller }
      else
        let index := s.targetIndex haversineNm lat lon
        { s with calls := Dict.set s.calls caller (.inserting name lat lon altFt index) }
    | some _ => s
  | .addTarget caller =>
    match Dict.get? s.calls caller with
    | some (.inserting name lat lon altFt index) =>
      let wp : Waypoint := { id := s.nextId, name, lat, lon, altFt, wpType := .tgt }
      { s with calls := Dict.set s.calls caller (.adding wp (some index)) }
    | _ => s
  | .removeWaypoint wpId => s.removeWaypoint wpId
  | .clearRoute => s.clearRoute
  | .updatePosition lat lon => s.updatePosition haversineNm lat lon
  | .deviateFromThreat threatLat threatLon threatRadiusNm =>
    s.deviateFromThreat haversineNm threatLat threatLon threatRadiusNm

/-- A step asks for no lock: it makes a waypoint. -/
def Action.lockFree : Action → Bool
  | .addWaypoint _ _ _ | .addTarget _ => true
  | _ => false

def step (haversineNm : ℚ → ℚ → ℚ → ℚ → ℚ) (s : RouteManager) (action : Action) : Unit × RouteManager :=
  if s.heldBy = none ∨ action.lockFree then ((), next haversineNm s action) else ((), s)

end Fmofp.Route
