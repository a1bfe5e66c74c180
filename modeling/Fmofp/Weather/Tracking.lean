import Fmofp.Machine.Components
import Fmofp.Machine.Run
import Fmofp.Python.Text

/-! `WeatherStateManager.update_tracked_points`: how the points of a frame are matched to the tracked points of the
frame before, and the tables of tracked points that `vil` and `precip` have. -/

namespace Fmofp.Weather

open Python

/-- The functions of the `math` library that the geometry calls. -/
structure MathLibrary where
  sin : ℚ → ℚ
  cos : ℚ → ℚ
  radians : ℚ → ℚ
  sqrt : ℚ → ℚ

abbrev Position := ℚ × ℚ

/-- The direction in degrees and the speed in knots. -/
structure Wind where
  direction : ℚ
  speed : ℚ

/-- A point of a frame; `fields` are its other attributes. -/
structure Point where
  position : Position
  intensity : ℚ
  className : String
  fields : Message

structure TrackedPoint where
  position : Position
  intensity : ℚ
  attributes : Message
  pointId : String
  trajectory : List Position
  lastUpdateTime : ℚ
  predictedNextPosition : Option Position
  age : ℚ
  deriving DecidableEq

abbrev Table := Dict String TrackedPoint

/-- A call of `update_tracked_points`, with the id that `uuid4` makes up for each point that is new. -/
structure Call where
  dataType : String
  currentPoints : List Point
  windVector : Wind
  currentTime : ℚ
  freshId : ℕ → String

structure WeatherStateManager where
  trackedVilPoints : Table
  trackedPrecipPoints : Table
  lastSamplingTime : ℚ
  deriving DecidableEq

/-- `__init__`, with the clock at `now`. -/
def WeatherStateManager.start (now : ℚ) : WeatherStateManager := ⟨[], [], now⟩

def trackingHistoryLength : ℕ := 5

/-- The default of `max_distance`. -/
def maxDistance : ℚ := 10

/-! ### Geometry -/

section Geometry

variable (math : MathLibrary)

/-- `calculate_expected_movement`. -/
def calculateExpectedMovement (wind : Wind) (timeDelta : ℚ) : Position :=
  let windSpeedNmS := wind.speed / 3600
  let windDirectionRad := math.radians wind.direction
  (windSpeedNmS * timeDelta * math.sin windDirectionRad, windSpeedNmS * timeDelta * math.cos windDirectionRad)

/-- `predict_next_position`. -/
def predictNextPosition (point : TrackedPoint) (expectedMovement : Position) : Position :=
  (point.position.1 + expectedMovement.1, point.position.2 + expectedMovement.2)

/-- `calculate_distance`. -/
def calculateDistance (pos₁ pos₂ : Position) : ℚ :=
  math.sqrt ((pos₂.1 - pos₁.1) ^ 2 + (pos₂.2 - pos₁.2) ^ 2)

/-- The nearest of the predicted positions that are not taken, the first of those, with its distance. -/
def bestMatch (position : Position) (taken : List String) (predictedPositions : List (String × Position)) :
    Option (String × ℚ) :=
  predictedPositions.foldl (fun best e =>
    if e.1 ∈ taken then best
    else
      let distance := calculateDistance math position e.2
      if best.all fun b => decide (distance < b.2) then some (e.1, distance) else best) none

/-- One point's match, if it has a good one; an id is taken once it is matched. -/
def matchPoint (predictedPositions : List (String × Position)) (matched : Dict ℕ String) (e : Point × ℕ) :
    Dict ℕ String :=
  match bestMatch math e.1.position (matched.map Prod.snd) predictedPositions with
  | some (pointId, distance) => if distance < maxDistance then Dict.set matched e.2 pointId else matched
  | none => matched

/-- `match_points_to_previous`: from the indices of the current points to the ids of tracked ones. -/
def matchPointsToPrevious (currentPoints : List Point) (previousTracked : Table) (wind : Wind) (timeDelta : ℚ) :
    Dict ℕ String :=
  if previousTracked.isEmpty || currentPoints.isEmpty then []
  else
    let expectedMovement := calculateExpectedMovement math wind timeDelta
    let predictedPositions := previousTracked.map fun e => (e.1, predictNextPosition e.2 expectedMovement)
    currentPoints.zipIdx.foldl (matchPoint math predictedPositions) []

end Geometry

/-! ### Tracked points -/

section Tracked

variable (math : MathLibrary)

/-- The position that is predicted half a minute ahead. -/
def TrackedPoint.predict (tracked : TrackedPoint) (wind : Wind) : TrackedPoint :=
  { tracked with
    predictedNextPosition := some (predictNextPosition tracked (calculateExpectedMovement math wind 30)) }

/-- What a match makes of a tracked point. -/
def TrackedPoint.follow (tracked : TrackedPoint) (point : Point) (wind : Wind) (currentTime timeDelta : ℚ) :
    TrackedPoint :=
  let trajectory := tracked.trajectory ++ [point.position]
  TrackedPoint.predict math
    { tracked with
      position := point.position
      intensity := point.intensity
      trajectory :=
        if trackingHistoryLength < trajectory.length then trajectory.drop (trajectory.length - trackingHistoryLength)
        else trajectory
      lastUpdateTime := currentTime
      age := tracked.age + timeDelta } wind

/-- The attributes of a new tracked point; the point's own type goes over the type of the data. -/
def newAttributes (dataType : String) (point : Point) : Message :=
  ["request_id", "type", "layer_count", "value"].foldl
    (fun attributes attr => match Dict.get? point.fields attr with
      | some v => Dict.set attributes attr v
      | none => attributes)
    [("type", .str dataType), ("point_type", .str point.className)]

def newTrackedPoint (dataType : String) (point : Point) (pointId : String) (wind : Wind) (currentTime : ℚ) :
    TrackedPoint :=
  TrackedPoint.predict math
    { position := point.position
      intensity := point.intensity
      attributes := newAttributes dataType point
      pointId := pointId
      trajectory := [point.position]
      lastUpdateTime := currentTime
      predictedNextPosition := none
      age := 0 } wind

/-- The tracked point of a current one; an id that is matched is one of the table. -/
def trackedFor (c : Call) (trackedDict : Table) (matched : Dict ℕ String) (timeDelta : ℚ) (e : Point × ℕ) :
    TrackedPoint :=
  match (Dict.get? matched e.2).bind (Dict.get? trackedDict) with
  | some tracked => tracked.follow math e.1 c.windVector c.currentTime timeDelta
  | none => newTrackedPoint math c.dataType e.1 (c.freshId e.2) c.windVector c.currentTime

/-- What a call does: the matches, the `tracked_id` that each point gets, and the new table. -/
structure Update where
  matched : Dict ℕ String
  trackedIds : List String
  newTracked : Table
  deriving DecidableEq

/-- The update of a table after `timeDelta` seconds. -/
def update (c : Call) (trackedDict : Table) (timeDelta : ℚ) : Update :=
  let matched := matchPointsToPrevious math c.currentPoints trackedDict c.windVector timeDelta
  let tracked := c.currentPoints.zipIdx.map (trackedFor math c trackedDict matched timeDelta)
  { matched
    trackedIds := tracked.map TrackedPoint.pointId
    newTracked := tracked.foldl (fun table t => Dict.set table t.pointId t) [] }

end Tracked

/-- Which of the two tables a type of data has. -/
def isVil (dataType : String) : Bool := dataType == "vil"

namespace WeatherStateManager

def trackedDict (s : WeatherStateManager) (vil : Bool) : Table :=
  if vil then s.trackedVilPoints else s.trackedPrecipPoints

def setTracked (s : WeatherStateManager) (vil : Bool) (table : Table) : WeatherStateManager :=
  if vil then { s with trackedVilPoints := table } else { s with trackedPrecipPoints := table }

/-- `update_tracked_points`. -/
def updateTrackedPoints (math : MathLibrary) (s : WeatherStateManager) (c : Call) : Update × WeatherStateManager :=
  let updated := update math c (s.trackedDict (isVil c.dataType)) (c.currentTime - s.lastSamplingTime)
  (updated, { s.setTracked (isVil c.dataType) updated.newTracked with lastSamplingTime := c.currentTime })

/-- The call replaces the table of its type of data. -/
theorem trackedDict_updateTrackedPoints (math : MathLibrary) (s : WeatherStateManager) (c : Call) :
    (s.updateTrackedPoints math c).2.trackedDict (isVil c.dataType) = (s.updateTrackedPoints math c).1.newTracked := by
  unfold updateTrackedPoints trackedDict setTracked
  cases isVil c.dataType <;> rfl

/-- The other table stays. -/
theorem trackedDict_updateTrackedPoints_of_ne (math : MathLibrary) (s : WeatherStateManager) {c : Call} {vil : Bool}
    (h : isVil c.dataType ≠ vil) : (s.updateTrackedPoints math c).2.trackedDict vil = s.trackedDict vil := by
  unfold updateTrackedPoints trackedDict setTracked
  cases hvil : isVil c.dataType <;> cases vil
  · exact absurd hvil h
  · rfl
  · rfl
  · exact absurd hvil h

end WeatherStateManager

end Fmofp.Weather

/-! `WeatherStateManager.cluster_points`: the clusters of a list of points are the connected components of
the points that are at most a radius apart. -/

namespace Fmofp.Weather

open Machine

variable (math : MathLibrary)

/-- The distance of the points with these indices is at most the radius. -/
def within (points : List Point) (radius : ℚ) (i k : ℕ) : Bool :=
  match points[i]?, points[k]? with
  | some p, some q => decide (calculateDistance math p.position q.position ≤ radius)
  | _, _ => false

/-- `cluster_points`; the loop over a cluster is given as many rounds as there are points. -/
def clusterPoints (points : List Point) (radius : ℚ) : Option (List (List ℕ)) :=
  components points.length (within math points radius)

variable {math}

theorem calculateDistance_comm (pos₁ pos₂ : Position) :
    calculateDistance math pos₁ pos₂ = calculateDistance math pos₂ pos₁ := by
  rw [calculateDistance, calculateDistance]
  congr 1
  ring

theorem within_comm (points : List Point) (radius : ℚ) (i k : ℕ) :
    within math points radius i k = within math points radius k i := by
  rw [within, within]
  cases points[i]? with
  | none => cases points[k]? <;> rfl
  | some p =>
    cases points[k]? with
    | none => rfl
    | some q =>
      dsimp only
      rw [calculateDistance_comm]

/-- A step of a chain: points of the list that are at most the radius apart. -/
def Adjacent (math : MathLibrary) (points : List Point) (radius : ℚ) (i k : ℕ) : Prop :=
  ∃ p q, points[i]? = some p ∧ points[k]? = some q ∧
    calculateDistance math p.position q.position ≤ radius

theorem near_iff_adjacent (points : List Point) (radius : ℚ) (i k : ℕ) :
    Near points.length (within math points radius) i k ↔ Adjacent math points radius i k := by
  rw [Near, Adjacent, within]
  constructor
  · rintro ⟨hi, hk, hwithin⟩
    rw [List.getElem?_eq_getElem hi, List.getElem?_eq_getElem hk] at hwithin
    exact ⟨_, _, List.getElem?_eq_getElem hi, List.getElem?_eq_getElem hk, of_decide_eq_true hwithin⟩
  · rintro ⟨p, q, hp, hq, hdistance⟩
    refine ⟨(List.getElem?_eq_some_iff.mp hp).1, (List.getElem?_eq_some_iff.mp hq).1, ?_⟩
    rw [hp, hq]
    exact decide_eq_true hdistance

/-- The loop ends, the clusters have each index once, and two indices are in one cluster if and only if a
chain of points leads from one to the other whose steps are at most the radius. -/
theorem clusterPoints_components (math : MathLibrary) (points : List Point) (radius : ℚ) :
    ∃ clusters, clusterPoints math points radius = some clusters ∧ [] ∉ clusters ∧
      clusters.flatten.Perm (List.range points.length) ∧
      ∀ i k, i < points.length → k < points.length →
        ((∃ cluster ∈ clusters, i ∈ cluster ∧ k ∈ cluster) ↔
          Relation.ReflTransGen (Adjacent math points radius) i k) := by
  have hsymm : ∀ i k, within math points radius i k = within math points radius k i :=
    within_comm points radius
  obtain ⟨clusters, hclusters, hnonempty, hpartition, hjoined⟩ :=
    components_spec points.length hsymm
  have hnear : Near points.length (within math points radius) = Adjacent math points radius := by
    funext i k
    exact propext (near_iff_adjacent points radius i k)
  simp only [Chain, hnear] at hjoined
  exact ⟨clusters, hclusters, fun hnil => hnonempty [] hnil rfl, hpartition, hjoined⟩

end Fmofp.Weather
