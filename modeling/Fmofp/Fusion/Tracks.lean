import Fmofp.Machine.Run
import Fmofp.Python.Dict
import Fmofp.Python.Text

/-! One epoch of the radar data fusion: reports are clustered by their positions, each cluster is merged
into a track with a new id, tracks near to one of the previous table take an id over from it, and tracks
whose stamp is too old are dropped.  Distances are compared by their squares. -/

namespace Fmofp.Fusion

open Python

/-- A position or velocity. -/
structure Vec where
  x : ℚ
  y : ℚ
  z : ℚ
  deriving Repr, DecidableEq

namespace Vec

def add (a b : Vec) : Vec := ⟨a.x + b.x, a.y + b.y, a.z + b.z⟩

def scale (k : ℚ) (a : Vec) : Vec := ⟨k * a.x, k * a.y, k * a.z⟩

def sum (vs : List Vec) : Vec := vs.foldr add ⟨0, 0, 0⟩

def normSq (a : Vec) : ℚ := a.x ^ 2 + a.y ^ 2 + a.z ^ 2

/-- The square of `_distance_m`. -/
def distanceSq (a b : Vec) : ℚ := normSq ⟨a.x - b.x, a.y - b.y, a.z - b.z⟩

end Vec

def gateM : ℚ := 500

def trackTtlS : ℚ := 30

/-- The radars that report air tracks. -/
inductive Radar
  | targeting
  | aewc
  deriving Repr, DecidableEq

def Radar.weight : Radar → ℚ
  | .targeting => 80 / 100
  | .aewc => 70 / 100

structure Report where
  position : Vec
  velocity : Vec
  classification : String
  identity : String
  rcs : ℚ
  radar : Radar
  sensor : String
  sourceId : String
  timestamp : ℚ
  deriving Repr, DecidableEq

def Report.weight (r : Report) : ℚ := r.radar.weight

structure FusedTrack where
  trackId : ℕ
  position : Vec
  velocity : Vec
  confidence : ℚ
  classification : String
  identity : String
  threat : String
  sources : List String
  lastSeen : ℚ
  /-- The reports that were merged: a record that the program does not keep. -/
  reports : List Report
  deriving Repr, DecidableEq

/-! ### Correlation -/

section Closest

variable {β : Type} (distanceSq : β → ℚ)

/-- The nearest of some candidates within the gate, the first of them if there are several. -/
def closest : Option β → List β → Option β
  | best, [] => best
  | best, candidate :: rest =>
    if distanceSq candidate < gateM ^ 2 ∧
        best.all fun b => distanceSq candidate < distanceSq b then
      closest (some candidate) rest
    else closest best rest

end Closest

/-- `_centroid`. -/
def centroid (positions : List Vec) : Vec := Vec.scale (1 / positions.length) (Vec.sum positions)

/-- A report joins the nearest cluster within the gate or starts one. -/
def assign (clusters : List (List Report)) (report : Report) : List (List Report) :=
  let near := closest (fun c : List Report × ℕ =>
    report.position.distanceSq (centroid (c.1.map Report.position))) none clusters.zipIdx
  match near with
  | some (_, i) => clusters.modify i fun cluster => cluster ++ [report]
  | none => clusters ++ [[report]]

/-- The clusters, from the reports of the best sensors on. -/
def clustersOf (reports : List Report) : List (List Report) :=
  (reports.insertionSort fun a b => b.weight ≤ a.weight).foldl assign []

/-! ### Merging -/

def hostileKeywords : List String := ["HOSTILE", "ENEMY", "BANDIT", "BOGEY"]

def friendlyKeywords : List String := ["FRIENDLY", "ALLY", "BLUE", "FRIENDLY_FORCE"]

/-- `_assess_threat`; the speed is that of the first report. -/
def assessThreat (py : Runtime) (classification identity : String) (cluster : List Report) : String :=
  let clsUpper := py.upper classification
  let idUpper := py.upper identity
  let hit := fun k => contains clsUpper k || contains idUpper k
  if hostileKeywords.any hit then "HOSTILE"
  else if friendlyKeywords.any hit then "FRIENDLY"
  else
    let avgRcs : ℚ := (cluster.map Report.rcs).sum / cluster.length
    let speedSq : ℚ := (cluster.head?.map fun r => r.velocity.normSq).getD 0
    if avgRcs < 3 ∧ speedSq > 200 ^ 2 then "HOSTILE" else "UNKNOWN"

/-- The first report of the highest weight. -/
def anchor : List Report → Option Report
  | [] => none
  | r :: rest => some (rest.foldl (fun best r => if best.weight < r.weight then r else best) r)

/-- The average of what `f` reads off the reports, by their weights. -/
def weightedAverage (f : Report → Vec) (cluster : List Report) : Vec :=
  let totalW := (cluster.map Report.weight).sum
  Vec.scale (1 / totalW) (Vec.sum (cluster.map fun r => Vec.scale r.weight (f r)))

/-- `_merge_cluster`. -/
def mergeCluster (py : Runtime) (cluster : List Report) (timestamp : ℚ) (uuid : ℕ) : FusedTrack :=
  let classification := ((anchor cluster).map Report.classification).getD ""
  let identity := ((anchor cluster).map Report.identity).getD ""
  { trackId := uuid
    position := weightedAverage Report.position cluster
    velocity := weightedAverage Report.velocity cluster
    confidence := min 1 (1 - (cluster.map fun r => 1 - r.weight).prod)
    classification
    identity
    threat := assessThreat py classification identity cluster
    sources := (cluster.map Report.sensor).dedup
    lastSeen := timestamp
    reports := cluster }

/-- The new table: a new id for each cluster, under which its track is stored. -/
def mergeClusters (py : Runtime) (timestamp : ℚ) : ℕ → List (List Report) → Dict ℕ FusedTrack
  | _, [] => []
  | uuid, cluster :: rest =>
    (uuid, mergeCluster py cluster timestamp uuid) :: mergeClusters py timestamp (uuid + 1) rest

/-- `_reassign_ids`: a track near to an old one that is not used yet takes the key of that one as its
id, and stays under its own key. -/
def reassignIds (oldTable : Dict ℕ FusedTrack) : Dict ℕ FusedTrack → List ℕ → Dict ℕ FusedTrack
  | [], _ => []
  | (newId, newTrack) :: rest, usedOldIds =>
    let unused := oldTable.filter fun old => old.1 ∉ usedOldIds
    match closest (fun old : ℕ × FusedTrack =>
        newTrack.position.distanceSq old.2.position) none unused with
    | some (oldId, _) =>
      (newId, { newTrack with trackId := oldId }) :: reassignIds oldTable rest (oldId :: usedOldIds)
    | none => (newId, newTrack) :: reassignIds oldTable rest usedOldIds

/-- `_age_out`. -/
def ageOut (table : Dict ℕ FusedTrack) (now : ℚ) : Dict ℕ FusedTrack :=
  table.filter fun e => ¬ now - e.2.lastSeen > trackTtlS

/-! ### Epochs -/

structure RadarDataFusion where
  fusedTracks : Dict ℕ FusedTrack := []
  /-- The next value of `uuid4`, each of which is new. -/
  nextUuid : ℕ := 0
  deriving Repr, DecidableEq

/-- The reports of an epoch, with the clock when they are merged and when the table is aged. -/
structure Epoch where
  reports : List Report
  mergeTime : ℚ
  ageTime : ℚ

/-- `_correlate_and_merge`. -/
def correlateAndMerge (py : Runtime) (s : RadarDataFusion) (e : Epoch) : Dict ℕ FusedTrack :=
  reassignIds s.fusedTracks (mergeClusters py e.mergeTime s.nextUuid (clustersOf e.reports)) []

/-- `_update`. -/
def update (py : Runtime) (s : RadarDataFusion) (e : Epoch) : Unit × RadarDataFusion :=
  ((), { fusedTracks := ageOut (correlateAndMerge py s e) e.ageTime
         nextUuid := s.nextUuid + (clustersOf e.reports).length })

end Fmofp.Fusion
