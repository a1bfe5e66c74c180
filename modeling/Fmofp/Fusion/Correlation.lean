import Fmofp.Fusion.Lifecycle

/-! Correlation of reports of any weights: the reports of the best sensors first, each to the nearest
cluster within the gate.  A report takes part with its weight, and the radars of the program are sensors
with weights of their own. -/

namespace Fmofp.Fusion

open Python

/-- The weight of a sensor, a probability of detection. -/
abbrev Weight := { w : ℚ // 0 < w ∧ w < 1 }

structure SensorReport where
  position : Vec
  velocity : Vec
  classification : String
  identity : String
  rcs : ℚ
  sensor : String
  weight : Weight
  deriving DecidableEq

/-- What `_merge_cluster` makes of a cluster, apart from the id. -/
structure Contact where
  position : Vec
  velocity : Vec
  confidence : ℚ
  classification : String
  identity : String
  threat : String
  sources : List String
  lastSeen : ℚ
  deriving DecidableEq

namespace SensorReport

/-- The cluster that a report comes nearest to within the gate, with its place. -/
def nearest (clusters : List (List SensorReport)) (report : SensorReport) :
    Option (List SensorReport × ℕ) :=
  closest (fun c : List SensorReport × ℕ =>
    report.position.distanceSq (centroid (c.1.map position))) none clusters.zipIdx

def assign (clusters : List (List SensorReport)) (report : SensorReport) :
    List (List SensorReport) :=
  match nearest clusters report with
  | some (_, i) => clusters.modify i fun cluster => cluster ++ [report]
  | none => clusters ++ [[report]]

/-- The reports in the order in which they are assigned. -/
def byWeight (reports : List SensorReport) : List SensorReport :=
  reports.insertionSort fun a b => b.weight ≤ a.weight

def clustersOf (reports : List SensorReport) : List (List SensorReport) :=
  (byWeight reports).foldl assign []

/-- `_assess_threat`. -/
def assessThreat (py : Runtime) (classification identity : String) (cluster : List SensorReport) :
    String :=
  let clsUpper := py.upper classification
  let idUpper := py.upper identity
  let hit := fun k => contains clsUpper k || contains idUpper k
  if hostileKeywords.any hit then "HOSTILE"
  else if friendlyKeywords.any hit then "FRIENDLY"
  else
    let avgRcs : ℚ := (cluster.map rcs).sum / cluster.length
    let speedSq : ℚ := (cluster.head?.map fun r => r.velocity.normSq).getD 0
    if avgRcs < 3 ∧ speedSq > 200 ^ 2 then "HOSTILE" else "UNKNOWN"

/-- The first report of the highest weight. -/
def anchor : List SensorReport → Option SensorReport
  | [] => none
  | r :: rest => some (rest.foldl (fun best r => if best.weight < r.weight then r else best) r)

def weightedAverage (f : SensorReport → Vec) (cluster : List SensorReport) : Vec :=
  let totalW := (cluster.map fun r => r.weight.val).sum
  Vec.scale (1 / totalW) (Vec.sum (cluster.map fun r => Vec.scale r.weight (f r)))

/-- `_merge_cluster`. -/
def mergeCluster (py : Runtime) (timestamp : ℚ) (cluster : List SensorReport) : Contact :=
  let classification := ((anchor cluster).map SensorReport.classification).getD ""
  let identity := ((anchor cluster).map SensorReport.identity).getD ""
  { position := weightedAverage position cluster
    velocity := weightedAverage velocity cluster
    confidence := min 1 (1 - (cluster.map fun r => 1 - r.weight.val).prod)
    classification
    identity
    threat := assessThreat py classification identity cluster
    sources := (cluster.map sensor).dedup
    lastSeen := timestamp }

end SensorReport

/-! ### The radars of the program are sensors -/

def Radar.sensorWeight : Radar → Weight
  | .targeting => ⟨80 / 100, by norm_num⟩
  | .aewc => ⟨70 / 100, by norm_num⟩

theorem Radar.sensorWeight_val (radar : Radar) : radar.sensorWeight.val = radar.weight := by
  cases radar <;> rfl

/-- A report with the weight of its radar. -/
def Report.weighted (r : Report) : SensorReport :=
  ⟨r.position, r.velocity, r.classification, r.identity, r.rcs, r.sensor, r.radar.sensorWeight⟩

theorem Report.weighted_weight (r : Report) : r.weighted.weight.val = r.weight :=
  r.radar.sensorWeight_val

theorem Report.weighted_le (a b : Report) : b.weighted.weight ≤ a.weighted.weight ↔ b.weight ≤ a.weight := by
  rw [← Subtype.coe_le_coe, weighted_weight, weighted_weight]

section Mapped

variable {β γ : Type} (f : β → γ)

/-- The nearest of some candidates that are seen through `f`. -/
theorem closest_map (distanceSq : γ → ℚ) (best : Option β) (l : List β) :
    closest distanceSq (best.map f) (l.map f) = (closest (fun b => distanceSq (f b)) best l).map f := by
  induction l generalizing best with
  | nil => rfl
  | cons candidate rest ih =>
    rw [List.map_cons, closest, closest, Option.all_map]
    by_cases hnear : distanceSq (f candidate) < gateM ^ 2 ∧
        best.all fun b => distanceSq (f candidate) < distanceSq (f b)
    · rw [if_pos hnear, if_pos hnear]
      exact ih (some candidate)
    · rw [if_neg hnear, if_neg hnear]
      exact ih best

theorem map_modify {g : β → β} {h : γ → γ} (hcomm : ∀ b, f (g b) = h (f b)) (l : List β) (i : ℕ) :
    (l.modify i g).map f = (l.map f).modify i h := by
  induction l generalizing i with
  | nil => simp
  | cons b l ih =>
    cases i with
    | zero => simp [hcomm]
    | succ i => simp [ih]

end Mapped

/-- Clusters of reports with the weights of their radars. -/
def weightedClusters (clusters : List (List Report)) : List (List SensorReport) :=
  clusters.map fun cluster => cluster.map Report.weighted

theorem nearest_weighted (clusters : List (List Report)) (report : Report) :
    SensorReport.nearest (weightedClusters clusters) report.weighted =
      (closest (fun c : List Report × ℕ =>
        report.position.distanceSq (centroid (c.1.map Report.position))) none clusters.zipIdx).map
        fun c => (c.1.map Report.weighted, c.2) := by
  have hzip : (weightedClusters clusters).zipIdx =
      clusters.zipIdx.map fun c => (c.1.map Report.weighted, c.2) := by
    rw [weightedClusters, List.zipIdx_map]
    rfl
  have hmap := closest_map (fun c : List Report × ℕ => (c.1.map Report.weighted, c.2))
    (fun c : List SensorReport × ℕ =>
      report.position.distanceSq (centroid (c.1.map SensorReport.position))) none clusters.zipIdx
  rw [SensorReport.nearest, hzip]
  refine hmap.trans ?_
  simp only [List.map_map]
  rfl

theorem assign_weighted (clusters : List (List Report)) (report : Report) :
    weightedClusters (assign clusters report) =
      SensorReport.assign (weightedClusters clusters) report.weighted := by
  rw [assign, SensorReport.assign, nearest_weighted]
  cases closest (fun c : List Report × ℕ =>
      report.position.distanceSq (centroid (c.1.map Report.position))) none clusters.zipIdx with
  | none => exact List.map_append
  | some near => exact map_modify _ (fun cluster => List.map_append) clusters near.2

/-- The clusters of the program are those of its reports as reports of sensors. -/
theorem clustersOf_weighted (reports : List Report) :
    weightedClusters (clustersOf reports) =
      SensorReport.clustersOf (reports.map Report.weighted) := by
  have hfold : ∀ (reports : List Report) (clusters : List (List Report)),
      weightedClusters (reports.foldl assign clusters) =
        (reports.map Report.weighted).foldl SensorReport.assign (weightedClusters clusters) := by
    intro reports
    induction reports with
    | nil => exact fun _ => rfl
    | cons report rest ih =>
      intro clusters
      rw [List.foldl_cons, ih, assign_weighted, List.map_cons, List.foldl_cons]
  have hsort := List.map_insertionSort (fun a b : Report => b.weight ≤ a.weight)
    (fun a b : SensorReport => b.weight ≤ a.weight) Report.weighted reports
    fun a _ b _ => (a.weighted_le b).symm
  rw [clustersOf, hfold, hsort]
  rfl

/-! ### Their tracks -/

theorem anchor_weighted (cluster : List Report) :
    SensorReport.anchor (cluster.map Report.weighted) = (anchor cluster).map Report.weighted := by
  cases cluster with
  | nil => rfl
  | cons r rest =>
    rw [List.map_cons, SensorReport.anchor, anchor, Option.map_some, Option.some.injEq]
    induction rest generalizing r with
    | nil => rfl
    | cons r' rest ih =>
      have hless : (r.weighted.weight < r'.weighted.weight) = (r.weight < r'.weight) := by
        rw [← Subtype.coe_lt_coe, r.weighted_weight, r'.weighted_weight]
      rw [List.map_cons, List.foldl_cons, List.foldl_cons, ← ih]
      simp only [hless]
      split_ifs <;> rfl

theorem weightedAverage_weighted (f : SensorReport → Vec) (cluster : List Report) :
    SensorReport.weightedAverage f (cluster.map Report.weighted) =
      weightedAverage (fun r => f r.weighted) cluster := by
  simp only [SensorReport.weightedAverage, weightedAverage, List.map_map, Function.comp_def,
    Report.weighted_weight]

/-- What a track says of its contact. -/
def FusedTrack.contact (track : FusedTrack) : Contact :=
  ⟨track.position, track.velocity, track.confidence, track.classification, track.identity,
    track.threat, track.sources, track.lastSeen⟩

theorem mergeCluster_weighted (py : Runtime) (cluster : List Report) (timestamp : ℚ) (uuid : ℕ) :
    (mergeCluster py cluster timestamp uuid).contact =
      SensorReport.mergeCluster py timestamp (cluster.map Report.weighted) := by
  have hclassification : ((SensorReport.anchor (cluster.map Report.weighted)).map
      SensorReport.classification).getD "" = ((anchor cluster).map Report.classification).getD "" := by
    rw [anchor_weighted, Option.map_map]
    rfl
  have hidentity : ((SensorReport.anchor (cluster.map Report.weighted)).map
      SensorReport.identity).getD "" = ((anchor cluster).map Report.identity).getD "" := by
    rw [anchor_weighted, Option.map_map]
    rfl
  have hthreat : ∀ classification identity,
      SensorReport.assessThreat py classification identity (cluster.map Report.weighted) =
        assessThreat py classification identity cluster := by
    intro classification identity
    simp only [SensorReport.assessThreat, assessThreat, List.map_map, Function.comp_def,
      List.length_map, List.head?_map, Option.map_map]
    rfl
  rw [FusedTrack.contact, mergeCluster, SensorReport.mergeCluster]
  simp only [hclassification, hidentity, hthreat, weightedAverage_weighted, List.map_map,
    Function.comp_def, Report.weighted_weight]
  rfl

/-- The table holds one track for each cluster, in their order, with what the cluster makes of it. -/
theorem correlateAndMerge_contacts (py : Runtime) (s : RadarDataFusion) (e : Epoch) :
    ((correlateAndMerge py s e).map fun x => x.2.contact) =
      (SensorReport.clustersOf (e.reports.map Report.weighted)).map
        (SensorReport.mergeCluster py e.mergeTime) := by
  have hids : ((correlateAndMerge py s e).map fun x => x.2.contact) =
      (mergeClusters py e.mergeTime s.nextUuid (clustersOf e.reports)).map fun x => x.2.contact := by
    have hrelated := reassignIds_forall₂ s.fusedTracks
      (mergeClusters py e.mergeTime s.nextUuid (clustersOf e.reports)) []
    rw [← List.forall₂_eq_eq_eq, List.forall₂_map_left_iff, List.forall₂_map_right_iff]
    refine hrelated.imp fun x y h => ?_
    rw [h.2]
    rfl
  have hmerged : ∀ (clusters : List (List Report)) (uuid : ℕ),
      ((mergeClusters py e.mergeTime uuid clusters).map fun x => x.2.contact) =
        (weightedClusters clusters).map (SensorReport.mergeCluster py e.mergeTime) := by
    intro clusters
    induction clusters with
    | nil => exact fun _ => rfl
    | cons cluster rest ih =>
      intro uuid
      rw [mergeClusters, List.map_cons, mergeCluster_weighted, ih]
      rfl
  rw [hids, hmerged, clustersOf_weighted]

end Fmofp.Fusion
