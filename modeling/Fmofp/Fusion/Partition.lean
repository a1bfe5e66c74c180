import Fmofp.Fusion.Correlation

/-! Correlation is a partition of the reports, and a merged cluster stays within what its reports say.
Nothing looks at the sensors: two reports of one sensor end up in one cluster when they come near enough
to its centroid. -/

namespace Fmofp.Fusion

open Python

namespace SensorReport

/-! ### One report -/

/-- What the assignment of a report does: it starts a cluster, or it is the last of the one that it
comes nearest to. -/
theorem assign_cases (clusters : List (List SensorReport)) (report : SensorReport) :
    nearest clusters report = none ∧ assign clusters report = clusters ++ [[report]] ∨
      ∃ i before cluster after, nearest clusters report = some (cluster, i) ∧
        clusters = before ++ cluster :: after ∧
        assign clusters report = before ++ (cluster ++ [report]) :: after := by
  rw [assign]
  cases hnear : nearest clusters report with
  | none => exact .inl ⟨rfl, rfl⟩
  | some near =>
    obtain ⟨cluster, i⟩ := near
    have hmem := (closest_mem hnear).resolve_left (by simp)
    obtain ⟨hi, heq⟩ : ∃ hi : i < clusters.length, clusters[i] = cluster :=
      List.getElem?_eq_some_iff.mp (List.mem_zipIdx_iff_getElem?.mp hmem)
    refine .inr ⟨i, clusters.take i, cluster, clusters.drop (i + 1), rfl, ?_, ?_⟩
    · rw [← heq, List.getElem_cons_drop, List.take_append_drop]
    · dsimp only
      rw [List.modify_eq_take_cons_drop hi, heq]

theorem assign_flatten_perm (clusters : List (List SensorReport)) (report : SensorReport) :
    (assign clusters report).flatten.Perm (report :: clusters.flatten) := by
  obtain ⟨-, hassign⟩ | ⟨_, before, cluster, after, -, hsplit, hassign⟩ :=
    assign_cases clusters report
  · rw [hassign, List.flatten_append, List.flatten_singleton]
    exact List.perm_append_comm
  · rw [hassign, hsplit]
    simp only [List.flatten_append, List.flatten_cons, List.append_assoc, List.singleton_append]
    rw [← List.append_assoc, ← List.append_assoc]
    exact List.perm_middle

/-- A cluster only grows. -/
theorem assign_grows {clusters : List (List SensorReport)} (report : SensorReport)
    {cluster : List SensorReport} (h : cluster ∈ clusters) :
    ∃ cluster' ∈ assign clusters report, cluster <+: cluster' := by
  obtain ⟨-, hassign⟩ | ⟨_, before, joined, after, -, hsplit, hassign⟩ := assign_cases clusters report
  · rw [hassign]
    exact ⟨cluster, List.mem_append_left _ h, List.prefix_rfl⟩
  · rw [hassign]
    rw [hsplit, List.mem_append, List.mem_cons] at h
    rcases h with h | rfl | h
    · exact ⟨cluster, List.mem_append_left _ h, List.prefix_rfl⟩
    · exact ⟨cluster ++ [report], by simp, List.prefix_append _ _⟩
    · exact ⟨cluster, by simp [h], List.prefix_rfl⟩

/-- What holds of clusters that a report starts or joins holds of the new clusters. -/
theorem forall_assign {P : List SensorReport → Prop} {clusters : List (List SensorReport)}
    {report : SensorReport} (h : ∀ cluster ∈ clusters, P cluster)
    (hstarts : nearest clusters report = none → P [report])
    (hjoins : ∀ cluster i, nearest clusters report = some (cluster, i) → P cluster →
      P (cluster ++ [report])) :
    ∀ cluster ∈ assign clusters report, P cluster := by
  intro cluster' hcluster'
  obtain ⟨hnone, hassign⟩ | ⟨i, before, cluster, after, hnear, hsplit, hassign⟩ :=
    assign_cases clusters report
  · rw [hassign, List.mem_append, List.mem_singleton] at hcluster'
    rcases hcluster' with hold | rfl
    · exact h cluster' hold
    · exact hstarts hnone
  · rw [hassign, List.mem_append, List.mem_cons] at hcluster'
    rcases hcluster' with hold | rfl | hold
    · exact h cluster' (by simp [hsplit, hold])
    · exact hjoins cluster i hnear (h cluster (by simp [hsplit]))
    · exact h cluster' (by simp [hsplit, hold])

/-! ### All reports -/

theorem foldl_assign_flatten_perm (reports : List SensorReport) (clusters : List (List SensorReport)) :
    (reports.foldl assign clusters).flatten.Perm (clusters.flatten ++ reports) := by
  induction reports generalizing clusters with
  | nil => simp
  | cons report rest ih =>
    have hrest := (assign_flatten_perm clusters report).append_right rest
    exact (ih (assign clusters report)).trans (hrest.trans List.perm_middle.symm)

theorem foldl_assign_grows {clusters : List (List SensorReport)} (reports : List SensorReport)
    {cluster : List SensorReport} (h : cluster ∈ clusters) :
    ∃ cluster' ∈ reports.foldl assign clusters, cluster <+: cluster' := by
  induction reports generalizing clusters cluster with
  | nil => exact ⟨cluster, h, List.prefix_rfl⟩
  | cons report rest ih =>
    obtain ⟨grown, hgrown, hprefix⟩ := assign_grows report h
    obtain ⟨last, hlast, hprefix'⟩ := ih hgrown
    exact ⟨last, hlast, hprefix.trans hprefix'⟩

/-- Every report is in one cluster, as often as it was reported, and nothing else is. -/
theorem clustersOf_flatten_perm (reports : List SensorReport) :
    (clustersOf reports).flatten.Perm reports :=
  (foldl_assign_flatten_perm (byWeight reports) []).trans (List.perm_insertionSort _ reports)

theorem foldl_assign_ne_nil (reports : List SensorReport) {clusters : List (List SensorReport)}
    (h : ∀ cluster ∈ clusters, cluster ≠ []) :
    ∀ cluster ∈ reports.foldl assign clusters, cluster ≠ [] := by
  induction reports generalizing clusters with
  | nil => exact h
  | cons report rest ih =>
    exact ih (forall_assign h (fun _ => by simp) fun cluster i _ _ => by simp)

theorem clustersOf_ne_nil (reports : List SensorReport) :
    ∀ cluster ∈ clustersOf reports, cluster ≠ [] :=
  foldl_assign_ne_nil (byWeight reports) (by simp)

/-! ### One report of each sensor -/

/-- The cluster that the report joins, if it joins one, has no report of the same sensor. -/
def JoinsOthers (clusters : List (List SensorReport)) (report : SensorReport) : Prop :=
  ∀ near ∈ nearest clusters report, report.sensor ∉ near.1.map sensor

instance (clusters : List (List SensorReport)) (report : SensorReport) :
    Decidable (JoinsOthers clusters report) :=
  inferInstanceAs (Decidable (∀ near ∈ nearest clusters report, _))

/-- Each of the reports joins others only, when it is assigned. -/
def SensorsApart : List (List SensorReport) → List SensorReport → Prop
  | _, [] => True
  | clusters, report :: rest => JoinsOthers clusters report ∧ SensorsApart (assign clusters report) rest

/-- The induction is on the reports: a cluster with two reports of one sensor keeps them. -/
theorem sensorsApart_iff {clusters : List (List SensorReport)} {reports : List SensorReport}
    (h : ∀ cluster ∈ clusters, (cluster.map sensor).Nodup) :
    SensorsApart clusters reports ↔
      ∀ cluster ∈ reports.foldl assign clusters, (cluster.map sensor).Nodup := by
  induction reports generalizing clusters with
  | nil => exact iff_of_true trivial h
  | cons report rest ih =>
    rw [SensorsApart, List.foldl_cons]
    by_cases hjoins : JoinsOthers clusters report
    · have hnodup : ∀ cluster ∈ assign clusters report, (cluster.map sensor).Nodup := by
        refine forall_assign h (fun _ => by simp) fun cluster i hnear hcluster => ?_
        rw [List.map_append, List.map_singleton, List.nodup_append]
        exact ⟨hcluster, by simp, by simpa using hjoins _ hnear⟩
      rw [and_iff_right hjoins, ih hnodup]
    · refine iff_of_false (fun h => hjoins h.1) fun hall => hjoins fun near hnear => ?_
      obtain ⟨hnone, -⟩ | ⟨i, before, cluster, after, hsome, hsplit, hassign⟩ :=
        assign_cases clusters report
      · rw [hnone] at hnear
        cases hnear
      · rw [hsome, Option.mem_some] at hnear
        have hjoined : cluster ++ [report] ∈ assign clusters report := by simp [hassign]
        obtain ⟨last, hlast, hgrown⟩ := foldl_assign_grows rest hjoined
        have hnodup := (hall last hlast).sublist (hgrown.sublist.map sensor)
        rw [List.map_append, List.map_singleton, List.nodup_append] at hnodup
        rw [← hnear]
        simpa using hnodup.2.2

end SensorReport

/-! ### What a cluster is merged into -/

def axes : List (Vec → ℚ) := [Vec.x, Vec.y, Vec.z]

theorem axis_scale {axis : Vec → ℚ} (haxis : axis ∈ axes) (k : ℚ) (v : Vec) :
    axis (Vec.scale k v) = k * axis v := by
  simp only [axes, List.mem_cons, List.not_mem_nil, or_false] at haxis
  rcases haxis with rfl | rfl | rfl <;> rfl

theorem axis_sum {axis : Vec → ℚ} (haxis : axis ∈ axes) (vs : List Vec) :
    axis (Vec.sum vs) = (vs.map axis).sum := by
  simp only [axes, List.mem_cons, List.not_mem_nil, or_false] at haxis
  induction vs with
  | nil => rcases haxis with rfl | rfl | rfl <;> rfl
  | cons v vs ih =>
    rw [List.map_cons, List.sum_cons, ← ih]
    rcases haxis with rfl | rfl | rfl <;> rfl

/-- The vector is in the box that the others span, coordinate by coordinate. -/
def Vec.Among (v : Vec) (vs : List Vec) : Prop :=
  ∀ axis ∈ axes, (∃ a ∈ vs, axis a ≤ axis v) ∧ ∃ b ∈ vs, axis v ≤ axis b

namespace SensorReport

variable {cluster : List SensorReport}

theorem totalWeight_pos (hcluster : cluster ≠ []) : 0 < (cluster.map fun r => r.weight.val).sum := by
  refine List.sum_pos _ (fun w hw => ?_) (by simpa using hcluster)
  obtain ⟨r, -, rfl⟩ := List.mem_map.mp hw
  exact r.weight.2.1

/-- A coordinate of the average, times the weights, is what the reports weigh in with. -/
theorem axis_weightedAverage (hcluster : cluster ≠ []) (f : SensorReport → Vec) {axis : Vec → ℚ}
    (haxis : axis ∈ axes) :
    (cluster.map fun r => r.weight.val * axis (weightedAverage f cluster)).sum =
      (cluster.map fun r => r.weight.val * axis (f r)).sum := by
  have hpos := totalWeight_pos hcluster
  have hsum : axis (Vec.sum (cluster.map fun r => Vec.scale r.weight (f r))) =
      (cluster.map fun r => r.weight.val * axis (f r)).sum := by
    rw [axis_sum haxis, List.map_map]
    exact congrArg List.sum (List.map_congr_left fun r _ => axis_scale haxis _ _)
  rw [List.sum_map_mul_right, weightedAverage, axis_scale haxis, hsum, ← mul_assoc,
    mul_one_div_cancel hpos.ne', one_mul]

theorem weightedAverage_among (hcluster : cluster ≠ []) (f : SensorReport → Vec) :
    (weightedAverage f cluster).Among (cluster.map f) := by
  intro axis haxis
  have haverage := axis_weightedAverage hcluster f haxis
  constructor
  · obtain ⟨r, hr, hle⟩ := List.exists_le_of_sum_le hcluster _ _ haverage.ge
    exact ⟨f r, List.mem_map_of_mem hr, le_of_mul_le_mul_left hle r.weight.2.1⟩
  · obtain ⟨r, hr, hle⟩ := List.exists_le_of_sum_le hcluster _ _ haverage.le
    exact ⟨f r, List.mem_map_of_mem hr, le_of_mul_le_mul_left hle r.weight.2.1⟩

/-- The chance that all sensors are wrong: it is there, and not more than that of one of them. -/
theorem prod_miss (cluster : List SensorReport) :
    0 < (cluster.map fun r => 1 - r.weight.val).prod ∧
      (cluster.map fun r => 1 - r.weight.val).prod ≤ 1 ∧
      ∀ r ∈ cluster, (cluster.map fun r => 1 - r.weight.val).prod ≤ 1 - r.weight.val := by
  induction cluster with
  | nil => simp
  | cons first rest ih =>
    obtain ⟨hpos, hone, hall⟩ := ih
    have hmiss : 0 < 1 - first.weight.val := sub_pos.mpr first.weight.2.2
    have hless : 1 - first.weight.val ≤ 1 := sub_le_self _ first.weight.2.1.le
    rw [List.map_cons, List.prod_cons]
    refine ⟨mul_pos hmiss hpos, mul_le_one₀ hless hpos.le hone, fun r hr => ?_⟩
    rcases List.mem_cons.mp hr with rfl | hr
    · exact mul_le_of_le_one_right hmiss.le hone
    · exact (mul_le_of_le_one_left hpos.le hless).trans (hall r hr)

theorem anchor_spec (hcluster : cluster ≠ []) :
    ∃ best, anchor cluster = some best ∧ best ∈ cluster ∧ ∀ r ∈ cluster, r.weight ≤ best.weight := by
  obtain ⟨first, rest, rfl⟩ := List.exists_cons_of_ne_nil hcluster
  clear hcluster
  rw [anchor]
  refine ⟨_, rfl, ?_⟩
  induction rest generalizing first with
  | nil => simp
  | cons next rest ih =>
    rw [List.foldl_cons]
    obtain ⟨hmem, hall⟩ := ih (if first.weight < next.weight then next else first)
    have hfirst : first.weight ≤ (if first.weight < next.weight then next else first).weight := by
      split_ifs with hless
      · exact hless.le
      · exact le_rfl
    have hnext : next.weight ≤ (if first.weight < next.weight then next else first).weight := by
      split_ifs with hless
      · exact le_rfl
      · exact not_lt.mp hless
    have hbest := hall _ List.mem_cons_self
    constructor
    · rcases List.mem_cons.mp hmem with heq | hin
      · rw [heq]
        split_ifs <;> simp
      · simp [hin]
    · intro r hr
      rcases List.mem_cons.mp hr with rfl | hr
      · exact hfirst.trans hbest
      · rcases List.mem_cons.mp hr with rfl | hr
        · exact hnext.trans hbest
        · exact hall r (List.mem_cons_of_mem _ hr)

/-- The contact is within what the reports of its cluster say. -/
structure WithinReports (contact : Contact) (cluster : List SensorReport) : Prop where
  position : contact.position.Among (cluster.map SensorReport.position)
  velocity : contact.velocity.Among (cluster.map SensorReport.velocity)
  confidence : (∀ r ∈ cluster, r.weight.val ≤ contact.confidence) ∧ contact.confidence < 1
  classification : ∃ best ∈ cluster, (∀ r ∈ cluster, r.weight ≤ best.weight) ∧
    contact.classification = best.classification

theorem mergeCluster_within (py : Runtime) (timestamp : ℚ) (hcluster : cluster ≠ []) :
    WithinReports (mergeCluster py timestamp cluster) cluster := by
  obtain ⟨hpos, -, hall⟩ := prod_miss cluster
  obtain ⟨best, hanchor, hbest, hgreatest⟩ := anchor_spec hcluster
  refine ⟨weightedAverage_among hcluster _, weightedAverage_among hcluster _,
    ⟨fun r hr => le_min r.weight.2.2.le (le_sub_comm.mp (hall r hr)), ?_⟩,
    best, hbest, hgreatest, ?_⟩
  · exact (min_le_right _ _).trans_lt (sub_lt_self _ hpos)
  · rw [mergeCluster, hanchor]
    rfl

/-! ### Correlation as a whole -/

/-- The clusters are a partition of the reports, each has one report of a sensor at most, and its
contact is within its reports. -/
structure Correlates (py : Runtime) (timestamp : ℚ) (reports : List SensorReport) : Prop where
  partition : (clustersOf reports).flatten.Perm reports ∧ ∀ cluster ∈ clustersOf reports, cluster ≠ []
  sensors : ∀ cluster ∈ clustersOf reports, (cluster.map sensor).Nodup
  within : ∀ cluster ∈ clustersOf reports,
    WithinReports (mergeCluster py timestamp cluster) cluster

/-- Correlation does all of it if and only if no report, when it is assigned, joins a cluster with a
report of its own sensor. -/
theorem correlates_iff (py : Runtime) (timestamp : ℚ) (reports : List SensorReport) :
    Correlates py timestamp reports ↔ SensorsApart [] (byWeight reports) := by
  have hsensors : SensorsApart [] (byWeight reports) ↔
      ∀ cluster ∈ clustersOf reports, (cluster.map sensor).Nodup :=
    sensorsApart_iff (by simp)
  rw [hsensors]
  constructor
  · exact fun h => h.sensors
  · intro h
    exact ⟨⟨clustersOf_flatten_perm reports, clustersOf_ne_nil reports⟩, h,
      fun cluster hcluster => mergeCluster_within py timestamp (clustersOf_ne_nil reports cluster hcluster)⟩

/-- A target of the targeting radar. -/
def target (x : ℚ) : SensorReport :=
  ⟨⟨x, 0, 0⟩, ⟨0, 0, 0⟩, "UNKNOWN", "UNKNOWN", 5, "targeting_radar", Radar.sensorWeight .targeting⟩

/-- Two targets of one radar, 100 metres apart, become one contact. -/
theorem two_targets_merged : ¬ Correlates .ascii 0 [target 0, target 100] := by
  intro h
  have hnodup := h.sensors [target 0, target 100] (by decide +kernel)
  revert hnodup
  decide +kernel

end SensorReport

end Fmofp.Fusion
