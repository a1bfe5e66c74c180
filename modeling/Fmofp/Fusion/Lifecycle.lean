import Fmofp.Fusion.Tracks

/-! What one epoch puts into the table: an entry for each cluster, under an id of its own, with the
reports of the cluster in it; and which of the entries take an id over. -/

namespace Fmofp.Fusion

open Python

/-! ### Candidates within the gate -/

section Closest

variable {β : Type} {distanceSq : β → ℚ}

theorem closest_mem {best : Option β} {l : List β} {b : β} (h : closest distanceSq best l = some b) :
    best = some b ∨ b ∈ l := by
  induction l generalizing best with
  | nil => exact .inl h
  | cons candidate rest ih =>
    rw [closest] at h
    split_ifs at h
    · rcases ih h with hbest | hmem
      · cases hbest
        exact .inr List.mem_cons_self
      · exact .inr (List.mem_cons_of_mem _ hmem)
    · exact (ih h).imp_right fun hmem => List.mem_cons_of_mem _ hmem

theorem closest_some_ne_none (b : β) (l : List β) : closest distanceSq (some b) l ≠ none := by
  induction l generalizing b with
  | nil => exact Option.some_ne_none b
  | cons candidate rest ih =>
    rw [closest]
    split_ifs
    · exact ih candidate
    · exact ih b

/-- Nothing is found exactly when nothing is within the gate. -/
theorem closest_eq_none_iff (l : List β) :
    closest distanceSq none l = none ↔ ∀ b ∈ l, ¬ distanceSq b < gateM ^ 2 := by
  induction l with
  | nil => exact iff_of_true rfl fun _ h => by cases h
  | cons candidate rest ih =>
    rw [closest, List.forall_mem_cons]
    by_cases hnear : distanceSq candidate < gateM ^ 2
    · rw [if_pos ⟨hnear, rfl⟩]
      exact iff_of_false (closest_some_ne_none candidate rest) fun h => h.1 hnear
    · rw [if_neg fun h => hnear h.1, ih, and_iff_right hnear]

end Closest

/-! ### Clusters -/

theorem mem_flatten_assign {clusters : List (List Report)} {report r : Report} :
    r ∈ (assign clusters report).flatten ↔ r = report ∨ r ∈ clusters.flatten := by
  unfold assign
  dsimp only
  split
  · rename_i cluster i hclosest
    have hmem := (closest_mem hclosest).resolve_left (by simp)
    have hget : clusters[i]? = some cluster := List.mem_zipIdx_iff_getElem?.mp hmem
    obtain ⟨hi, heq⟩ := List.getElem?_eq_some_iff.mp hget
    have hsplit : clusters.modify i (fun cluster => cluster ++ [report]) =
        clusters.take i ++ (cluster ++ [report]) :: clusters.drop (i + 1) := by
      rw [List.modify_eq_take_cons_drop hi, heq]
    have hwhole : clusters = clusters.take i ++ cluster :: clusters.drop (i + 1) := by
      rw [← heq, List.getElem_cons_drop, List.take_append_drop]
    rw [hsplit]
    conv_rhs => rw [hwhole]
    simp only [List.flatten_append, List.flatten_cons, List.mem_append, List.mem_singleton]
    tauto
  · rw [List.flatten_append, List.flatten_singleton, List.mem_append, List.mem_singleton, or_comm]

theorem mem_flatten_foldl_assign {reports : List Report} {clusters : List (List Report)} {r : Report} :
    r ∈ (reports.foldl assign clusters).flatten ↔ r ∈ reports ∨ r ∈ clusters.flatten := by
  induction reports generalizing clusters with
  | nil => simp
  | cons report rest ih =>
    rw [List.foldl_cons, ih, mem_flatten_assign, List.mem_cons]
    tauto

/-- Every report is in a cluster, and nothing else is. -/
theorem mem_flatten_clustersOf {reports : List Report} {r : Report} :
    r ∈ (clustersOf reports).flatten ↔ r ∈ reports := by
  rw [clustersOf, mem_flatten_foldl_assign, List.mem_insertionSort, List.flatten_nil]
  exact or_iff_left List.not_mem_nil

/-! ### The entries of an epoch -/

theorem mem_mergeClusters {py : Runtime} {timestamp : ℚ} {uuid : ℕ} {clusters : List (List Report)}
    {x : ℕ × FusedTrack} (h : x ∈ mergeClusters py timestamp uuid clusters) :
    ∃ cluster ∈ clusters, x.2 = mergeCluster py cluster timestamp x.1 ∧
      uuid ≤ x.1 ∧ x.1 < uuid + clusters.length := by
  induction clusters generalizing uuid with
  | nil => cases h
  | cons cluster rest ih =>
    rw [mergeClusters] at h
    rcases List.mem_cons.mp h with rfl | h
    · refine ⟨cluster, List.mem_cons_self, rfl, le_refl _, ?_⟩
      rw [List.length_cons]
      omega
    · obtain ⟨cluster', hmem, htrack, hlow, hhigh⟩ := ih h
      refine ⟨cluster', List.mem_cons_of_mem _ hmem, htrack, by omega, ?_⟩
      rw [List.length_cons]
      omega

theorem exists_mem_mergeClusters (py : Runtime) (timestamp : ℚ) (uuid : ℕ)
    {clusters : List (List Report)} {cluster : List Report} (h : cluster ∈ clusters) :
    ∃ id, (id, mergeCluster py cluster timestamp id) ∈ mergeClusters py timestamp uuid clusters := by
  induction clusters generalizing uuid with
  | nil => cases h
  | cons first rest ih =>
    rw [mergeClusters]
    rcases List.mem_cons.mp h with rfl | h
    · exact ⟨uuid, List.mem_cons_self⟩
    · obtain ⟨id, hid⟩ := ih (uuid + 1) h
      exact ⟨id, List.mem_cons_of_mem _ hid⟩

theorem mergeClusters_keys_nodup (py : Runtime) (timestamp : ℚ) (uuid : ℕ)
    (clusters : List (List Report)) :
    ((mergeClusters py timestamp uuid clusters).map Prod.fst).Nodup := by
  induction clusters generalizing uuid with
  | nil => exact List.nodup_nil
  | cons cluster rest ih =>
    rw [mergeClusters, List.map_cons, List.nodup_cons]
    refine ⟨fun hmem => ?_, ih (uuid + 1)⟩
    obtain ⟨x, hx, hkey⟩ := List.mem_map.mp hmem
    obtain ⟨-, -, -, hlow, -⟩ := mem_mergeClusters hx
    omega

/-- Taking ids over leaves the keys, and of a track all but its id. -/
theorem reassignIds_forall₂ (oldTable newTable : Dict ℕ FusedTrack) (usedOldIds : List ℕ) :
    List.Forall₂ (fun x y : ℕ × FusedTrack => x.1 = y.1 ∧ x.2 = { y.2 with trackId := x.2.trackId })
      (reassignIds oldTable newTable usedOldIds) newTable := by
  induction newTable generalizing usedOldIds with
  | nil => exact .nil
  | cons x rest ih =>
    obtain ⟨newId, newTrack⟩ := x
    rw [reassignIds]
    dsimp only
    split
    · exact .cons ⟨rfl, rfl⟩ (ih _)
    · exact .cons ⟨rfl, rfl⟩ (ih _)

theorem exists_mem_of_forall₂ {α β : Type} {R : α → β → Prop} {l : List α} {l' : List β}
    (h : List.Forall₂ R l l') {x : α} (hx : x ∈ l) : ∃ y ∈ l', R x y := by
  induction h with
  | nil => cases hx
  | cons hfirst _ ih =>
    rcases List.mem_cons.mp hx with rfl | hx
    · exact ⟨_, List.mem_cons_self, hfirst⟩
    · obtain ⟨y, hy, hrelated⟩ := ih hx
      exact ⟨y, List.mem_cons_of_mem _ hy, hrelated⟩

theorem reassignIds_keys (oldTable newTable : Dict ℕ FusedTrack) (usedOldIds : List ℕ) :
    (reassignIds oldTable newTable usedOldIds).map Prod.fst = newTable.map Prod.fst := by
  have hrelated := reassignIds_forall₂ oldTable newTable usedOldIds
  rw [← List.forall₂_eq_eq_eq, List.forall₂_map_left_iff, List.forall₂_map_right_iff]
  exact hrelated.imp fun _ _ h => h.1

/-- An entry of an epoch, before ageing, is that of a cluster but for its id. -/
theorem mem_correlateAndMerge {py : Runtime} {s : RadarDataFusion} {e : Epoch} {x : ℕ × FusedTrack}
    (hx : x ∈ correlateAndMerge py s e) :
    ∃ cluster ∈ clustersOf e.reports, s.nextUuid ≤ x.1 ∧
      x.1 < s.nextUuid + (clustersOf e.reports).length ∧
      x.2 = { mergeCluster py cluster e.mergeTime x.1 with trackId := x.2.trackId } := by
  obtain ⟨y, hy, hkey, htrack⟩ := exists_mem_of_forall₂ (reassignIds_forall₂ _ _ _) hx
  obtain ⟨cluster, hmem, hmerged, hlow, hhigh⟩ := mem_mergeClusters hy
  rw [← hkey] at hmerged hlow hhigh
  rw [hmerged] at htrack
  exact ⟨cluster, hmem, hlow, hhigh, htrack⟩

/-- Every cluster has an entry. -/
theorem exists_mem_correlateAndMerge (py : Runtime) (s : RadarDataFusion) {e : Epoch}
    {cluster : List Report} (h : cluster ∈ clustersOf e.reports) :
    ∃ x ∈ correlateAndMerge py s e,
      x.2 = { mergeCluster py cluster e.mergeTime x.1 with trackId := x.2.trackId } := by
  obtain ⟨id, hid⟩ := exists_mem_mergeClusters py e.mergeTime s.nextUuid h
  obtain ⟨x, hx, hkey, htrack⟩ := exists_mem_of_forall₂ (reassignIds_forall₂ s.fusedTracks _ []).flip hid
  refine ⟨x, hx, ?_⟩
  rw [hkey]
  exact htrack

/-- All entries of an epoch have the stamp of its merging, so ageing drops all of them or none. -/
theorem ageOut_correlateAndMerge (py : Runtime) (s : RadarDataFusion) (e : Epoch) :
    ageOut (correlateAndMerge py s e) e.ageTime =
      if e.ageTime - e.mergeTime > trackTtlS then [] else correlateAndMerge py s e := by
  have hstamp : ∀ x ∈ correlateAndMerge py s e, x.2.lastSeen = e.mergeTime := by
    intro x hx
    obtain ⟨cluster, -, -, -, htrack⟩ := mem_correlateAndMerge hx
    rw [htrack]
    rfl
  rw [ageOut]
  split_ifs with hlate
  · apply List.filter_eq_nil_iff.mpr
    intro x hx
    rw [hstamp x hx, decide_eq_true_iff, not_not]
    exact hlate
  · apply List.filter_eq_self.mpr
    intro x hx
    rw [hstamp x hx, decide_eq_true_iff]
    exact hlate

end Fmofp.Fusion

/-! How long fused tracks live.  The table is made of the reports of one epoch and stamped with the time
of the fusion, so the stamps of the reports play no part in ageing and what was in the table before is
gone if it is not reported again. -/

namespace Fmofp.Fusion

open Python Machine

/-- What a report is about: a target of one radar. -/
def Report.contact (r : Report) : String × String := (r.sensor, r.sourceId)

/-- The report is at most the time to live old. -/
def Report.Recent (r : Report) (now : ℚ) : Prop := now - r.timestamp ≤ trackTtlS

instance (r : Report) (now : ℚ) : Decidable (r.Recent now) := inferInstanceAs (Decidable (_ ≤ _))

/-- One of the reports that the track was merged from is recent. -/
def FusedTrack.Live (t : FusedTrack) (now : ℚ) : Prop := ∃ r ∈ t.reports, r.Recent now

instance (t : FusedTrack) (now : ℚ) : Decidable (t.Live now) := List.decidableBEx _ _

/-- The tracks have a contact in common. -/
def SameContact (t t' : FusedTrack) : Prop :=
  ∃ r ∈ t.reports, ∃ r' ∈ t'.reports, r'.contact = r.contact

instance (t t' : FusedTrack) : Decidable (SameContact t t') := List.decidableBEx _ _

/-- After the epoch the table has live tracks only, and each track of the table before that is live still
has one of its contacts in it. -/
def AgesOut (py : Runtime) (s : RadarDataFusion) (e : Epoch) : Prop :=
  let table := (update py s e).2.fusedTracks
  (∀ x ∈ table, x.2.Live e.ageTime) ∧
    ∀ x ∈ s.fusedTracks, x.2.Live e.ageTime → ∃ y ∈ table, SameContact x.2 y.2

instance (py : Runtime) (s : RadarDataFusion) (e : Epoch) : Decidable (AgesOut py s e) :=
  inferInstanceAs (Decidable (_ ∧ _))

/-- Every cluster of the reports has a recent one, and each live track of the table before is reported
again; if the clock runs on by more than the time to live while the epoch is under way, no track of the
table before is live. -/
def Refreshed (s : RadarDataFusion) (e : Epoch) : Prop :=
  if e.ageTime - e.mergeTime > trackTtlS then ∀ x ∈ s.fusedTracks, ¬ x.2.Live e.ageTime
  else
    (∀ cluster ∈ clustersOf e.reports, ∃ r ∈ cluster, r.Recent e.ageTime) ∧
      ∀ x ∈ s.fusedTracks, x.2.Live e.ageTime →
        ∃ r ∈ x.2.reports, ∃ r' ∈ e.reports, r'.contact = r.contact

/-- The reports of an entry are those of its cluster. -/
theorem reports_of_mem {py : Runtime} {s : RadarDataFusion} {e : Epoch} {x : ℕ × FusedTrack}
    (hx : x ∈ correlateAndMerge py s e) : x.2.reports ∈ clustersOf e.reports := by
  obtain ⟨cluster, hcluster, -, -, htrack⟩ := mem_correlateAndMerge hx
  have hreports : x.2.reports = cluster := by
    rw [htrack]
    rfl
  rw [hreports]
  exact hcluster

theorem exists_mem_reports (py : Runtime) (s : RadarDataFusion) {e : Epoch} {cluster : List Report}
    (hcluster : cluster ∈ clustersOf e.reports) :
    ∃ x ∈ correlateAndMerge py s e, x.2.reports = cluster := by
  obtain ⟨x, hx, htrack⟩ := exists_mem_correlateAndMerge py s hcluster
  refine ⟨x, hx, ?_⟩
  rw [htrack]
  rfl

/-- A track has a contact in the new table exactly when one of its contacts is reported. -/
theorem exists_sameContact_iff (py : Runtime) (s : RadarDataFusion) (e : Epoch) (t : FusedTrack) :
    (∃ y ∈ correlateAndMerge py s e, SameContact t y.2) ↔
      ∃ r ∈ t.reports, ∃ r' ∈ e.reports, r'.contact = r.contact := by
  constructor
  · rintro ⟨y, hy, r, hr, r', hr', hsame⟩
    refine ⟨r, hr, r', ?_, hsame⟩
    rw [← mem_flatten_clustersOf]
    exact List.mem_flatten.mpr ⟨_, reports_of_mem hy, hr'⟩
  · rintro ⟨r, hr, r', hr', hsame⟩
    obtain ⟨cluster, hcluster, hmem⟩ := List.mem_flatten.mp (mem_flatten_clustersOf.mpr hr')
    obtain ⟨y, hy, hreports⟩ := exists_mem_reports py s hcluster
    exact ⟨y, hy, r, hr, r', hreports ▸ hmem, hsame⟩

theorem agesOut_iff (py : Runtime) (s : RadarDataFusion) (e : Epoch) :
    AgesOut py s e ↔ Refreshed s e := by
  have htable : (update py s e).2.fusedTracks =
      if e.ageTime - e.mergeTime > trackTtlS then [] else correlateAndMerge py s e :=
    ageOut_correlateAndMerge py s e
  rw [AgesOut, Refreshed, htable]
  split_ifs with hlate
  · constructor
    · rintro ⟨-, hkept⟩ x hx hlive
      obtain ⟨y, hy, -⟩ := hkept x hx hlive
      cases hy
    · intro hnone
      exact ⟨fun _ hx => (by cases hx), fun x hx hlive => absurd hlive (hnone x hx)⟩
  · refine and_congr ?_ ?_
    · constructor
      · intro hlive cluster hcluster
        obtain ⟨x, hx, hreports⟩ := exists_mem_reports py s hcluster
        rw [← hreports]
        exact hlive x hx
      · intro hclusters x hx
        exact hclusters _ (reports_of_mem hx)
    · refine forall₂_congr fun x _ => imp_congr_right fun _ => ?_
      exact exists_sameContact_iff py s e x.2

/-- In every run, whatever the clock does, stale tracks age out and live ones stay throughout exactly
when every epoch refreshes the live tracks with recent reports. -/
theorem along_agesOut_iff (py : Runtime) (epochs : List Epoch) :
    Along (update py) (AgesOut py) {} epochs ↔ Along (update py) Refreshed {} epochs :=
  @along_congr _ _ _ (update py) (fun _ => True) _ _ (fun _ _ _ => trivial)
    (fun s e _ => agesOut_iff py s e) {} trivial epochs

/-- A radar reports a target at one epoch and delivers nothing at the next, a second later: the track is
gone. -/
theorem not_agesOut_silent_epoch : ¬ ∀ py epochs, Along (update py) (AgesOut py) {} epochs := by
  intro h
  have hsilent := h .ascii
    [{ reports := [{ position := ⟨1000, 2000, 3000⟩, velocity := ⟨0, 0, 0⟩,
                     classification := "UNKNOWN", identity := "UNKNOWN", rcs := 5,
                     radar := .targeting, sensor := "targeting_radar", sourceId := "T1",
                     timestamp := 0 }], mergeTime := 0, ageTime := 0 },
      { reports := [], mergeTime := 1, ageTime := 1 }]
  revert hsilent
  decide +kernel

end Fmofp.Fusion
