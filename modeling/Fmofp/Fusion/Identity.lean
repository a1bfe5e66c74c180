import Fmofp.Fusion.Lifecycle

/-! The ids of fused tracks.  They are distinct in every table, but an id that is taken over is the key
of the old entry and not its id, and the track that takes it over stays under another key; so entries are
stored under their ids, and contacts keep theirs, only as long as no track comes near to an old one. -/

namespace Fmofp.Fusion

open Python Machine

/-- Within the gate of each other. -/
def Near (a b : Vec) : Prop := a.distanceSq b < gateM ^ 2

instance (a b : Vec) : Decidable (Near a b) := inferInstanceAs (Decidable (_ < _))

theorem distanceSq_comm (a b : Vec) : a.distanceSq b = b.distanceSq a := by
  simp only [Vec.distanceSq, Vec.normSq]
  ring

/-- No other entry of the table is near to this one. -/
def Alone (table : Dict ℕ FusedTrack) (x : ℕ × FusedTrack) : Prop :=
  ∀ y ∈ table, y ≠ x → ¬ Near y.2.position x.2.position

instance (table : Dict ℕ FusedTrack) (x : ℕ × FusedTrack) : Decidable (Alone table x) :=
  List.decidableBAll _ _

def trackIds (table : Dict ℕ FusedTrack) : List ℕ := table.map fun x => x.2.trackId

/-- After the epoch the ids are distinct, every entry is stored under its id, and a contact that moved
less than the gate and is alone before and after has the id that it had. -/
def KeepsIds (py : Runtime) (s : RadarDataFusion) (e : Epoch) : Prop :=
  let table := (update py s e).2.fusedTracks
  (trackIds table).Nodup ∧ (∀ x ∈ table, x.2.trackId = x.1) ∧
    ∀ old ∈ s.fusedTracks, ∀ new ∈ table, Near old.2.position new.2.position →
      Alone s.fusedTracks old → Alone table new → new.2.trackId = old.2.trackId

instance (py : Runtime) (s : RadarDataFusion) (e : Epoch) : Decidable (KeepsIds py s e) :=
  inferInstanceAs (Decidable (_ ∧ _ ∧ _))

/-- The clock runs on by more than the time to live between merging and ageing, so that no track
survives, or no fused position is near to one of the previous table. -/
def NoneNear (s : RadarDataFusion) (e : Epoch) : Prop :=
  e.ageTime - e.mergeTime > trackTtlS ∨
    ∀ cluster ∈ clustersOf e.reports, ∀ old ∈ s.fusedTracks,
      ¬ Near (weightedAverage Report.position cluster) old.2.position

/-- Keys are distinct and have been drawn. -/
structure Drawn (s : RadarDataFusion) : Prop where
  nodup : (s.fusedTracks.map Prod.fst).Nodup
  lt : ∀ x ∈ s.fusedTracks, x.1 < s.nextUuid

/-! ### The new table -/

/-- What an epoch merges: entries under their ids, new ones. -/
structure Merged (next : ℕ) (table : Dict ℕ FusedTrack) : Prop where
  nodup : (table.map Prod.fst).Nodup
  own : ∀ x ∈ table, x.2.trackId = x.1
  le : ∀ x ∈ table, next ≤ x.1

theorem mergeClusters_merged (py : Runtime) (timestamp : ℚ) (uuid : ℕ)
    (clusters : List (List Report)) : Merged uuid (mergeClusters py timestamp uuid clusters) := by
  refine ⟨mergeClusters_keys_nodup py timestamp uuid clusters, fun x hx => ?_, fun x hx => ?_⟩
  · obtain ⟨cluster, -, htrack, -, -⟩ := mem_mergeClusters hx
    rw [htrack]
    rfl
  · obtain ⟨-, -, -, hlow, -⟩ := mem_mergeClusters hx
    exact hlow

theorem Merged.tail {next : ℕ} {x : ℕ × FusedTrack} {table : Dict ℕ FusedTrack}
    (h : Merged next (x :: table)) : Merged next table := by
  have hnodup := h.nodup
  rw [List.map_cons, List.nodup_cons] at hnodup
  exact ⟨hnodup.2, fun y hy => h.own y (List.mem_cons_of_mem _ hy),
    fun y hy => h.le y (List.mem_cons_of_mem _ hy)⟩

section Reassign

variable {next : ℕ} {oldTable newTable : Dict ℕ FusedTrack}

/-- An id after the carry-over is the one that the track was made with, or the key of an old entry that
was not used before. -/
theorem mem_trackIds_reassignIds {usedOldIds : List ℕ} {id : ℕ}
    (h : id ∈ trackIds (reassignIds oldTable newTable usedOldIds)) :
    id ∈ trackIds newTable ∨ id ∈ oldTable.map Prod.fst ∧ id ∉ usedOldIds := by
  induction newTable generalizing usedOldIds with
  | nil => cases h
  | cons x rest ih =>
    obtain ⟨newId, newTrack⟩ := x
    rw [reassignIds] at h
    rw [trackIds, List.map_cons, List.mem_cons]
    split at h
    · rename_i oldId oldTrack hclosest
      rcases List.mem_cons.mp h with rfl | h
      · right
        have hmem := (closest_mem hclosest).resolve_left (by simp)
        rw [List.mem_filter] at hmem
        exact ⟨List.mem_map_of_mem hmem.1, of_decide_eq_true hmem.2⟩
      · rcases ih h with hnew | ⟨hold, hunused⟩
        · exact .inl (.inr hnew)
        · exact .inr ⟨hold, fun hused => hunused (List.mem_cons_of_mem _ hused)⟩
    · rcases List.mem_cons.mp h with rfl | h
      · exact .inl (.inl rfl)
      · exact (ih h).imp_left .inr

theorem trackIds_eq_keys (h : Merged next newTable) : trackIds newTable = newTable.map Prod.fst :=
  List.map_congr_left h.own

/-- Ids stay distinct: each old key is used once, and new ids are no old keys. -/
theorem reassignIds_nodup (hnew : Merged next newTable) (hold : ∀ x ∈ oldTable, x.1 < next)
    (usedOldIds : List ℕ) : (trackIds (reassignIds oldTable newTable usedOldIds)).Nodup := by
  induction newTable generalizing usedOldIds with
  | nil => exact List.nodup_nil
  | cons x rest ih =>
    obtain ⟨newId, newTrack⟩ := x
    have hnodup := hnew.nodup
    rw [List.map_cons, List.nodup_cons] at hnodup
    have hlow := hnew.le _ List.mem_cons_self
    rw [reassignIds]
    split
    · rename_i oldId oldTrack hclosest
      have hmem := (closest_mem hclosest).resolve_left (by simp)
      have hkey : oldId < next := hold _ (List.mem_of_mem_filter hmem)
      rw [trackIds, List.map_cons, List.nodup_cons]
      refine ⟨fun hagain => ?_, ih hnew.tail _⟩
      rcases mem_trackIds_reassignIds hagain with hrest | ⟨-, hunused⟩
      · rw [trackIds_eq_keys hnew.tail] at hrest
        obtain ⟨y, hy, hkeyed⟩ := List.mem_map.mp hrest
        have hnext := hnew.tail.le y hy
        dsimp only at hkeyed
        omega
      · exact hunused List.mem_cons_self
    · have hown : newTrack.trackId = newId := hnew.own _ List.mem_cons_self
      rw [trackIds, List.map_cons, List.nodup_cons]
      refine ⟨fun hagain => ?_, ih hnew.tail _⟩
      dsimp only at hagain
      rw [hown] at hagain
      rcases mem_trackIds_reassignIds hagain with hrest | ⟨hkeys, -⟩
      · rw [trackIds_eq_keys hnew.tail] at hrest
        exact hnodup.1 hrest
      · obtain ⟨y, hy, hkeyed⟩ := List.mem_map.mp hkeys
        have hdrawn := hold y hy
        omega

/-- Where no track is near to an old one nothing is taken over. -/
theorem reassignIds_eq_self {usedOldIds : List ℕ}
    (hfar : ∀ x ∈ newTable, ∀ old ∈ oldTable, ¬ Near x.2.position old.2.position) :
    reassignIds oldTable newTable usedOldIds = newTable := by
  induction newTable generalizing usedOldIds with
  | nil => rfl
  | cons x rest ih =>
    obtain ⟨newId, newTrack⟩ := x
    have hfirst := hfar _ List.mem_cons_self
    have hnone : closest (fun old : ℕ × FusedTrack => newTrack.position.distanceSq old.2.position)
        none (oldTable.filter fun old => old.1 ∉ usedOldIds) = none := by
      rw [closest_eq_none_iff]
      exact fun old hold => hfirst old (List.mem_of_mem_filter hold)
    rw [reassignIds, hnone, ih fun y hy => hfar y (List.mem_cons_of_mem _ hy)]

/-- Where one is near, an entry takes an id over that it is not stored under. -/
theorem exists_not_own (hnew : Merged next newTable) (hold : ∀ x ∈ oldTable, x.1 < next)
    (hnear : ∃ x ∈ newTable, ∃ old ∈ oldTable, Near x.2.position old.2.position) :
    ∃ y ∈ reassignIds oldTable newTable [], y.2.trackId ≠ y.1 := by
  induction newTable with
  | nil =>
    obtain ⟨x, hx, -⟩ := hnear
    cases hx
  | cons x rest ih =>
    obtain ⟨newId, newTrack⟩ := x
    have hlow : next ≤ newId := hnew.le _ List.mem_cons_self
    rw [reassignIds]
    split
    · rename_i oldId oldTrack hclosest
      have hmem := (closest_mem hclosest).resolve_left (by simp)
      have hkey : oldId < next := hold _ (List.mem_of_mem_filter hmem)
      refine ⟨_, List.mem_cons_self, ?_⟩
      show oldId ≠ newId
      omega
    · rename_i hclosest
      rw [closest_eq_none_iff] at hclosest
      have hrest : ∃ x ∈ rest, ∃ old ∈ oldTable, Near x.2.position old.2.position := by
        obtain ⟨y, hy, old, hmem, hclose⟩ := hnear
        rcases List.mem_cons.mp hy with rfl | hy
        · exact absurd hclose (hclosest old (List.mem_filter.mpr ⟨hmem, by simp⟩))
        · exact ⟨y, hy, old, hmem, hclose⟩
      obtain ⟨y, hy, hne⟩ := ih hnew.tail hrest
      exact ⟨y, List.mem_cons_of_mem _ hy, hne⟩

end Reassign

/-! ### Runs -/

theorem update_fusedTracks (py : Runtime) (s : RadarDataFusion) (e : Epoch) :
    (update py s e).2.fusedTracks =
      if e.ageTime - e.mergeTime > trackTtlS then [] else correlateAndMerge py s e :=
  ageOut_correlateAndMerge py s e

theorem update_drawn (py : Runtime) (s : RadarDataFusion) (e : Epoch) (_ : Drawn s) :
    Drawn (update py s e).2 := by
  have hmerged := mergeClusters_merged py e.mergeTime s.nextUuid (clustersOf e.reports)
  constructor
  · rw [update_fusedTracks]
    split_ifs
    · exact List.nodup_nil
    · rw [correlateAndMerge, reassignIds_keys]
      exact hmerged.nodup
  · rw [update_fusedTracks]
    split_ifs
    · intro x hx
      cases hx
    · intro x hx
      obtain ⟨-, -, -, hhigh, -⟩ := mem_correlateAndMerge hx
      exact hhigh

/-- Ids are distinct after every epoch. -/
theorem update_nodup (py : Runtime) {s : RadarDataFusion} (hs : Drawn s) (e : Epoch) :
    (trackIds (update py s e).2.fusedTracks).Nodup := by
  rw [update_fusedTracks]
  split_ifs
  · exact List.nodup_nil
  · exact reassignIds_nodup (mergeClusters_merged py _ _ _) hs.lt []

theorem keepsIds_iff (py : Runtime) {s : RadarDataFusion} (hs : Drawn s) (e : Epoch) :
    KeepsIds py s e ↔ NoneNear s e := by
  have hmerged := mergeClusters_merged py e.mergeTime s.nextUuid (clustersOf e.reports)
  have hnodup := update_nodup py hs e
  rw [KeepsIds, NoneNear, and_iff_right hnodup, update_fusedTracks]
  by_cases hlate : e.ageTime - e.mergeTime > trackTtlS
  · rw [if_pos hlate]
    exact iff_of_true ⟨fun _ hx => (by cases hx), fun _ _ _ hx => (by cases hx)⟩ (.inl hlate)
  · rw [if_neg hlate, or_iff_right hlate]
    constructor
    · -- a track near to an old one takes its key over as an id
      rintro ⟨hown, -⟩ cluster hcluster old hold hnear
      obtain ⟨id, hid⟩ := exists_mem_mergeClusters py e.mergeTime s.nextUuid hcluster
      obtain ⟨y, hy, hne⟩ := exists_not_own hmerged hs.lt ⟨_, hid, old, hold, hnear⟩
      exact hne (hown y hy)
    · intro hfar
      have hfar' : ∀ x ∈ mergeClusters py e.mergeTime s.nextUuid (clustersOf e.reports),
          ∀ old ∈ s.fusedTracks, ¬ Near x.2.position old.2.position := by
        intro x hx old hold
        obtain ⟨cluster, hcluster, htrack, -, -⟩ := mem_mergeClusters hx
        rw [htrack]
        exact hfar cluster hcluster old hold
      rw [correlateAndMerge, reassignIds_eq_self hfar']
      refine ⟨hmerged.own, fun old hold new hnew hnear _ _ => ?_⟩
      exact absurd (by rwa [Near, distanceSq_comm] at hnear) (hfar' new hnew old hold)

/-- In every run the ids of a table are distinct; entries are stored under their ids and contacts keep
theirs throughout exactly when no epoch brings a track near to one of the table before. -/
theorem along_keepsIds_iff (py : Runtime) (epochs : List Epoch) :
    (trackIds (final (update py) {} epochs).fusedTracks).Nodup ∧
      (Along (update py) (KeepsIds py) {} epochs ↔ Along (update py) NoneNear {} epochs) := by
  have hempty : Drawn {} := ⟨List.nodup_nil, fun _ hx => by cases hx⟩
  refine ⟨?_, @along_congr _ _ _ (update py) Drawn _ _ (update_drawn py)
    (fun s e hs => keepsIds_iff py hs e) {} hempty epochs⟩
  rcases List.eq_nil_or_concat epochs with rfl | ⟨before, e, rfl⟩
  · exact List.nodup_nil
  · rw [List.concat_eq_append, final_append]
    exact update_nodup py (invariant_final Drawn (update_drawn py) hempty before) e

/-- A contact of one radar. -/
def contact (position : Vec) (timestamp : ℚ) : Report where
  position := position
  velocity := ⟨0, 0, 0⟩
  classification := "UNKNOWN"
  identity := "UNKNOWN"
  rcs := 5
  radar := .targeting
  sensor := "targeting_radar"
  sourceId := "T1"
  timestamp := timestamp

/-- A contact that stays where it is has another id in the third epoch than in the second, and is stored
under a key that is not its id. -/
theorem not_keepsIds_third_epoch : ¬ ∀ py epochs, Along (update py) (KeepsIds py) {} epochs := by
  intro h
  have hthree := h .ascii ((List.range 3).map fun i =>
    { reports := [contact ⟨1000, 2000, 3000⟩ i], mergeTime := i, ageTime := i })
  revert hthree
  decide +kernel

end Fmofp.Fusion
