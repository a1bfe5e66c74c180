import Fmofp.Python.Quantum
import Fmofp.Weather.Tracking

/-! `WeatherStateManager.sample_points_with_trajectory`: the points that go on from the frame before come
first, and clusters of the others share the slots that are left by their intensity. -/

namespace Fmofp.Weather

open Python

/-- `random.sample`: distinct positions of the population, as many as asked for. -/
structure RandomModule where
  sample : List ℕ → ℕ → List ℕ
  subperm : ∀ population k, k ≤ population.length → (sample population k).Subperm population
  length : ∀ population k, k ≤ population.length → (sample population k).length = k

structure SampleCall where
  dataType : String
  allPoints : List Point
  maxPoints : ℕ
  windVector : Wind
  timeDelta : ℚ

/-- The default of `radius`. -/
def clusterRadius : ℚ := 5

def intensityAt (points : List Point) (i : ℕ) : ℚ := (points[i]?.map Point.intensity).getD 0

/-- `calculate_cluster_intensity`. -/
def calculateClusterIntensity (points : List Point) (cluster : List ℕ) : ℚ :=
  if cluster = [] then 0 else (cluster.map (intensityAt points)).sum / cluster.length

/-- The most intense ones first; those of the same intensity stay in order. -/
def byIntensity {α : Type} (intensity : α → ℚ) (xs : List α) : List α :=
  xs.mergeSort fun a b => decide (intensity b ≤ intensity a)

/-- How many points of a cluster are taken. -/
def clusterShare (intensity total : ℚ) (slots size taken : ℕ) : ℤ :=
  min (min (max 1 (roundHalfEven (intensity / total * slots))) size) (slots - taken)

/-- The loop over the clusters; `indices` are those of the points that were clustered. -/
def takeFromClusters (points : List Point) (indices : List ℕ) (total : ℚ) (slots : ℕ) :
    List (List ℕ × ℚ) → List ℕ → List ℕ
  | [], additional => additional
  | (cluster, intensity) :: rest, additional =>
    let share := clusterShare intensity total slots cluster.length additional.length
    if share ≤ 0 ∨ slots ≤ additional.length then
      takeFromClusters points indices total slots rest additional
    else
      let best := (byIntensity (intensityAt points) cluster).take share.toNat
      let additional := additional ++ best.filterMap (indices[·]?)
      if slots ≤ additional.length then additional
      else takeFromClusters points indices total slots rest additional

section Sampling

variable (math : MathLibrary) (random : RandomModule) (s : WeatherStateManager) (c : SampleCall)

/-- The matches of the call. -/
def SampleCall.matched : Dict ℕ String :=
  matchPointsToPrevious math c.allPoints (s.trackedDict (isVil c.dataType)) c.windVector c.timeDelta

def SampleCall.unmatched : List ℕ :=
  (List.range c.allPoints.length).filter fun i => !Dict.has (c.matched math s) i

def SampleCall.unmatchedPoints : List Point := (c.unmatched math s).filterMap (c.allPoints[·]?)

/-- The slots that the matches leave. -/
def SampleCall.remainingSlots : ℕ := c.maxPoints - (c.matched math s).length

/-- The clusters of the other points with their intensity, the most intense first. -/
def SampleCall.sortedClusters : Option (List (List ℕ × ℚ)) :=
  (clusterPoints math (c.unmatchedPoints math s) clusterRadius).map fun clusters =>
    byIntensity Prod.snd (clusters.map fun cluster =>
      (cluster, calculateClusterIntensity (c.unmatchedPoints math s) cluster))

/-- The points that fill the slots, of these clusters. -/
def SampleCall.additional (sortedClusters : List (List ℕ × ℚ)) : List ℕ :=
  let total := (sortedClusters.map Prod.snd).sum
  if 0 < total then
    takeFromClusters (c.unmatchedPoints math s) (c.unmatched math s) total (c.remainingSlots math s)
      sortedClusters []
  else
    random.sample (c.unmatched math s) (min (c.remainingSlots math s) (c.unmatched math s).length)

/-- `sample_points_with_trajectory`. -/
def samplePointsWithTrajectory : Option (List ℕ) :=
  if c.allPoints = [] then some []
  else
    let continuing := (c.matched math s).map Prod.fst
    let additional :=
      if 0 < c.remainingSlots math s ∧ continuing.length < c.allPoints.length ∧
          c.unmatched math s ≠ [] then
        (c.sortedClusters math s).map (c.additional math random s)
      else some []
    additional.map fun additional =>
      ((continuing ++ additional).take c.maxPoints).mergeSort fun a b => decide (a ≤ b)

end Sampling

/-! ### The matches -/

section Matches

variable {math : MathLibrary}

/-- The best match is not taken, and is at its distance from the point. -/
theorem bestMatch_spec {position : Position} {taken : List String}
    {predicted : List (String × Position)} {b : String × ℚ}
    (h : bestMatch math position taken predicted = some b) :
    b.1 ∉ taken ∧ ∃ e ∈ predicted, e.1 = b.1 ∧ b.2 = calculateDistance math position e.2 := by
  suffices hfold : ∀ best : Option (String × ℚ),
      (∀ b', best = some b' → b'.1 ∉ taken ∧
        ∃ e ∈ predicted, e.1 = b'.1 ∧ b'.2 = calculateDistance math position e.2) →
      ∀ l, l ⊆ predicted → l.foldl (fun best e =>
        if e.1 ∈ taken then best
        else
          let distance := calculateDistance math position e.2
          if best.all fun b => decide (distance < b.2) then some (e.1, distance) else best) best =
        some b →
      b.1 ∉ taken ∧ ∃ e ∈ predicted, e.1 = b.1 ∧ b.2 = calculateDistance math position e.2 from
    hfold none (fun b' hb' => by cases hb') predicted (List.Subset.refl _) h
  intro best hbest l
  induction l generalizing best with
  | nil => exact fun _ hb => hbest b hb
  | cons e l ih =>
    intro hl hb
    rw [List.foldl_cons] at hb
    refine ih _ ?_ (fun e' he' => hl (List.mem_cons_of_mem e he')) hb
    intro b' hb'
    dsimp only at hb'
    split_ifs at hb' with htaken
    · exact hbest b' hb'
    · cases hb'
      exact ⟨htaken, e, hl List.mem_cons_self, rfl, rfl⟩
    · exact hbest b' hb'

/-- The matches of the first `k` points: each has one id, no id has two, and both are near. -/
structure Matching (math : MathLibrary) (points : List Point) (predicted : List (String × Position))
    (k : ℕ) (matched : Dict ℕ String) : Prop where
  below : ∀ e ∈ matched, e.1 < k
  indices : (matched.map Prod.fst).Nodup
  ids : (matched.map Prod.snd).Nodup
  near : ∀ e ∈ matched, ∃ point pos, points[e.1]? = some point ∧ (e.2, pos) ∈ predicted ∧
    calculateDistance math point.position pos < maxDistance

theorem matchPoint_matching {points : List Point} {predicted : List (String × Position)} {k : ℕ}
    {matched : Dict ℕ String} (h : Matching math points predicted k matched) {point : Point}
    (hpoint : points[k]? = some point) :
    Matching math points predicted (k + 1) (matchPoint math predicted matched (point, k)) := by
  have hsame : Matching math points predicted (k + 1) matched :=
    { h with below := fun e he => (h.below e he).trans (Nat.lt_succ_self k) }
  rw [matchPoint.eq_def]
  cases hbest : bestMatch math point.position (matched.map Prod.snd) predicted with
  | none => exact hsame
  | some b =>
    obtain ⟨pointId, distance⟩ := b
    obtain ⟨hfree, e, he, rfl, hdistance⟩ := bestMatch_spec hbest
    dsimp only
    split_ifs with hnear
    · have hnew : Dict.get? matched k = none :=
        Dict.get?_eq_none fun e' he' => (h.below e' he').ne
      rw [Dict.set_eq_append hnew]
      constructor
      · intro e' he'
        rcases List.mem_append.mp he' with he' | he'
        · exact (h.below e' he').trans (Nat.lt_succ_self k)
        · rw [List.mem_singleton.mp he']
          exact Nat.lt_succ_self k
      · rw [List.map_append, List.nodup_append]
        refine ⟨h.indices, List.nodup_singleton k, fun i hi j hj => ?_⟩
        obtain ⟨e', he', rfl⟩ := List.mem_map.mp hi
        rw [List.mem_singleton.mp hj]
        exact (h.below e' he').ne
      · rw [List.map_append, List.nodup_append]
        refine ⟨h.ids, List.nodup_singleton _, fun i hi j hj => ?_⟩
        rw [List.mem_singleton.mp hj]
        rintro rfl
        exact hfree hi
      · intro e' he'
        rcases List.mem_append.mp he' with he' | he'
        · exact h.near e' he'
        · rw [List.mem_singleton.mp he']
          exact ⟨point, e.2, hpoint, he, hdistance ▸ hnear⟩
    · exact hsame

theorem foldl_matchPoint_matching {points : List Point} {predicted : List (String × Position)}
    (rest : List Point) {k : ℕ} {matched : Dict ℕ String} (h : Matching math points predicted k matched)
    (hrest : points.drop k = rest) :
    Matching math points predicted (k + rest.length)
      ((rest.zipIdx k).foldl (matchPoint math predicted) matched) := by
  induction rest generalizing k matched with
  | nil => exact h
  | cons point rest ih =>
    have hpoint : points[k]? = some point := by
      rw [← List.head?_drop, hrest]
      rfl
    have hdrop : points.drop (k + 1) = rest := by
      rw [← List.tail_drop, hrest]
      rfl
    rw [List.zipIdx_cons, List.foldl_cons, List.length_cons]
    have hnext := ih (matchPoint_matching h hpoint) hdrop
    rwa [Nat.add_assoc, Nat.add_comm 1] at hnext

/-- The positions to which the wind takes the tracked points. -/
def predictedPositions (math : MathLibrary) (table : Table) (wind : Wind) (timeDelta : ℚ) :
    List (String × Position) :=
  table.map fun e => (e.1, predictNextPosition e.2 (calculateExpectedMovement math wind timeDelta))

theorem matchPointsToPrevious_matching (math : MathLibrary) (points : List Point) (table : Table)
    (wind : Wind) (timeDelta : ℚ) :
    Matching math points (predictedPositions math table wind timeDelta) points.length
      (matchPointsToPrevious math points table wind timeDelta) := by
  have hnone : Matching math points (predictedPositions math table wind timeDelta) 0 [] :=
    ⟨fun e he => (nomatch he), List.nodup_nil, List.nodup_nil, fun e he => (nomatch he)⟩
  rw [matchPointsToPrevious]
  split_ifs
  · exact { hnone with below := fun e he => (nomatch he) }
  · have hall := foldl_matchPoint_matching points hnone rfl
    rwa [Nat.zero_add] at hall

end Matches

/-! ### The slots -/

section Slots

/-- The indices of the clustered points, as indices of all points. -/
def translate (indices cluster : List ℕ) : List ℕ := cluster.filterMap (indices[·]?)

theorem mem_of_mem_translate {indices cluster : List ℕ} {i : ℕ} (h : i ∈ translate indices cluster) :
    i ∈ indices := by
  obtain ⟨k, -, hk⟩ := List.mem_filterMap.mp h
  exact List.mem_of_getElem? hk

theorem nodup_translate {indices cluster : List ℕ} (h : indices.Nodup) (hcluster : cluster.Nodup) :
    (translate indices cluster).Nodup := by
  refine hcluster.filterMap fun i k j hi hk => ?_
  have hlt : i < indices.length := (List.getElem?_eq_some_iff.mp hi).1
  exact (List.getElem?_inj hlt h).mp (hi.trans hk.symm)

theorem byIntensity_perm {α : Type} (intensity : α → ℚ) (xs : List α) :
    (byIntensity intensity xs).Perm xs := List.mergeSort_perm _ _

/-- What is taken of a cluster is a part of it. -/
theorem taken_part (points : List Point) (indices cluster : List ℕ) (k : ℕ) :
    ∃ all : List ℕ, all.Perm (translate indices cluster) ∧
      (((byIntensity (intensityAt points) cluster).take k).filterMap (indices[·]?)).Sublist all :=
  ⟨_, (byIntensity_perm (intensityAt points) cluster).filterMap _,
    (List.take_sublist k _).filterMap _⟩

theorem clusterShare_le (intensity total : ℚ) (slots size taken : ℕ) :
    clusterShare intensity total slots size taken ≤ slots - taken := min_le_right _ _

/-- What the slots are filled with: distinct points of the unmatched ones, no more than there are slots. -/
structure Fills (indices : List ℕ) (slots : ℕ) (additional : List ℕ) : Prop where
  nodup : additional.Nodup
  subset : additional ⊆ indices
  length : additional.length ≤ slots

theorem takeFromClusters_fills (points : List Point) (indices : List ℕ) (total : ℚ) (slots : ℕ)
    (clusters : List (List ℕ × ℚ)) {additional : List ℕ} (h : Fills indices slots additional)
    (hnodup : (additional ++ translate indices (clusters.map Prod.fst).flatten).Nodup) :
    Fills indices slots (takeFromClusters points indices total slots clusters additional) := by
  induction clusters generalizing additional with
  | nil => exact h
  | cons e rest ih =>
    obtain ⟨cluster, intensity⟩ := e
    have hsplit : translate indices ((((cluster, intensity) :: rest).map Prod.fst).flatten) =
        translate indices cluster ++ translate indices (rest.map Prod.fst).flatten := by
      rw [List.map_cons, List.flatten_cons, translate, List.filterMap_append]
      rfl
    rw [hsplit] at hnodup
    rw [takeFromClusters]
    dsimp only
    set share := clusterShare intensity total slots cluster.length additional.length with hshare
    split_ifs with hskip hfull
    · exact ih h (hnodup.sublist ((List.sublist_append_right _ _).append_left additional))
    all_goals
      obtain ⟨all, hperm, hsub⟩ := taken_part points indices cluster share.toNat
      set taken := ((byIntensity (intensityAt points) cluster).take share.toNat).filterMap (indices[·]?)
      have hnodup' : ((additional ++ taken) ++ translate indices (rest.map Prod.fst).flatten).Nodup := by
        have hall := ((hperm.append_right _).append_left additional).nodup_iff.mpr hnodup
        rw [List.append_assoc]
        exact hall.sublist ((hsub.append_right _).append_left additional)
      have hfills : Fills indices slots (additional ++ taken) := by
        refine ⟨hnodup'.of_append_left, ?_, ?_⟩
        · intro i hi
          rcases List.mem_append.mp hi with hi | hi
          · exact h.subset hi
          · exact mem_of_mem_translate (hperm.mem_iff.mp (hsub.subset hi))
        · have hle : taken.length ≤ share.toNat := by
            refine (List.length_filterMap_le _ _).trans ?_
            rw [List.length_take]
            exact min_le_left _ _
          have hshare' := clusterShare_le intensity total slots cluster.length additional.length
          rw [← hshare] at hshare'
          rw [List.length_append]
          have hlength := h.length
          omega
    · exact hfills
    · exact ih hfills hnodup'

end Slots

/-! ### The sample -/

section Sample

variable (math : MathLibrary) (s : WeatherStateManager) (c : SampleCall)

theorem mem_unmatched {i : ℕ} :
    i ∈ c.unmatched math s ↔ i < c.allPoints.length ∧ i ∉ (c.matched math s).map Prod.fst := by
  rw [SampleCall.unmatched, List.mem_filter, List.mem_range, Bool.not_eq_true', Dict.has_eq_false,
    Dict.get?_eq_none_iff]

theorem matched_matching :
    Matching math c.allPoints
      (predictedPositions math (s.trackedDict (isVil c.dataType)) c.windVector c.timeDelta)
      c.allPoints.length (c.matched math s) :=
  matchPointsToPrevious_matching _ _ _ _ _

theorem nodup_unmatched : (c.unmatched math s).Nodup := List.nodup_range.filter _

/-- The clusters of the unmatched points are there, and have each of them once. -/
theorem sortedClusters_spec :
    ∃ sorted, c.sortedClusters math s = some sorted ∧
      (translate (c.unmatched math s) (sorted.map Prod.fst).flatten).Nodup := by
  obtain ⟨clusters, hclusters, -, hpartition, -⟩ :=
    clusterPoints_components math (c.unmatchedPoints math s) clusterRadius
  rw [SampleCall.sortedClusters, hclusters]
  refine ⟨_, rfl, nodup_translate (nodup_unmatched math s c) ?_⟩
  have hperm := (byIntensity_perm Prod.snd (clusters.map fun cluster =>
    (cluster, calculateClusterIntensity (c.unmatchedPoints math s) cluster))).map Prod.fst
  have hfst : (clusters.map fun cluster =>
      (cluster, calculateClusterIntensity (c.unmatchedPoints math s) cluster)).map Prod.fst =
      clusters := by
    rw [List.map_map]
    exact List.map_id clusters
  rw [hfst] at hperm
  exact (hperm.flatten.trans hpartition).nodup_iff.mpr List.nodup_range

theorem additional_fills (random : RandomModule) {sorted : List (List ℕ × ℚ)}
    (h : (translate (c.unmatched math s) (sorted.map Prod.fst).flatten).Nodup) :
    Fills (c.unmatched math s) (c.remainingSlots math s) (c.additional math random s sorted) := by
  rw [SampleCall.additional]
  split_ifs
  · exact takeFromClusters_fills _ _ _ _ sorted ⟨List.nodup_nil, List.nil_subset _, Nat.zero_le _⟩ h
  · have hle := min_le_right (c.remainingSlots math s) (c.unmatched math s).length
    have hsub := random.subperm _ _ hle
    refine ⟨?_, hsub.subset, ?_⟩
    · obtain ⟨part, hperm, hsublist⟩ := hsub
      exact hperm.nodup_iff.mp ((nodup_unmatched math s c).sublist hsublist)
    · rw [random.length _ _ hle]
      exact min_le_left _ _

/-- The slots are filled at random: there are slots, points for them, and no intensity. -/
def DrawsAtRandom : Prop :=
  0 < c.remainingSlots math s ∧ (c.matched math s).length < c.allPoints.length ∧
    c.unmatched math s ≠ [] ∧
    ∃ sorted, c.sortedClusters math s = some sorted ∧ (sorted.map Prod.snd).sum ≤ 0

/-- What a sample is: indices in order, no more than asked for, with all matched points if these are no
more than asked for. -/
structure SampleSound (indices : List ℕ) : Prop where
  increasing : indices.Pairwise (· < ·)
  valid : ∀ i ∈ indices, i < c.allPoints.length
  length : indices.length ≤ c.maxPoints
  continuing : (c.matched math s).length ≤ c.maxPoints → ∀ e ∈ c.matched math s, e.1 ∈ indices

theorem pairwise_lt_of_sorted {xs : List ℕ} (h : xs.Nodup) :
    (xs.mergeSort fun a b => decide (a ≤ b)).Pairwise (· < ·) := by
  have hsorted : (xs.mergeSort fun a b => decide (a ≤ b)).Pairwise fun a b => decide (a ≤ b) = true :=
    List.pairwise_mergeSort (fun a b c hab hbc => by simp only [decide_eq_true_eq] at *; omega)
      (fun a b => by simp only [Bool.or_eq_true, decide_eq_true_eq]; omega) xs
  have hnodup : (xs.mergeSort fun a b => decide (a ≤ b)).Pairwise (· ≠ ·) :=
    (List.mergeSort_perm xs _).nodup_iff.mpr h
  refine (hsorted.and hnodup).imp fun {a b} hab => ?_
  have hle := of_decide_eq_true hab.1
  have hne := hab.2
  omega

/-- Distinct points after the matched ones make a sound sample. -/
theorem sampleSound_of_fills {additional : List ℕ}
    (h : Fills (c.unmatched math s) (c.remainingSlots math s) additional) :
    SampleSound math s c
      ((((c.matched math s).map Prod.fst ++ additional).take c.maxPoints).mergeSort
        fun a b => decide (a ≤ b)) := by
  have hmatched := matched_matching math s c
  set continuing := (c.matched math s).map Prod.fst with hcontinuing
  have hnodup : (continuing ++ additional).Nodup := by
    refine hmatched.indices.append h.nodup fun i hi hi' => ?_
    exact ((mem_unmatched math s c).mp (h.subset hi')).2 hi
  refine ⟨pairwise_lt_of_sorted (hnodup.sublist (List.take_sublist _ _)), fun i hi => ?_, ?_, ?_⟩
  · have hmem := List.mem_of_mem_take (List.mem_mergeSort.mp hi)
    rcases List.mem_append.mp hmem with hmem | hmem
    · obtain ⟨e, he, rfl⟩ := List.mem_map.mp hmem
      exact hmatched.below e he
    · exact ((mem_unmatched math s c).mp (h.subset hmem)).1
  · rw [List.length_mergeSort, List.length_take]
    exact min_le_left _ _
  · intro hle e he
    have hmem : e.1 ∈ continuing := List.mem_map_of_mem he
    have hlength : continuing.length ≤ c.maxPoints := by
      rw [hcontinuing, List.length_map]
      exact hle
    rw [List.mem_mergeSort, List.take_append, List.take_of_length_le hlength]
    exact List.mem_append_left _ hmem

/-- The slots of a call are filled by distinct points, and by chance in one branch only. -/
theorem additional_spec (random : RandomModule) :
    ∃ additional, Fills (c.unmatched math s) (c.remainingSlots math s) additional ∧
      ∀ random' : RandomModule,
        (DrawsAtRandom math s c →
          random'.sample (c.unmatched math s)
              (min (c.remainingSlots math s) (c.unmatched math s).length) =
            random.sample (c.unmatched math s)
              (min (c.remainingSlots math s) (c.unmatched math s).length)) →
        (if 0 < c.remainingSlots math s ∧
            ((c.matched math s).map Prod.fst).length < c.allPoints.length ∧ c.unmatched math s ≠ [] then
          (c.sortedClusters math s).map (c.additional math random' s)
        else some []) = some additional := by
  obtain ⟨sorted, hsorted, hnodup⟩ := sortedClusters_spec math s c
  rw [hsorted, List.length_map]
  by_cases hslots : 0 < c.remainingSlots math s ∧ (c.matched math s).length < c.allPoints.length ∧
      c.unmatched math s ≠ []
  · refine ⟨c.additional math random s sorted, additional_fills math s c random hnodup, ?_⟩
    intro random' hdraws
    rw [if_pos hslots, Option.map_some, SampleCall.additional, SampleCall.additional]
    split_ifs with htotal
    · rfl
    · rw [hdraws ⟨hslots.1, hslots.2.1, hslots.2.2, sorted, hsorted, not_lt.mp htotal⟩]
  · refine ⟨[], ⟨List.nodup_nil, List.nil_subset _, Nat.zero_le _⟩, fun random' _ => ?_⟩
    rw [if_neg hslots]

end Sample

end Fmofp.Weather
