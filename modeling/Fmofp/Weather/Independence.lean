import Fmofp.Weather.Tracking

/-! The tracking of `vil` and of `precip`.  Each has its own table, but the time since the last frame is taken from
one stamp that both move, so that the two are independent only where this time is the right one or does not matter. -/

namespace Fmofp.Weather

open Python Machine WeatherStateManager

section Matching

variable {math : MathLibrary}

/-- No point of the frame is near to where the wind has taken a tracked one in `timeDelta` seconds. -/
def NoneNear (math : MathLibrary) (c : Call) (table : Table) (timeDelta : ℚ) : Prop :=
  ∀ point ∈ c.currentPoints, ∀ e ∈ table, maxDistance ≤ calculateDistance math point.position
    (predictNextPosition e.2 (calculateExpectedMovement math c.windVector timeDelta))

instance (c : Call) (table : Table) (timeDelta : ℚ) : Decidable (NoneNear math c table timeDelta) :=
  inferInstanceAs (Decidable (∀ point ∈ c.currentPoints, ∀ e ∈ table, _))

/-- The best match is at its distance from the point. -/
theorem exists_of_bestMatch {position : Position} {taken : List String} {predicted : List (String × Position)}
    {b : String × ℚ} (h : bestMatch math position taken predicted = some b) :
    ∃ e ∈ predicted, b.2 = calculateDistance math position e.2 := by
  -- the first of the candidates that is still the best at the end
  suffices hfold : ∀ best : Option (String × ℚ), (∀ b', best = some b' → b' ≠ b) →
      predicted.foldl (fun best e =>
        if e.1 ∈ taken then best
        else
          let distance := calculateDistance math position e.2
          if best.all fun b => decide (distance < b.2) then some (e.1, distance) else best) best = some b →
      ∃ e ∈ predicted, b.2 = calculateDistance math position e.2 from
    hfold none (fun b' hb' => by cases hb') h
  clear h
  induction predicted with
  | nil =>
    intro best hbest hb
    exact absurd rfl (hbest b hb)
  | cons e predicted ih =>
    intro best hbest hb
    rw [List.foldl_cons] at hb
    by_cases hfound : (e.1, calculateDistance math position e.2) = b
    · exact ⟨e, List.mem_cons_self, by rw [← hfound]⟩
    · refine (ih _ ?_ hb).imp fun e' he' => ⟨List.mem_cons_of_mem e he'.1, he'.2⟩
      intro b' hb'
      dsimp only at hb'
      split_ifs at hb'
      · exact hbest b' hb'
      · cases hb'
        exact hfound
      · exact hbest b' hb'

/-- A point that is far from all predicted positions has no match. -/
theorem matchPoint_of_far {predicted : List (String × Position)} {e : Point × ℕ}
    (h : ∀ p ∈ predicted, maxDistance ≤ calculateDistance math e.1.position p.2) (matched : Dict ℕ String) :
    matchPoint math predicted matched e = matched := by
  unfold matchPoint
  split
  · next pointId distance hbest =>
    obtain ⟨p, hp, hdistance⟩ := exists_of_bestMatch hbest
    have hfar := h p hp
    rw [← hdistance] at hfar
    exact if_neg (not_lt.mpr hfar)
  · rfl

theorem foldl_matchPoint_of_far {predicted : List (String × Position)} {points : List (Point × ℕ)}
    (h : ∀ e ∈ points, ∀ p ∈ predicted, maxDistance ≤ calculateDistance math e.1.position p.2)
    (matched : Dict ℕ String) : points.foldl (matchPoint math predicted) matched = matched := by
  induction points with
  | nil => rfl
  | cons e points ih =>
    rw [List.foldl_cons, matchPoint_of_far (h e List.mem_cons_self)]
    exact ih fun e' he' => h e' (List.mem_cons_of_mem e he')

theorem matchPointsToPrevious_of_noneNear {c : Call} {table : Table} {timeDelta : ℚ}
    (h : NoneNear math c table timeDelta) :
    matchPointsToPrevious math c.currentPoints table c.windVector timeDelta = [] := by
  unfold matchPointsToPrevious
  split_ifs
  · rfl
  · apply foldl_matchPoint_of_far
    intro e he p hp
    obtain ⟨entry, hentry, rfl⟩ := List.mem_map.mp hp
    exact h e.1 (List.fst_mem_of_mem_zipIdx he) entry hentry

/-- Where nothing is near, the time does not matter. -/
theorem update_of_noneNear {c : Call} {table : Table} {d d' : ℚ} (h : NoneNear math c table d)
    (h' : NoneNear math c table d') : update math c table d = update math c table d' := by
  have htracked (timeDelta : ℚ) :
      c.currentPoints.zipIdx.map (trackedFor math c table [] timeDelta) =
        c.currentPoints.zipIdx.map fun e =>
          newTrackedPoint math c.dataType e.1 (c.freshId e.2) c.windVector c.currentTime :=
    List.map_congr_left fun e _ => rfl
  unfold update
  rw [matchPointsToPrevious_of_noneNear h, matchPointsToPrevious_of_noneNear h']
  dsimp only
  rw [htracked d, htracked d']

end Matching

/-! ### Runs -/

section Runs

variable (math : MathLibrary) (vil : Bool)

/-- Whether a call is about the given one of the two tables. -/
def isFor (c : Call) : Bool := isVil c.dataType == vil

/-- The manager beside the time of the last call about the table, which is the stamp that it would have without
the other calls. -/
def watched (s : WeatherStateManager × ℚ) (c : Call) : Update × WeatherStateManager × ℚ :=
  let (updated, s') := s.1.updateTrackedPoints math c
  (updated, s', if isFor vil c then c.currentTime else s.2)

/-- The stamp is the table's own, or no point is near to a tracked one, whichever of the two stamps is taken. -/
def Undisturbed (s : WeatherStateManager × ℚ) (c : Call) : Prop :=
  isFor vil c = true → s.1.lastSamplingTime = s.2 ∨
    NoneNear math c (s.1.trackedDict vil) (c.currentTime - s.1.lastSamplingTime) ∧
      NoneNear math c (s.1.trackedDict vil) (c.currentTime - s.2)

instance (s : WeatherStateManager × ℚ) (c : Call) : Decidable (Undisturbed math vil s c) :=
  inferInstanceAs (Decidable (_ → _))

variable {math vil}

/-- The manager with both kinds of calls and the one alone. -/
def SameTable (vil : Bool) (s : WeatherStateManager × ℚ) (t : WeatherStateManager) : Prop :=
  s.1.trackedDict vil = t.trackedDict vil ∧ s.2 = t.lastSamplingTime

theorem watched_of_isFor_false {s : WeatherStateManager × ℚ} {t : WeatherStateManager} {c : Call}
    (h : isFor vil c = false) (hsame : SameTable vil s t) : SameTable vil (watched math vil s c).2 t := by
  have hne : isVil c.dataType ≠ vil := by simpa [isFor] using h
  have hother : ¬isFor vil c = true := by rw [h]; exact Bool.false_ne_true
  refine ⟨?_, (if_neg hother).trans hsame.2⟩
  exact (trackedDict_updateTrackedPoints_of_ne math s.1 hne).trans hsame.1

/-- An undisturbed call does what it does alone. -/
theorem watched_of_isFor {s : WeatherStateManager × ℚ} {t : WeatherStateManager} {c : Call} (h : isFor vil c = true)
    (hguard : Undisturbed math vil s c) (hsame : SameTable vil s t) :
    (watched math vil s c).1 = (t.updateTrackedPoints math c).1 ∧
      SameTable vil (watched math vil s c).2 (t.updateTrackedPoints math c).2 := by
  obtain ⟨htable, hown⟩ := hsame
  have hvil : isVil c.dataType = vil := by simpa [isFor] using h
  have hupdate : (watched math vil s c).1 = (t.updateTrackedPoints math c).1 := by
    show update math c (s.1.trackedDict (isVil c.dataType)) _ = update math c (t.trackedDict (isVil c.dataType)) _
    rw [hvil, ← htable, ← hown]
    obtain hstamp | ⟨hshared, halone⟩ := hguard h
    · rw [hstamp]
    · exact update_of_noneNear hshared halone
  refine ⟨hupdate, ?_, if_pos h⟩
  have hshared := trackedDict_updateTrackedPoints math s.1 c
  have halone := trackedDict_updateTrackedPoints math t c
  rw [hvil] at hshared halone
  rw [halone, ← hupdate]
  exact hshared

theorem visibleOutputs_watched (s : WeatherStateManager × ℚ) (calls : List Call) :
    visibleOutputs (watched math vil) (isFor vil) s calls =
      visibleOutputs (updateTrackedPoints math) (isFor vil) s.1 calls := by
  induction calls generalizing s with
  | nil => rfl
  | cons c calls ih =>
    rw [visibleOutputs, visibleOutputs, ih]
    rfl

/-- Whatever the calls about the other table, a run whose calls about this one are undisturbed matches the points,
ages the tracked ones and leaves the table as the calls about this one do alone. -/
theorem tracking_independent (start : ℚ) (calls : List Call)
    (h : Along (watched math vil) (Undisturbed math vil) (.start start, start) calls) :
    visibleOutputs (updateTrackedPoints math) (isFor vil) (.start start) calls =
      outputs (updateTrackedPoints math) (.start start) (calls.filter (isFor vil)) := by
  have hsame : List.Forall₂ (· = ·) (calls.filter (isFor vil)) (calls.filter (isFor vil)) := by
    rw [List.forall₂_eq_eq_eq]
  have hfree : Along (updateTrackedPoints math) (fun _ _ => True) (.start start) (calls.filter (isFor vil)) :=
    along_iff.mpr fun _ _ _ _ => trivial
  have hhidden (s : WeatherStateManager × ℚ) (t : WeatherStateManager) (c : Call) (hc : isFor vil c = false)
      (_ : Undisturbed math vil s c) (hR : SameTable vil s t) : SameTable vil (watched math vil s c).2 t :=
    watched_of_isFor_false hc hR
  have hvisible (s : WeatherStateManager × ℚ) (t : WeatherStateManager) (c c' : Call) (hc : isFor vil c = true)
      (heq : c = c') (hguard : Undisturbed math vil s c) (_ : True) (hR : SameTable vil s t) :
      (watched math vil s c).1 = (t.updateTrackedPoints math c').1 ∧
        SameTable vil (watched math vil s c).2 (t.updateTrackedPoints math c').2 := by
    subst heq
    exact watched_of_isFor hc hguard hR
  have hstart : SameTable vil (.start start, start) (.start start) := ⟨rfl, rfl⟩
  have hrelated := visibleOutputs_related hhidden hvisible hstart hsame h hfree
  rw [visibleOutputs_watched, List.forall₂_eq_eq_eq] at hrelated
  exact hrelated

end Runs

/-! ### A point at rest -/

/-- The functions at zero and at one. -/
def smallMath : MathLibrary where
  sin _ := 0
  cos _ := 1
  radians _ := 0
  sqrt x := x

/-- A frame with one point at the origin, without wind. -/
def restingFrame (dataType : String) (currentTime : ℚ) (pointId : String) : Call where
  dataType := dataType
  currentPoints := [⟨(0, 0), 1, "VILDataPoint", []⟩]
  windVector := ⟨0, 0⟩
  currentTime := currentTime
  freshId _ := pointId

theorem tracking_independent_same_times :
    visibleOutputs (updateTrackedPoints smallMath) (isFor true) (.start 0)
        [restingFrame "vil" 10 "a", restingFrame "precip" 10 "b", restingFrame "vil" 20 "c"] =
      outputs (updateTrackedPoints smallMath) (.start 0)
        ([restingFrame "vil" 10 "a", restingFrame "precip" 10 "b", restingFrame "vil" 20 "c"].filter
          (isFor true)) :=
  tracking_independent 0 _ (by decide +kernel)

/-- A frame of precipitation takes ten seconds off the age of a point of `vil`. -/
theorem ages_disturbed :
    (visibleOutputs (updateTrackedPoints smallMath) (isFor true) (.start 0)
        [restingFrame "vil" 10 "a", restingFrame "precip" 20 "b", restingFrame "vil" 30 "c"]).map
          (fun updated => updated.newTracked.map fun e => e.2.age) = [[0], [10]] ∧
      (outputs (updateTrackedPoints smallMath) (.start 0)
        [restingFrame "vil" 10 "a", restingFrame "vil" 30 "c"]).map
          (fun updated => updated.newTracked.map fun e => e.2.age) = [[0], [20]] := by
  decide +kernel

end Fmofp.Weather
