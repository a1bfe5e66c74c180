import Fmofp.Route.RouteManager

/-! Progress along the route.  A step may move the active waypoint on when it is reached, removed or
cleared, or when a waypoint is inserted in its place; the conditions under which each step does no more
than that are exact. -/

namespace Fmofp.Route

open Python Machine

variable (haversineNm : ℚ → ℚ → ℚ → ℚ → ℚ)

namespace RouteManager

def activeId (s : RouteManager) : Option ℕ := s.ids[s.activeIdx]?

/-- The steps that may make another waypoint active. -/
def Entitled (s : RouteManager) : Action → Prop
  | .updatePosition lat lon => (s.reaches haversineNm lat lon).isSome = true
  | .removeWaypoint wpId => s.activeId = some wpId
  | .clearRoute => True
  | .insertWaypoint caller => match Dict.get? s.calls caller with
    | some (.adding _ index) => insertPosition index s.waypoints.length = s.activeIdx
    | _ => False
  | _ => False

end RouteManager

/-- A step leaves nobody waiting for a lock that he holds, the index within the route and the ids
distinct, changes the active waypoint only where it is entitled to, and makes no waypoint active that has
been reached. -/
def Keeps (s : RouteManager) (action : Action) : Prop :=
  let s' := (step haversineNm s action).2
  s'.heldBy = none ∧ s'.activeIdx ≤ s'.waypoints.length ∧ s'.ids.Nodup ∧
    (s'.activeId = s.activeId ∨ s.Entitled haversineNm action) ∧
    ∀ id ∈ s'.activeId, id ∉ s'.reached

/-- When a step does so: an insertion brings a new id and goes to the active position or behind it,
`insert_target` finds a waypoint, and a removal takes the only waypoint, one behind the active one, the
active one if another one follows it, or one before the active one if that is the last. -/
def Permits (s : RouteManager) : Action → Prop
  | .insertWaypoint caller => match Dict.get? s.calls caller with
    | some (.adding wp index) =>
      wp.id ∉ s.ids ∧ s.activeIdx ≤ RouteManager.insertPosition index s.waypoints.length
    | _ => True
  | .insertTarget caller _ _ _ _ => Dict.get? s.calls caller = none → s.waypoints ≠ []
  | .removeWaypoint wpId => ∀ j < s.ids.length, s.ids[j]? = some wpId →
    s.ids.length = 1 ∨ s.activeIdx < j ∨ j < s.activeIdx ∧ s.activeIdx + 1 = s.ids.length ∨
      j = s.activeIdx ∧ s.activeIdx + 1 < s.ids.length
  | _ => True

instance (s : RouteManager) (action : Action) : Decidable (Permits s action) := by
  unfold Permits
  split
  · split <;> infer_instance
  all_goals infer_instance

/-- The waypoints before the active one are those that have been reached. -/
structure Advancing (s : RouteManager) : Prop where
  free : s.heldBy = none
  le : s.activeIdx ≤ s.ids.length
  nodup : s.ids.Nodup
  reached : ∀ id, id ∈ s.reached ↔ id ∈ s.ids.take s.activeIdx

theorem Advancing.active_notMem {s : RouteManager} (h : Advancing s) :
    ∀ id ∈ s.activeId, id ∉ s.reached := by
  intro id hid hreached
  exact notMem_take_of_nodup h.nodup hid ((h.reached id).mp hreached)

theorem keeps_of_advancing {s : RouteManager} {action : Action}
    (h : Advancing (step haversineNm s action).2)
    (hactive : (step haversineNm s action).2.activeId = s.activeId ∨ s.Entitled haversineNm action) :
    Keeps haversineNm s action := by
  refine ⟨h.free, ?_, h.nodup, hactive, h.active_notMem⟩
  have hle := h.le
  rwa [RouteManager.ids, List.length_map] at hle

/-! ### Insertion -/

theorem insertPosition_le (index : Option ℤ) (length : ℕ) :
    RouteManager.insertPosition index length ≤ length := by
  unfold RouteManager.insertPosition
  split
  · exact le_refl _
  · exact min_le_right _ _
  · exact Nat.sub_le _ _

theorem ids_insertWaypoint (s : RouteManager) (wp : Waypoint) (index : Option ℤ) :
    (s.insertWaypoint wp index).ids =
      insertAt s.ids (RouteManager.insertPosition index s.waypoints.length) wp.id :=
  map_insertAt Waypoint.id _ _ _

/-- A new id at the active position or behind it. -/
theorem insertWaypoint_advancing {s : RouteManager} (h : Advancing s) {wp : Waypoint}
    {index : Option ℤ} (hnew : wp.id ∉ s.ids)
    (hle : s.activeIdx ≤ RouteManager.insertPosition index s.waypoints.length) :
    Advancing (s.insertWaypoint wp index) := by
  have hp : RouteManager.insertPosition index s.waypoints.length ≤ s.ids.length := by
    rw [RouteManager.ids, List.length_map]
    exact insertPosition_le index _
  refine ⟨h.free, ?_, ?_, fun id => ?_⟩
  · rw [ids_insertWaypoint, length_insertAt]
    exact Nat.le_succ_of_le h.le
  · rw [ids_insertWaypoint, nodup_insertAt]
    exact ⟨hnew, h.nodup⟩
  · show id ∈ s.reached.filter (fun id => id ≠ wp.id) ↔
      id ∈ (s.insertWaypoint wp index).ids.take s.activeIdx
    rw [ids_insertWaypoint, take_insertAt hp hle, ← h.reached id, List.mem_filter,
      and_iff_left_of_imp]
    intro hid
    refine decide_eq_true fun heq => hnew ?_
    rw [← heq]
    exact List.mem_of_mem_take ((h.reached id).mp hid)

theorem insertWaypoint_activeId {s : RouteManager} {wp : Waypoint} {index : Option ℤ}
    (hlt : s.activeIdx < RouteManager.insertPosition index s.waypoints.length) :
    (s.insertWaypoint wp index).activeId = s.activeId := by
  have hp := insertPosition_le index s.waypoints.length
  rw [RouteManager.activeId, ids_insertWaypoint]
  refine getElem?_insertAt_of_lt ?_ hlt wp.id
  rwa [RouteManager.ids, List.length_map]

/-- A waypoint inserted before the active one makes the one before it active. -/
theorem insertWaypoint_activeId_ne {s : RouteManager} (h : Advancing s) {wp : Waypoint}
    {index : Option ℤ} (hlt : RouteManager.insertPosition index s.waypoints.length < s.activeIdx) :
    (s.insertWaypoint wp index).activeId ≠ s.activeId := by
  have hp := insertPosition_le index s.waypoints.length
  have hle := h.le
  obtain ⟨before, hbefore⟩ : ∃ before, s.activeIdx = before + 1 := ⟨s.activeIdx - 1, by omega⟩
  rw [RouteManager.activeId, ids_insertWaypoint]
  show (insertAt s.ids _ wp.id)[s.activeIdx]? ≠ s.ids[s.activeIdx]?
  rw [hbefore, getElem?_insertAt_of_gt (by rwa [RouteManager.ids, List.length_map]) (by omega)]
  exact (ne_of_nodup h.nodup (by omega) (by omega)).symm

/-! ### Removal -/

theorem ids_removeWaypoint (s : RouteManager) (wpId : ℕ) :
    (s.removeWaypoint wpId).ids = s.ids.filter fun id => id ≠ wpId := by
  rw [RouteManager.ids, RouteManager.removeWaypoint, RouteManager.ids, List.filter_map]
  rfl

/-- The active index after a removal. -/
theorem activeIdx_removeWaypoint (s : RouteManager) (wpId : ℕ) :
    (s.removeWaypoint wpId).activeIdx =
      if (s.removeWaypoint wpId).ids.length < s.ids.length then
        min s.activeIdx ((s.removeWaypoint wpId).ids.length - 1)
      else s.activeIdx := by
  simp only [RouteManager.ids, List.length_map]
  rfl

theorem removeWaypoint_of_notMem {s : RouteManager} (h : Advancing s) {wpId : ℕ} (hid : wpId ∉ s.ids) :
    s.removeWaypoint wpId = s := by
  have hwaypoints : (s.waypoints.filter fun wp => wp.id ≠ wpId) = s.waypoints := by
    apply List.filter_eq_self.mpr
    intro wp hwp
    exact decide_eq_true fun heq => hid (heq ▸ List.mem_map_of_mem hwp)
  have hreached : (s.reached.filter fun id => id ≠ wpId) = s.reached := by
    apply List.filter_eq_self.mpr
    intro id hmem
    refine decide_eq_true fun heq => hid ?_
    rw [← heq]
    exact List.mem_of_mem_take ((h.reached id).mp hmem)
  rw [RouteManager.removeWaypoint, hwaypoints, hreached, if_neg (lt_irrefl _)]

/-- A route split at the waypoint that is removed. -/
structure Split (s : RouteManager) (wpId : ℕ) (before after : List ℕ) : Prop where
  ids : s.ids = before ++ wpId :: after
  removed : (s.removeWaypoint wpId).ids = before ++ after
  activeIdx : (s.removeWaypoint wpId).activeIdx =
    min s.activeIdx (before.length + after.length - 1)

theorem exists_split {s : RouteManager} (h : Advancing s) {wpId : ℕ} (hid : wpId ∈ s.ids) :
    ∃ before after, Split s wpId before after := by
  obtain ⟨before, after, hids, hremoved⟩ := exists_split_of_nodup h.nodup hid
  rw [← ids_removeWaypoint] at hremoved
  refine ⟨before, after, hids, hremoved, ?_⟩
  rw [activeIdx_removeWaypoint, if_pos, hremoved, List.length_append]
  rw [hremoved, hids, List.length_append, List.length_append, List.length_cons]
  omega

section Removal

variable {s : RouteManager} {wpId : ℕ} {before after : List ℕ}

theorem Split.getElem? (hs : Split s wpId before after) : s.ids[before.length]? = some wpId := by
  rw [hs.ids, List.getElem?_append_right (le_refl _), Nat.sub_self]
  rfl

theorem Split.length (hs : Split s wpId before after) :
    s.ids.length = before.length + after.length + 1 := by
  rw [hs.ids, List.length_append, List.length_cons]
  omega

/-- The condition of a removal, at the place of the waypoint. -/
theorem Split.permits_iff (h : Advancing s) (hs : Split s wpId before after) :
    Permits s (.removeWaypoint wpId) ↔
      s.ids.length = 1 ∨ s.activeIdx < before.length ∨
        before.length < s.activeIdx ∧ s.activeIdx + 1 = s.ids.length ∨
        before.length = s.activeIdx ∧ s.activeIdx + 1 < s.ids.length := by
  have hlength := hs.length
  constructor
  · intro hpermits
    exact hpermits before.length (by omega) hs.getElem?
  · intro hwhere j hj hget
    have hsame : j = before.length := by
      by_contra hne
      exact ne_of_nodup h.nodup (by omega) hne (hget.trans hs.getElem?.symm)
    rw [hsame]
    exact hwhere

/-- What has been reached and is still in the route. -/
theorem Split.reached (h : Advancing s) (hs : Split s wpId before after) (id : ℕ) :
    id ∈ (s.removeWaypoint wpId).reached ↔ id ≠ wpId ∧ id ∈ (before ++ wpId :: after).take s.activeIdx := by
  show id ∈ s.reached.filter (fun id => id ≠ wpId) ↔ _
  rw [List.mem_filter, h.reached id, hs.ids, decide_eq_true_iff, and_comm]

theorem nodup_removeWaypoint (h : Advancing s) (wpId : ℕ) : (s.removeWaypoint wpId).ids.Nodup := by
  rw [ids_removeWaypoint]
  exact h.nodup.filter _

/-- A waypoint behind the active one. -/
theorem Split.of_behind (h : Advancing s) (hs : Split s wpId before after)
    (hlt : s.activeIdx ≤ before.length) (hmore : s.activeIdx + 1 < s.ids.length) :
    Advancing (s.removeWaypoint wpId) ∧
      (s.activeIdx < before.length → (s.removeWaypoint wpId).activeId = s.activeId) := by
  have hlength := hs.length
  have hidx : (s.removeWaypoint wpId).activeIdx = s.activeIdx := by
    rw [hs.activeIdx]
    omega
  refine ⟨⟨h.free, ?_, nodup_removeWaypoint h wpId, fun id => ?_⟩, fun hbefore => ?_⟩
  · rw [hidx, hs.removed, List.length_append]
    omega
  · rw [hs.reached h, hidx, hs.removed, take_removed_of_le after wpId hlt, and_iff_right_of_imp]
    intro hid heq
    rw [heq] at hid
    have hsame : wpId ∈ s.ids.take s.activeIdx := hs.ids ▸ hid
    have hfirst : s.ids.take s.activeIdx <+: s.ids.take before.length :=
      List.take_prefix_take_left hlt
    exact notMem_take_of_nodup h.nodup hs.getElem? (hfirst.subset hsame)
  · rw [RouteManager.activeId, RouteManager.activeId, hidx, hs.removed, hs.ids]
    exact getElem?_removed_of_lt hbefore

/-- A waypoint before the active one, which is the last. -/
theorem Split.of_before_last (h : Advancing s) (hs : Split s wpId before after)
    (hlt : before.length < s.activeIdx) (hlast : s.activeIdx + 1 = s.ids.length) :
    Advancing (s.removeWaypoint wpId) ∧ (s.removeWaypoint wpId).activeId = s.activeId := by
  have hlength := hs.length
  have hidx : (s.removeWaypoint wpId).activeIdx + 1 = s.activeIdx := by
    rw [hs.activeIdx]
    omega
  refine ⟨⟨h.free, ?_, nodup_removeWaypoint h wpId, fun id => ?_⟩, ?_⟩
  · rw [hs.removed, List.length_append]
    omega
  · rw [hs.reached h, hs.removed, ← hidx]
    constructor
    · rintro ⟨hne, hid⟩
      exact (mem_take_removed_of_lt (by omega) hne).mpr hid
    · intro hid
      have hne : id ≠ wpId := by
        rintro rfl
        have hin := List.mem_of_mem_take hid
        rw [← hs.removed, ids_removeWaypoint, List.mem_filter] at hin
        exact of_decide_eq_true hin.2 rfl
      exact ⟨hne, (mem_take_removed_of_lt (by omega) hne).mp hid⟩
  · rw [RouteManager.activeId, RouteManager.activeId, hs.removed, hs.ids, ← hidx]
    exact getElem?_removed_of_le (by omega)

/-- The only waypoint. -/
theorem Split.of_only (h : Advancing s) (hs : Split s wpId before after) (honly : s.ids.length = 1) :
    Advancing (s.removeWaypoint wpId) ∧ ((s.removeWaypoint wpId).activeId = s.activeId ∨
      s.activeId = some wpId) := by
  have hlength := hs.length
  have hle := h.le
  obtain rfl : before = [] := List.eq_nil_of_length_eq_zero (by omega)
  obtain rfl : after = [] := List.eq_nil_of_length_eq_zero (by omega)
  have hidx : (s.removeWaypoint wpId).activeIdx = 0 := by
    rw [hs.activeIdx]
    simp
  refine ⟨⟨h.free, hidx ▸ Nat.zero_le _, nodup_removeWaypoint h wpId, fun id => ?_⟩, ?_⟩
  · rw [hs.reached h, hidx, List.take_zero]
    refine iff_of_false (fun hid => ?_) List.not_mem_nil
    exact hid.1 (List.mem_singleton.mp (List.mem_of_mem_take hid.2))
  · rw [RouteManager.activeId, RouteManager.activeId, hs.removed, hs.ids]
    rcases Nat.le_one_iff_eq_zero_or_eq_one.mp (honly ▸ hle) with hzero | hone
    · right
      rw [hzero]
      rfl
    · left
      rw [hone]
      rfl

theorem removeWaypoint_advancing (h : Advancing s) (hpermits : Permits s (.removeWaypoint wpId)) :
    Advancing (s.removeWaypoint wpId) ∧ ((s.removeWaypoint wpId).activeId = s.activeId ∨
      s.activeId = some wpId) := by
  by_cases hid : wpId ∈ s.ids
  · obtain ⟨before, after, hs⟩ := exists_split h hid
    have hlength := hs.length
    rcases (hs.permits_iff h).mp hpermits with honly | hbehind | ⟨hlt, hlast⟩ | ⟨hsame, hmore⟩
    · exact hs.of_only h honly
    · obtain ⟨hadvancing, hactive⟩ := hs.of_behind h (le_of_lt hbehind) (by omega)
      exact ⟨hadvancing, .inl (hactive hbehind)⟩
    · obtain ⟨hadvancing, hactive⟩ := hs.of_before_last h hlt hlast
      exact ⟨hadvancing, .inl hactive⟩
    · refine ⟨(hs.of_behind h (le_of_eq hsame.symm) hmore).1, .inr ?_⟩
      rw [RouteManager.activeId, ← hsame]
      exact hs.getElem?
  · rw [removeWaypoint_of_notMem h hid]
    exact ⟨h, .inl rfl⟩

/-- Elsewhere a removal makes another waypoint active, or one that has been reached. -/
theorem removeWaypoint_breaks (h : Advancing s) (hpermits : ¬ Permits s (.removeWaypoint wpId)) :
    ((s.removeWaypoint wpId).activeId ≠ s.activeId ∧ s.activeId ≠ some wpId) ∨
      ∃ id ∈ (s.removeWaypoint wpId).activeId, id ∈ (s.removeWaypoint wpId).reached := by
  have hid : wpId ∈ s.ids := by
    by_contra hid
    exact hpermits fun j hj hget => absurd (List.mem_of_getElem? hget) hid
  obtain ⟨before, after, hs⟩ := exists_split h hid
  rw [hs.permits_iff h] at hpermits
  simp only [not_or, not_and, not_lt] at hpermits
  obtain ⟨honly, hbehind, hbefore, hat⟩ := hpermits
  have hlength := hs.length
  have hle := h.le
  have hidx := hs.activeIdx
  rcases lt_or_eq_of_le hbehind with hlt | hsame
  · -- a waypoint before the active one, which is not the last: the next one is skipped, or the last
    -- one comes back
    have hother : s.activeId ≠ some wpId := by
      rw [← hs.getElem?]
      exact ne_of_nodup h.nodup (by omega) (by omega)
    refine .inl ⟨?_, hother⟩
    rcases lt_or_eq_of_le hle with hmore | hend
    · have hstay : (s.removeWaypoint wpId).activeIdx = s.activeIdx := by omega
      rw [RouteManager.activeId, RouteManager.activeId, hs.removed, hstay,
        getElem?_removed_of_le (x := wpId) (by omega), ← hs.ids]
      exact ne_of_nodup h.nodup hmore (by omega)
    · have hback : (s.removeWaypoint wpId).activeIdx < (s.removeWaypoint wpId).ids.length := by
        rw [hs.removed, List.length_append]
        omega
      rw [RouteManager.activeId, RouteManager.activeId, hend, List.getElem?_eq_none (le_refl _),
        List.getElem?_eq_getElem hback]
      exact Option.some_ne_none _
  · -- the active waypoint, which is the last of several: the one before it comes back
    obtain rfl : after = [] := List.eq_nil_of_length_eq_zero (by omega)
    rw [List.length_nil] at hlength hidx
    have hback : (s.removeWaypoint wpId).activeIdx < before.length := by omega
    right
    refine ⟨before.get ⟨_, hback⟩, ?_, ?_⟩
    · rw [RouteManager.activeId, hs.removed, List.append_nil, Option.mem_def]
      exact List.getElem?_eq_getElem hback
    · have hmem : before.get ⟨_, hback⟩ ∈ before := List.get_mem _ _
      have hreached : before.get ⟨_, hback⟩ ∈ s.ids.take before.length := by
        rw [hs.ids, List.take_left]
        exact hmem
      rw [hs.reached h, ← hs.ids, ← hsame]
      refine ⟨fun heq => ?_, hreached⟩
      rw [heq] at hreached
      exact notMem_take_of_nodup h.nodup hs.getElem? hreached

end Removal

/-! ### Runs -/

/-- Where nobody holds the lock for good every step is made. -/
theorem step_of_free {s : RouteManager} (h : s.heldBy = none) (action : Action) :
    (step haversineNm s action).2 = next haversineNm s action := by
  rw [step, if_pos (.inl h)]

/-- What does not touch the route but the calls under way. -/
theorem advancing_calls {s : RouteManager} (h : Advancing s) (calls : Dict ℕ Call) :
    Advancing { s with calls } := ⟨h.free, h.le, h.nodup, h.reached⟩

theorem active_eq (s : RouteManager) : s.activeId = s.active.map Waypoint.id :=
  List.getElem?_map

theorem reaches_active {s : RouteManager} {lat lon : ℚ} {wp : Waypoint}
    (h : s.reaches haversineNm lat lon = some wp) : s.activeId = some wp.id := by
  rw [active_eq, (Option.filter_eq_some_iff.mp h).1]
  rfl

theorem updatePosition_advancing {s : RouteManager} (h : Advancing s) (lat lon : ℚ) :
    Advancing (s.updatePosition haversineNm lat lon) := by
  unfold RouteManager.updatePosition
  split
  · rename_i wp hreaches
    have hactive := reaches_active haversineNm hreaches
    obtain ⟨hlt, hget⟩ := List.getElem?_eq_some_iff.mp hactive
    have hlength : s.ids.length = s.waypoints.length := by rw [RouteManager.ids, List.length_map]
    have hidx : min (s.activeIdx + 1) s.waypoints.length = s.activeIdx + 1 := by omega
    refine ⟨h.free, ?_, h.nodup, fun id => ?_⟩
    · show min (s.activeIdx + 1) s.waypoints.length ≤ s.ids.length
      omega
    · show id ∈ wp.id :: s.reached ↔ id ∈ s.ids.take (min (s.activeIdx + 1) s.waypoints.length)
      rw [hidx, List.take_succ_eq_append_getElem hlt, hget, List.mem_append, List.mem_singleton,
        List.mem_cons, h.reached id, or_comm]
  · exact h

theorem deviate_id (threatLat threatLon threatRadiusNm : ℚ) (wp : Waypoint) :
    (RouteManager.deviate haversineNm threatLat threatLon threatRadiusNm wp).id = wp.id := by
  unfold RouteManager.deviate
  dsimp only
  split_ifs <;> rfl

theorem deviateFromThreat_ids (s : RouteManager) (threatLat threatLon threatRadiusNm : ℚ) :
    (s.deviateFromThreat haversineNm threatLat threatLon threatRadiusNm).ids = s.ids := by
  rw [RouteManager.ids, RouteManager.deviateFromThreat, List.map_map]
  exact List.map_congr_left fun wp _ => deviate_id haversineNm _ _ _ wp

/-- A permitted step keeps what has been reached behind the active waypoint, and changes the active
waypoint only where it is entitled to. -/
theorem next_advancing {s : RouteManager} (h : Advancing s) {action : Action}
    (hpermits : Permits s action) :
    Advancing (next haversineNm s action) ∧
      ((next haversineNm s action).activeId = s.activeId ∨ s.Entitled haversineNm action) := by
  cases action with
  | addWaypoint caller wp index =>
    rw [next]
    split
    · exact ⟨advancing_calls h _, .inl rfl⟩
    · exact ⟨h, .inl rfl⟩
  | insertWaypoint caller =>
    rw [next, RouteManager.Entitled]
    rw [Permits] at hpermits
    cases hcall : Dict.get? s.calls caller with
    | none => exact ⟨h, .inl rfl⟩
    | some call =>
      cases call with
      | adding wp index =>
        rw [hcall] at hpermits
        refine ⟨advancing_calls (insertWaypoint_advancing h hpermits.1 hpermits.2) _, ?_⟩
        rcases lt_or_eq_of_le hpermits.2 with hlt | heq
        · exact .inl (insertWaypoint_activeId hlt)
        · exact .inr heq.symm
      | _ => exact ⟨h, .inl rfl⟩
  | insertTarget caller name lat lon altFt =>
    rw [next]
    split
    · rename_i hcall
      rw [if_neg (hpermits hcall)]
      exact ⟨advancing_calls h _, .inl rfl⟩
    · exact ⟨h, .inl rfl⟩
  | addTarget caller =>
    rw [next]
    split
    · exact ⟨advancing_calls h _, .inl rfl⟩
    · exact ⟨h, .inl rfl⟩
  | removeWaypoint wpId => exact removeWaypoint_advancing h hpermits
  | clearRoute => exact ⟨⟨h.free, le_refl _, List.nodup_nil, fun _ => Iff.rfl⟩, .inr trivial⟩
  | updatePosition lat lon =>
    refine ⟨updatePosition_advancing haversineNm h lat lon, ?_⟩
    rw [next, RouteManager.Entitled, RouteManager.updatePosition]
    split
    · rename_i wp hreaches
      rw [hreaches]
      exact .inr rfl
    · exact .inl rfl
  | deviateFromThreat threatLat threatLon threatRadiusNm =>
    have hids := deviateFromThreat_ids haversineNm s threatLat threatLon threatRadiusNm
    rw [next]
    refine ⟨⟨h.free, hids ▸ h.le, hids ▸ h.nodup, fun id => ?_⟩, .inl ?_⟩
    · rw [hids]
      exact h.reached id
    · rw [RouteManager.activeId, hids]
      rfl

/-- A step that is not permitted breaks what the claim promises. -/
theorem next_breaks {s : RouteManager} (h : Advancing s) {action : Action}
    (hpermits : ¬ Permits s action) :
    ¬ ((next haversineNm s action).heldBy = none ∧ (next haversineNm s action).ids.Nodup ∧
      ((next haversineNm s action).activeId = s.activeId ∨ s.Entitled haversineNm action) ∧
      ∀ id ∈ (next haversineNm s action).activeId, id ∉ (next haversineNm s action).reached) := by
  cases action with
  | insertWaypoint caller =>
    rw [Permits] at hpermits
    rw [next, RouteManager.Entitled]
    cases hcall : Dict.get? s.calls caller with
    | none =>
      rw [hcall] at hpermits
      exact absurd trivial hpermits
    | some call =>
      cases call with
      | inserting name lat lon altFt index =>
        rw [hcall] at hpermits
        exact absurd trivial hpermits
      | stuck =>
        rw [hcall] at hpermits
        exact absurd trivial hpermits
      | adding wp index =>
        rw [hcall] at hpermits
        rintro ⟨-, hnodup, hactive, -⟩
        have hnew : wp.id ∉ s.ids := by
          have hinserted : (insertAt s.ids (RouteManager.insertPosition index s.waypoints.length)
              wp.id).Nodup := ids_insertWaypoint s wp index ▸ hnodup
          exact (nodup_insertAt.mp hinserted).1
        have hlt : RouteManager.insertPosition index s.waypoints.length < s.activeIdx := by
          by_contra hle
          exact hpermits ⟨hnew, not_lt.mp hle⟩
        rcases hactive with hsame | hat
        · exact insertWaypoint_activeId_ne h hlt hsame
        · exact absurd hat (ne_of_lt hlt)
  | insertTarget caller name lat lon altFt =>
    rw [Permits, Classical.not_imp, not_not] at hpermits
    rintro ⟨hheld, -⟩
    rw [next, hpermits.1] at hheld
    dsimp only at hheld
    rw [if_pos hpermits.2] at hheld
    cases hheld
  | removeWaypoint wpId =>
    rintro ⟨-, -, hactive, hreached⟩
    rcases removeWaypoint_breaks h hpermits with ⟨hother, hnot⟩ | ⟨id, hid, hin⟩
    · exact hactive.elim hother hnot
    · exact hreached id hid hin
  | addWaypoint caller wp index => exact absurd trivial hpermits
  | addTarget caller => exact absurd trivial hpermits
  | clearRoute => exact absurd trivial hpermits
  | updatePosition lat lon => exact absurd trivial hpermits
  | deviateFromThreat threatLat threatLon threatRadiusNm => exact absurd trivial hpermits

theorem keeps_iff {s : RouteManager} (h : Advancing s) (action : Action) :
    Keeps haversineNm s action ↔ Permits s action := by
  have hstep := step_of_free haversineNm h.free action
  constructor
  · intro hkeeps
    by_contra hpermits
    rw [Keeps, hstep] at hkeeps
    obtain ⟨hheld, -, hnodup, hactive, hreached⟩ := hkeeps
    exact next_breaks haversineNm h hpermits ⟨hheld, hnodup, hactive, hreached⟩
  · intro hpermits
    obtain ⟨hadvancing, hactive⟩ := next_advancing haversineNm h hpermits
    rw [← hstep] at hadvancing hactive
    exact keeps_of_advancing haversineNm hadvancing hactive

/-- In a run from an empty route every step keeps the progress if and only if every step is
permitted. -/
theorem along_keeps_iff (actions : List Action) :
    Along (step haversineNm) (Keeps haversineNm) {} actions ↔
      Along (step haversineNm) Permits {} actions := by
  have hempty : Advancing {} := ⟨rfl, le_refl _, List.nodup_nil, fun _ => Iff.rfl⟩
  have hstep : ∀ s action, Advancing s → Permits s action →
      Advancing (step haversineNm s action).2 := by
    intro s action h hpermits
    rw [step_of_free haversineNm h.free]
    exact (next_advancing haversineNm h hpermits).1
  exact @along_iff_guard _ _ _ (step haversineNm) Advancing _ _ hstep
    (fun s action h => keeps_iff haversineNm h action) {} hempty actions

/-- A target for an empty route: the call waits for the lock that it holds. -/
theorem not_along_keeps_insertTarget :
    ¬ ∀ haversineNm actions, Along (step haversineNm) (Keeps haversineNm) {} actions := by
  intro h
  have hstuck := h (fun _ _ _ _ => 0) [.insertTarget 1 "TGT" 36 (-115) 500]
  cases hstuck.1.1

end Fmofp.Route
