import Fmofp.Python.Dict
import Fmofp.Python.Text
import Fmofp.Machine.Run

/-! `OrderOfBattle` of the mission planning system: units in three dictionaries, one for each kind of
force. -/

namespace Fmofp.Mission

open Python

/-- A position of two components or of three, as the callers give it. -/
inductive Position
  | flat (lat lon : ℚ)
  | full (lat lon alt : ℚ)
  deriving DecidableEq

/-- `Unit`, which `to_dict` shows field by field. -/
structure BattleUnit (κ : Type) where
  id : κ
  type : String
  affiliation : Option String
  position : Position
  capabilities : List String
  status : String
  threatLevel : ℚ
  speedKts : ℚ
  headingDeg : ℚ
  deriving DecidableEq

inductive ForceClass
  | friendly | enemy | neutral
  deriving DecidableEq

/-- The order in which `_all_forces` lists them. -/
def ForceClass.all : List ForceClass := [.friendly, .enemy, .neutral]

/-- `friendly_forces`, `enemy_forces` and `neutral_forces`. -/
structure OrderOfBattle (κ : Type) where
  forces : ForceClass → Dict κ (BattleUnit κ)

variable {κ : Type}

/-- The force of a lowered affiliation that is known. -/
def knownForce (af : String) : Option ForceClass :=
  if af = "friendly" ∨ af = "friend" then some .friendly
  else if af = "enemy" then some .enemy
  else if af = "neutral" then some .neutral
  else none

/-- The force that a unit is added to. -/
def BattleUnit.force (py : Runtime) (unit : BattleUnit κ) : ForceClass :=
  (knownForce (py.lower (unit.affiliation.getD ""))).getD .neutral

namespace OrderOfBattle

def new : OrderOfBattle κ := ⟨fun _ => []⟩

variable [DecidableEq κ] (s : OrderOfBattle κ)

def setForce (c : ForceClass) (force : Dict κ (BattleUnit κ)) : OrderOfBattle κ :=
  ⟨Function.update s.forces c force⟩

omit [DecidableEq κ] in
theorem forces_setForce (c c' : ForceClass) (force : Dict κ (BattleUnit κ)) :
    (s.setForce c force).forces c' = if c' = c then force else s.forces c' :=
  Function.update_apply s.forces c force c'

/-- `_find_unit`: the first force that has the id, and the unit there. -/
def findUnit (unitId : κ) : Option (ForceClass × BattleUnit κ) :=
  ForceClass.all.findSome? fun c => (Dict.get? (s.forces c) unitId).map fun unit => (c, unit)

def addUnit (py : Runtime) (unit : BattleUnit κ) : OrderOfBattle κ :=
  s.setForce (unit.force py) (Dict.set (s.forces (unit.force py)) unit.id unit)

def removeUnit (unitId : κ) : OrderOfBattle κ :=
  match s.findUnit unitId with
  | some (c, _) => s.setForce c (Dict.erase (s.forces c) unitId)
  | none => s

/-- The unit that is found is written to. -/
def reviseUnit (unitId : κ) (f : BattleUnit κ → BattleUnit κ) : OrderOfBattle κ :=
  match s.findUnit unitId with
  | some (c, unit) => s.setForce c (Dict.set (s.forces c) unitId (f unit))
  | none => s

def updateUnitPosition (unitId : κ) (newPosition : Position) : OrderOfBattle κ :=
  s.reviseUnit unitId fun unit => { unit with position := newPosition }

def updateStatus (unitId : κ) (status : String) : OrderOfBattle κ :=
  s.reviseUnit unitId fun unit => { unit with status := status }

def updateHeadingSpeed (unitId : κ) (heading speed : ℚ) : OrderOfBattle κ :=
  s.reviseUnit unitId fun unit => { unit with headingDeg := heading, speedKts := speed }

/-! ### Queries -/

def getUnitInfo (unitId : κ) : Option (BattleUnit κ) := (s.findUnit unitId).map Prod.snd

def units (c : ForceClass) : List (BattleUnit κ) := (s.forces c).map Prod.snd

def getAllUnits : List (BattleUnit κ) := ForceClass.all.flatMap s.units

def getByAffiliation (py : Runtime) (affiliation : String) : List (BattleUnit κ) :=
  match knownForce (py.lower affiliation) with
  | some c => s.units c
  | none => []

def getThreats (minLevel : ℚ) : List (BattleUnit κ) :=
  (s.units .enemy).filter fun unit => decide (minLevel ≤ unit.threatLevel)

def summary (c : ForceClass) : ℕ := (s.forces c).length

/-- `math.sqrt(squared) <= radius`. -/
def sqrtAtMost (squared radius : ℚ) : Bool := decide (0 ≤ radius ∧ squared ≤ radius ^ 2)

theorem sqrtAtMost_iff (squared radius : ℚ) :
    sqrtAtMost squared radius = true ↔ Real.sqrt squared ≤ radius := by
  rw [sqrtAtMost, decide_eq_true_iff, Real.sqrt_le_iff]
  norm_cast

/-- The test of `get_forces_in_area`: the sum of squares is taken of positions with three components only,
and the center is then asked for its third one. -/
def inArea (center : Position) (radius : ℚ) (unit : BattleUnit κ) : Except Exception Bool :=
  match unit.position, center with
  | .full lat lon alt, .full lat' lon' alt' =>
    .ok (sqrtAtMost ((lat - lat') ^ 2 + (lon - lon') ^ 2 + (alt - alt') ^ 2) radius)
  | .full _ _ _, .flat _ _ => .error .indexError
  | .flat _ _, _ => .ok (sqrtAtMost 0 radius)

/-- The loop over units. -/
def collect (center : Position) (radius : ℚ) : List (BattleUnit κ) → Except Exception (List (BattleUnit κ))
  | [] => .ok []
  | unit :: rest => do
    let near ← inArea center radius unit
    let forces ← collect center radius rest
    return if near then unit :: forces else forces

def getForcesInArea (center : Position) (radius : ℚ) : Except Exception (List (BattleUnit κ)) :=
  collect center radius s.getAllUnits

end OrderOfBattle

end Fmofp.Mission

/-! The order of battle against one map from ids to units: the three dictionaries are the parts of the map
as long as no unit changes its force, and the search of an area measures positions of three components
only. -/

namespace Fmofp.Mission

open Python

variable {κ : Type} [DecidableEq κ]

/-! ### The map -/

/-- The unit that was added last for each id, with the updates after that. -/
abbrev UnitMap (κ : Type) : Type := Dict κ (BattleUnit κ)

namespace UnitMap

variable (m : UnitMap κ)

def add (unit : BattleUnit κ) : UnitMap κ := Dict.set m unit.id unit

def remove (unitId : κ) : UnitMap κ := Dict.erase m unitId

def revise (unitId : κ) (f : BattleUnit κ → BattleUnit κ) : UnitMap κ :=
  match Dict.get? m unitId with
  | some unit => Dict.set m unitId (f unit)
  | none => m

def ofForce (py : Runtime) (c : ForceClass) : List (BattleUnit κ) :=
  (Dict.part m (BattleUnit.force py) c).map Prod.snd

def all (py : Runtime) : List (BattleUnit κ) := ForceClass.all.flatMap (m.ofForce py)

end UnitMap

namespace Position

def lat : Position → ℚ
  | flat lat _ | full lat _ _ => lat

def lon : Position → ℚ
  | flat _ lon | full _ lon _ => lon

/-- The square of the distance in the coordinates that both positions have. -/
def squaredDistance : Position → Position → ℚ
  | full lat lon alt, full lat' lon' alt' => (lat - lat') ^ 2 + (lon - lon') ^ 2 + (alt - alt') ^ 2
  | p, q => (p.lat - q.lat) ^ 2 + (p.lon - q.lon) ^ 2

end Position

/-- The distance of a unit from the center is at most the radius. -/
def BattleUnit.near (center : Position) (radius : ℚ) (unit : BattleUnit κ) : Bool :=
  OrderOfBattle.sqrtAtMost (unit.position.squaredDistance center) radius

/-- The calls of a run; a query of an area is one of them. -/
inductive OobCall (κ : Type)
  | addUnit (unit : BattleUnit κ)
  | removeUnit (unitId : κ)
  | updateUnitPosition (unitId : κ) (newPosition : Position)
  | updateStatus (unitId : κ) (status : String)
  | updateHeadingSpeed (unitId : κ) (heading speed : ℚ)
  | getForcesInArea (center : Position) (radius : ℚ)

namespace OrderOfBattle

variable (py : Runtime)

def step (s : OrderOfBattle κ) : OobCall κ → OrderOfBattle κ
  | .addUnit unit => s.addUnit py unit
  | .removeUnit unitId => s.removeUnit unitId
  | .updateUnitPosition unitId newPosition => s.updateUnitPosition unitId newPosition
  | .updateStatus unitId status => s.updateStatus unitId status
  | .updateHeadingSpeed unitId heading speed => s.updateHeadingSpeed unitId heading speed
  | .getForcesInArea _ _ => s

end OrderOfBattle

def UnitMap.step (m : UnitMap κ) : OobCall κ → UnitMap κ
  | .addUnit unit => m.add unit
  | .removeUnit unitId => m.remove unitId
  | .updateUnitPosition unitId newPosition =>
    m.revise unitId fun unit => { unit with position := newPosition }
  | .updateStatus unitId status => m.revise unitId fun unit => { unit with status := status }
  | .updateHeadingSpeed unitId heading speed =>
    m.revise unitId fun unit => { unit with headingDeg := heading, speedKts := speed }
  | .getForcesInArea _ _ => m

/-- The order of battle and the map side by side. -/
def both (py : Runtime) (s : OrderOfBattle κ × UnitMap κ) (call : OobCall κ) :
    Unit × OrderOfBattle κ × UnitMap κ :=
  ((), s.1.step py call, s.2.step call)

/-- Every query of the order of battle is answered from the map, and lists an id at most once. -/
structure Agree (py : Runtime) (s : OrderOfBattle κ) (m : UnitMap κ) : Prop where
  unitInfo : ∀ unitId, s.getUnitInfo unitId = Dict.get? m unitId
  allUnits : s.getAllUnits = m.all py
  listedOnce : (s.getAllUnits.map BattleUnit.id).Nodup
  byAffiliation : ∀ affiliation, s.getByAffiliation py affiliation =
    ((knownForce (py.lower affiliation)).map (m.ofForce py)).getD []
  threats : ∀ minLevel, s.getThreats minLevel =
    (m.ofForce py .enemy).filter fun unit => decide (minLevel ≤ unit.threatLevel)
  summary : ∀ c, s.summary c = (m.ofForce py c).length

/-- The queries agree after a call, and a query of an area finds the units that are near. -/
def Answered (py : Runtime) (s : OrderOfBattle κ × UnitMap κ) (call : OobCall κ) : Prop :=
  Agree py (both py s call).2.1 (both py s call).2.2 ∧
    ∀ center radius, call = .getForcesInArea center radius →
      s.1.getForcesInArea center radius = .ok ((s.2.all py).filter (BattleUnit.near center radius))

/-- A unit that the search of an area measures as it is: one with three components from a center with
three, and one with two components only when it is near or the radius is negative. -/
def BattleUnit.Measured (center : Position) (radius : ℚ) (unit : BattleUnit κ) : Prop :=
  match unit.position, center with
  | .full _ _ _, .full _ _ _ => True
  | .full _ _ _, .flat _ _ => False
  | .flat _ _, _ => 0 ≤ radius → unit.near center radius = true

/-- A unit is added under an id that no other force has, and only units that are measured are searched. -/
def OneForce (py : Runtime) (s : OrderOfBattle κ × UnitMap κ) : OobCall κ → Prop
  | .addUnit unit => ∀ c, Dict.has (s.1.forces c) unit.id = true → c = unit.force py
  | .getForcesInArea center radius => ∀ unit ∈ s.1.getAllUnits, unit.Measured center radius
  | _ => True

/-! ### The three dictionaries are parts of the map -/

structure Related (py : Runtime) (s : OrderOfBattle κ) (m : UnitMap κ) : Prop where
  keys : (m.map Prod.fst).Nodup
  ids : ∀ e ∈ m, e.2.id = e.1
  forces : ∀ c, s.forces c = Dict.part m (BattleUnit.force py) c

namespace Related

variable {py : Runtime} {s : OrderOfBattle κ} {m : UnitMap κ}

omit [DecidableEq κ] in
theorem empty : Related py (.new : OrderOfBattle κ) [] where
  keys := List.nodup_nil
  ids := nofun
  forces _ := rfl

theorem get?_forces (h : Related py s m) (c : ForceClass) (unitId : κ) :
    Dict.get? (s.forces c) unitId =
      (Dict.get? m unitId).filter fun unit => decide (unit.force py = c) := by
  rw [h.forces, Dict.get?_part _ _ h.keys]

omit [DecidableEq κ] in
theorem units_eq (h : Related py s m) : s.units = m.ofForce py := by
  funext c
  rw [OrderOfBattle.units, UnitMap.ofForce, h.forces]

theorem mem_units (h : Related py s m) {c : ForceClass} {unit : BattleUnit κ} :
    unit ∈ s.units c ↔ Dict.get? m unit.id = some unit ∧ unit.force py = c := by
  rw [h.units_eq, UnitMap.ofForce, Dict.part, List.mem_map]
  constructor
  · rintro ⟨e, he, rfl⟩
    obtain ⟨hmem, hforce⟩ := List.mem_filter.mp he
    rw [h.ids e hmem]
    exact ⟨Dict.get?_of_mem h.keys hmem, of_decide_eq_true hforce⟩
  · rintro ⟨hget, hforce⟩
    exact ⟨(unit.id, unit), List.mem_filter.mpr ⟨Dict.mem_of_get?_eq_some hget, decide_eq_true hforce⟩,
      rfl⟩

theorem findUnit_eq (h : Related py s m) (unitId : κ) :
    s.findUnit unitId = (Dict.get? m unitId).map fun unit => (unit.force py, unit) := by
  simp only [OrderOfBattle.findUnit, ForceClass.all, List.findSome?_cons, List.findSome?_nil,
    h.get?_forces]
  cases Dict.get? m unitId with
  | none => rfl
  | some unit =>
    cases hforce : unit.force py <;> simp [hforce, Option.filter_some]

omit [DecidableEq κ] in
theorem nodup_units (h : Related py s m) (c : ForceClass) : (s.units c).Nodup := by
  have hids : (s.units c).map BattleUnit.id = (Dict.part m (BattleUnit.force py) c).map Prod.fst := by
    rw [h.units_eq, UnitMap.ofForce, List.map_map]
    exact List.map_congr_left fun e he => h.ids e (List.mem_of_mem_filter he)
  exact List.Nodup.of_map BattleUnit.id (hids ▸ Dict.nodup_keys_part _ _ h.keys)

/-- Each id is listed at most once. -/
theorem nodup_ids (h : Related py s m) : (s.getAllUnits.map BattleUnit.id).Nodup := by
  refine List.Nodup.map_on (fun unit hunit unit' hunit' hid => ?_) ?_
  · obtain ⟨c, -, hunit⟩ := List.mem_flatMap.mp hunit
    obtain ⟨c', -, hunit'⟩ := List.mem_flatMap.mp hunit'
    have hget := (h.mem_units.mp hunit).1
    rw [hid, (h.mem_units.mp hunit').1, Option.some.injEq] at hget
    exact hget.symm
  · refine List.nodup_flatMap.mpr ⟨fun c _ => h.nodup_units c, ?_⟩
    have hdistinct : ForceClass.all.Pairwise (· ≠ ·) := by decide
    refine hdistinct.imp fun hne => ?_
    intro unit hunit hunit'
    exact hne ((h.mem_units.mp hunit).2.symm.trans (h.mem_units.mp hunit').2)

theorem agree (h : Related py s m) : Agree py s m where
  unitInfo unitId := by
    rw [OrderOfBattle.getUnitInfo, h.findUnit_eq, Option.map_map]
    exact Option.map_id'
  allUnits := by
    rw [OrderOfBattle.getAllUnits, UnitMap.all, h.units_eq]
  listedOnce := h.nodup_ids
  byAffiliation affiliation := by
    rw [OrderOfBattle.getByAffiliation, ← h.units_eq]
    cases knownForce (py.lower affiliation) <;> rfl
  threats minLevel := by rw [OrderOfBattle.getThreats, h.units_eq]
  summary c := by rw [OrderOfBattle.summary, UnitMap.ofForce, List.length_map, h.forces]

theorem add (h : Related py s m) {unit : BattleUnit κ}
    (hforce : ∀ c, Dict.has (s.forces c) unit.id = true → c = unit.force py) :
    Related py (s.addUnit py unit) (m.add unit) where
  keys := Dict.nodup_keys_set h.keys _ _
  ids e he := by
    rcases Dict.mem_set he with rfl | he
    · rfl
    · exact h.ids e he
  forces c := by
    have hsame : ∀ old, Dict.get? m unit.id = some old → old.force py = unit.force py := by
      intro old hold
      refine hforce _ (Dict.has_iff.mpr ⟨old, ?_⟩)
      rw [h.get?_forces, hold, Option.filter_some, decide_eq_true rfl, if_pos rfl]
    rw [UnitMap.add, Dict.part_set _ _ hsame, OrderOfBattle.addUnit, OrderOfBattle.forces_setForce,
      h.forces, h.forces]
    by_cases hc : c = unit.force py
    · rw [if_pos hc, if_pos hc.symm, hc]
    · rw [if_neg hc, if_neg (Ne.symm hc)]

theorem remove (h : Related py s m) (unitId : κ) :
    Related py (s.removeUnit unitId) (m.remove unitId) where
  keys := Dict.nodup_keys_erase h.keys _
  ids e he := h.ids e (List.mem_of_mem_filter he)
  forces c := by
    rw [UnitMap.remove, Dict.part_erase, ← h.forces, OrderOfBattle.removeUnit, h.findUnit_eq]
    cases hget : Dict.get? m unitId with
    | none =>
      have hnone : Dict.get? (s.forces c) unitId = none := by
        rw [h.get?_forces, hget, Option.filter_none]
      exact (Dict.erase_of_get?_eq_none hnone).symm
    | some unit =>
      simp only [Option.map_some, OrderOfBattle.forces_setForce]
      split_ifs with hc
      · rw [hc]
      · have hnone : Dict.get? (s.forces c) unitId = none := by
          rw [h.get?_forces, hget, Option.filter_some, decide_eq_false (Ne.symm hc)]
          rfl
        exact (Dict.erase_of_get?_eq_none hnone).symm

/-- An update keeps id and force of a unit. -/
theorem revise (h : Related py s m) (unitId : κ) {f : BattleUnit κ → BattleUnit κ}
    (hid : ∀ unit, (f unit).id = unit.id) (hforce : ∀ unit, (f unit).force py = unit.force py) :
    Related py (s.reviseUnit unitId f) (m.revise unitId f) := by
  rw [OrderOfBattle.reviseUnit, UnitMap.revise, h.findUnit_eq]
  cases hget : Dict.get? m unitId with
  | none => exact h
  | some unit =>
    refine ⟨Dict.nodup_keys_set h.keys _ _, fun e he => ?_, fun c => ?_⟩
    · rcases Dict.mem_set he with rfl | he
      · exact (hid unit).trans (h.ids _ (Dict.mem_of_get?_eq_some hget))
      · exact h.ids e he
    · have hsame : ∀ old, Dict.get? m unitId = some old → old.force py = (f unit).force py := by
        intro old hold
        rw [hget, Option.some.injEq] at hold
        rw [hforce, hold]
      simp only [Option.map_some, OrderOfBattle.forces_setForce]
      rw [Dict.part_set _ _ hsame, hforce, h.forces, h.forces]
      by_cases hc : c = unit.force py
      · rw [if_pos hc, if_pos hc.symm, hc]
      · rw [if_neg hc, if_neg (Ne.symm hc)]

/-- A call that keeps each id in one force keeps the dictionaries the parts of the map. -/
theorem step (h : Related py s m) {call : OobCall κ} (hone : OneForce py (s, m) call) :
    Related py (s.step py call) (m.step call) := by
  cases call with
  | addUnit unit => exact h.add hone
  | removeUnit unitId => exact h.remove unitId
  | updateUnitPosition unitId newPosition =>
    exact h.revise unitId (fun _ => rfl) fun _ => rfl
  | updateStatus unitId status => exact h.revise unitId (fun _ => rfl) fun _ => rfl
  | updateHeadingSpeed unitId heading speed => exact h.revise unitId (fun _ => rfl) fun _ => rfl
  | getForcesInArea center radius => exact h

end Related

/-- A unit added under an id of another force is listed beside the one that is there. -/
theorem not_agree_of_other_force {py : Runtime} {s : OrderOfBattle κ} {m : UnitMap κ}
    (h : Related py s m) {unit : BattleUnit κ} {c : ForceClass}
    (hhas : Dict.has (s.forces c) unit.id = true) (hne : c ≠ unit.force py) :
    ¬ Agree py (s.addUnit py unit) (m.add unit) := by
  intro hagree
  have hlisted := hagree.listedOnce
  rw [OrderOfBattle.getAllUnits, List.map_flatMap, List.nodup_flatMap] at hlisted
  have hall : ∀ c : ForceClass, c ∈ ForceClass.all := fun c => by cases c <;> decide
  have : Std.Symm (Function.onFun List.Disjoint fun c =>
      ((s.addUnit py unit).units c).map BattleUnit.id) := ⟨fun _ _ h => h.symm⟩
  have hdisjoint := hlisted.2.forall (hall c) (hall (unit.force py)) hne
  obtain ⟨old, hold⟩ := Dict.has_iff.mp hhas
  have hid : old.id = unit.id := by
    rw [h.forces] at hold
    exact h.ids _ (List.mem_of_mem_filter (Dict.mem_of_get?_eq_some hold))
  refine hdisjoint (a := unit.id) (List.mem_map.mpr ⟨old, ?_, hid⟩) (List.mem_map.mpr ⟨unit, ?_, rfl⟩)
  · rw [OrderOfBattle.units, OrderOfBattle.addUnit, OrderOfBattle.forces_setForce, if_neg hne]
    exact List.mem_map_of_mem (Dict.mem_of_get?_eq_some hold)
  · rw [OrderOfBattle.units, OrderOfBattle.addUnit, OrderOfBattle.forces_setForce, if_pos rfl]
    exact List.mem_map_of_mem (Dict.mem_of_get?_eq_some (Dict.get?_set_self _ _ _))

/-! ### The search of an area -/

namespace OrderOfBattle

variable {center : Position} {radius : ℚ} {units : List (BattleUnit κ)}

/-- Whether the search takes a unit that it can measure. -/
def included (center : Position) (radius : ℚ) (unit : BattleUnit κ) : Bool :=
  (inArea center radius unit).toOption.getD false

omit [DecidableEq κ] in
/-- A search that does not raise takes the units that it measures as near. -/
theorem collect_eq_ok {forces : List (BattleUnit κ)} (h : collect center radius units = .ok forces) :
    (∀ unit ∈ units, inArea center radius unit = .ok (included center radius unit)) ∧
      forces = units.filter (included center radius) := by
  induction units generalizing forces with
  | nil =>
    cases h
    exact ⟨nofun, rfl⟩
  | cons unit rest ih =>
    obtain ⟨near, hnear, h⟩ := bind_eq_ok h
    obtain ⟨more, hmore, h⟩ := bind_eq_ok h
    obtain ⟨hrest, rfl⟩ := ih hmore
    have hincluded : included center radius unit = near := by rw [included, hnear]; rfl
    rw [List.forall_mem_cons, List.filter_cons, hincluded]
    cases h
    exact ⟨⟨hnear, hrest⟩, rfl⟩

omit [DecidableEq κ] in
theorem collect_of_inArea {near : BattleUnit κ → Bool}
    (h : ∀ unit ∈ units, inArea center radius unit = .ok (near unit)) :
    collect center radius units = .ok (units.filter near) := by
  induction units with
  | nil => rfl
  | cons unit rest ih =>
    obtain ⟨hunit, hrest⟩ := List.forall_mem_cons.mp h
    rw [collect, hunit, ih hrest, List.filter_cons]
    rfl

omit [DecidableEq κ] in
/-- A unit that is measured as it is is taken when it is near. -/
theorem inArea_of_measured {unit : BattleUnit κ} (h : unit.Measured center radius) :
    inArea center radius unit = .ok (unit.near center radius) := by
  obtain ⟨id, type, affiliation, position, capabilities, status, level, speed, heading⟩ := unit
  cases position with
  | full lat lon alt =>
    cases center with
    | full lat' lon' alt' => rfl
    | flat lat' lon' => exact h.elim
  | flat lat lon =>
    have hflat : sqrtAtMost 0 radius = BattleUnit.near center radius
        ⟨id, type, affiliation, .flat lat lon, capabilities, status, level, speed, heading⟩ := by
      by_cases hradius : 0 ≤ radius
      · rw [h hradius]
        exact decide_eq_true ⟨hradius, sq_nonneg radius⟩
      · rw [BattleUnit.near, sqrtAtMost, sqrtAtMost, decide_eq_false fun h => hradius h.1,
          decide_eq_false fun h => hradius h.1]
    exact congrArg Except.ok hflat

omit [DecidableEq κ] in
/-- The search finds the units that are near exactly when it measures them all as they are. -/
theorem collect_eq_near_iff :
    collect center radius units = .ok (units.filter (BattleUnit.near center radius)) ↔
      ∀ unit ∈ units, unit.Measured center radius := by
  constructor
  · intro h unit hunit
    obtain ⟨hmeasured, hsame⟩ := collect_eq_ok h
    have hok := hmeasured unit hunit
    have htaken : included center radius unit = true → unit.near center radius = true := by
      intro hincluded
      have hmem := List.mem_filter.mpr ⟨hunit, hincluded⟩
      rw [← hsame] at hmem
      exact (List.mem_filter.mp hmem).2
    obtain ⟨id, type, affiliation, position, capabilities, status, level, speed, heading⟩ := unit
    cases position with
    | full lat lon alt =>
      cases center with
      | full lat' lon' alt' => trivial
      | flat lat' lon' => cases hok
    | flat lat lon =>
      intro hradius
      exact htaken (decide_eq_true ⟨hradius, sq_nonneg radius⟩)
  · intro h
    exact collect_of_inArea fun unit hunit => inArea_of_measured (h unit hunit)

end OrderOfBattle

/-! ### Whole runs -/

/-- The answers of a call agree with the map exactly when each id is kept in one force and the area is
measured as it is. -/
theorem answered_iff {py : Runtime} {s : OrderOfBattle κ × UnitMap κ} (h : Related py s.1 s.2)
    (call : OobCall κ) : Answered py s call ↔ OneForce py s call := by
  obtain ⟨s, m⟩ := s
  constructor
  · rintro ⟨hagree, harea⟩
    cases call with
    | addUnit unit =>
      intro c hhas
      by_contra hne
      exact not_agree_of_other_force h hhas hne hagree
    | getForcesInArea center radius =>
      have hfound := harea center radius rfl
      dsimp only at hfound
      rw [← h.agree.allUnits] at hfound
      exact OrderOfBattle.collect_eq_near_iff.mp hfound
    | _ => trivial
  · intro hone
    refine ⟨(h.step hone).agree, ?_⟩
    rintro center radius rfl
    dsimp only
    rw [← h.agree.allUnits]
    exact OrderOfBattle.collect_eq_near_iff.mpr hone

/-- Along every run the order of battle answers as the one map exactly when no unit is added under an id
that another force has, and every area is measured as it is. -/
theorem answered_along_iff (py : Runtime) (calls : List (OobCall κ)) :
    Machine.Along (both py) (Answered py) (.new, []) calls ↔
      Machine.Along (both py) (OneForce py) (.new, []) calls :=
  @Machine.along_iff_guard _ _ _ (both py) (fun s => Related py s.1 s.2) _ _
    (fun _ _ h hone => h.step hone) (fun _ call h => answered_iff h call) _ Related.empty calls

/-! ### A unit that changes sides, and one without an altitude -/

def scout (affiliation : String) : BattleUnit String where
  id := "U1"
  type := "Scout"
  affiliation := some affiliation
  position := .flat 10 20
  capabilities := []
  status := "Operational"
  threatLevel := 0
  speedKts := 0
  headingDeg := 0

/-- The unit is listed as friendly and as enemy, and an area on the other side of the world has it. -/
theorem scout_not_answered :
    ¬ Machine.Along (both .ascii) (Answered .ascii) (.new, [])
      [.addUnit (scout "Friendly"), .addUnit (scout "Enemy")] ∧
    ¬ Machine.Along (both .ascii) (Answered .ascii) (.new, [])
      [.addUnit (scout "Friendly"), .getForcesInArea (.full (-40) 150 0) 1] := by
  constructor
  · intro h
    have hlisted := h.2.1.1.listedOnce
    revert hlisted
    decide +kernel
  · intro h
    have hfound := h.2.1.2 (.full (-40) 150 0) 1 rfl
    revert hfound
    decide +kernel

end Fmofp.Mission
