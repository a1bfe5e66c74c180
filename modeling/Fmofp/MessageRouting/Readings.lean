import Fmofp.MessageRouting.Precipitation

/-! What becomes of the measurements of a list of precipitation data on the way to the display. -/

namespace Fmofp.MessageRouting

open Python Datum

variable (py : Runtime)

/-! ### Data points with measurements -/

/-- Where a dictionary says that it is: under `position`, or else by two coordinates. -/
inductive Placed (d : Dict String Datum) : Datum → Prop
  | position (given : (field d "position").isNone = false) : Placed d (field d "position")
  | xy {x y : Datum} {q r : ℚ} (none : (field d "position").isNone = true)
      (hx : Dict.get? d "x" = some x) (hy : Dict.get? d "y" = some y)
      (hq : x.toFloat py = .ok q) (hr : y.toFloat py = .ok r) :
      Placed d (.value (.tuple [.float q, .float r]))
  | positionXY {x y : Datum} {q r : ℚ} (none : (field d "position").isNone = true)
      (lacksX : Dict.get? d "x" = .none) (lacksY : Dict.get? d "y" = .none)
      (hx : Dict.get? d "position_x" = some x) (hy : Dict.get? d "position_y" = some y)
      (hq : x.toFloat py = .ok q) (hr : y.toFloat py = .ok r) :
      Placed d (.value (.tuple [.float q, .float r]))
  | xyPosition {x y : Datum} {q r : ℚ} (none : (field d "position").isNone = true)
      (lacks : ∀ key ∈ ["x", "y", "position_x", "position_y"], Dict.get? d key = .none)
      (hx : Dict.get? d "x_position" = some x) (hy : Dict.get? d "y_position" = some y)
      (hq : x.toFloat py = .ok q) (hr : y.toFloat py = .ok r) :
      Placed d (.value (.tuple [.float q, .float r]))

/-- The key holds a number, or text for one, or nothing. -/
def Numeric (d : Dict String Datum) (key : String) : Prop :=
  ∀ v, Dict.get? d key = some v → ∃ q, v.toFloat py = .ok q

/-- A `PrecipitationData` object, or a dictionary with a position and with numbers for readings. -/
inductive IsMeasurement : Datum → Prop
  | object (p : PrecipitationData Datum) : IsMeasurement (.precipitation p)
  | dict {point : Datum} {d : Dict String Datum} (entries : point.dict? = some d)
      (placed : ∃ position, Placed py d position) (rate : Numeric py d "rate")
      (intensity : Numeric py d "intensity") : IsMeasurement point

/-- A reading is what the dictionary has under the key; where it has nothing, it is no number but 0. -/
structure Reads (d : Dict String Datum) (key : String) (reading : Datum) : Prop where
  given : ∀ v q, Dict.get? d key = some v → v.toFloat py = .ok q → reading.toFloat py = .ok q
  absent : Dict.get? d key = none → ∀ q, reading.toFloat py = .ok q → q = 0

/-- The type, under either of its names. -/
def spelledType (d : Dict String Datum) : Option Datum := (Dict.get? d "type").or (Dict.get? d "precip_type")

/-- The object has the position, the type and the readings of the data point. -/
inductive Carries : Datum → PrecipitationData Datum → Prop
  | object {p made : PrecipitationData Datum} (position : made.position = p.position)
      (type : made.type = p.type) (rate : made.rate = p.rate) (intensity : made.intensity = p.intensity) :
      Carries (.precipitation p) made
  | dict {point : Datum} {d : Dict String Datum} {made : PrecipitationData Datum}
      (entries : point.dict? = some d) (position : Placed py d made.position)
      (type : ∀ t, spelledType d = some t → made.type = t) (rate : Reads py d "rate" made.rate)
      (intensity : Reads py d "intensity" made.intensity) : Carries point made

/-- The display message handler gets one object for each data point, in order. -/
def HandsOver (str : Datum → String) (now : Datum) (message : Dict String Datum) (points : List Datum) :
    Prop :=
  ∃ handed objects, routePrecipitationData py str now message = .ok (some handed) ∧
    Dict.get? handed "precipitation_data" = some (.list (objects.map .precipitation)) ∧
    List.Forall₂ (Carries py) points objects

/-- A dictionary that lacks no reading, with its type under the name that is read. -/
structure Complete (d : Dict String Datum) : Prop where
  rate : Dict.has d "rate" = true
  intensity : Dict.has d "intensity" = true
  type : Dict.get? d "type" = none → ∀ t, Dict.get? d "precip_type" = some t → t = .value (.str "unknown")

/-- A message that has not been here, of a known request, with complete data points. -/
structure Routable (message : Dict String Datum) (points : List Datum) : Prop where
  unmarked : ∃ metadata, metadataOf message = .ok metadata ∧
    (field metadata "_processed_by_routing_service").truthy = false
  requestId : (field message "request_id").truthy = true
  nonempty : points ≠ []
  complete : ∀ point ∈ points, ∀ d, point.dict? = some d → Complete d

variable {py}

/-! ### One data point -/

theorem extractPosition_of_placed {d : Dict String Datum} {position : Datum} (h : Placed py d position) :
    extractPosition py d = .ok position := by
  have hsome : ∀ {v : Datum} {q : ℚ}, v.toFloat py = .ok q → v.isNone = false := by
    intro v q hv
    cases v with
    | value v =>
      cases v with
      | none => cases hv
      | _ => rfl
    | _ => rfl
  rw [extractPosition]
  cases h with
  | position given => rw [if_pos given]
  | xy hnone hx hy hq hr =>
    rw [if_neg (by rw [hnone]; decide), Dict.getD, hx, Dict.getD, hy]
    dsimp only [Option.getD_some]
    rw [if_pos ⟨hsome hq, hsome hr⟩, floatPair, hq, hr]
    rfl
  | positionXY hnone hlacksX hlacksY hx hy hq hr =>
    rw [if_neg (by rw [hnone]; decide), Dict.getD, hlacksX, Dict.getD, hlacksY, field, Dict.getD, hx, field,
      Dict.getD, hy]
    dsimp only [Option.getD_some, Option.getD_none]
    rw [if_pos ⟨hsome hq, hsome hr⟩, floatPair, hq, hr]
    rfl
  | xyPosition hnone hlacks hx hy hq hr =>
    have hx' : field d "x_position" = _ := Dict.getD_of_get? hx _
    have hy' : field d "y_position" = _ := Dict.getD_of_get? hy _
    rw [if_neg (by rw [hnone]; decide), Dict.getD, hlacks "x" (by decide), field, Dict.getD,
      hlacks "position_x" (by decide)]
    dsimp only [Option.getD_none]
    rw [if_neg (fun h => Bool.noConfusion h.1), hx', hy', if_pos ⟨hsome hq, hsome hr⟩, floatPair, hq, hr]
    rfl

/-- A dictionary is in one place only. -/
theorem Placed.unique {d : Dict String Datum} {a b : Datum} (ha : Placed py d a) (hb : Placed py d b) :
    a = b := by
  have heq := (extractPosition_of_placed ha).symm.trans (extractPosition_of_placed hb)
  exact Except.ok.inj heq

theorem toFloat_textOr {v : Datum} {q : ℚ} (default : ℚ) (h : v.toFloat py = .ok q) :
    (textOr py default v).toFloat py = .ok q := by
  unfold textOr
  split
  · rename_i s
    have hs : Python.toFloat py (.str s) = .ok q := h
    rw [hs]
    rfl
  · exact h

theorem firstOf_of_toFloat {v : Datum} {q : ℚ} (h : v.toFloat py = .ok q) : firstOf v = v := by
  have hlist : v.list? = none := by
    cases v with
    | value v =>
      cases v with
      | list xs => cases h
      | _ => rfl
    | list xs => cases h
    | _ => rfl
  rw [firstOf, hlist]

/-- The number under a key, or the one that stands for it. -/
theorem toFloat_getD {d : Dict String Datum} {key : String} (h : Numeric py d key) (default : ℚ) :
    ∃ q, (Dict.getD d key (.value (.float default))).toFloat py = .ok q ∧
      (Dict.get? d key = none → q = default) := by
  rw [Dict.getD]
  cases hv : Dict.get? d key with
  | none => exact ⟨default, rfl, fun _ => rfl⟩
  | some v =>
    obtain ⟨q, hq⟩ := h v hv
    exact ⟨q, hq, fun hnone => absurd hnone (Option.some_ne_none v)⟩

section Points

variable (str : Datum → String) (requestId timestamp : Datum)

/-- What becomes of a dictionary with a position and with numbers. -/
theorem convertDict_of_numeric {d : Dict String Datum} {position : Datum} (hplaced : Placed py d position)
    (hrate : Numeric py d "rate") (hintensity : Numeric py d "intensity") :
    ∃ made q r, convertDict py requestId timestamp firstOf d = .ok made ∧ made.position = position ∧
      made.type = Dict.getD d "type" (.value (.str "unknown")) ∧
      made.rate = .value (.float q) ∧
      (Dict.getD d "rate" (.value (.float 20))).toFloat py = .ok q ∧
      made.intensity = .value (.float r) ∧
      (Dict.getD d "intensity" (.value (.float (1 / 2)))).toFloat py = .ok r := by
  obtain ⟨q, hq, -⟩ := toFloat_getD hrate 20
  obtain ⟨r, hr, -⟩ := toFloat_getD hintensity (1 / 2)
  have hr' := toFloat_textOr (1 / 2) hr
  refine ⟨{
    position, type := Dict.getD d "type" (.value (.str "unknown"))
    rate := .value (.float q)
    intensity := .value (.float r)
    showValues := .value (.bool (Dict.getD d "show_values" (.value (.bool true))).truthy)
    requestId, timestamp
    additionalInfo := Dict.getD d "additional_info" (.dict []) }, q, r, ?_, rfl, rfl, rfl, hq, rfl, hr⟩
  rw [convertDict, extractPosition_of_placed hplaced, firstOf_of_toFloat hq]
  simp only [bind, Except.bind, precipObj, hq, hr']
  rfl

/-- A reading of a dictionary is kept exactly where the dictionary has one. -/
theorem reads_iff {d : Dict String Datum} {key : String} {default q : ℚ} (hdefault : default ≠ 0)
    (h : (Dict.getD d key (.value (.float default))).toFloat py = .ok q) :
    Reads py d key (.value (.float q)) ↔ Dict.has d key = true := by
  rw [Dict.getD] at h
  rw [Dict.has]
  constructor
  · intro hreads
    cases hv : Dict.get? d key with
    | none =>
      rw [hv] at h
      have hq : default = q := Except.ok.inj h
      exact absurd (hq.trans (hreads.absent hv q rfl)) hdefault
    | some v => rfl
  · intro hhas
    obtain ⟨v, hv⟩ := Option.isSome_iff_exists.mp hhas
    rw [hv] at h
    refine ⟨fun w r hw hr => ?_, fun hnone => ?_⟩
    · rw [hv] at hw
      cases hw
      have hsame : q = r := Except.ok.inj (h.symm.trans hr)
      rw [hsame]
      rfl
    · rw [hv] at hnone
      cases hnone

/-- The type of a dictionary is kept unless it has it under the other name only. -/
theorem type_iff {d : Dict String Datum} :
    (∀ t, spelledType d = some t → Dict.getD d "type" (.value (.str "unknown")) = t) ↔
      (Dict.get? d "type" = none → ∀ t, Dict.get? d "precip_type" = some t → t = .value (.str "unknown")) := by
  rw [spelledType, Dict.getD]
  cases htype : Dict.get? d "type" with
  | none =>
    rw [Option.none_or, Option.getD_none]
    exact ⟨fun h _ t ht => (h t ht).symm, fun h t ht => (h rfl t ht).symm⟩
  | some v =>
    rw [Option.some_or, Option.getD_some]
    exact ⟨fun _ hnone => absurd hnone (Option.some_ne_none v), fun _ t ht => Option.some.inj ht⟩

theorem convertPoint_of_dict {point : Datum} {d : Dict String Datum} (h : point.dict? = some d) :
    convertPoint py str requestId timestamp point =
      (convertDict py requestId timestamp firstOf d).map some := by
  have hnone : point.isNone = false := by
    cases point with
    | value v =>
      cases v with
      | none => cases h
      | _ => rfl
    | _ => rfl
  unfold convertPoint
  split
  · cases h
  · rw [hnone, if_neg Bool.false_ne_true, h]

/-- A measurement becomes an object, which carries it exactly where the measurement is complete. -/
theorem convertPoint_of_measurement {point : Datum} (h : IsMeasurement py point) :
    ∃ made, convertPoint py str requestId timestamp point = .ok (some made) ∧
      (Carries py point made ↔ ∀ d, point.dict? = some d → Complete d) := by
  cases h with
  | object p =>
    refine ⟨{ p with requestId, timestamp }, rfl, fun _ d hd => ?_, fun _ => .object rfl rfl rfl rfl⟩
    cases hd
  | @dict _ d hentries hplaced hrate hintensity =>
    obtain ⟨position, hplaced⟩ := hplaced
    obtain ⟨made, q, r, hmade, hposition, htype, hrate', hq, hintensity', hr⟩ :=
      convertDict_of_numeric requestId timestamp hplaced hrate hintensity
    refine ⟨made, ?_, ?_⟩
    · rw [convertPoint_of_dict str requestId timestamp hentries, hmade]
      rfl
    · have hrates : Reads py d "rate" made.rate ↔ Dict.has d "rate" = true := by
        rw [hrate']
        exact reads_iff (by norm_num) hq
      have hintensities : Reads py d "intensity" made.intensity ↔ Dict.has d "intensity" = true := by
        rw [hintensity']
        exact reads_iff (by norm_num) hr
      constructor
      · intro hcarries d' hd'
        rw [hentries] at hd'
        cases hd'
        cases hcarries with
        | object => cases hentries
        | dict hentries' _ hspelled hreads hreads' =>
          rw [hentries] at hentries'
          cases hentries'
          rw [htype] at hspelled
          exact ⟨hrates.mp hreads, hintensities.mp hreads', type_iff.mp hspelled⟩
      · intro hcomplete
        have hd := hcomplete d hentries
        refine .dict hentries (hposition ▸ hplaced) ?_ (hrates.mpr hd.rate) (hintensities.mpr hd.intensity)
        rw [htype]
        exact type_iff.mpr hd.type

/-- The measurements of a list become as many objects, in order. -/
theorem objects_of_measurements {data : Datum} {points : List Datum} (hlist : data.list? = some points)
    (h : ∀ point ∈ points, IsMeasurement py point) :
    List.Forall₂ (fun point made => Carries py point made ↔ ∀ d, point.dict? = some d → Complete d) points
      (precipitationDataObjects py str requestId timestamp data) := by
  rw [precipitationDataObjects, hlist]
  dsimp only
  clear hlist
  induction points with
  | nil => exact .nil
  | cons point points ih =>
    obtain ⟨made, hmade, hcarries⟩ := convertPoint_of_measurement str requestId timestamp
      (h point (List.mem_cons_self ..))
    have hrest := ih fun other hother => h other (List.mem_cons_of_mem point hother)
    rw [List.filterMap_cons, hmade]
    exact .cons hcarries hrest

end Points

theorem forall₂_iff_of_forall₂ {α β : Type} {R : α → β → Prop} {p : α → Prop} {xs : List α} {ys : List β}
    (h : List.Forall₂ (fun x y => R x y ↔ p x) xs ys) : List.Forall₂ R xs ys ↔ ∀ x ∈ xs, p x := by
  induction h with
  | nil => simp
  | cons hxy _ ih => rw [List.forall₂_cons, hxy, ih, List.forall_mem_cons]

/-! ### The message -/

section Route

variable {str : Datum → String} {now : Datum} {message : Dict String Datum} {data : Datum}

/-- The objects that are sent. -/
def sentObjects (py : Runtime) (str : Datum → String) (now : Datum) (message : Dict String Datum)
    (data : Datum) : List (PrecipitationData Datum) :=
  let requestId := field message "request_id"
  let timestamp := Dict.getD message "timestamp" now
  let objects := precipitationDataObjects py str requestId timestamp data
  if objects = [] then [fallbackData requestId timestamp] else objects

theorem routePrecipitationData_eq_some_iff (hdata : findPrecipitationData message = some data)
    (handed : Dict String Datum) :
    routePrecipitationData py str now message = .ok (some handed) ↔
      (∃ metadata, metadataOf message = .ok metadata ∧
        (field metadata "_processed_by_routing_service").truthy = false) ∧
      (field message "request_id").truthy = true ∧
      precipMessage message (field message "request_id") (Dict.getD message "timestamp" now)
        (sentObjects py str now message data) = handed := by
  rw [routePrecipitationData]
  cases hmetadata : metadataOf message with
  | error e => simp [bind, Except.bind]
  | ok metadata =>
    simp only [bind, Except.bind]
    cases hmarked : (field metadata "_processed_by_routing_service").truthy with
    | true => simp [hmarked, pure, Except.pure]
    | false =>
      cases hrequest : (field message "request_id").truthy with
      | false => simp [hmarked, throw, throwThe, MonadExceptOf.throw]
      | true =>
        rw [hdata]
        simp [hmarked, sentObjects, pure, Except.pure]

theorem get?_precipMessage (message : Dict String Datum) (requestId timestamp : Datum)
    (objects : List (PrecipitationData Datum)) :
    Dict.get? (precipMessage message requestId timestamp objects) "precipitation_data" =
      some (.list (objects.map .precipitation)) := rfl

theorem handsOver_iff_carried (hdata : findPrecipitationData message = some data) (points : List Datum) :
    HandsOver py str now message points ↔
      (∃ metadata, metadataOf message = .ok metadata ∧
        (field metadata "_processed_by_routing_service").truthy = false) ∧
      (field message "request_id").truthy = true ∧
      List.Forall₂ (Carries py) points (sentObjects py str now message data) := by
  constructor
  · rintro ⟨handed, objects, hroute, hget, hall⟩
    obtain ⟨hunmarked, hrequest, rfl⟩ := (routePrecipitationData_eq_some_iff hdata handed).mp hroute
    rw [get?_precipMessage] at hget
    have hmap := Datum.list.inj (Option.some.inj hget)
    have hinjective : Function.Injective Datum.precipitation := fun _ _ heq => Datum.precipitation.inj heq
    rw [← List.map_injective_iff.mpr hinjective hmap] at hall
    exact ⟨hunmarked, hrequest, hall⟩
  · rintro ⟨hunmarked, hrequest, hall⟩
    exact ⟨_, _, (routePrecipitationData_eq_some_iff hdata _).mpr ⟨hunmarked, hrequest, rfl⟩,
      get?_precipMessage .., hall⟩

/-- Where there is no data point, the object that is sent is none that was received. -/
theorem carried_iff (py : Runtime) (str : Datum → String) (now : Datum) (message : Dict String Datum)
    {points : List Datum} (hlist : data.list? = some points) (h : ∀ point ∈ points, IsMeasurement py point) :
    List.Forall₂ (Carries py) points (sentObjects py str now message data) ↔
      points ≠ [] ∧ ∀ point ∈ points, ∀ d, point.dict? = some d → Complete d := by
  have hobjects := objects_of_measurements str (field message "request_id")
    (Dict.getD message "timestamp" now) hlist h
  rw [sentObjects]
  cases points with
  | nil =>
    rw [List.forall₂_nil_left_iff] at hobjects
    rw [if_pos hobjects]
    simp
  | cons point points =>
    have hne : precipitationDataObjects py str (field message "request_id")
        (Dict.getD message "timestamp" now) data ≠ [] := by
      intro hnil
      rw [hnil] at hobjects
      cases hobjects
    rw [if_neg hne, forall₂_iff_of_forall₂ hobjects]
    simp

/-- Each data point of a list of measurements reaches the display, with its position, its type and its
readings and with no reading of its own making, exactly where the message is routable. -/
theorem handsOver_iff (py : Runtime) (str : Datum → String) (now : Datum) {message : Dict String Datum}
    {data : Datum} {points : List Datum} (hdata : findPrecipitationData message = some data)
    (hlist : data.list? = some points) (h : ∀ point ∈ points, IsMeasurement py point) :
    HandsOver py str now message points ↔ Routable message points := by
  rw [handsOver_iff_carried hdata, carried_iff py str now message hlist h]
  exact ⟨fun hr => ⟨hr.1, hr.2.1, hr.2.2.1, hr.2.2.2⟩,
    fun hr => ⟨hr.unmarked, hr.requestId, hr.nonempty, hr.complete⟩⟩

end Route

/-- A data point with a place and a type. -/
def drizzle : Dict String Datum :=
  [("position", .value (.tuple [.float 3, .float 4])), ("type", .value (.str "rain"))]

/-- A message with one data point. -/
def ofPoint (d : Dict String Datum) : Dict String Datum :=
  [("request_id", .value (.str "R1")), ("data", .list [.dict d])]

/-- A data point with readings. -/
def shower : Dict String Datum := drizzle ++ [("rate", .value (.int 3)), ("intensity", .value (.float 0))]

theorem shower_handed :
    HandsOver .ascii (fun _ => "") (.value (.float 0)) (ofPoint shower) [.dict shower] := by
  refine (handsOver_iff .ascii _ _ rfl rfl fun point hpoint => ?_).mpr ?_
  · rw [List.mem_singleton.mp hpoint]
    refine .dict rfl ⟨_, .position rfl⟩ ?_ ?_
    · intro v hv
      cases hv
      exact ⟨3, rfl⟩
    · intro v hv
      cases hv
      exact ⟨0, rfl⟩
  · refine ⟨⟨[], rfl, rfl⟩, rfl, by simp, fun point hpoint d hd => ?_⟩
    rw [List.mem_singleton.mp hpoint] at hd
    cases hd
    refine ⟨rfl, rfl, fun hnone => ?_⟩
    cases hnone

/-- A data point that lacks its readings gets readings of 20 and 0.5. -/
theorem drizzle_invented :
    findPrecipitationData (ofPoint drizzle) = some (.list [.dict drizzle]) ∧
      IsMeasurement .ascii (.dict drizzle) ∧
      ¬HandsOver .ascii (fun _ => "") (.value (.float 0)) (ofPoint drizzle) [.dict drizzle] := by
  have hmeasurement : IsMeasurement .ascii (.dict drizzle) := by
    refine .dict rfl ⟨_, .position rfl⟩ ?_ ?_
    · intro v hv
      cases hv
    · intro v hv
      cases hv
  refine ⟨rfl, hmeasurement, fun h => ?_⟩
  obtain ⟨-, -, hcarried⟩ := (handsOver_iff_carried rfl _).mp h
  have hcomplete := ((carried_iff .ascii _ _ _ rfl fun point hpoint => by
    rw [List.mem_singleton.mp hpoint]
    exact hmeasurement).mp hcarried).2 _ (List.mem_singleton_self _) drizzle rfl
  exact absurd hcomplete.rate (by decide)

end Fmofp.MessageRouting
