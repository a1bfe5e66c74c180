import Fmofp.Display.Bridge
import Fmofp.Display.Stored

/-! What the bridge pushes arrives at the display for VIL, precipitation and TFR data, save items with an
unknown id, with a message type that cannot be read, or at the origin.  Targeting, SAR and AEWC data has
positions that the coordinator drops. -/

namespace Fmofp.Display

open Python

/-! ### What is expected -/

/-- The position that an item has for a radar. -/
def positionOf (radar : Radar) (item : RawItem) : Value :=
  let get := fun key => Dict.getD item.fields key .none
  match radar with
  | .vil | .precipitation => givenPosition item.fields
  | .targeting =>
    if item.isDict then get "position" else either (get "target_position") (get "position")
  | .sar => .none
  | .tfr =>
    if item.isDict && Dict.has item.fields "position" then get "position"
    else .tuple [get "distance", get "elevation"]
  | .aewc =>
    if item.isDict then get "position"
    else match get "track_positions" with
      | .list positions => positions.getLastD .none
      | _ => .none

/-- The id of an item, or the one that it is given. -/
def idOf (radar : Radar) (requestId : String) (i : ℕ) (item : RawItem) : String :=
  let own := match radar with
    | .vil | .precipitation => if item.isDict then item.id else objectId item
    | _ => item.id
  match own with
  | some s => if s = "" then itemId requestId i else s
  | none => itemId requestId i

/-- One entry for an item, or one for each point of a profile. -/
def expectedOf (radar : Radar) (requestId : String) (i : ℕ) (item : RawItem) : List Expected :=
  let single := [(idOf radar requestId i item, coordinates (positionOf radar item))]
  if radar = .tfr ∧ item.isDict = false then
    match Dict.get? item.fields "profile_data" with
    | some (.list points) => points.mapIdx fun k point => (itemId requestId (i + k), coordinates point)
    | _ => single
  else single

def expected (radar : Radar) (requestId : String) : ℕ → List RawItem → List Expected
  | _, [] => []
  | i, item :: items =>
    let entries := expectedOf radar requestId i item
    entries ++ expected radar requestId (i + entries.length) items

/-! ### The forms that the functions document -/

/-- The attributes that are there are numbers. -/
def Numeric (m : Message) (keys : List String) : Prop :=
  ∀ key ∈ keys, ∀ v, Dict.get? m key = some v → ∃ q, v.number? = some q

/-- The key is there, with a number. -/
def Measured (m : Message) (key : String) : Prop :=
  ∃ v q, Dict.get? m key = some v ∧ v.number? = some q

def Planar (v : Value) : Prop := ∃ x y, coordinates v = some [x, y] ∧ ¬(x = 0 ∧ y = 0)

def Spatial (v : Value) : Prop := ∃ x y z, coordinates v = some [x, y, z] ∧ ¬(x = 0 ∧ y = 0)

/-- An item in the form that the function for the radar documents. -/
def Documented : Radar → RawItem → Prop
  | .vil, item => Planar (givenPosition item.fields) ∧
    (item.isDict = false → Numeric item.fields ["value", "layer_count", "intensity"])
  | .precipitation, item => Planar (givenPosition item.fields) ∧
    (item.isDict = false → Numeric item.fields ["rate", "intensity"])
  | .targeting, item => Spatial (positionOf .targeting item)
  | .sar, item => item.isDict = true → givenPosition item.fields = .none
  | .tfr, item =>
    if item.isDict then
      (∃ position, Dict.get? item.fields "position" = some position ∧ Planar position) ∨
        (Dict.get? item.fields "position" = none ∧ Measured item.fields "distance" ∧
          Measured item.fields "elevation")
    else item.id = none ∧
      ((∃ points, Dict.get? item.fields "profile_data" = some (.list points) ∧
          (∀ point ∈ points, ∃ x y, coordinates point = some [x, y]) ∧
          Numeric item.fields ["scan_width"]) ∨
        (Dict.get? item.fields "profile_data" = none ∧ Dict.has item.fields "warning_type" = true ∧
          Measured item.fields "distance" ∧ Measured item.fields "elevation"))
  | .aewc, item =>
    if item.isDict then Spatial (positionOf .aewc item)
    else (∃ positions position, Dict.get? item.fields "track_positions" = some (.list positions) ∧
        positions.getLast? = some position ∧ Spatial position) ∨
      (Dict.get? item.fields "track_positions" = none ∧ Dict.has item.fields "sector_data" = true)

/-- What is pushed is stored entry by entry, whatever was stored before, and a fresh coordinator returns
it; the push says so. -/
structure Arrives (py : Runtime) (radar : Radar) (items : List RawItem) (requestId : String) : Prop where
  stores : ∀ c now check clean, (push py radar items requestId now check clean c).1 = true ∧
    ∃ store, Dict.get? (push py radar items requestId now check clean c).2.stores radar.dataType =
      some store ∧ List.Forall₂ Shows (expected radar requestId 0 items) store.backup
  returns : ∀ start now check clean later, List.Forall₂ Shows (expected radar requestId 0 items)
    ((push py radar items requestId now check clean (.initial start)).2.getData radar.dataType true
      later).1

/-- The function makes planar positions, and every entry has a known id, a type that can be read where it
is read, and a position other than the origin. -/
structure Deliverable (radar : Radar) (items : List RawItem) (requestId : String) : Prop where
  planar : radar = .vil ∨ radar = .precipitation ∨ radar = .tfr
  known : ∀ e ∈ expected radar requestId 0 items, e.1 ≠ "unknown"
  readable : radar = .vil ∨ ∀ item ∈ items, item.isDict = true → Readable item.fields
  away : ∀ e ∈ expected radar requestId 0 items, e.2 ≠ some origin
  nonempty : expected radar requestId 0 items ≠ []

/-! ### Conversions -/

variable {py : Runtime} {requestId : String}

theorem itemId_ne (requestId : String) (i : ℕ) : itemId requestId i ≠ "" := by
  intro h
  have htext := congrArg String.toList h
  simp [itemId] at htext

theorem toFloat_of_number {v : Value} {q : ℚ} (h : v.number? = some q) : toFloat py v = .ok q := by
  unfold toFloat
  rw [h]

theorem toFloat_of_numeric {m : Message} {keys : List String} (h : Numeric m keys) {key : String}
    (hkey : key ∈ keys) (default : ℚ) : ∃ q, toFloat py (Dict.getD m key (.float default)) = .ok q := by
  unfold Dict.getD
  cases hget : Dict.get? m key with
  | none => exact ⟨default, rfl⟩
  | some v =>
    obtain ⟨q, hq⟩ := h key hkey v hget
    exact ⟨q, toFloat_of_number hq⟩

theorem toInt_of_numeric {m : Message} {keys : List String} (h : Numeric m keys) {key : String}
    (hkey : key ∈ keys) (default : ℤ) : ∃ n, toInt py (Dict.getD m key (.int default)) = .ok n := by
  unfold Dict.getD
  cases hget : Dict.get? m key with
  | none => exact ⟨_, rfl⟩
  | some v =>
    obtain ⟨q, hq⟩ := h key hkey v hget
    refine ⟨truncate q, ?_⟩
    show toInt py v = _
    unfold toInt
    rw [hq]

/-- No field that a message type is read from. -/
def Untyped (m : Message) : Prop :=
  Dict.get? m "message_type" = none ∧ Dict.get? m "metadata" = none ∧
    Dict.get? m "additional_info" = none

theorem Untyped.readable {m : Message} (h : Untyped m) : Readable m := by
  intro htruthy
  have htype : messageType m = .none := by
    unfold messageType
    simp [h.1, h.2.1, h.2.2, Dict.getD, Value.truthy]
  rw [htype] at htruthy
  cases htruthy

theorem objectPosition_of_coordinates {m : Message} {x y : ℚ}
    (h : coordinates (givenPosition m) = some [x, y]) :
    ∃ position, objectPosition py m = .ok position ∧ coordinates position = some [x, y] := by
  unfold givenPosition at h
  unfold objectPosition
  cases hposition : Dict.get? m "position" with
  | some position =>
    rw [hposition] at h
    exact ⟨fixedPosition position, rfl, coordinates_fixedPosition h (by simp)⟩
  | none =>
    rw [hposition] at h
    cases hx : Dict.get? m "x" with
    | none =>
      rw [hx] at h
      cases h
    | some v =>
      rw [hx] at h
      cases hy : Dict.get? m "y" with
      | none =>
        rw [hy] at h
        cases h
      | some w =>
        rw [hy] at h
        obtain ⟨a, b, hpair, ha, hb⟩ := exists_pair (show [v, w].mapM Value.number? = _ from h)
        obtain ⟨rfl, rfl⟩ : v = a ∧ w = b := by simpa using hpair
        refine ⟨.tuple [.float x, .float y], ?_, rfl⟩
        dsimp only
        rw [toFloat_of_number ha, toFloat_of_number hb]
        rfl

theorem vilFields_of_numeric {m : Message} (h : Numeric m ["value", "layer_count", "intensity"]) :
    ∃ fields, vilFields py m = .ok fields ∧ Untyped fields := by
  obtain ⟨value, hvalue⟩ := @toFloat_of_numeric py m _ h "value" (by simp) 0
  obtain ⟨count, hcount⟩ := @toInt_of_numeric py m _ h "layer_count" (by simp) 1
  obtain ⟨intensity, hintensity⟩ := @toFloat_of_numeric py m _ h "intensity" (by simp) (1 / 2)
  unfold vilFields
  rw [hvalue, hcount, hintensity]
  exact ⟨_, rfl, rfl, rfl, rfl⟩

theorem precipitationFields_of_numeric {m : Message} (h : Numeric m ["rate", "intensity"]) :
    ∃ fields, precipitationFields py m = .ok fields ∧ Untyped fields := by
  obtain ⟨rate, hrate⟩ := @toFloat_of_numeric py m _ h "rate" (by simp) 0
  obtain ⟨intensity, hintensity⟩ := @toFloat_of_numeric py m _ h "intensity" (by simp) (1 / 2)
  unfold precipitationFields
  dsimp only
  rw [hrate, hintensity]
  exact ⟨_, rfl, rfl, rfl, rfl⟩

theorem Untyped.cons {m : Message} (h : Untyped m) {key : String} (v : Value)
    (htype : key ≠ "message_type") (hmetadata : key ≠ "metadata") (hinfo : key ≠ "additional_info") :
    Untyped ((key, v) :: m) := by
  unfold Untyped
  rw [Dict.get?_cons, Dict.get?_cons, Dict.get?_cons, if_neg htype, if_neg hmetadata, if_neg hinfo]
  exact h

/-- An entry that carries what is expected of an item, and whose type can be read if the item's can. -/
structure Converts (e : Expected) (item raw : RawItem) : Prop where
  carries : Carries e raw
  readable : Readable raw.fields ↔ (item.isDict = true → Readable item.fields)

theorem ensureId_fields (i : ℕ) (item : RawItem) :
    (item.ensureId requestId i).fields = item.fields := by
  unfold RawItem.ensureId
  split
  · split_ifs <;> rfl
  · rfl

theorem ensureId_isDict (i : ℕ) (item : RawItem) :
    (item.ensureId requestId i).isDict = item.isDict := by
  unfold RawItem.ensureId
  split
  · split_ifs <;> rfl
  · rfl

/-- The id of an entry is its own, unless that is missing or empty. -/
theorem ensureId_id (i : ℕ) (item : RawItem) : (item.ensureId requestId i).id = some (match item.id with
    | some s => if s = "" then itemId requestId i else s
    | none => itemId requestId i) := by
  unfold RawItem.ensureId
  cases hid : item.id with
  | none => rfl
  | some s =>
    dsimp only
    split_ifs with hs
    · rfl
    · exact hid

theorem ensureId_named (i : ℕ) {item : RawItem} (h : item.isDict = true) :
    Named (item.ensureId requestId i) := by
  refine ⟨(ensureId_isDict i item).trans h, _, ensureId_id i item, ?_⟩
  split
  · split_ifs with hs
    · exact itemId_ne requestId i
    · exact hs
  · exact itemId_ne requestId i

theorem idOf_ne (radar : Radar) (i : ℕ) (item : RawItem) : idOf radar requestId i item ≠ "" := by
  unfold idOf
  dsimp only
  split
  · split_ifs with hs
    · exact itemId_ne requestId i
    · exact hs
  · exact itemId_ne requestId i

/-- VIL and precipitation data: a dictionary as it is, or what an object is made. -/
theorem objectToDict_converts {radar : Radar} (hradar : radar = .vil ∨ radar = .precipitation) (now : ℚ)
    {specific : Message → Except Exception Message} {item : RawItem}
    (hposition : Planar (givenPosition item.fields))
    (hspecific : item.isDict = false → ∃ fields, specific item.fields = .ok fields ∧ Untyped fields)
    (i : ℕ) : ∃ raw, objectToDict py now specific item = .ok raw ∧
      Converts (idOf radar requestId i item, coordinates (positionOf radar item)) item
        (raw.ensureId requestId i) := by
  obtain ⟨x, y, hcoordinates, -⟩ := hposition
  have hexpected : coordinates (positionOf radar item) = some [x, y] := by
    rcases hradar with rfl | rfl <;> exact hcoordinates
  have hid : ∀ raw : RawItem, raw.id = (if item.isDict then item.id else objectId item) →
      (raw.ensureId requestId i).id = some (idOf radar requestId i item) := by
    intro raw hraw
    rw [ensureId_id, hraw]
    rcases hradar with rfl | rfl <;> rfl
  unfold objectToDict
  cases hdict : item.isDict with
  | true =>
    rw [if_pos rfl]
    refine ⟨item, rfl, ⟨(ensureId_isDict i item).trans hdict, hid item (by rw [hdict]; rfl),
      idOf_ne radar i item, x, y, hexpected, ?_⟩, ?_⟩
    · rw [ensureId_fields]
      exact hcoordinates
    · rw [ensureId_fields, forall_prop_of_true hdict]
  | false =>
    obtain ⟨position, hfirst, hpair⟩ := @objectPosition_of_coordinates py item.fields x y hcoordinates
    obtain ⟨fields, hfields, huntyped⟩ := hspecific hdict
    rw [if_neg (by simp), hfirst, hfields]
    refine ⟨_, rfl, ⟨ensureId_isDict i _, hid _ (by rw [hdict]; rfl), idOf_ne radar i item, x, y,
      hexpected, ?_⟩, ?_⟩
    · rw [ensureId_fields]
      exact hpair
    · rw [ensureId_fields]
      refine iff_of_true (Untyped.readable ?_) fun h => absurd h (by simp [hdict])
      exact (huntyped.cons _ (by decide) (by decide) (by decide)).cons _ (by decide) (by decide)
        (by decide)

theorem expectedOf_single {radar : Radar} {item : RawItem} (h : radar ≠ .tfr ∨ item.isDict = true)
    (i : ℕ) : expectedOf radar requestId i item =
      [(idOf radar requestId i item, coordinates (positionOf radar item))] := by
  unfold expectedOf
  dsimp only
  rw [if_neg]
  rintro ⟨hradar, hdict⟩
  rcases h with h | h
  · exact h hradar
  · rw [h] at hdict
    cases hdict

/-- The entries for all items, and what can be read of them. -/
structure Prepared (radar : Radar) (requestId : String) (i : ℕ) (items raws : List RawItem) : Prop where
  carries : List.Forall₂ Carries (expected radar requestId i items) raws
  readable : (∀ raw ∈ raws, Readable raw.fields) ↔
    ∀ item ∈ items, item.isDict = true → Readable item.fields

theorem eachItem_prepared {radar : Radar} (hradar : radar ≠ .tfr)
    {convert : RawItem → Except Exception RawItem} {items : List RawItem}
    (hconvert : ∀ item ∈ items, ∀ i, ∃ raw, convert item = .ok raw ∧
      Converts (idOf radar requestId i item, coordinates (positionOf radar item)) item
        (raw.ensureId requestId i)) (i : ℕ) :
    ∃ raws, eachItem convert requestId i items = .ok raws ∧ Prepared radar requestId i items raws := by
  induction items generalizing i with
  | nil => exact ⟨[], rfl, .nil, by simp⟩
  | cons item items ih =>
    obtain ⟨raw, hraw, hconverts⟩ := hconvert item List.mem_cons_self i
    obtain ⟨raws, hraws, hprepared⟩ := ih (fun x hx => hconvert x (List.mem_cons_of_mem item hx)) (i + 1)
    refine ⟨raw.ensureId requestId i :: raws, ?_, ?_, ?_⟩
    · rw [eachItem, hraw, hraws]
      rfl
    · rw [expected, expectedOf_single (.inl hradar)]
      exact .cons hconverts.carries hprepared.carries
    · rw [List.forall_mem_cons, List.forall_mem_cons, hconverts.readable, hprepared.readable]

/-! ### Entries of TFR data -/

/-- A dictionary that is made with an id and a position of two numbers. -/
structure Point (id : String) (x y : ℚ) (raw : RawItem) : Prop where
  isDict : raw.isDict = true
  id : raw.id = some id
  position : givenPosition raw.fields = .tuple [.float x, .float y]
  untyped : Untyped raw.fields

theorem Point.carries {e : Expected} {x y : ℚ} {raw : RawItem} (h : Point e.1 x y raw) (hid : e.1 ≠ "")
    (hposition : e.2 = some [x, y]) : Carries e raw where
  isDict := h.isDict
  id := h.id
  named := hid
  position := ⟨x, y, hposition, by rw [h.position]; rfl⟩

theorem tfrPoint_point (now : ℚ) {profile : Message} (hwidth : Numeric profile ["scan_width"])
    (id : String) {point : Value} {x y : ℚ} (h : coordinates point = some [x, y]) :
    ∃ raw, tfrPoint py now profile id point = .ok raw ∧ Point id x y raw := by
  obtain ⟨items, -, hitems, hiterate⟩ := exists_items h
  obtain ⟨v, w, rfl, hv, hw⟩ := exists_pair hitems
  obtain ⟨width, hwidth⟩ := @toFloat_of_numeric py profile _ hwidth "scan_width" (by simp) 0
  unfold tfrPoint
  simp only [hiterate, bind, Except.bind, toFloat_of_number hv, toFloat_of_number hw, hwidth]
  exact ⟨_, rfl, rfl, rfl, rfl, rfl, rfl, rfl⟩

theorem tfrPoints_carries (now : ℚ) {profile : Message} (hwidth : Numeric profile ["scan_width"])
    {points : List Value} (h : ∀ point ∈ points, ∃ x y, coordinates point = some [x, y]) (i : ℕ) :
    ∃ raws, tfrPoints py now profile requestId i points = .ok raws ∧
      List.Forall₂ Carries
        (points.mapIdx fun k point => (itemId requestId (i + k), coordinates point)) raws ∧
      ∀ raw ∈ raws, Readable raw.fields := by
  induction points generalizing i with
  | nil => exact ⟨[], rfl, .nil, nofun⟩
  | cons point points ih =>
    obtain ⟨x, y, hpoint⟩ := h point List.mem_cons_self
    obtain ⟨raw, hraw, hmade⟩ := @tfrPoint_point py now profile hwidth (itemId requestId i) _ _ _ hpoint
    obtain ⟨raws, hraws, hcarries, hreadable⟩ := ih (fun p hp => h p (List.mem_cons_of_mem point hp)) (i + 1)
    refine ⟨raw :: raws, ?_, ?_, List.forall_mem_cons.mpr ⟨hmade.untyped.readable, hreadable⟩⟩
    · rw [tfrPoints, hraw, hraws]
      rfl
    · have hshift : (fun (k : ℕ) point => (itemId requestId (i + (k + 1)), coordinates point)) =
          fun k point => (itemId requestId (i + 1 + k), coordinates point) := by
        funext k point
        rw [show i + (k + 1) = i + 1 + k by omega]
      rw [List.mapIdx_cons, hshift]
      exact .cons (Point.carries hmade (itemId_ne requestId i) hpoint) hcarries

theorem tfrWarning_point (now : ℚ) {attributes : Message} (id : String) {v w : Value} {x y : ℚ}
    (hdistance : Dict.get? attributes "distance" = some v) (hv : v.number? = some x)
    (helevation : Dict.get? attributes "elevation" = some w) (hw : w.number? = some y) :
    ∃ raw, tfrWarning py now attributes id = .ok raw ∧ Point id x y raw := by
  unfold tfrWarning
  rw [Dict.getD_of_get? hdistance, Dict.getD_of_get? helevation, toFloat_of_number hv,
    toFloat_of_number hw]
  exact ⟨_, rfl, rfl, rfl, rfl, rfl, rfl, rfl⟩

theorem givenPosition_of_get? {m : Message} {position : Value}
    (h : Dict.get? m "position" = some position) : givenPosition m = position := by
  unfold givenPosition
  rw [h]

theorem tfrDict_converts {item : RawItem} (hdict : item.isDict = true) (h : Documented .tfr item)
    (i : ℕ) : ∃ raw, tfrDict py i (item.ensureId requestId i) = .ok raw ∧
      Converts (idOf .tfr requestId i item, coordinates (positionOf .tfr item)) item raw := by
  have hraw : (item.ensureId requestId i).isDict = true := (ensureId_isDict i item).trans hdict
  have hid : (item.ensureId requestId i).id = some (idOf .tfr requestId i item) := by
    rw [ensureId_id]
    rfl
  rw [Documented, if_pos hdict] at h
  unfold tfrDict
  rw [ensureId_fields]
  rcases h with ⟨position, hposition, x, y, hpair, -⟩ | ⟨hposition, ⟨v, q, hv, hq⟩, w, r, hw, hr⟩
  · have hhas : Dict.has item.fields "position" = true := Dict.has_iff.mpr ⟨position, hposition⟩
    have hexpected : positionOf .tfr item = position := by
      simp only [positionOf, hdict, hhas, Bool.and_self, if_true]
      exact Dict.getD_of_get? hposition _
    rw [if_pos hhas]
    refine ⟨_, rfl, ⟨hraw, hid, idOf_ne .tfr i item, x, y, by rw [hexpected]; exact hpair, ?_⟩, ?_⟩
    · rw [ensureId_fields, givenPosition_of_get? hposition]
      exact hpair
    · rw [ensureId_fields, forall_prop_of_true hdict]
  · have hhas : Dict.has item.fields "position" = false := Dict.has_eq_false.mpr hposition
    have hexpected : positionOf .tfr item = .tuple [v, w] := by
      simp only [positionOf, hhas, Bool.and_false]
      rw [Dict.getD_of_get? hv, Dict.getD_of_get? hw]
      rfl
    rw [if_neg (by simp [hhas]), Dict.getD_of_get? hv, Dict.getD_of_get? hw, toFloat_of_number hq,
      toFloat_of_number hr]
    refine ⟨_, rfl, ⟨hraw, hid, idOf_ne .tfr i item, q, r, ?_, ?_⟩, ?_⟩
    · rw [hexpected]
      simp [coordinates, hq, hr]
    · rw [givenPosition_of_get? (Dict.get?_set_self _ _ _)]
      rfl
    · rw [readable_set _ _ (by decide) (by decide) (by decide), forall_prop_of_true hdict]

theorem tfrItem_prepared (now : ℚ) {item : RawItem} (h : Documented .tfr item) (i : ℕ) :
    ∃ raws, tfrItem py now requestId i item = .ok raws ∧
      List.Forall₂ Carries (expectedOf .tfr requestId i item) raws ∧
      ((∀ raw ∈ raws, Readable raw.fields) ↔ (item.isDict = true → Readable item.fields)) := by
  unfold tfrItem
  cases hdict : item.isDict with
  | true =>
    obtain ⟨raw, hraw, hconverts⟩ := @tfrDict_converts py requestId item hdict h i
    rw [if_pos rfl, hraw, expectedOf_single (.inr hdict)]
    refine ⟨[raw], rfl, .cons hconverts.carries .nil, ?_⟩
    rw [List.forall_mem_singleton, hconverts.readable, hdict]
  | false =>
    have hreadable : ∀ raws : List RawItem, (∀ raw ∈ raws, Readable raw.fields) →
        ((∀ raw ∈ raws, Readable raw.fields) ↔ (false = true → Readable item.fields)) :=
      fun raws hraws => iff_of_true hraws nofun
    rw [Documented, if_neg (by simp [hdict])] at h
    rw [if_neg (by simp), expectedOf]
    obtain ⟨hid, ⟨points, hprofile, hpoints, hwidth⟩ |
      ⟨hprofile, hwarning, ⟨v, q, hv, hq⟩, w, r, hw, hr⟩⟩ := h
    · obtain ⟨raws, hraws, hcarries, hread⟩ :=
        @tfrPoints_carries py requestId now item.fields hwidth points hpoints i
      have hiterate : (either (.list points) (.list [])).iterate = .ok points := by
        cases points <;> rfl
      rw [hprofile]
      dsimp only
      rw [hiterate, if_pos ⟨rfl, hdict⟩]
      exact ⟨raws, hraws, hcarries, hreadable raws hread⟩
    · obtain ⟨raw, hraw, hmade⟩ :=
        @tfrWarning_point py now item.fields (itemId requestId i) v w q r hv hq hw hr
      have hexpected : idOf .tfr requestId i item = itemId requestId i := by
        simp only [idOf, hid]
      have hposition : coordinates (positionOf .tfr item) = some [q, r] := by
        simp only [positionOf, hdict, Bool.false_and]
        rw [Dict.getD_of_get? hv, Dict.getD_of_get? hw]
        simp [coordinates, hq, hr]
      rw [hprofile]
      dsimp only
      rw [if_pos hwarning, hraw, if_pos ⟨rfl, hdict⟩, hexpected]
      refine ⟨[raw], rfl, .cons (Point.carries hmade (itemId_ne requestId i) hposition) .nil, ?_⟩
      exact hreadable [raw] (by simpa using hmade.untyped.readable)

theorem tfrItems_prepared (now : ℚ) {items : List RawItem} (h : ∀ item ∈ items, Documented .tfr item)
    (i : ℕ) : ∃ raws, tfrItems py now requestId i items = .ok raws ∧
      Prepared .tfr requestId i items raws := by
  induction items generalizing i with
  | nil => exact ⟨[], rfl, .nil, by simp⟩
  | cons item items ih =>
    obtain ⟨first, hfirst, hcarries, hreadable⟩ :=
      @tfrItem_prepared py requestId now item (h item List.mem_cons_self) i
    obtain ⟨raws, hraws, hprepared⟩ :=
      ih (fun x hx => h x (List.mem_cons_of_mem item hx)) (i + first.length)
    refine ⟨first ++ raws, ?_, ?_, ?_⟩
    · rw [tfrItems, hfirst]
      show Except.bind _ _ = _
      simp only [Except.bind]
      rw [hraws]
      rfl
    · rw [expected, hcarries.length_eq]
      exact List.rel_append hcarries hprepared.carries
    · rw [List.forall_mem_append, List.forall_mem_cons, hreadable, hprepared.readable]

/-! ### Entries of targeting, SAR and AEWC data -/

/-- A dictionary whose position does not pass, before it gets an id. -/
def Unplaced (raw : RawItem) : Prop := raw.isDict = true ∧ passes (givenPosition raw.fields) = false

theorem eachItem_lost {convert : RawItem → Except Exception RawItem} {items raws : List RawItem}
    (hconvert : ∀ item ∈ items, ∀ raw, convert item = .ok raw → Unplaced raw) {i : ℕ}
    (h : eachItem convert requestId i items = .ok raws) : ∀ raw ∈ raws, Lost raw := by
  induction items generalizing i raws with
  | nil =>
    cases h
    exact nofun
  | cons item items ih =>
    rw [eachItem] at h
    obtain ⟨raw, hraw, h⟩ := bind_eq_ok h
    obtain ⟨rest, hrest, h⟩ := bind_eq_ok h
    cases h
    obtain ⟨hdict, hpasses⟩ := hconvert item List.mem_cons_self raw hraw
    have hlost : Lost (raw.ensureId requestId i) := by
      refine ⟨ensureId_named i hdict, ?_⟩
      rw [ensureId_fields]
      exact hpasses
    have hrest := ih (fun x hx => hconvert x (List.mem_cons_of_mem item hx)) hrest
    exact List.forall_mem_cons.mpr ⟨hlost, hrest⟩

theorem passes_of_spatial {v : Value} (h : Spatial v) : passes v = false := by
  obtain ⟨x, y, z, hcoordinates, -⟩ := h
  exact passes_of_length hcoordinates (by simp)

/-- The position of a made dictionary that comes first is its position. -/
theorem givenPosition_cons (position : Value) (m : Message) :
    givenPosition (("position", position) :: m) = position :=
  givenPosition_of_get? (by rw [Dict.get?_cons, if_pos rfl])

theorem passes_tupleOr {v : Value} (h : Spatial v) (default : Value) :
    passes (tupleOr 2 default v) = false := by
  obtain ⟨x, y, z, hcoordinates, -⟩ := h
  obtain ⟨items, hv, hitems, -⟩ := exists_items hcoordinates
  have hlength := mapM_number?_length hitems
  have htuple : tupleOr 2 default v = .tuple items := by
    rcases hv with rfl | rfl <;> exact if_pos (by simp [hlength])
  rw [htuple]
  exact @passes_of_length _ [x, y, z] hitems (by simp)

theorem get?_of_coordinates {m : Message} {qs : List ℚ}
    (h : coordinates (Dict.getD m "position" .none) = some qs) :
    givenPosition m = Dict.getD m "position" .none := by
  cases hposition : Dict.get? m "position" with
  | none =>
    unfold Dict.getD at h
    rw [hposition] at h
    cases h
  | some position => rw [givenPosition_of_get? hposition, Dict.getD_of_get? hposition]

theorem targetingToDict_unplaced (now : ℚ) {item raw : RawItem} (h : Documented .targeting item)
    (hraw : targetingToDict py now item = .ok raw) : Unplaced raw := by
  rw [Documented] at h
  unfold targetingToDict at hraw
  cases hdict : item.isDict with
  | true =>
    rw [if_pos hdict] at hraw
    cases hraw
    have hposition : positionOf .targeting item = Dict.getD item.fields "position" .none := by
      simp [positionOf, hdict]
    rw [hposition] at h
    obtain ⟨x, y, z, hcoordinates, haway⟩ := h
    refine ⟨hdict, ?_⟩
    rw [get?_of_coordinates hcoordinates]
    exact passes_of_spatial ⟨x, y, z, hcoordinates, haway⟩
  | false =>
    rw [if_neg (by simp [hdict])] at hraw
    obtain ⟨confidence, -, hraw⟩ := bind_eq_ok hraw
    cases hraw
    have hposition : positionOf .targeting item = either (Dict.getD item.fields "target_position" .none)
        (Dict.getD item.fields "position" .none) := by
      simp [positionOf, hdict]
    rw [hposition] at h
    refine ⟨rfl, ?_⟩
    rw [made, givenPosition_cons]
    exact passes_tupleOr h origin3

theorem sarToDict_unplaced (now : ℚ) {item raw : RawItem} (h : Documented .sar item)
    (hraw : sarToDict py now item = .ok raw) : Unplaced raw := by
  unfold sarToDict at hraw
  cases hdict : item.isDict with
  | true =>
    rw [if_pos hdict] at hraw
    cases hraw
    refine ⟨hdict, ?_⟩
    rw [h hdict]
    decide +kernel
  | false =>
    rw [if_neg (by simp [hdict])] at hraw
    obtain ⟨shape, -, hraw⟩ := bind_eq_ok hraw
    obtain ⟨resolution, -, hraw⟩ := bind_eq_ok hraw
    cases hraw
    exact ⟨rfl, rfl⟩

theorem latestTuple_of_spatial {positions : List Value} {position tuple : Value}
    (hlast : positions.getLast? = some position) (h : Spatial position)
    (htuple : latestTuple (either (.list positions) (.list [])) = .ok tuple) : Spatial tuple := by
  obtain ⟨x, y, z, hcoordinates, haway⟩ := h
  obtain ⟨items, -, hitems, hiterate⟩ := exists_items hcoordinates
  have hne : positions ≠ [] := by
    rintro rfl
    cases hlast
  have htruthy : (Value.list positions).truthy = true := by simp [Value.truthy, hne]
  have hlastD : positions.getLastD .none = position := by
    rw [List.getLastD_eq_getLast?, hlast]
    rfl
  rw [either, if_pos htruthy, latestTuple, if_pos htruthy] at htuple
  simp only [lastItem, hlastD, toTuple, hiterate, bind, Except.bind] at htuple
  cases htuple
  exact ⟨x, y, z, hitems, haway⟩

theorem aewcToDict_unplaced (now : ℚ) {item raw : RawItem} (h : Documented .aewc item)
    (hraw : aewcToDict py now item = .ok raw) : Unplaced raw := by
  rw [Documented] at h
  unfold aewcToDict at hraw
  cases hdict : item.isDict with
  | true =>
    rw [if_pos hdict] at h hraw
    have hposition : positionOf .aewc item = Dict.getD item.fields "position" .none := by
      simp [positionOf, hdict]
    rw [hposition] at h
    obtain ⟨x, y, z, hcoordinates, haway⟩ := h
    have hhas : Dict.has item.fields "position" = true := by
      by_contra hnone
      unfold Dict.getD at hcoordinates
      rw [Dict.has_eq_false.mp (by simpa using hnone)] at hcoordinates
      cases hcoordinates
    rw [if_pos hhas] at hraw
    cases hraw
    refine ⟨hdict, ?_⟩
    rw [get?_of_coordinates hcoordinates]
    exact passes_of_spatial ⟨x, y, z, hcoordinates, haway⟩
  | false =>
    rw [if_neg (by simp [hdict])] at h hraw
    obtain ⟨fields, hfields, hraw⟩ := bind_eq_ok hraw
    cases hraw
    refine ⟨rfl, ?_⟩
    unfold aewcFields at hfields
    rcases h with ⟨positions, position, hpositions, hlast, hspatial⟩ | ⟨hpositions, hsector⟩
    · rw [if_pos (Dict.has_iff.mpr ⟨_, hpositions⟩)] at hfields
      unfold trackFields at hfields
      simp only [Dict.getD_of_get? hpositions] at hfields
      obtain ⟨tuple, htuple, hfields⟩ := bind_eq_ok hfields
      obtain ⟨velocity, -, hfields⟩ := bind_eq_ok hfields
      obtain ⟨trackPositions, -, hfields⟩ := bind_eq_ok hfields
      obtain ⟨trackVelocities, -, hfields⟩ := bind_eq_ok hfields
      obtain ⟨timestamps, -, hfields⟩ := bind_eq_ok hfields
      obtain ⟨confidence, -, hfields⟩ := bind_eq_ok hfields
      cases hfields
      rw [made, List.cons_append, givenPosition_cons]
      exact passes_of_spatial (latestTuple_of_spatial hlast hspatial htuple)
    · rw [if_neg (by simp [Dict.has_eq_false.mpr hpositions]), if_pos hsector] at hfields
      obtain ⟨resolution, -, hfields⟩ := bind_eq_ok hfields
      cases hfields
      rfl

/-! ### Pushing -/

theorem prepare_prepared {radar : Radar} (hplanar : radar = .vil ∨ radar = .precipitation ∨ radar = .tfr)
    (now : ℚ) {items : List RawItem} (h : ∀ item ∈ items, Documented radar item) :
    ∃ raws, radar.prepare py now requestId items = .ok raws ∧ Prepared radar requestId 0 items raws := by
  rcases hplanar with rfl | rfl | rfl
  · apply eachItem_prepared (by decide)
    intro item hitem i
    have hdocumented := h item hitem
    rw [Documented] at hdocumented
    exact objectToDict_converts (.inl rfl) now hdocumented.1
      (fun hdict => vilFields_of_numeric (hdocumented.2 hdict)) i
  · apply eachItem_prepared (by decide)
    intro item hitem i
    have hdocumented := h item hitem
    rw [Documented] at hdocumented
    exact objectToDict_converts (.inr rfl) now hdocumented.1
      (fun hdict => precipitationFields_of_numeric (hdocumented.2 hdict)) i
  · exact tfrItems_prepared now h 0

theorem prepare_lost {radar : Radar} (hspatial : ¬(radar = .vil ∨ radar = .precipitation ∨ radar = .tfr))
    {now : ℚ} {items raws : List RawItem} (h : ∀ item ∈ items, Documented radar item)
    (hraws : radar.prepare py now requestId items = .ok raws) : ∀ raw ∈ raws, Lost raw := by
  cases radar with
  | targeting =>
    exact eachItem_lost (fun item hitem raw hraw => targetingToDict_unplaced now (h item hitem) hraw) hraws
  | sar => exact eachItem_lost (fun item hitem raw hraw => sarToDict_unplaced now (h item hitem) hraw) hraws
  | aewc =>
    exact eachItem_lost (fun item hitem raw hraw => aewcToDict_unplaced now (h item hitem) hraw) hraws
  | vil => exact absurd (.inl rfl) hspatial
  | precipitation => exact absurd (.inr (.inl rfl)) hspatial
  | tfr => exact absurd (.inr (.inr rfl)) hspatial

theorem push_of_accepted {radar : Radar} {items raws : List RawItem} {stored : List Item} {now : ℚ}
    (hitems : items ≠ []) (hrequest : requestId ≠ "")
    (hraws : radar.prepare py now requestId items = .ok raws) (hne : raws ≠ [])
    (h : acceptedItems py radar.dataType requestId raws = .ok stored) (check clean : ℚ)
    (c : Coordinator) : push py radar items requestId now check clean c =
      (decide (0 < stored.length),
        (c.storeData py radar.dataType requestId raws check clean).2) := by
  unfold push
  rw [if_neg (by simp [hitems, hrequest]), hraws]
  dsimp only
  rw [if_neg (fun hempty => hne hempty.2), (storeData_of_accepted h c check clean).1]

/-- A push that says that entries were stored has stored some. -/
theorem accepted_of_push {radar : Radar} {items : List RawItem} {now check clean : ℚ} {c : Coordinator}
    (h : (push py radar items requestId now check clean c).1 = true) :
    ∃ raws stored, radar.prepare py now requestId items = .ok raws ∧
      acceptedItems py radar.dataType requestId raws = .ok stored ∧ 0 < stored.length ∧
      (push py radar items requestId now check clean c).2 =
        (c.storeData py radar.dataType requestId raws check clean).2 := by
  unfold push at h ⊢
  split_ifs at h ⊢ with hempty
  cases hraws : radar.prepare py now requestId items with
  | error e =>
    rw [hraws] at h
    cases h
  | ok raws =>
    rw [hraws] at h
    dsimp only at h ⊢
    split_ifs at h ⊢ with hnone
    cases haccepted : acceptedItems py radar.dataType requestId raws with
    | error e =>
      simp only [Coordinator.storeData, haccepted] at h
      cases h
    | ok stored =>
      rw [(storeData_of_accepted haccepted c check clean).1] at h
      exact ⟨raws, stored, rfl, haccepted, of_decide_eq_true h, rfl⟩

theorem forall₂_named {es : List Expected} {raws : List RawItem} (h : List.Forall₂ Carries es raws) :
    ∀ raw ∈ raws, Named raw := by
  induction h with
  | nil => exact nofun
  | cons hcarries _ ih => exact List.forall_mem_cons.mpr ⟨hcarries.isNamed, ih⟩

theorem known_iff {es : List Expected} {raws : List RawItem} (h : List.Forall₂ Carries es raws) :
    (∀ raw ∈ raws, raw.id ≠ some "unknown") ↔ ∀ e ∈ es, e.1 ≠ "unknown" := by
  induction h with
  | nil => simp
  | cons hcarries _ ih =>
    rw [List.forall_mem_cons, List.forall_mem_cons, ih, hcarries.id]
    simp

theorem dataType_eq_vil {radar : Radar} : radar.dataType = "vil" ↔ radar = .vil := by
  cases radar <;> decide

theorem Deliverable.arrives {radar : Radar} {items : List RawItem} (h : Deliverable radar items requestId)
    (hitems : items ≠ []) (hrequest : requestId ≠ "")
    (hdocumented : ∀ item ∈ items, Documented radar item) : Arrives py radar items requestId := by
  have haccepted : ∀ now, ∃ raws stored, radar.prepare py now requestId items = .ok raws ∧ raws ≠ [] ∧
      acceptedItems py radar.dataType requestId raws = .ok stored ∧
      List.Forall₂ Shows (expected radar requestId 0 items) stored := by
    intro now
    obtain ⟨raws, hraws, hprepared⟩ :=
      @prepare_prepared py requestId radar h.planar now items hdocumented
    have hne : raws ≠ [] := by
      rintro rfl
      exact h.nonempty (List.forall₂_nil_right_iff.mp hprepared.carries)
    have hreadable : radar.dataType = "vil" ∨ ∀ raw ∈ raws, Readable raw.fields :=
      h.readable.imp dataType_eq_vil.mpr hprepared.readable.mpr
    obtain ⟨stored, hstored, hshows⟩ :=
      @processItems_of_carries py _ _ _ hprepared.carries hreadable h.away
    refine ⟨raws, stored, hraws, hne, ?_, hshows⟩
    rw [acceptedItems_known hrequest hne (forall₂_named hprepared.carries)
      ((known_iff hprepared.carries).mpr h.known)]
    exact hstored
  constructor
  · intro c now check clean
    obtain ⟨raws, stored, hraws, hne, hstored, hshows⟩ := haccepted now
    have hlength : 0 < stored.length := by
      rw [← hshows.length_eq]
      exact List.length_pos_of_ne_nil h.nonempty
    obtain ⟨-, store, hstore, hbackup⟩ := storeData_of_accepted hstored c check clean
    rw [push_of_accepted hitems hrequest hraws hne hstored]
    refine ⟨decide_eq_true hlength, store, hstore, ?_⟩
    rw [hbackup]
    exact hshows
  · intro start now check clean later
    obtain ⟨raws, stored, hraws, hne, hstored, hshows⟩ := haccepted now
    rw [push_of_accepted hitems hrequest hraws hne hstored,
      getData_of_accepted hstored start check clean later]
    exact hshows

theorem Arrives.deliverable {radar : Radar} {items : List RawItem}
    (h : Arrives py radar items requestId) (hrequest : requestId ≠ "")
    (hdocumented : ∀ item ∈ items, Documented radar item) : Deliverable radar items requestId := by
  obtain ⟨htrue, store, hstore, hshows⟩ := h.stores (.initial 0) 0 0 0
  obtain ⟨raws, stored, hraws, haccepted, hpos, hleft⟩ := accepted_of_push htrue
  obtain ⟨-, store', hstore', hbackup⟩ := storeData_of_accepted haccepted (.initial 0) 0 0
  rw [hleft, hstore'] at hstore
  obtain rfl := Option.some.inj hstore
  rw [hbackup] at hshows
  by_cases hplanar : radar = .vil ∨ radar = .precipitation ∨ radar = .tfr
  · obtain ⟨raws', hraws', hprepared⟩ :=
      @prepare_prepared py requestId radar hplanar 0 items hdocumented
    obtain rfl := Except.ok.inj (hraws.symm.trans hraws')
    obtain ⟨hknown, hprocessed⟩ :=
      processItems_of_accepted hrequest (forall₂_named hprepared.carries) haccepted
    have hreadable := readable_of_processItems hprocessed
    have hlength := processItems_length hprepared.carries hprocessed
    refine ⟨hplanar, (known_iff hprepared.carries).mp hknown,
      hreadable.imp dataType_eq_vil.mp hprepared.readable.mp, fun e he horigin => ?_, ?_⟩
    · have hlt := hlength.2 ⟨e, he, horigin⟩
      have heq := hshows.length_eq
      omega
    · intro hempty
      have heq := hshows.length_eq
      rw [hempty] at heq
      simp at heq
      omega
  · -- what is lost is not stored
    exfalso
    have hlost := prepare_lost hplanar hdocumented hraws
    obtain ⟨-, hprocessed⟩ :=
      processItems_of_accepted hrequest (fun raw hraw => (hlost raw hraw).named) haccepted
    rw [processItems_of_lost hlost hprocessed] at hpos
    simp at hpos

/-- Items in their documented form arrive exactly when their radar has planar positions, no id is unknown,
the types are readable, and there are entries, none of them at the origin. -/
theorem arrives_iff (py : Runtime) (radar : Radar) {items : List RawItem} {requestId : String}
    (hitems : items ≠ []) (hrequest : requestId ≠ "")
    (hdocumented : ∀ item ∈ items, Documented radar item) :
    Arrives py radar items requestId ↔ Deliverable radar items requestId :=
  ⟨fun h => h.deliverable hrequest hdocumented, fun h => h.arrives hitems hrequest hdocumented⟩

/-- A point of a terrain profile, as a dictionary. -/
def terrain : RawItem where
  isDict := true
  id := none
  fields := [("distance", .int 100), ("elevation", .float 50)]

theorem arrives_iff_terrain :
    Arrives .ascii .tfr [terrain] "r" ↔ Deliverable .tfr [terrain] "r" := by
  apply arrives_iff
  · decide
  · decide
  · intro item hitem
    rw [List.mem_singleton.mp hitem]
    exact .inr ⟨rfl, ⟨.int 100, 100, rfl, by simp [Value.number?]⟩, .float 50, 50, rfl, rfl⟩

/-- A target track with the position in space that the function documents. -/
def target : RawItem where
  isDict := true
  id := none
  fields := [("position", .tuple [.float 1000, .float 2000, .float 500])]

theorem target_lost : Documented .targeting target ∧ ¬Arrives .ascii .targeting [target] "r" := by
  refine ⟨⟨1000, 2000, 500, rfl, by norm_num⟩, fun h => ?_⟩
  have hpushed := (h.stores (.initial 0) 0 0 0).1
  revert hpushed
  decide +kernel

end Fmofp.Display
