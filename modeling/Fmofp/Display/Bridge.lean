import Fmofp.Display.DataCoordinator

/-! `radar_to_display_bridge`: what each radar's data is made before it is stored for the display.  Ids
and request ids are text; arrays of numbers are not among the data. -/

namespace Fmofp.Display

open Python

/-- The radars whose data is pushed, by their functions. -/
inductive Radar where
  | vil
  | precipitation
  | targeting
  | sar
  | tfr
  | aewc
  deriving DecidableEq

def Radar.dataType : Radar → String
  | .vil => "vil"
  | .precipitation => "precipitation"
  | .targeting => "targeting"
  | .sar => "sar"
  | .tfr => "tfr"
  | .aewc => "aewc"

/-- `a or b`. -/
def either (a b : Value) : Value := if a.truthy then a else b

def itemId (requestId : String) (i : ℕ) : String := requestId ++ "_" ++ toString i

/-- A missing or empty id is replaced. -/
def RawItem.ensureId (requestId : String) (i : ℕ) (item : RawItem) : RawItem :=
  match item.id with
  | some s => if s = "" then { item with id := some (itemId requestId i) } else item
  | none => { item with id := some (itemId requestId i) }

/-- The dictionary that is made of an object, before it gets an id. -/
def made (fields : Message) : RawItem where
  isDict := true
  id := none
  fields := fields

/-! ### Weather -/

/-- The position of an object, or its coordinates. -/
def objectPosition (py : Runtime) (attributes : Message) : Except Exception Value :=
  match Dict.get? attributes "position", Dict.get? attributes "x", Dict.get? attributes "y" with
  | some position, _, _ => .ok (fixedPosition position)
  | none, some x, some y => do
    let first ← toFloat py x
    let second ← toFloat py y
    return .tuple [.float first, .float second]
  | none, _, _ => .ok (.tuple [.float 0, .float 0])

/-- The id of an object, or the id of its request. -/
def objectId (item : RawItem) : Option String :=
  match item.id, Dict.getD item.fields "request_id" .none with
  | some s, .str request => if s ≠ "" then some s else if request ≠ "" then some request else none
  | none, .str request => if request ≠ "" then some request else none
  | some s, _ => if s ≠ "" then some s else none
  | none, _ => none

def vilFields (py : Runtime) (attributes : Message) : Except Exception Message := do
  let value ← toFloat py (Dict.getD attributes "value" (.float 0))
  let layerCount ← toInt py (Dict.getD attributes "layer_count" (.int 1))
  let intensity ← toFloat py (Dict.getD attributes "intensity" (.float (1 / 2)))
  return [("value", .float value), ("layer_count", .int layerCount), ("intensity", .float intensity),
    ("show_values", .bool ((Dict.getD attributes "show_values" (.bool true)).truthy))]

def precipitationFields (py : Runtime) (attributes : Message) : Except Exception Message := do
  let rawType := either (Dict.getD attributes "type" .none)
    (Dict.getD attributes "precip_type" (.str "rain"))
  let rate ← toFloat py (Dict.getD attributes "rate" (.float 0))
  let intensity ← toFloat py (Dict.getD attributes "intensity" (.float (1 / 2)))
  return [("type", rawType), ("precip_type", rawType), ("rate", .float rate),
    ("intensity", .float intensity),
    ("show_values", .bool ((Dict.getD attributes "show_values" (.bool true)).truthy))]

/-- `_object_to_dict`, with the fields of the type. -/
def objectToDict (py : Runtime) (now : ℚ) (specific : Message → Except Exception Message)
    (item : RawItem) : Except Exception RawItem :=
  if item.isDict then .ok item
  else do
    let position ← objectPosition py item.fields
    let fields ← specific item.fields
    return { made ([("position", position),
      ("timestamp", Dict.getD item.fields "timestamp" (.float now))] ++ fields) with id := objectId item }

/-! ### Targeting, SAR and AEWC -/

/-- A sequence of at least so many items as a tuple, or the default. -/
def tupleOr (least : ℕ) (default v : Value) : Value :=
  match v with
  | .list items => if least ≤ items.length then .tuple items else default
  | .tuple items => if least ≤ items.length then .tuple items else default
  | _ => default

def origin3 : Value := .tuple [.float 0, .float 0, .float 0]

def targetingToDict (py : Runtime) (now : ℚ) (item : RawItem) : Except Exception RawItem :=
  if item.isDict then .ok item
  else do
    let get := Dict.getD item.fields
    let confidence ← toFloat py (get "confidence" (.float 1))
    return made [
      ("position", tupleOr 2 origin3 (either (get "target_position" .none)
        (get "position" .none))),
      ("velocity", tupleOr 3 origin3 (either (get "target_velocity" .none)
        (get "velocity" .none))),
      ("target_id", .str (py.str (either (get "target_id" (.str "")) (.str "")))),
      ("identity", .str (py.str (get "identity" (.str "UNKNOWN")))),
      ("classification", .str (py.str (get "classification" (.str "UNKNOWN")))),
      ("confidence", .float confidence),
      ("lock_status", .str (py.str (get "lock_status" (.str "")))),
      ("timestamp", get "timestamp" (.float now))]

/-- `tuple(v)`. -/
def toTuple (v : Value) : Except Exception Value := do
  let items ← v.iterate
  return .tuple items

/-- `tuple(shape) if shape else (0, 0)`. -/
def imageShape (shape : Value) : Except Exception Value :=
  if shape.truthy then toTuple shape else .ok (.tuple [.int 0, .int 0])

def sarToDict (py : Runtime) (now : ℚ) (item : RawItem) : Except Exception RawItem :=
  if item.isDict then .ok item
  else do
    let get := Dict.getD item.fields
    let shape ← imageShape (get "image_shape" .none)
    let resolution ← toFloat py (get "resolution" (.float 1))
    return made [
      ("image_data", either (get "image_data" .none) (.list [])),
      ("image_shape", shape),
      ("resolution", .float resolution),
      ("geo_reference", either (get "geo_reference" (.dict [])) (.dict [])),
      ("image_uuid", .str (py.str (get "image_uuid" (.str "")))),
      ("timestamp", get "timestamp" (.float now)),
      ("position", .tuple [.float 0, .float 0])]

/-- `v[-1]`, for a `v` that is not empty. -/
def lastItem (v : Value) : Except Exception Value :=
  match v with
  | .list items => .ok (items.getLastD .none)
  | .tuple items => .ok (items.getLastD .none)
  | .str s => .ok (.str (String.ofList s.toList.getLast?.toList))
  | .dict _ => .error .keyError
  | _ => .error .typeError

/-- The last item as a tuple, or the origin where there is none. -/
def latestTuple (v : Value) : Except Exception Value :=
  if v.truthy then do
    let last ← lastItem v
    toTuple last
  else .ok origin3

/-- `[tuple(p) for p in v]`. -/
def tuples (v : Value) : Except Exception Value := do
  let items ← v.iterate
  let made ← items.mapM toTuple
  return .list made

/-- The fields of track data. -/
def trackFields (py : Runtime) (attributes : Message) : Except Exception Message := do
  let get := Dict.getD attributes
  let positions := either (get "track_positions" .none) (.list [])
  let velocities := either (get "track_velocities" (.list [])) (.list [])
  let position ← latestTuple positions
  let velocity ← latestTuple velocities
  let trackPositions ← tuples positions
  let trackVelocities ← tuples velocities
  let timestamps ← (either (get "track_timestamps" (.list [])) (.list [])).iterate
  let confidence ← toFloat py (get "track_confidence" (.float 1))
  return [("position", position), ("velocity", velocity), ("track_positions", trackPositions),
    ("track_velocities", trackVelocities), ("track_timestamps", .list timestamps),
    ("track_id", .str (py.str (either (get "track_id" (.str "")) (.str "")))),
    ("track_type", .str (py.str (get "track_type" (.str "UNKNOWN")))),
    ("track_confidence", .float confidence), ("sector_id", .none)]

/-- The fields of a scan of a sector. -/
def sectorFields (py : Runtime) (attributes : Message) : Except Exception Message := do
  let get := Dict.getD attributes
  let resolution ← toFloat py (get "scan_resolution" (.float 1))
  let scan := Value.str (py.str (get "scan_uuid" (.str "")))
  return [("sector_data", either (get "sector_data" .none) (.list [])),
    ("sector_bounds", either (get "sector_bounds" (.dict [])) (.dict [])),
    ("scan_resolution", .float resolution), ("scan_uuid", scan), ("position", origin3),
    ("sector_id", scan)]

def aewcFields (py : Runtime) (attributes : Message) : Except Exception Message :=
  if Dict.has attributes "track_positions" then trackFields py attributes
  else if Dict.has attributes "sector_data" then sectorFields py attributes
  else .ok [("position", origin3)]

/-- A dictionary without a position gets the origin. -/
def aewcToDict (py : Runtime) (now : ℚ) (item : RawItem) : Except Exception RawItem :=
  if item.isDict then
    .ok (if Dict.has item.fields "position" then item
      else { item with fields := Dict.set item.fields "position" (.tuple [.float 0, .float 0]) })
  else do
    let fields ← aewcFields py item.fields
    return made (fields ++ [("timestamp", Dict.getD item.fields "timestamp" (.float now))])

/-! ### TFR -/

/-- One point of an elevation profile. -/
def tfrPoint (py : Runtime) (now : ℚ) (profile : Message) (id : String) (point : Value) :
    Except Exception RawItem := do
  match ← point.iterate with
  | [first, second] =>
    let distance ← toFloat py first
    let elevation ← toFloat py second
    let scanWidth ← toFloat py (Dict.getD profile "scan_width" (.float 0))
    return { made [("distance", .float distance), ("elevation", .float elevation),
      ("warning_type", .none), ("scan_width", .float scanWidth),
      ("position", .tuple [.float distance, .float elevation]),
      ("timestamp", Dict.getD profile "timestamp" (.float now))] with id := some id }
  | _ => .error .valueError

/-- A dictionary without a position gets its distance and its elevation for one. -/
def tfrDict (py : Runtime) (i : ℕ) (item : RawItem) : Except Exception RawItem :=
  if Dict.has item.fields "position" then .ok item
  else do
    let distance ← toFloat py (Dict.getD item.fields "distance" (.float i))
    let elevation ← toFloat py (Dict.getD item.fields "elevation" (.float 0))
    return { item with
      fields := Dict.set item.fields "position" (.tuple [.float distance, .float elevation]) }

def tfrWarning (py : Runtime) (now : ℚ) (attributes : Message) (id : String) :
    Except Exception RawItem := do
  let distance ← toFloat py (Dict.getD attributes "distance" (.float 0))
  let elevation ← toFloat py (Dict.getD attributes "elevation" (.float 0))
  return { made [("distance", .float distance), ("elevation", .float elevation),
    ("warning_type", .str (py.str (Dict.getD attributes "warning_type" (.str "")))),
    ("position", .tuple [.float distance, .float elevation]),
    ("timestamp", Dict.getD attributes "timestamp" (.float now))] with id := some id }

/-- The entries for the points of a profile, counted on from `i`. -/
def tfrPoints (py : Runtime) (now : ℚ) (profile : Message) (requestId : String) :
    ℕ → List Value → Except Exception (List RawItem)
  | _, [] => .ok []
  | i, point :: points => do
    let entry ← tfrPoint py now profile (itemId requestId i) point
    let entries ← tfrPoints py now profile requestId (i + 1) points
    return entry :: entries

/-- The entries for one item: a dictionary, a profile or a warning; any other object has none. -/
def tfrItem (py : Runtime) (now : ℚ) (requestId : String) (i : ℕ) (item : RawItem) :
    Except Exception (List RawItem) :=
  if item.isDict then do
    let entry ← tfrDict py i (item.ensureId requestId i)
    return [entry]
  else match Dict.get? item.fields "profile_data" with
    | some profile => do
      let points ← (either profile (.list [])).iterate
      tfrPoints py now item.fields requestId i points
    | none =>
      if Dict.has item.fields "warning_type" then do
        let entry ← tfrWarning py now item.fields (itemId requestId i)
        return [entry]
      else .ok []

def tfrItems (py : Runtime) (now : ℚ) (requestId : String) :
    ℕ → List RawItem → Except Exception (List RawItem)
  | _, [] => .ok []
  | i, item :: items => do
    let entries ← tfrItem py now requestId i item
    let rest ← tfrItems py now requestId (i + entries.length) items
    return entries ++ rest

/-! ### The functions that push -/

/-- Every item made a dictionary with an id. -/
def eachItem (convert : RawItem → Except Exception RawItem) (requestId : String) :
    ℕ → List RawItem → Except Exception (List RawItem)
  | _, [] => .ok []
  | i, item :: items => do
    let entry ← convert item
    let entries ← eachItem convert requestId (i + 1) items
    return entry.ensureId requestId i :: entries

/-- The entries that a function makes of the items; `now` is the time for those without one. -/
def Radar.prepare (py : Runtime) (now : ℚ) (requestId : String) (items : List RawItem) :
    Radar → Except Exception (List RawItem)
  | .vil => eachItem (objectToDict py now (vilFields py)) requestId 0 items
  | .precipitation => eachItem (objectToDict py now (precipitationFields py)) requestId 0 items
  | .targeting => eachItem (targetingToDict py now) requestId 0 items
  | .sar => eachItem (sarToDict py now) requestId 0 items
  | .tfr => tfrItems py now requestId 0 items
  | .aewc => eachItem (aewcToDict py now) requestId 0 items

/-- `push_vil_data` and the five others: whether entries were stored, with what they leave stored.  An
exception is caught. -/
def push (py : Runtime) (radar : Radar) (items : List RawItem) (requestId : String)
    (now check clean : ℚ) (c : Coordinator) : Bool × Coordinator :=
  if items = [] ∨ requestId = "" then (false, c)
  else match radar.prepare py now requestId items with
    | .error _ => (false, c)
    | .ok entries =>
      if radar = .tfr ∧ entries = [] then (false, c)
      else
        let stored := c.storeData py radar.dataType requestId entries check clean
        (match stored.1 with
        | .ok count => decide (0 < count)
        | .error _ => false, stored.2)

end Fmofp.Display
