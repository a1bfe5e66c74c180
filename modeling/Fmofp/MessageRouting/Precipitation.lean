import Fmofp.Python.Text

/-! `MessageRoutingService.route_precipitation_data`: the precipitation data of a message become
`PrecipitationData` objects, which the display message handler gets. -/

namespace Fmofp.MessageRouting

open Python

/-- A `PrecipitationData` object. -/
structure PrecipitationData (V : Type) where
  position : V
  type : V
  rate : V
  intensity : V
  showValues : V
  requestId : V
  timestamp : V
  additionalInfo : V

/-- Data with objects in them; an object of another class is what its attributes are. -/
inductive Datum
  | value (v : Value)
  | list (items : List Datum)
  | dict (entries : List (String × Datum))
  | precipitation (p : PrecipitationData Datum)
  | object (attributes : List (String × Datum))

namespace Datum

/-- `v is None`. -/
def isNone : Datum → Bool
  | .value .none => true
  | _ => false

/-- `isinstance(v, dict)`, with the entries. -/
def dict? : Datum → Option (Dict String Datum)
  | .dict entries => some entries
  | .value (.dict entries) => some (entries.map fun e => (e.1, .value e.2))
  | _ => none

/-- `isinstance(v, list)`, with the items. -/
def list? : Datum → Option (List Datum)
  | .list items => some items
  | .value (.list items) => some (items.map .value)
  | _ => none

/-- `bool(v)`. -/
def truthy : Datum → Bool
  | .value v => v.truthy
  | .list items => !items.isEmpty
  | .dict entries => !entries.isEmpty
  | .precipitation _ | .object _ => true

/-- `float(v)`. -/
def toFloat (py : Runtime) : Datum → Except Exception ℚ
  | .value v => Python.toFloat py v
  | _ => .error .typeError

/-- `d.get(k)`. -/
def field (d : Dict String Datum) (k : String) : Datum := Dict.getD d k (.value .none)

end Datum

open Datum

/-! ### The position -/

def origin : Datum := .value (.tuple [.float 0, .float 0])

/-- `(float(x), float(y))`. -/
def floatPair (py : Runtime) (x y : Datum) : Except Exception Datum := do
  let x ← x.toFloat py
  let y ← y.toFloat py
  return .value (.tuple [.float x, .float y])

/-- `extract_position`, of a dictionary. -/
def extractPosition (py : Runtime) (d : Dict String Datum) : Except Exception Datum :=
  if (field d "position").isNone = false then .ok (field d "position")
  else
    let x := Dict.getD d "x" (field d "position_x")
    let y := Dict.getD d "y" (field d "position_y")
    if x.isNone = false ∧ y.isNone = false then floatPair py x y
    else if (field d "x_position").isNone = false ∧ (field d "y_position").isNone = false then
      floatPair py (field d "x_position") (field d "y_position")
    else .ok origin

/-- `extract_position`, of an object. -/
def extractObjectPosition (py : Runtime) (attributes : Dict String Datum) : Except Exception Datum :=
  if Dict.has attributes "position" then .ok (field attributes "position")
  else if Dict.has attributes "x" && Dict.has attributes "y" then
    floatPair py (field attributes "x") (field attributes "y")
  else if Dict.has attributes "position_x" && Dict.has attributes "position_y" then
    floatPair py (field attributes "position_x") (field attributes "position_y")
  else .ok origin

/-! ### The conversion -/

section Convert

variable (py : Runtime) (str : Datum → String) (requestId timestamp : Datum)

/-- `PrecipitationData(...)`, with the request it belongs to. -/
def precipObj (position type rate intensity showValues : Datum) :
    Except Exception (PrecipitationData Datum) := do
  let rate ← rate.toFloat py
  let intensity ← intensity.toFloat py
  return {
    position, type
    rate := .value (.float rate)
    intensity := .value (.float intensity)
    showValues := .value (.bool showValues.truthy)
    requestId, timestamp
    additionalInfo := .dict [] }

/-- Text that is no number is replaced. -/
def textOr (default : ℚ) : Datum → Datum
  | .value (.str s) => .value (.float (match Python.toFloat py (.str s) with
    | .ok q => q
    | .error _ => default))
  | v => v

/-- The first one of a list. -/
def firstOf (v : Datum) : Datum :=
  match v.list? with
  | some (first :: _) => first
  | _ => v

/-- An object made of a dictionary; `readRate` is what the branch does to the rate first. -/
def convertDict (readRate : Datum → Datum) (d : Dict String Datum) :
    Except Exception (PrecipitationData Datum) := do
  let position ← extractPosition py d
  let made ← precipObj py requestId timestamp position
    (Dict.getD d "type" (.value (.str "unknown")))
    (readRate (Dict.getD d "rate" (.value (.float 20))))
    (textOr py (1 / 2) (Dict.getD d "intensity" (.value (.float (1 / 2)))))
    (Dict.getD d "show_values" (.value (.bool true)))
  return { made with additionalInfo := Dict.getD d "additional_info" (.dict []) }

/-- An object made of one of another class. -/
def convertObject (attributes : Dict String Datum) : Except Exception (PrecipitationData Datum) := do
  let position ← extractObjectPosition py attributes
  let made ← precipObj py requestId timestamp position
    (Dict.getD attributes "type" (.value (.str "unknown")))
    (Dict.getD attributes "rate" (.value (.float 20)))
    (Dict.getD attributes "intensity" (.value (.float (1 / 2))))
    (Dict.getD attributes "show_values" (.value (.bool true)))
  return { made with additionalInfo := Dict.getD attributes "additional_info" (.dict []) }

/-- What stands for data of a kind that is not known. -/
def unrecognized : PrecipitationData Datum where
  position := origin
  type := .value (.str "unknown")
  rate := .value (.float 20)
  intensity := .value (.float (1 / 2))
  showValues := .value (.bool true)
  requestId := requestId
  timestamp := timestamp
  additionalInfo := .dict []

/-- `hasattr(v, 'position') or (hasattr(v, 'x') and hasattr(v, 'y'))`. -/
def hasPosition (attributes : Dict String Datum) : Bool :=
  Dict.has attributes "position" || (Dict.has attributes "x" && Dict.has attributes "y")

/-- The attributes of an object of another class that has a position. -/
def positioned? : Datum → Option (Dict String Datum)
  | .object attributes => if hasPosition attributes then some attributes else none
  | _ => none

/-- One data point of a list: nothing may come of it. -/
def convertPoint : Datum → Except Exception (Option (PrecipitationData Datum))
  | .precipitation p => .ok (some { p with requestId, timestamp })
  | point =>
    if point.isNone then .ok none
    else
      match point.dict? with
      | some d => (convertDict py requestId timestamp firstOf d).map some
      | none =>
        match positioned? point with
        | some attributes => (convertObject py requestId timestamp attributes).map some
        | none =>
          .ok (if contains (str point) "position" || contains (str point) "type" then
            some (unrecognized requestId timestamp) else none)

/-- A single data point, which is not `None`. -/
def convertSingle : Datum → Except Exception (PrecipitationData Datum)
  | .precipitation p => .ok { p with requestId, timestamp }
  | point =>
    match point.dict? with
    | some d => convertDict py requestId timestamp (textOr py 20) d
    | none =>
      match positioned? point with
      | some attributes => convertObject py requestId timestamp attributes
      | none => .ok (unrecognized requestId timestamp)

/-- The objects that come of the data; a point that raises is left out. -/
def precipitationDataObjects (data : Datum) : List (PrecipitationData Datum) :=
  match data.list? with
  | some points => points.filterMap fun point =>
    match convertPoint py str requestId timestamp point with
    | .ok made => made
    | .error _ => none
  | none =>
    match convertSingle py requestId timestamp data with
    | .ok made => [made]
    | .error _ => []

/-- The object that is sent where there is none. -/
def fallbackData : PrecipitationData Datum where
  position := origin
  type := .value (.str "unknown")
  rate := .value (.float 0)
  intensity := .value (.float 0)
  showValues := .value (.bool false)
  requestId := requestId
  timestamp := timestamp
  additionalInfo := .dict [("fallback_data", .value (.bool true))]

end Convert

/-! ### The message -/

/-- The first of the keys that has a value other than `None`. -/
def firstGiven (d : Dict String Datum) (keys : List String) : Option Datum :=
  keys.findSome? fun key =>
    (Dict.get? d key).bind fun v => if v.isNone then none else some v

/-- What is under `weather_data`, or inside it. -/
def weatherData (metadata : Dict String Datum) : Option Datum :=
  (firstGiven metadata ["weather_data"]).bind fun v =>
    match v.dict? with
    | some inner => firstGiven inner ["precipitation_data", "precipitation"]
    | none => some v

/-- The precipitation data of a message, or else of its metadata. -/
def findPrecipitationData (message : Dict String Datum) : Option Datum :=
  (firstGiven message ["precipitation_data", "data", "precipitation"]).or
    ((field message "metadata").dict?.bind fun metadata =>
      (firstGiven metadata ["precipitation_data", "data", "precipitation"]).or (weatherData metadata))

/-- The metadata of the message for the display. -/
def precipMetadata (requestId : Datum) : Dict String Datum :=
  [("data_type", .value (.str "precipitation")), ("source", .value (.str "weather_radar")),
    ("destination", .value (.str "display_system")), ("original_request_id", requestId),
    ("precipitation_message", .value (.bool true)),
    ("_processed_by_routing_service", .value (.bool true))]

/-- The message for the display. -/
def precipMessage (message : Dict String Datum) (requestId timestamp : Datum)
    (objects : List (PrecipitationData Datum)) : Dict String Datum :=
  let given := ((field message "metadata").dict?).getD []
  [("data", (objects.head?.map .precipitation).getD (.value .none)),
    ("precipitation_data", .list (objects.map .precipitation)),
    ("request_id", requestId),
    ("timestamp", timestamp),
    ("mode", Dict.getD message "mode" (.value (.str "SURVEILLANCE"))),
    ("message_type", .value (.str "weather_radarPrecipitationResponse")),
    ("metadata", .dict (precipMetadata requestId ++
      given.filter fun e => !Dict.has (precipMetadata requestId) e.1))]

/-- `message.get('metadata', {})`, which has to be a dictionary. -/
def metadataOf (message : Dict String Datum) : Except Exception (Dict String Datum) :=
  match Dict.get? message "metadata" with
  | none => .ok []
  | some v =>
    match v.dict? with
    | some metadata => .ok metadata
    | none => .error .attributeError

/-- `route_precipitation_data`: the message that the display message handler gets, if any. -/
def routePrecipitationData (py : Runtime) (str : Datum → String) (now : Datum)
    (message : Dict String Datum) : Except Exception (Option (Dict String Datum)) := do
  let metadata ← metadataOf message
  if (field metadata "_processed_by_routing_service").truthy then return none
  let requestId := field message "request_id"
  if requestId.truthy = false then throw .valueError
  match findPrecipitationData message with
  | none => throw .valueError
  | some data =>
    let timestamp := Dict.getD message "timestamp" now
    let objects := precipitationDataObjects py str requestId timestamp data
    let objects := if objects = [] then [fallbackData requestId timestamp] else objects
    return some (precipMessage message requestId timestamp objects)

end Fmofp.MessageRouting
