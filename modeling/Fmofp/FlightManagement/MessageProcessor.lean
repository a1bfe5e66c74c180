import Fmofp.FlightControl.ControlInput
import Fmofp.FlightManagement.FlightData

/-! The state of `flightManagementSystem` and the methods that change it: dictionaries of flight
parameters that any value can be put into, and the mode, which is kept twice. -/

namespace Fmofp.FlightManagement

open Python FlightControl

structure FlightManagementSystem where
  attitude : Message
  velocity : Message
  navigation : Message
  tactical : Message
  status : Message
  flightControlSystem : Option FlightControlSystem
  hasMessenger : Bool

/-- A loop over items that are taken over where the key is known. -/
def copyKnown (d items : Message) : Message :=
  items.foldl (fun d e => if Dict.has d e.1 then Dict.set d e.1 e.2 else d) d

/-- `parameters[name].items()`, where `parameters` has the name. -/
def sectionItems (parameters : Value) (name : String) : Except Exception Message := do
  if ← parameters.holds name then
    match parameters with
    | .dict es => match Dict.get? es name with
      | some (.dict items) => return items
      | _ => throw .attributeError
    | _ => throw .typeError
  else return []

/-- `v * k`, as far as `int` can make a number of it. -/
def times (k : ℕ) (v : Value) : Except Exception Value :=
  match v.number?, v with
  | some q, _ => .ok (.float (q * k))
  | none, .str s => .ok (.str (String.join (List.replicate k s)))
  | none, _ => .error .typeError

/-- `int(d[key] * k) & 0xFFFF`. -/
def fieldWord (py : Runtime) (d : Message) (key : String) (k : ℕ) : Except Exception ℤ := do
  return word (← toInt py (← times k (Dict.getD d key .none)))

/-- The word of a mode, with 0 for what is no mode. -/
def modeWord (mode : Value) : ℤ :=
  if mode = .str "NORMAL" then 0
  else if mode = .str "COMBAT" then 1
  else if mode = .str "STEALTH" then 2
  else if mode = .str "TRAINING" then 3
  else if mode = .str "EMERGENCY" then 4
  else 0

/-- The mode that the flight control system takes with a mode. -/
def fcsModeMap : Dict String String :=
  [("NORMAL", "NORMAL"), ("COMBAT", "COMBAT"), ("STEALTH", "PRECISION"), ("TRAINING", "NORMAL"),
    ("EMERGENCY", "EMERGENCY")]

namespace FlightManagementSystem

/-- The system after `__init__`, with or without a flight control system, and with a messenger or not. -/
def initial (fcs : Option FlightControlSystem) (hasMessenger : Bool) : FlightManagementSystem where
  attitude := [("roll", .int 0), ("pitch", .int 0), ("yaw", .int 0), ("roll_rate", .int 0),
    ("pitch_rate", .int 0), ("yaw_rate", .int 0)]
  velocity := [("airspeed", .int 0), ("ground_speed", .int 0), ("vertical_speed", .int 0),
    ("mach", .int 0)]
  navigation := [("latitude", .int 0), ("longitude", .int 0), ("altitude", .int 0),
    ("heading", .int 0), ("track", .int 0), ("waypoints", .list []), ("active_waypoint", .int 0)]
  tactical := [("g_force", .int 0), ("aoa", .int 0), ("sideslip", .int 0), ("energy_state", .int 0),
    ("mode", .str "NORMAL")]
  status := [("health", .str "NOMINAL"), ("mode", .str "NORMAL"), ("initialization", .str "COMPLETE"),
    ("warnings", .list []), ("errors", .list [])]
  flightControlSystem := fcs
  hasMessenger := hasMessenger

variable (fms : FlightManagementSystem)

/-- The mode of the flight control system, if there is one. -/
def fcsMode : Option String := fms.flightControlSystem.map FlightControlSystem.mode

/-- `set_flight_parameters`: a section that cannot be read ends it after those before. -/
def setFlightParameters (parameters : Value) : Except Exception Unit × FlightManagementSystem :=
  match sectionItems parameters "attitude" with
  | .error e => (.error e, fms)
  | .ok items =>
    let fms := { fms with attitude := copyKnown fms.attitude items }
    match sectionItems parameters "velocity" with
    | .error e => (.error e, fms)
    | .ok items =>
      let fms := { fms with velocity := copyKnown fms.velocity items }
      match sectionItems parameters "navigation" with
      | .error e => (.error e, fms)
      | .ok items =>
        let fms := { fms with navigation := copyKnown fms.navigation items }
        match sectionItems parameters "tactical" with
        | .error e => (.error e, fms)
        | .ok items => (.ok (), { fms with tactical := copyKnown fms.tactical items })

def setMode (mode : Value) : Bool × FlightManagementSystem :=
  match mode with
  | .str name =>
    if name ∉ validModes then (false, fms)
    else (true, { fms with
      tactical := Dict.set fms.tactical "mode" (.str name)
      status := Dict.set fms.status "mode" (.str name)
      flightControlSystem := fms.flightControlSystem.map fun fcs =>
        (fcs.setMode (.str (Dict.getD fcsModeMap name "NORMAL"))).2 })
  | _ => (false, fms)

/-- `d[key] = v`, unless `v` is `None`. -/
def assign (d : Message) (key : String) (v : Value) : Message :=
  if v = .none then d else Dict.set d key v

def updateNavigation (latitude longitude altitude heading pitch roll : Value) :
    FlightManagementSystem :=
  { fms with
    navigation := assign (assign (assign (assign fms.navigation "latitude" latitude) "longitude"
      longitude) "altitude" altitude) "heading" heading
    attitude := assign (assign fms.attitude "pitch" pitch) "roll" roll }

def addWaypoint (name latitude longitude altitude waypointType : Value) :
    Except Exception Bool × FlightManagementSystem :=
  let waypoints := Dict.getD fms.navigation "waypoints" .none
  match waypoints.length with
  | .error e => (.error e, fms)
  | .ok waypointId => match waypoints with
    | .list items =>
      let waypoint : Value := .dict [("id", .int waypointId), ("name", name), ("latitude", latitude),
        ("longitude", longitude), ("altitude", altitude), ("type", waypointType)]
      (.ok true, { fms with
        navigation := Dict.set fms.navigation "waypoints" (.list (items ++ [waypoint])) })
    | _ => (.error .attributeError, fms)

/-- `0 <= waypoint_id < len(waypoints)`. -/
def acceptsWaypoint (waypointId : Value) : Except Exception Bool :=
  match waypointId.number? with
  | none => .error .typeError
  | some q =>
    if 0 ≤ q then do
      return decide (q < (← (Dict.getD fms.navigation "waypoints" .none).length))
    else .ok false

def activateWaypoint (waypointId : Value) : Except Exception Bool × FlightManagementSystem :=
  match acceptsWaypoint fms waypointId with
  | .ok true => (.ok true, { fms with
      navigation := Dict.set fms.navigation "active_waypoint" waypointId })
  | answer => (answer, fms)

/-- The data words of `send_fms_data`. -/
def dataWords (py : Runtime) : Except Exception (List ℤ) := do
  let roll ← fieldWord py fms.attitude "roll" 100
  let pitch ← fieldWord py fms.attitude "pitch" 100
  let yaw ← fieldWord py fms.attitude "yaw" 100
  let airspeed ← fieldWord py fms.velocity "airspeed" 1
  let verticalSpeed ← fieldWord py fms.velocity "vertical_speed" 1
  let altitude ← fieldWord py fms.navigation "altitude" 1
  let heading ← fieldWord py fms.navigation "heading" 10
  let gForce ← fieldWord py fms.tactical "g_force" 100
  let aoa ← fieldWord py fms.tactical "aoa" 100
  let energyState ← fieldWord py fms.tactical "energy_state" 1
  return [0x1000, roll, pitch, yaw, airspeed, verticalSpeed, altitude, heading, gForce, aoa,
    energyState, modeWord (Dict.getD fms.tactical "mode" .none)]

/-- What `send_fms_data` gives to the messenger, if there is one and every field is a number. -/
def sendFmsData (py : Runtime) : Option (List ℤ) :=
  if fms.hasMessenger then (dataWords fms py).toOption else none

end FlightManagementSystem

end Fmofp.FlightManagement

/-! `FMSMessageProcessor`: which handler a message comes to, and what the handlers do to the flight
management system and to its flight control system.  A handler that raises answers `False`. -/

namespace Fmofp.FlightManagement

open Python FlightControl

/-! ### The kind of a message -/

/-- `get_message_type`, of a dictionary. -/
def getMessageType (message : Message) : Value :=
  match Dict.get? message "message_type" with
  | some t => t
  | none =>
    let nested := match Dict.getD message "metadata" .none with
      | .dict metadata => Dict.getD metadata "message_type" .none
      | _ => .none
    if nested.truthy then nested
    else match Dict.getD message "additional_info" .none with
      | .dict info => Dict.getD info "message_type" .none
      | _ => .none

/-- A type is one of two names in any case, or contains a word, written with or without underscores. -/
def typeMentions (py : Runtime) (request response joined split : String) (message : Message) :
    Except Exception Bool :=
  let messageType := getMessageType message
  if messageType.truthy then
    match messageType with
    | .str s =>
      let lowered := py.lower s
      .ok (lowered = py.lower request || lowered = py.lower response ||
        contains (String.ofList (lowered.toList.filter (· ≠ '_'))) joined || contains lowered split)
    | _ => .error .attributeError
  else .ok false

def isControlInputMessage (py : Runtime) : Message → Except Exception Bool :=
  typeMentions py "fcs_controlInputRequest" "fcs_controlInputResponse" "controlinput" "control_input"

def isOrientationDataMessage (py : Runtime) : Message → Except Exception Bool :=
  typeMentions py "fcs_orientationDataRequest" "fcs_orientationDataResponse" "orientationdata"
    "orientation_data"

/-! ### Mode changes -/

/-- The table that `_handle_mode_change` writes out. -/
def modeMap : Dict ℤ String :=
  [(0, "NORMAL"), (1, "COMBAT"), (2, "STEALTH"), (3, "TRAINING"), (4, "EMERGENCY")]

/-- The table that `_handle_fcs_mode_change` writes out four times. -/
def fcsNames : Dict ℤ String :=
  [(0, "NORMAL"), (1, "COMBAT"), (2, "PRECISION"), (3, "AUTOPILOT"), (4, "TERRAIN"),
    (5, "EMERGENCY")]

/-- `int(s, 2)` of zeros and ones, which only refuses to read no digit at all. -/
def bitsNumber (s : String) : Except Exception ℤ :=
  if s = "" then .error .valueError else .ok (ofBits s.toList)

/-- `[int(data[i:i+8], 2) for i in range(0, len(data), 8)]`. -/
def modeBytes (data : String) : Except Exception (List ℤ) :=
  (List.range ((data.length + 7) / 8)).mapM fun i => bitsNumber (slice data (8 * i) (8 * i + 8))

/-- `int.from_bytes(bytes, byteorder='big')`. -/
def fromBytes (bytes : List ℤ) : ℤ := bytes.foldl (fun n b => 256 * n + b) 0

/-- The mode in the named fields of a message. -/
def namedMode (message : Message) : Value :=
  match Dict.get? message "mode", Dict.get? message "mode_name" with
  | some mode, _ => mode
  | none, some mode => mode
  | none, none => match Dict.getD message "parameters" .none with
    | .dict parameters =>
      match Dict.get? parameters "mode" with
      | some mode => mode
      | none => Dict.getD parameters "mode_name" .none
    | _ => .none

/-- The end of `_handle_mode_change`, for a mode in named fields. -/
def changeToNamed (message : Message) (fms : FlightManagementSystem) :
    Bool × FlightManagementSystem :=
  if (namedMode message).truthy then fms.setMode (namedMode message) else (false, fms)

/-- `_handle_mode_change`, which looks at the mode before the change first. -/
def handleModeChange (message : Message) (fms : FlightManagementSystem) :
    Bool × FlightManagementSystem :=
  if Dict.has fms.tactical "mode" then
    match Dict.getD message "data" (.str "") with
    | .str data =>
      if isBinary data then
        match modeBytes data with
        | .ok bytes => fms.setMode (.str (Dict.getD modeMap (fromBytes bytes) "NORMAL"))
        | .error _ => (false, fms)
      else changeToNamed message fms
    | _ => changeToNamed message fms
  else (false, fms)

/-- The mode of a number, and `NORMAL` for a number that is no mode. -/
def fcsNameOf (n : ℤ) : Value := .str (Dict.getD fcsNames n "NORMAL")

/-- The mode in the data of a message. -/
def fcsDataMode : Value → Value
  | .str data =>
    if isBinary data then
      match bitsNumber data with
      | .ok n => fcsNameOf n
      | .error _ => .none
    else .str data
  | .list (.str item :: _) =>
    if isBinary item then
      match bitsNumber item with
      | .ok n => fcsNameOf n
      | .error _ => .str item
    else .str item
  | .list (item :: _) => (item.int?.map fcsNameOf).getD .none
  | _ => .none

/-- The second attempt, when no mode has been found. -/
def fcsDirectMode (data : Option Value) (mode : Value) : Value :=
  if mode.truthy then mode
  else match data with
    | some (.str data) =>
      if isBinary data then
        match bitsNumber data with
        | .ok n => fcsNameOf n
        | .error _ => mode
      else mode
    | _ => mode

/-- The mode that is found in a message for the flight control system. -/
def fcsRequestedMode (message : Message) : Value :=
  fcsDirectMode (Dict.get? message "data")
    (match Dict.get? message "mode", Dict.get? message "data" with
    | some mode, _ => mode
    | none, some data => fcsDataMode data
    | none, none => .none)

def handleFcsModeChange (message : Message) (fms : FlightManagementSystem) :
    Bool × FlightManagementSystem :=
  match fms.flightControlSystem with
  | none => (false, fms)
  | some fcs =>
    let mode := fcsRequestedMode message
    if mode.truthy then
      ((fcs.setMode mode).1, { fms with flightControlSystem := some (fcs.setMode mode).2 })
    else (false, fms)

/-! ### The other handlers -/

/-- A method of the system called by a handler, which answers `False` for what raises. -/
def caught (answer : Except Exception Bool × FlightManagementSystem) :
    Bool × FlightManagementSystem :=
  ((answer.1.toOption).getD false, answer.2)

def handleSetMode (payload : Value) (fms : FlightManagementSystem) :
    Bool × FlightManagementSystem :=
  if Dict.has fms.tactical "mode" then
    match payload.get "mode" (.str "") with
    | .ok mode => if mode.truthy then fms.setMode mode else (false, fms)
    | .error _ => (false, fms)
  else (false, fms)

def handleSetFlightParameters (payload : Value) (fms : FlightManagementSystem) :
    Bool × FlightManagementSystem :=
  match payload.get "parameters" (.dict []) with
  | .ok parameters =>
    let answer := fms.setFlightParameters parameters
    caught (answer.1.map fun _ => true, answer.2)
  | .error _ => (false, fms)

/-- The default name counts the waypoints, whether it is needed or not. -/
def handleAddWaypoint (payload : Value) (fms : FlightManagementSystem) :
    Bool × FlightManagementSystem :=
  match payload, (Dict.getD fms.navigation "waypoints" .none).length with
  | .dict fields, .ok count =>
    caught (fms.addWaypoint (Dict.getD fields "name" (.str ("WP" ++ toString count)))
      (Dict.getD fields "latitude" (.int 0)) (Dict.getD fields "longitude" (.int 0))
      (Dict.getD fields "altitude" (Dict.getD fms.navigation "altitude" .none))
      (Dict.getD fields "type" (.str "NORMAL")))
  | _, _ => (false, fms)

def handleActivateWaypoint (payload : Value) (fms : FlightManagementSystem) :
    Bool × FlightManagementSystem :=
  match payload.get "waypoint_id" (.int 0) with
  | .ok waypointId => caught (fms.activateWaypoint waypointId)
  | .error _ => (false, fms)

/-- The call that `_handle_control_input` makes, on the flight control system. -/
def handleControlInputMessage (py : Runtime) (message : Message) (fms : FlightManagementSystem) :
    Bool × FlightManagementSystem :=
  match fms.flightControlSystem, handleControlInput py fms.flightControlSystem.isSome message with
  | some fcs, some (controlType, value) =>
    ((fcs.setControlInput controlType value).1,
      { fms with flightControlSystem := some (fcs.setControlInput controlType value).2 })
  | _, _ => (false, fms)

/-! ### Dispatch -/

section

-- the answer of `send_orientation_data`, which changes nothing
variable (py : Runtime) (orientationSent : Bool)

def handleOrientationDataRequest (fms : FlightManagementSystem) : Bool × FlightManagementSystem :=
  (fms.flightControlSystem.isSome && orientationSent, fms)

def process1553bMessage (message : Message) (fms : FlightManagementSystem) :
    Bool × FlightManagementSystem :=
  let commandType := Dict.getD message "command_type" (.str "")
  if commandType = .str "mode_change" then handleModeChange message fms
  else if commandType = .str "status_request" then (true, fms)
  else if commandType = .str "data_request" then (true, fms)
  else if commandType = .str "control_input" then handleControlInputMessage py message fms
  else if commandType = .str "orientation_data" then handleOrientationDataRequest orientationSent fms
  else (false, fms)

/-- A command for the flight control system; the system has no `receive_message` to forward to. -/
def processFcsCommand (message : Message) (fms : FlightManagementSystem) :
    Bool × FlightManagementSystem :=
  if Dict.getD message "command_type" (.str "") = .str "mode_change" then
    handleFcsModeChange message fms
  else match isControlInputMessage py message with
    | .ok true => handleControlInputMessage py message fms
    | _ => (false, fms)

/-- The messages whose type names no handler. -/
def processUntyped (message : Message) (fms : FlightManagementSystem) :
    Bool × FlightManagementSystem :=
  match isControlInputMessage py message with
  | .ok true => handleControlInputMessage py message fms
  | .ok false => match isOrientationDataMessage py message with
    | .ok true => handleOrientationDataRequest orientationSent fms
    | _ => (false, fms)
  | .error _ => (false, fms)

def processTraditionalMessage (message : Message) (fms : FlightManagementSystem) :
    Bool × FlightManagementSystem :=
  let messageType := Dict.getD message "message_type" (.str "")
  let payload := Dict.getD message "data" (.dict [])
  if messageType = .str "FMS_SET_MODE" then handleSetMode payload fms
  else if messageType = .str "FMS_SET_FLIGHT_PARAMETERS" then handleSetFlightParameters payload fms
  else if messageType = .str "FMS_ADD_WAYPOINT" then handleAddWaypoint payload fms
  else if messageType = .str "FMS_ACTIVATE_WAYPOINT" then handleActivateWaypoint payload fms
  else if messageType = .str "flight_control_systemCommand" then processFcsCommand py message fms
  else processUntyped py orientationSent message fms

/-- `process_message`: only a dictionary can be read. -/
def processMessage (message : Value) (fms : FlightManagementSystem) :
    Bool × FlightManagementSystem :=
  match message with
  | .dict fields =>
    if Dict.getD fields "message_type" .none = .str "flightManagementSystemCommand" then
      process1553bMessage py orientationSent fields fms
    else processTraditionalMessage py orientationSent fields fms
  | _ => (false, fms)

end

end Fmofp.FlightManagement
