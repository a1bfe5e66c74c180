import Fmofp.LoopPrevention.Identify

/-! The routing registry: the systems of the address book, the rules of the special cases in their order,
and how messages are looked up in both. -/

namespace Fmofp.Routing

open Python
open LoopPrevention (Subject)

/-! ### Fields of a message -/

/-- The entries of a dictionary, or the attributes of an object. -/
def entriesOf : Subject → Message
  | .dict entries => entries
  | .object _ attributes => attributes
  | .plain => []

/-- The metadata, if it is a dictionary. -/
def metadataOf (m : Subject) : Option Message := (m.field "metadata").dict?

theorem field_eq (m : Subject) (k : String) : m.field k = Dict.getD (entriesOf m) k .none := by
  cases m <;> rfl

/-- `v in names`, of a list of texts. -/
def listed (v : Value) (names : List String) : Bool :=
  match v with
  | .str s => decide (s ∈ names)
  | _ => false

theorem listed_iff {v : Value} {names : List String} :
    listed v names = true ↔ ∃ s ∈ names, v = .str s := by
  cases v with
  | str s => simp [listed]
  | _ => simp [listed]

/-! ### Special cases -/

structure Rule where
  commandNames : List String
  messageTypes : List String
  destinations : List String
  handler : String
  deriving Repr, DecidableEq

/-- A rule of the communications or mission system, whose constant for the message type is the type. -/
def systemRule (commandName messageType destination handler : String) : Rule where
  commandNames := [commandName, messageType]
  messageTypes := [messageType, messageType]
  destinations := [destination]
  handler := handler

/-- `_initialize_special_cases`. -/
def initializeSpecialCases : Dict String Rule :=
  [("vil_request",
      { commandNames := ["radar_vilData", "displays_vilData", "weather_radar_vilData",
          "WEATHER_RADAR_VIL_DATA"]
        messageTypes := ["weather_radarVILRequest", "weather_radarVILRequest", "vil_request"]
        destinations := ["radar"]
        handler := "vil_handler" }),
    ("vil_response",
      { commandNames := ["radar_vilData", "displays_vilData", "weather_radar_vilData"]
        messageTypes := ["weather_radarVILResponse", "weather_radarVILResponse", "vil_data",
          "weather_radarVILDataResponse"]
        destinations := ["display"]
        handler := "vil_handler" }),
    ("precipitation_data",
      { commandNames := ["radar_precipitationData", "displays_precipitationData",
          "weather_radar_precipitationData", "WEATHER_RADAR_PRECIP_DATA"]
        messageTypes := ["weather_radarPrecipitationResponse", "weather_radarPrecipitationResponse",
          "precipitation_data", "weather_radarPrecipitationDataResponse"]
        destinations := ["display"]
        handler := "precipitation_handler" }),
    ("precipitation_request",
      { commandNames := ["radar_precipitationData", "displays_precipitationData",
          "weather_radar_precipitationData", "WEATHER_RADAR_PRECIP_DATA"]
        messageTypes := ["weather_radarPrecipitationRequest", "weather_radarPrecipitationRequest",
          "precipitation_request"]
        destinations := ["radar"]
        handler := "precipitation_handler" }),
    ("precipitation_completion",
      { commandNames := ["WEATHER_RADAR_PRECIPITATION_COMPLETION", "RADAR_PRECIPITATION_COMPLETION"]
        messageTypes := ["weather_radarPrecipitationCompletion", "radarPrecipitationCompletion",
          "precipitation_completion"]
        destinations := ["display"]
        handler := "precipitation_handler" }),
    ("mode_change",
      { commandNames := ["radar_modeChange", "displays_modeChange", "weather_radar_modeChange",
          "tfr_radar_modeChange", "sar_radar_modeChange", "targeting_radar_modeChange",
          "aewc_radar_modeChange"]
        messageTypes := ["weather_radarModeChangeRequest", "weather_radarModeChangeResponse",
          "tfr_radarModeChangeRequest", "tfr_radarModeChangeResponse", "sar_radarModeChangeRequest",
          "sar_radarModeChangeResponse", "targeting_radarModeChangeRequest",
          "targeting_radarModeChangeResponse", "aewc_radarModeChangeRequest",
          "aewc_radarModeChangeResponse", "weather_radarModeChangeRequest",
          "weather_radarModeChangeResponse", "tfr_radarModeChangeRequest",
          "tfr_radarModeChangeResponse", "sar_radarModeChangeRequest",
          "sar_radarModeChangeResponse", "targeting_radarModeChangeRequest",
          "targeting_radarModeChangeResponse", "aewc_radarModeChangeRequest",
          "aewc_radarModeChangeResponse", "mode_change", "display_mode_request"]
        destinations := ["radar", "display"]
        handler := "mode_change_handler" }),
    ("mode_change_completion",
      { commandNames := ["WEATHER_RADAR_MODE_CHANGE_COMPLETION", "TFR_RADAR_MODE_CHANGE_COMPLETION",
          "SAR_RADAR_MODE_CHANGE_COMPLETION", "TARGETING_RADAR_MODE_CHANGE_COMPLETION",
          "AEWC_RADAR_MODE_CHANGE_COMPLETION"]
        messageTypes := ["weather_radarModeChangeCompletion", "tfr_radarModeChangeCompletion",
          "sar_radarModeChangeCompletion", "targeting_radarModeChangeCompletion",
          "aewc_radarModeChangeCompletion", "mode_change_completion"]
        destinations := ["display"]
        handler := "mode_change_handler" }),
    ("fms_mode_change_request",
      { commandNames := ["FMS_MODE_CHANGE", "FMS_SET_MODE", "fms_modeChange",
          "flightManagementSystem_modeChange"]
        messageTypes := ["fms_modeChangeRequest", "flightManagementSystemCommand",
          "fmsModeChangeRequest"]
        destinations := ["flightmanagementsystem"]
        handler := "fms_mode_change_handler" }),
    ("fms_mode_change_response",
      { commandNames := ["FMS_MODE_CHANGE_COMPLETE", "fms_modeChangeComplete",
          "flightManagementSystem_modeChangeComplete"]
        messageTypes := ["fms_modeChangeResponse", "fmsModeChangeResponse",
          "flightManagementSystemResponse"]
        destinations := ["display"]
        handler := "fms_mode_change_handler" }),
    ("fms_status_request",
      { commandNames := ["FMS_STATUS_REQUEST", "fms_statusRequest",
          "flightManagementSystem_statusRequest"]
        messageTypes := ["fms_statusRequest", "fmsStatusRequest"]
        destinations := ["flightmanagementsystem"]
        handler := "fms_status_handler" }),
    ("fms_status_response",
      { commandNames := ["FMS_STATUS_RESPONSE", "fms_statusResponse",
          "flightManagementSystem_statusResponse"]
        messageTypes := ["fms_statusResponse", "fmsStatusResponse"]
        destinations := ["display"]
        handler := "fms_status_handler" }),
    ("fms_attitude_update",
      { commandNames := ["FMS_ATTITUDE_UPDATE", "fms_attitudeUpdate",
          "flightManagementSystem_attitudeUpdate"]
        messageTypes := ["fms_attitudeUpdateRequest", "fmsAttitudeUpdateRequest"]
        destinations := ["flightmanagementsystem"]
        handler := "fms_attitude_handler" })]

/-- `_initialize_comms_special_cases`. -/
def initializeCommsSpecialCases : Dict String Rule :=
  [("comms_status_request",
      systemRule "COMMS_STATUS_REQUEST" "comms_statusRequest" "comms" "comms_handler"),
   ("comms_status_response",
      systemRule "COMMS_STATUS_RESPONSE" "comms_statusResponse" "display" "comms_handler"),
   ("comms_radio_freq",
      systemRule "COMMS_RADIO_FREQ_SET" "comms_radioFreqSet" "comms" "comms_handler"),
   ("comms_radio_mode",
      systemRule "COMMS_RADIO_MODE_SET" "comms_radioModeSet" "comms" "comms_handler"),
   ("comms_satcom_acquire",
      systemRule "COMMS_SATCOM_ACQUIRE" "comms_satcomAcquire" "comms" "comms_handler"),
   ("comms_datalink_mode",
      systemRule "COMMS_DATALINK_MODE_SET" "comms_datalinkModeSet" "comms" "comms_handler"),
   ("comms_transmit_radio",
      systemRule "COMMS_TRANSMIT_RADIO" "comms_transmitRadio" "comms" "comms_handler"),
   ("comms_send_satcom", systemRule "COMMS_SEND_SATCOM" "comms_sendSatcom" "comms" "comms_handler"),
   ("comms_send_datalink",
      systemRule "COMMS_SEND_DATALINK" "comms_sendDatalink" "comms" "comms_handler"),
   ("comms_data_update",
      systemRule "COMMS_DATA_UPDATE" "comms_dataUpdate" "display" "comms_handler")]

/-- `_initialize_mission_special_cases`. -/
def initializeMissionSpecialCases : Dict String Rule :=
  [("mission_status_request",
      systemRule "MISSION_STATUS_REQUEST" "mission_statusRequest" "missionplanning"
        "mission_handler"),
   ("mission_status_response",
      systemRule "MISSION_STATUS_RESPONSE" "mission_statusResponse" "display" "mission_handler"),
   ("mission_phase_set",
      systemRule "MISSION_PHASE_SET" "mission_phaseSet" "missionplanning" "mission_handler"),
   ("mission_phase_advance",
      systemRule "MISSION_PHASE_ADVANCE" "mission_phaseAdvance" "missionplanning"
        "mission_handler"),
   ("mission_waypoint_add",
      systemRule "MISSION_WAYPOINT_ADD" "mission_waypointAdd" "missionplanning" "mission_handler"),
   ("mission_waypoint_remove",
      systemRule "MISSION_WAYPOINT_REMOVE" "mission_waypointRemove" "missionplanning"
        "mission_handler"),
   ("mission_route_optimise",
      systemRule "MISSION_ROUTE_OPTIMISE" "mission_routeOptimise" "missionplanning"
        "mission_handler"),
   ("mission_target_designate",
      systemRule "MISSION_TARGET_DESIGNATE" "mission_targetDesignate" "missionplanning"
        "mission_handler"),
   ("mission_target_engage",
      systemRule "MISSION_TARGET_ENGAGE" "mission_targetEngage" "missionplanning"
        "mission_handler"),
   ("mission_target_bda",
      systemRule "MISSION_TARGET_BDA" "mission_targetBDA" "missionplanning" "mission_handler"),
   ("mission_target_update",
      systemRule "MISSION_TARGET_UPDATE" "mission_targetUpdate" "missionplanning"
        "mission_handler"),
   ("mission_unit_add",
      systemRule "MISSION_UNIT_ADD" "mission_unitAdd" "missionplanning" "mission_handler"),
   ("mission_unit_update",
      systemRule "MISSION_UNIT_UPDATE" "mission_unitUpdate" "missionplanning" "mission_handler"),
   ("mission_objectives_set",
      systemRule "MISSION_OBJECTIVES_SET" "mission_objectivesSet" "missionplanning"
        "mission_handler"),
   ("mission_roe_set",
      systemRule "MISSION_ROE_SET" "mission_roeSet" "missionplanning" "mission_handler"),
   ("mission_intel_update",
      systemRule "MISSION_INTEL_UPDATE" "mission_intelUpdate" "missionplanning" "mission_handler"),
   ("mission_data_update",
      systemRule "MISSION_DATA_UPDATE" "mission_dataUpdate" "display" "mission_handler")]

/-- `special_cases`, in the order in which the rules are registered. -/
def specialCases : Dict String Rule :=
  initializeSpecialCases ++ initializeCommsSpecialCases ++ initializeMissionSpecialCases

/-- The first rule with the message type. -/
def caseOfMessageType (messageType : Value) : Option (String × Rule) :=
  specialCases.find? fun e => listed messageType e.2.messageTypes

theorem listed_of_caseOfMessageType {v : Value} {e : String × Rule}
    (h : caseOfMessageType v = some e) : listed v e.2.messageTypes = true :=
  List.find?_some (p := fun e : String × Rule => listed v e.2.messageTypes) h

/-- `get_special_case`. -/
def getSpecialCase (messageType : Value) : Option Rule := (caseOfMessageType messageType).map Prod.snd

/-- The first rule with the command name. -/
def caseOfCommandName (commandName : Value) : Option (String × Rule) :=
  specialCases.find? fun e => listed commandName e.2.commandNames

/-- A lookup that is made only for a value that is there. -/
def lookup (find : Value → Option (String × Rule)) (v : Value) : Option (String × Rule) :=
  if v.truthy then find v else none

theorem lookup_eq_some {find : Value → Option (String × Rule)} {v : Value} {e : String × Rule}
    (h : lookup find v = some e) : find v = some e := by
  rw [lookup] at h
  split_ifs at h
  exact h

/-- Every rule leads somewhere, and nowhere twice. -/
theorem destinations_nodup : ∀ e ∈ specialCases, e.2.destinations ≠ [] ∧ e.2.destinations.Nodup := by
  decide +kernel

/-! ### The address book -/

structure System where
  address : ℤ
  subaddresses : Dict String ℤ

structure RoutingRegistry where
  systems : Dict String System
  rtAddresses : Dict ℤ String

namespace RoutingRegistry

/-- `get_system_by_rt_address`, which raises for an address that is not hashable. -/
def getSystemByRtAddress (registry : RoutingRegistry) (rtAddress : Value) :
    Except Exception (Option String) :=
  match rtAddress.key? with
  | none => .error .typeError
  | some key =>
    .ok ((registry.rtAddresses.find? fun e => (Value.int e.1).key? = some key).map Prod.snd)

/-- `get_rt_address_by_system`. -/
def getRtAddressBySystem (registry : RoutingRegistry) (systemId : String) : Value :=
  match registry.systems.get? systemId with
  | some system => .int system.address
  | none => .none

end RoutingRegistry

end Fmofp.Routing
