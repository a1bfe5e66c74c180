import Fmofp.FlightManagement.MessageProcessor
import Fmofp.Machine.Run

/-! Runs of the flight management system: its two modes agree, the mode word that it sends is theirs and
the active waypoint is one of the list, throughout the runs whose flight parameters leave them so. -/

namespace Fmofp.FlightManagement

open Python FlightControl Machine

inductive Operation where
  | setMode (mode : Value)
  | setFlightParameters (parameters : Value)
  | updateNavigation (latitude longitude altitude heading pitch roll : Value)
  | addWaypoint (name latitude longitude altitude waypointType : Value)
  | activateWaypoint (waypointId : Value)
  | processMessage (orientationSent : Bool) (message : Value)

/-- One call, with what it returns or raises. -/
def step (py : Runtime) (fms : FlightManagementSystem) :
    Operation → Except Exception Value × FlightManagementSystem
  | .setMode mode => (.ok (.bool (fms.setMode mode).1), (fms.setMode mode).2)
  | .setFlightParameters parameters =>
    ((fms.setFlightParameters parameters).1.map fun _ => .none, (fms.setFlightParameters parameters).2)
  | .updateNavigation latitude longitude altitude heading pitch roll =>
    (.ok .none, fms.updateNavigation latitude longitude altitude heading pitch roll)
  | .addWaypoint name latitude longitude altitude waypointType =>
    ((fms.addWaypoint name latitude longitude altitude waypointType).1.map .bool,
      (fms.addWaypoint name latitude longitude altitude waypointType).2)
  | .activateWaypoint waypointId =>
    ((fms.activateWaypoint waypointId).1.map .bool, (fms.activateWaypoint waypointId).2)
  | .processMessage orientationSent message =>
    (.ok (.bool (processMessage py orientationSent message fms).1),
      (processMessage py orientationSent message fms).2)

/-- The active waypoint is 0 or a valid index of the list. -/
def ValidWaypoint (waypoints active : Value) : Prop :=
  active.number? = some 0 ∨
    ∃ items n, waypoints = .list items ∧ active.int? = some n ∧ 0 ≤ n ∧ n < items.length

structure Coherent (py : Runtime) (fms : FlightManagementSystem) : Prop where
  mode : ∃ name ∈ validModes, Dict.get? fms.tactical "mode" = some (.str name)
  status : Dict.get? fms.status "mode" = Dict.get? fms.tactical "mode"
  word : ∀ words, fms.sendFmsData py = some words → ∃ w, words.getLast? = some w ∧
    (Dict.get? fmsModeValueToName w).map Value.str = Dict.get? fms.tactical "mode"
  waypoint : ValidWaypoint (Dict.getD fms.navigation "waypoints" .none)
    (Dict.getD fms.navigation "active_waypoint" .none)

/-! ### What keeps a system coherent -/

/-- The items of the navigation section, where the sections before it can be read. -/
def reachedNavigation (parameters : Value) : Message :=
  match sectionItems parameters "attitude", sectionItems parameters "velocity",
    sectionItems parameters "navigation" with
  | .ok _, .ok _, .ok items => items
  | _, _, _ => []

/-- The items of the tactical section, where the sections before it can be read. -/
def reachedTactical (parameters : Value) : Message :=
  match sectionItems parameters "attitude", sectionItems parameters "velocity",
    sectionItems parameters "navigation", sectionItems parameters "tactical" with
  | .ok _, .ok _, .ok _, .ok items => items
  | _, _, _, _ => []

/-- What a dictionary has at a key after items are copied to it. -/
def copied (d items : Message) (key : String) : Value :=
  ((Dict.get? items.reverse key).or (Dict.get? d key)).getD .none

/-- Flight parameters that give no other mode than the present one, and that leave an active waypoint
that is one. -/
def Harmless (parameters : Value) (fms : FlightManagementSystem) : Prop :=
  (∀ mode, Dict.get? (reachedTactical parameters).reverse "mode" = some mode →
    Dict.get? fms.tactical "mode" = some mode) ∧
  ValidWaypoint (copied fms.navigation (reachedNavigation parameters) "waypoints")
    (copied fms.navigation (reachedNavigation parameters) "active_waypoint")

/-- An activated waypoint is 0, or an integer where the waypoints are a list. -/
def Activates (waypointId : Value) (fms : FlightManagementSystem) : Prop :=
  fms.acceptsWaypoint waypointId = .ok true → waypointId.number? = some 0 ∨
    waypointId.int?.isSome = true ∧ (Dict.getD fms.navigation "waypoints" .none).list?.isSome = true

/-- A step whose flight parameters or whose activated waypoint leave the system coherent. -/
def Guard (fms : FlightManagementSystem) : Operation → Prop
  | .setFlightParameters parameters => Harmless parameters fms
  | .activateWaypoint waypointId => Activates waypointId fms
  | .processMessage _ (.dict fields) =>
    (Dict.getD fields "message_type" .none = .str "FMS_SET_FLIGHT_PARAMETERS" →
      ∀ parameters, (Dict.getD fields "data" (.dict [])).get "parameters" (.dict []) = .ok parameters →
        Harmless parameters fms) ∧
    (Dict.getD fields "message_type" .none = .str "FMS_ACTIVATE_WAYPOINT" →
      ∀ waypointId, (Dict.getD fields "data" (.dict [])).get "waypoint_id" (.int 0) = .ok waypointId →
        Activates waypointId fms)
  | _ => True

/-- What the run keeps: the coherent system without its words, and the keys of the route. -/
structure Settled (fms : FlightManagementSystem) : Prop where
  mode : ∃ name ∈ validModes, Dict.get? fms.tactical "mode" = some (.str name)
  status : Dict.get? fms.status "mode" = Dict.get? fms.tactical "mode"
  waypoint : ValidWaypoint (Dict.getD fms.navigation "waypoints" .none)
    (Dict.getD fms.navigation "active_waypoint" .none)
  hasWaypoints : Dict.has fms.navigation "waypoints" = true
  hasActive : Dict.has fms.navigation "active_waypoint" = true

/-! ### The mode word -/

theorem dataWords_last {py : Runtime} {fms : FlightManagementSystem} {words : List ℤ}
    (h : fms.dataWords py = .ok words) :
    words.getLast? = some (modeWord (Dict.getD fms.tactical "mode" .none)) := by
  unfold FlightManagementSystem.dataWords at h
  obtain ⟨roll, -, h⟩ := bind_eq_ok h
  obtain ⟨pitch, -, h⟩ := bind_eq_ok h
  obtain ⟨yaw, -, h⟩ := bind_eq_ok h
  obtain ⟨airspeed, -, h⟩ := bind_eq_ok h
  obtain ⟨verticalSpeed, -, h⟩ := bind_eq_ok h
  obtain ⟨altitude, -, h⟩ := bind_eq_ok h
  obtain ⟨heading, -, h⟩ := bind_eq_ok h
  obtain ⟨gForce, -, h⟩ := bind_eq_ok h
  obtain ⟨aoa, -, h⟩ := bind_eq_ok h
  obtain ⟨energyState, -, h⟩ := bind_eq_ok h
  cases h
  rfl

theorem modeWord_decodes {name : String} (h : name ∈ validModes) :
    Dict.get? fmsModeValueToName (modeWord (.str name)) = some name := by
  simp only [validModes, List.mem_cons, List.not_mem_nil, or_false] at h
  rcases h with rfl | rfl | rfl | rfl | rfl <;> decide +kernel

theorem Settled.coherent {fms : FlightManagementSystem} (h : Settled fms) (py : Runtime) :
    Coherent py fms := by
  obtain ⟨name, hname, hmode⟩ := h.mode
  refine ⟨h.mode, h.status, fun words hwords => ?_, h.waypoint⟩
  have hdata : fms.dataWords py = .ok words := by
    unfold FlightManagementSystem.sendFmsData at hwords
    split at hwords
    · cases hok : fms.dataWords py with
      | error e => rw [hok] at hwords; cases hwords
      | ok found => rw [hok] at hwords; cases hwords; rfl
    · cases hwords
  refine ⟨_, dataWords_last hdata, ?_⟩
  rw [Dict.getD, hmode, Option.getD_some, modeWord_decodes hname]
  rfl

theorem Settled.of_eq {fms fms' : FlightManagementSystem} (h : Settled fms)
    (htactical : fms'.tactical = fms.tactical) (hstatus : fms'.status = fms.status)
    (hnavigation : fms'.navigation = fms.navigation) : Settled fms' where
  mode := htactical ▸ h.mode
  status := by rw [hstatus, htactical, h.status]
  waypoint := hnavigation ▸ h.waypoint
  hasWaypoints := hnavigation ▸ h.hasWaypoints
  hasActive := hnavigation ▸ h.hasActive

/-! ### Flight parameters -/

theorem get?_copyKnown (d items : Message) {key : String} (h : Dict.has d key = true) :
    Dict.get? (copyKnown d items) key = (Dict.get? items.reverse key).or (Dict.get? d key) := by
  induction items generalizing d with
  | nil => rfl
  | cons e rest ih =>
    obtain ⟨k, v⟩ := e
    show Dict.get? (copyKnown (if Dict.has d k then Dict.set d k v else d) rest) key = _
    rw [List.reverse_cons, Dict.get?_append, Option.or_assoc]
    by_cases hk : Dict.has d k = true
    · rw [if_pos hk, ih _ (Dict.has_set_of_has h k v), Dict.get?_set]
      by_cases heq : k = key <;> simp [Dict.get?, heq]
    · have hne : k ≠ key := fun heq => hk (heq ▸ h)
      rw [if_neg hk, ih d h]
      simp [Dict.get?, hne]

theorem has_copyKnown {d : Message} (items : Message) {key : String} (h : Dict.has d key = true) :
    Dict.has (copyKnown d items) key = true := by
  obtain ⟨v, hv⟩ := Dict.has_iff.mp h
  rw [Dict.has, get?_copyKnown d items h, hv]
  cases Dict.get? items.reverse key <;> rfl

section

variable (parameters : Value) (fms : FlightManagementSystem)

/-- The sections that flight parameters reach before one of them fails, and the status, which they leave. -/
theorem setFlightParameters_sections :
    (fms.setFlightParameters parameters).2.navigation = copyKnown fms.navigation (reachedNavigation parameters) ∧
      (fms.setFlightParameters parameters).2.tactical = copyKnown fms.tactical (reachedTactical parameters) ∧
      (fms.setFlightParameters parameters).2.status = fms.status := by
  unfold FlightManagementSystem.setFlightParameters reachedNavigation reachedTactical
  cases sectionItems parameters "attitude" with
  | error e => exact ⟨rfl, rfl, rfl⟩
  | ok attitude => cases sectionItems parameters "velocity" with
    | error e => exact ⟨rfl, rfl, rfl⟩
    | ok velocity => cases sectionItems parameters "navigation" with
      | error e => exact ⟨rfl, rfl, rfl⟩
      | ok navigation => cases sectionItems parameters "tactical" <;> exact ⟨rfl, rfl, rfl⟩

theorem setFlightParameters_navigation : (fms.setFlightParameters parameters).2.navigation =
    copyKnown fms.navigation (reachedNavigation parameters) := (setFlightParameters_sections parameters fms).1

theorem setFlightParameters_tactical : (fms.setFlightParameters parameters).2.tactical =
    copyKnown fms.tactical (reachedTactical parameters) := (setFlightParameters_sections parameters fms).2.1

theorem setFlightParameters_status : (fms.setFlightParameters parameters).2.status = fms.status :=
  (setFlightParameters_sections parameters fms).2.2

variable {parameters fms}

theorem getD_copyKnown {d : Message} (items : Message) {key : String} (h : Dict.has d key = true) :
    Dict.getD (copyKnown d items) key .none = copied d items key := by
  rw [Dict.getD, get?_copyKnown d items h, copied]

/-- The mode after flight parameters: theirs, if they give one. -/
theorem setFlightParameters_mode (h : Settled fms) :
    Dict.get? (fms.setFlightParameters parameters).2.tactical "mode" =
      (Dict.get? (reachedTactical parameters).reverse "mode").or (Dict.get? fms.tactical "mode") := by
  obtain ⟨name, -, hmode⟩ := h.mode
  rw [setFlightParameters_tactical, get?_copyKnown _ _ (Dict.has_iff.mpr ⟨_, hmode⟩)]

theorem Settled.setFlightParameters (h : Settled fms) (hguard : Harmless parameters fms) :
    Settled (fms.setFlightParameters parameters).2 := by
  have hmode : Dict.get? (fms.setFlightParameters parameters).2.tactical "mode" =
      Dict.get? fms.tactical "mode" := by
    rw [setFlightParameters_mode h]
    cases hgiven : Dict.get? (reachedTactical parameters).reverse "mode" with
    | none => rfl
    | some mode => exact (hguard.1 mode hgiven).symm
  refine ⟨?_, ?_, ?_, ?_, ?_⟩
  · rw [hmode]
    exact h.mode
  · rw [hmode, setFlightParameters_status]
    exact h.status
  · rw [setFlightParameters_navigation, getD_copyKnown _ h.hasWaypoints, getD_copyKnown _ h.hasActive]
    exact hguard.2
  · rw [setFlightParameters_navigation]
    exact has_copyKnown _ h.hasWaypoints
  · rw [setFlightParameters_navigation]
    exact has_copyKnown _ h.hasActive

theorem Settled.not_coherent_setFlightParameters (h : Settled fms) (hguard : ¬Harmless parameters fms)
    (py : Runtime) : ¬Coherent py (fms.setFlightParameters parameters).2 := by
  intro hcoherent
  refine hguard ⟨fun mode hgiven => ?_, ?_⟩
  · have hstatus := hcoherent.status
    rw [setFlightParameters_status, h.status, setFlightParameters_mode h, hgiven] at hstatus
    exact hstatus
  · have hwaypoint := hcoherent.waypoint
    rwa [setFlightParameters_navigation, getD_copyKnown _ h.hasWaypoints,
      getD_copyKnown _ h.hasActive] at hwaypoint

end

/-! ### The other methods -/

section

variable {fms : FlightManagementSystem} (h : Settled fms)

include h

theorem Settled.setMode (mode : Value) : Settled (fms.setMode mode).2 := by
  cases mode with
  | str name =>
    unfold FlightManagementSystem.setMode
    by_cases hname : name ∈ validModes
    · simp only [hname, not_true_eq_false, if_false]
      exact ⟨⟨name, hname, Dict.get?_set_self _ _ _⟩, by simp, h.waypoint, h.hasWaypoints, h.hasActive⟩
    · simp only [hname, not_false_eq_true, if_true]
      exact h
  | _ => exact h

omit h in
theorem get?_assign {d : Message} {k key : String} (v : Value) (hne : k ≠ key) :
    Dict.get? (FlightManagementSystem.assign d k v) key = Dict.get? d key := by
  unfold FlightManagementSystem.assign
  split
  · rfl
  · exact Dict.get?_set_ne d v hne

/-- What changes no key of the route leaves the system settled. -/
theorem Settled.navigation {navigation : Message}
    (hwaypoints : Dict.get? navigation "waypoints" = Dict.get? fms.navigation "waypoints")
    (hactive : Dict.get? navigation "active_waypoint" = Dict.get? fms.navigation "active_waypoint")
    (attitude : Message) : Settled { fms with navigation := navigation, attitude := attitude } where
  mode := h.mode
  status := h.status
  waypoint := by
    have hvalid := h.waypoint
    unfold Dict.getD at hvalid ⊢
    rwa [hwaypoints, hactive]
  hasWaypoints := by
    have hhas := h.hasWaypoints
    unfold Dict.has at hhas ⊢
    rwa [hwaypoints]
  hasActive := by
    have hhas := h.hasActive
    unfold Dict.has at hhas ⊢
    rwa [hactive]

theorem Settled.updateNavigation (latitude longitude altitude heading pitch roll : Value) :
    Settled (fms.updateNavigation latitude longitude altitude heading pitch roll) := by
  unfold FlightManagementSystem.updateNavigation
  apply h.navigation
  · rw [get?_assign _ (by decide), get?_assign _ (by decide), get?_assign _ (by decide),
      get?_assign _ (by decide)]
  · rw [get?_assign _ (by decide), get?_assign _ (by decide), get?_assign _ (by decide),
      get?_assign _ (by decide)]

theorem Settled.addWaypoint (name latitude longitude altitude waypointType : Value) :
    Settled (fms.addWaypoint name latitude longitude altitude waypointType).2 := by
  unfold FlightManagementSystem.addWaypoint
  dsimp only
  split
  · exact h
  · split
    · next items hitems =>
      refine ⟨h.mode, h.status, ?_, Dict.has_set_of_has h.hasWaypoints _ _, Dict.has_set_of_has h.hasActive _ _⟩
      dsimp only
      rw [Dict.getD_set_self, Dict.getD_set_ne _ (by decide)]
      rcases h.waypoint with hzero | ⟨items', n, hlist, hint, hnonneg, hlt⟩
      · exact .inl hzero
      · cases hitems.symm.trans hlist
        refine .inr ⟨_, n, rfl, hint, hnonneg, ?_⟩
        rw [List.length_append]
        push_cast
        omega
    · exact h

omit h in
/-- What is accepted as a waypoint is valid exactly when it is 0 or an integer in a list. -/
theorem validWaypoint_iff {waypointId : Value} (haccepts : fms.acceptsWaypoint waypointId = .ok true) :
    ValidWaypoint (Dict.getD fms.navigation "waypoints" .none) waypointId ↔
      waypointId.number? = some 0 ∨ waypointId.int?.isSome = true ∧
        (Dict.getD fms.navigation "waypoints" .none).list?.isSome = true := by
  constructor
  · rintro (hzero | ⟨items, n, hlist, hint, -⟩)
    · exact .inl hzero
    · exact .inr ⟨by rw [hint]; rfl, by rw [hlist]; rfl⟩
  · rintro (hzero | ⟨hint, hlist⟩)
    · exact .inl hzero
    · obtain ⟨n, hn⟩ := Option.isSome_iff_exists.mp hint
      obtain ⟨items, hitems⟩ := Option.isSome_iff_exists.mp hlist
      rw [Value.list?_eq_some] at hitems
      have hnumber := Value.number?_of_int? hn
      unfold FlightManagementSystem.acceptsWaypoint at haccepts
      rw [hnumber, hitems] at haccepts
      dsimp only at haccepts
      split at haccepts
      · next hnonneg =>
        refine .inr ⟨items, n, hitems, hn, by exact_mod_cast hnonneg, ?_⟩
        have hlt : (n : ℚ) < (items.length : ℚ) := by
          simpa [Value.length, bind, Except.bind, pure, Except.pure] using haccepts
        exact_mod_cast hlt
      · cases haccepts

theorem Settled.activateWaypoint {waypointId : Value} (hguard : Activates waypointId fms) :
    Settled (fms.activateWaypoint waypointId).2 := by
  unfold FlightManagementSystem.activateWaypoint
  split
  · next haccepts =>
    refine ⟨h.mode, h.status, ?_, Dict.has_set_of_has h.hasWaypoints _ _, Dict.has_set_of_has h.hasActive _ _⟩
    dsimp only
    rw [Dict.getD_set_self, Dict.getD_set_ne _ (by decide)]
    exact (validWaypoint_iff haccepts).mpr (hguard haccepts)
  · exact h

omit h in
theorem activateWaypoint_navigation {waypointId : Value}
    (haccepts : fms.acceptsWaypoint waypointId = .ok true) :
    (fms.activateWaypoint waypointId).2.navigation =
      Dict.set fms.navigation "active_waypoint" waypointId := by
  rw [FlightManagementSystem.activateWaypoint, haccepts]

omit h in
theorem not_coherent_activateWaypoint {waypointId : Value} (hguard : ¬Activates waypointId fms)
    (py : Runtime) : ¬Coherent py (fms.activateWaypoint waypointId).2 := by
  intro hcoherent
  refine hguard fun haccepts => (validWaypoint_iff haccepts).mp ?_
  have hwaypoint := hcoherent.waypoint
  rwa [activateWaypoint_navigation haccepts, Dict.getD_set_self, Dict.getD_set_ne _ (by decide)] at hwaypoint

/-! ### Messages -/

theorem Settled.handleModeChange (message : Message) :
    Settled (handleModeChange message fms).2 := by
  unfold FlightManagement.handleModeChange changeToNamed
  split
  · split
    · split
      · split
        · exact h.setMode _
        · exact h
      · split
        · exact h.setMode _
        · exact h
    · split
      · exact h.setMode _
      · exact h
  · exact h

theorem Settled.handleFcsModeChange (message : Message) :
    Settled (handleFcsModeChange message fms).2 := by
  unfold FlightManagement.handleFcsModeChange
  split
  · exact h
  · dsimp only
    split
    · exact h.of_eq rfl rfl rfl
    · exact h

theorem Settled.handleSetMode (payload : Value) : Settled (handleSetMode payload fms).2 := by
  unfold FlightManagement.handleSetMode
  split
  · split
    · split
      · exact h.setMode _
      · exact h
    · exact h
  · exact h

theorem Settled.handleAddWaypoint (payload : Value) :
    Settled (handleAddWaypoint payload fms).2 := by
  unfold FlightManagement.handleAddWaypoint
  split
  · exact h.addWaypoint _ _ _ _ _
  · exact h

theorem Settled.handleControlInputMessage (py : Runtime) (message : Message) :
    Settled (handleControlInputMessage py message fms).2 := by
  unfold FlightManagement.handleControlInputMessage
  split
  · exact h.of_eq rfl rfl rfl
  · exact h

theorem Settled.process1553bMessage (py : Runtime) (orientationSent : Bool) (message : Message) :
    Settled (process1553bMessage py orientationSent message fms).2 := by
  unfold FlightManagement.process1553bMessage
  dsimp only
  split_ifs
  · exact h.handleModeChange message
  · exact h
  · exact h
  · exact h.handleControlInputMessage py message
  · exact h
  · exact h

theorem Settled.processFcsCommand (py : Runtime) (message : Message) :
    Settled (processFcsCommand py message fms).2 := by
  unfold FlightManagement.processFcsCommand
  split
  · exact h.handleFcsModeChange message
  · split
    · exact h.handleControlInputMessage py message
    · exact h

theorem Settled.processUntyped (py : Runtime) (orientationSent : Bool) (message : Message) :
    Settled (processUntyped py orientationSent message fms).2 := by
  unfold FlightManagement.processUntyped
  split
  · exact h.handleControlInputMessage py message
  · split
    · exact h
    · exact h
  · exact h

end

/-- A message comes to the flight parameters, to the waypoint that it activates, or to what leaves the
system settled. -/
theorem processMessage_cases (py : Runtime) (orientationSent : Bool) (fields : Message)
    (fms : FlightManagementSystem) :
    (Dict.getD fields "message_type" .none = .str "FMS_SET_FLIGHT_PARAMETERS" ∧
      (processMessage py orientationSent (.dict fields) fms).2 =
        (handleSetFlightParameters (Dict.getD fields "data" (.dict [])) fms).2) ∨
    (Dict.getD fields "message_type" .none = .str "FMS_ACTIVATE_WAYPOINT" ∧
      (processMessage py orientationSent (.dict fields) fms).2 =
        (handleActivateWaypoint (Dict.getD fields "data" (.dict [])) fms).2) ∨
    Dict.getD fields "message_type" .none ≠ .str "FMS_SET_FLIGHT_PARAMETERS" ∧
      Dict.getD fields "message_type" .none ≠ .str "FMS_ACTIVATE_WAYPOINT" ∧
      (Settled fms → Settled (processMessage py orientationSent (.dict fields) fms).2) := by
  have hdefault : ∀ s, s ≠ "" → (Dict.getD fields "message_type" (.str "") = .str s ↔
      Dict.getD fields "message_type" .none = .str s) := by
    intro s hs
    unfold Dict.getD
    cases Dict.get? fields "message_type" with
    | none => simp [hs.symm]
    | some v => rfl
  unfold processMessage processTraditionalMessage
  dsimp only
  simp only [hdefault _ (show "FMS_SET_MODE" ≠ "" by decide),
    hdefault _ (show "FMS_SET_FLIGHT_PARAMETERS" ≠ "" by decide),
    hdefault _ (show "FMS_ADD_WAYPOINT" ≠ "" by decide),
    hdefault _ (show "FMS_ACTIVATE_WAYPOINT" ≠ "" by decide),
    hdefault _ (show "flight_control_systemCommand" ≠ "" by decide)]
  generalize Dict.getD fields "message_type" .none = messageType
  by_cases hparameters : messageType = .str "FMS_SET_FLIGHT_PARAMETERS"
  · exact .inl ⟨hparameters, by simp [hparameters]⟩
  by_cases hactivate : messageType = .str "FMS_ACTIVATE_WAYPOINT"
  · exact .inr (.inl ⟨hactivate, by simp [hactivate]⟩)
  refine .inr (.inr ⟨hparameters, hactivate, fun h => ?_⟩)
  rw [if_neg hparameters, if_neg hactivate]
  split_ifs
  · exact h.process1553bMessage py orientationSent fields
  · exact h.handleSetMode _
  · exact h.handleAddWaypoint _
  · exact h.processFcsCommand py fields
  · exact h.processUntyped py orientationSent fields

/-- What is got of the payload decides about flight parameters and waypoints. -/
theorem settled_processMessage (py : Runtime) (orientationSent : Bool) (message : Value)
    {fms : FlightManagementSystem} (h : Settled fms)
    (hguard : Guard fms (.processMessage orientationSent message)) :
    Settled (processMessage py orientationSent message fms).2 := by
  cases message with
  | dict fields =>
    rcases processMessage_cases py orientationSent fields fms with ⟨htype, heq⟩ | ⟨htype, heq⟩ | ⟨-, -, hkeeps⟩
    · rw [heq]
      unfold handleSetFlightParameters
      cases hget : (Dict.getD fields "data" (.dict [])).get "parameters" (.dict []) with
      | error e => exact h
      | ok parameters => exact h.setFlightParameters (hguard.1 htype parameters hget)
    · rw [heq]
      unfold handleActivateWaypoint
      cases hget : (Dict.getD fields "data" (.dict [])).get "waypoint_id" (.int 0) with
      | error e => exact h
      | ok waypointId => exact h.activateWaypoint (hguard.2 htype waypointId hget)
    · exact hkeeps h
  | _ => exact h

theorem settled_step (py : Runtime) {fms : FlightManagementSystem} {operation : Operation}
    (h : Settled fms) (hguard : Guard fms operation) : Settled (step py fms operation).2 := by
  cases operation with
  | setMode mode => exact h.setMode mode
  | setFlightParameters parameters => exact h.setFlightParameters hguard
  | updateNavigation latitude longitude altitude heading pitch roll =>
    exact h.updateNavigation latitude longitude altitude heading pitch roll
  | addWaypoint name latitude longitude altitude waypointType =>
    exact h.addWaypoint name latitude longitude altitude waypointType
  | activateWaypoint waypointId => exact h.activateWaypoint hguard
  | processMessage orientationSent message =>
    exact settled_processMessage py orientationSent message h hguard

theorem not_coherent_step (py : Runtime) {fms : FlightManagementSystem} {operation : Operation}
    (h : Settled fms) (hguard : ¬Guard fms operation) : ¬Coherent py (step py fms operation).2 := by
  cases operation with
  | setFlightParameters parameters => exact h.not_coherent_setFlightParameters hguard py
  | activateWaypoint waypointId => exact not_coherent_activateWaypoint hguard py
  | processMessage orientationSent message =>
    cases message with
    | dict fields =>
      show ¬Coherent py (processMessage py orientationSent (.dict fields) fms).2
      rcases processMessage_cases py orientationSent fields fms with
        ⟨htype, heq⟩ | ⟨htype, heq⟩ | ⟨hparameters, hactivate, -⟩
      · rw [heq]
        have hbad : ∃ parameters, (Dict.getD fields "data" (.dict [])).get "parameters" (.dict []) =
            .ok parameters ∧ ¬Harmless parameters fms := by
          by_contra hnone
          push Not at hnone
          exact hguard ⟨fun _ => hnone, fun hother => by rw [htype] at hother; simp at hother⟩
        obtain ⟨parameters, hget, hharm⟩ := hbad
        rw [handleSetFlightParameters, hget]
        exact h.not_coherent_setFlightParameters hharm py
      · rw [heq]
        have hbad : ∃ waypointId, (Dict.getD fields "data" (.dict [])).get "waypoint_id" (.int 0) =
            .ok waypointId ∧ ¬Activates waypointId fms := by
          by_contra hnone
          push Not at hnone
          exact hguard ⟨fun hother => by rw [htype] at hother; simp at hother, fun _ => hnone⟩
        obtain ⟨waypointId, hget, hinvalid⟩ := hbad
        rw [handleActivateWaypoint, hget]
        exact not_coherent_activateWaypoint hinvalid py
      · exact absurd ⟨fun htype => absurd htype hparameters, fun htype => absurd htype hactivate⟩ hguard
    | _ => exact absurd trivial hguard
  | _ => exact absurd trivial hguard

theorem settled_initial (fcs : Option FlightControlSystem) (hasMessenger : Bool) :
    Settled (.initial fcs hasMessenger) where
  mode := ⟨"NORMAL", by decide, rfl⟩
  status := rfl
  waypoint := .inl rfl
  hasWaypoints := rfl
  hasActive := rfl

/-- The modes, the mode word and the active waypoint are right throughout a run exactly when no flight
parameters and no activated waypoint break them. -/
theorem coherent_throughout_iff (py : Runtime) (fcs : Option FlightControlSystem)
    (hasMessenger : Bool) (operations : List Operation) :
    Along (step py) Guard (.initial fcs hasMessenger) operations ↔
      ∀ before, before <+: operations →
        Coherent py (final (step py) (.initial fcs hasMessenger) before) :=
  along_iff_of_exact (fun _ _ h hguard => settled_step py h hguard) (fun _ h => h.coherent py)
    (fun _ _ h hguard => not_coherent_step py h hguard) (settled_initial fcs hasMessenger) operations

/-- Flight parameters put the system into a mode that its status does not have. -/
theorem parameters_split_modes :
    ¬Coherent .ascii (final (step .ascii) (.initial none true)
      [.setFlightParameters (.dict [("tactical", .dict [("mode", .str "COMBAT")])])]) := by
  intro h
  have hstatus := h.status
  revert hstatus
  decide +kernel

end Fmofp.FlightManagement
