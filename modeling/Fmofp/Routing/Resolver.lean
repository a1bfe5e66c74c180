import Fmofp.Routing.Registry

/-! The route resolver: the destinations of a special case, or else those of the terminal address and of
what the message says about itself. -/

namespace Fmofp.Routing

open Python
open LoopPrevention (Subject)

/-- The object has the attribute, or the message is a dictionary. -/
def hasMessageType : Subject → Bool
  | .dict _ => true
  | .object _ attributes => Dict.has attributes "message_type"
  | .plain => false

/-- `_resolve_special_cases`: the command name of an object counts only if it has a message type. -/
def resolveSpecialCases (m : Subject) : Option (List String) :=
  let messageType := m.field "message_type"
  let commandName := if hasMessageType m then m.field "command_name" else .none
  match lookup caseOfMessageType messageType with
  | some e => some e.2.destinations
  | none =>
    match lookup caseOfCommandName commandName with
    | some e => some e.2.destinations
    | none => none

/-- `_resolve_by_rt_address`. -/
def resolveByRtAddress (registry : RoutingRegistry) (m : Subject) : Except Exception (List String) :=
  let rtAddress := m.field "rt_address"
  if rtAddress = .none then .ok []
  else do
    match ← registry.getSystemByRtAddress rtAddress with
    | none => pure []
    | some "" => pure []
    | some "radar" => pure ["radar"]
    | some "displays" => pure ["display"]
    | some "flightManagementSystem" => pure ["flightmanagementsystem"]
    | some systemId => pure [systemId]

def addDestination (destinations : List String) (destination : String) : List String :=
  if destination ∈ destinations then destinations else destinations ++ [destination]

/-- The prefixes of message types that name a system. -/
def typePrefixes : List (String × List String) :=
  [("radar", ["radar_", "weather_radar_", "tfr_radar_", "sar_radar_", "targeting_radar_",
      "aewc_radar_"]),
    ("display", ["display_", "displays_"]),
    ("flightmanagementsystem", ["fms_", "flightManagementSystem", "flightmanagementsystem"])]

/-- The prefixes of command names that name a system. -/
def commandPrefixes : List (String × List String) :=
  [("radar", ["RADAR_", "WEATHER_RADAR_", "TFR_RADAR_", "SAR_RADAR_", "TARGETING_RADAR_",
      "AEWC_RADAR_"]),
    ("display", ["DISPLAY_", "DISPLAYS_"]),
    ("flightmanagementsystem", ["FMS_", "FLIGHT_MANAGEMENT_"])]

/-- The destination that metadata names, and the one of the system that it comes from. -/
def destinationOf (v : Value) : Option String :=
  if listed v ["radar_handler", "radar_system", "weather_radar"] then some "radar"
  else if listed v ["display_handler", "display_system"] then some "display"
  else if listed v ["flightmanagementsystem", "flightManagementSystem", "fms_handler", "fms_system"] then
    some "flightmanagementsystem"
  else none

def sourceOf (v : Value) : Option String :=
  if listed v ["weather_radar"] then some "radar"
  else if listed v ["display_system"] then some "display"
  else if listed v ["flightmanagementsystem", "flightManagementSystem", "fms"] then
    some "flightmanagementsystem"
  else none

/-- The systems one of whose prefixes a text matches are added. -/
def addMatching (table : List (String × List String)) (hit : String → Bool)
    (destinations : List String) : List String :=
  table.foldl (fun acc e => if e.2.any hit then addDestination acc e.1 else acc) destinations

/-- `_resolve_by_content`, which raises for a command name that is no text. -/
def resolveByContent (py : Runtime) (m : Subject) : Except Exception (List String) := do
  let byType := match m.field "message_type" with
    | .str s =>
      if s = "" then []
      else addMatching typePrefixes (fun p => startsWith s p || contains (py.lower s) p) []
    | _ => []
  let byCommand ← match m.field "command_name" with
    | .str s => pure (if s = "" then byType else addMatching commandPrefixes (startsWith s) byType)
    | v => if v.truthy then .error .attributeError else pure byType
  match metadataOf m with
  | none => pure byCommand
  | some metadata =>
    let named := (Dict.get? metadata "destination").bind destinationOf
    let source := (Dict.get? metadata "source_system").bind sourceOf
    pure ((named.toList ++ source.toList).foldl addDestination byCommand)

/-- The destinations of a message that is no special case. -/
def resolveDefault (py : Runtime) (registry : RoutingRegistry) (m : Subject) : List String :=
  match (do
    let byAddress ← resolveByRtAddress registry m
    let byContent ← resolveByContent py m
    pure (byContent.foldl addDestination byAddress) : Except Exception (List String)) with
  | .ok destinations => destinations
  | .error _ => []

/-- `resolve_routes`. -/
def resolveRoutes (py : Runtime) (registry : RoutingRegistry) (m : Subject) : List String :=
  match resolveSpecialCases m with
  | some (destination :: rest) => destination :: rest
  | _ => resolveDefault py registry m

/-! ### Destinations -/

theorem addDestination_nodup {destinations : List String} (h : destinations.Nodup) (d : String) :
    (addDestination destinations d).Nodup := by
  rw [addDestination]
  split_ifs with hmem
  · exact h
  · apply List.Nodup.append h (List.nodup_singleton d)
    intro x hx hd
    rw [List.mem_singleton] at hd
    exact hmem (hd ▸ hx)

theorem foldl_addDestination_nodup {destinations : List String} (h : destinations.Nodup)
    (more : List String) : (more.foldl addDestination destinations).Nodup := by
  induction more generalizing destinations with
  | nil => exact h
  | cons d rest ih => exact ih (addDestination_nodup h d)

theorem resolveByRtAddress_nodup {registry : RoutingRegistry} {m : Subject} {destinations : List String}
    (h : resolveByRtAddress registry m = .ok destinations) : destinations.Nodup := by
  rw [resolveByRtAddress] at h
  split_ifs at h
  · cases h
    exact List.nodup_nil
  · cases hsystem : registry.getSystemByRtAddress (m.field "rt_address") with
    | error e =>
      rw [hsystem] at h
      cases h
    | ok systemId =>
      rw [hsystem] at h
      dsimp only [Bind.bind, Except.bind, Pure.pure, Except.pure] at h
      split at h <;>
      · cases h
        simp

theorem resolveDefault_nodup (py : Runtime) (registry : RoutingRegistry) (m : Subject) :
    (resolveDefault py registry m).Nodup := by
  rw [resolveDefault]
  cases haddress : resolveByRtAddress registry m with
  | error e => exact List.nodup_nil
  | ok byAddress =>
    cases hcontent : resolveByContent py m with
    | error e => exact List.nodup_nil
    | ok byContent => exact foldl_addDestination_nodup (resolveByRtAddress_nodup haddress) byContent

/-- The destinations of a special case are those of its rule. -/
theorem resolveSpecialCases_eq_some {m : Subject} {destinations : List String}
    (h : resolveSpecialCases m = some destinations) :
    ∃ e ∈ specialCases, destinations = e.2.destinations := by
  rw [resolveSpecialCases] at h
  split at h
  · rename_i e he
    cases h
    exact ⟨e, List.mem_of_find?_eq_some (lookup_eq_some he), rfl⟩
  · split at h
    · rename_i e he
      cases h
      exact ⟨e, List.mem_of_find?_eq_some (lookup_eq_some he), rfl⟩
    · cases h

/-- No message is routed to one destination twice. -/
theorem resolveRoutes_nodup (py : Runtime) (registry : RoutingRegistry) (m : Subject) :
    (resolveRoutes py registry m).Nodup := by
  rw [resolveRoutes]
  split
  · rename_i destination rest hspecial
    obtain ⟨e, he, heq⟩ := resolveSpecialCases_eq_some hspecial
    rw [heq]
    exact (destinations_nodup e he).2
  · exact resolveDefault_nodup py registry m

/-- A special case is routed by its rule. -/
theorem resolveRoutes_of_rule {py : Runtime} {registry : RoutingRegistry} {m : Subject}
    {e : String × Rule} (he : e ∈ specialCases) (h : resolveSpecialCases m = some e.2.destinations) :
    resolveRoutes py registry m = e.2.destinations := by
  rw [resolveRoutes, h]
  have hne := (destinations_nodup e he).1
  cases hlist : e.2.destinations with
  | nil => exact absurd hlist hne
  | cons destination rest => rfl

end Fmofp.Routing
