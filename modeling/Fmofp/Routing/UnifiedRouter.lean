import Fmofp.Routing.Registry
import Fmofp.LoopPrevention.Service
import Fmofp.Routing.Resolver

/-! The message transformer: a copy of the message for each destination, with routing metadata, the
address of the destination and, for some message types, the command of their special case. -/

namespace Fmofp.Routing

open Python
open LoopPrevention (Subject)

/-- `_object_to_dict`, or the copy of a dictionary. -/
def objectToDict : Subject → Message
  | .dict entries => entries
  | .object _ attributes =>
    if attributes.flag "request_uuid" && !Dict.has attributes "request_id" then
      Dict.set attributes "request_id" (Dict.getD attributes "request_uuid" .none)
    else attributes
  | .plain => []

/-- The readings of the clock while the copy for a destination is made. -/
structure Stamps where
  routed : ℚ
  history : ℚ

/-- The routing entries of the metadata, which fail on a history that is no list. -/
def routingMetadata (stamps : Stamps) (destination : String) (metadata : Message) :
    Except Exception Message :=
  let routed := Dict.set (Dict.set metadata "routed_to" (.str destination)) "routing_timestamp"
    (.float stamps.routed)
  match Dict.getD routed "route_history" (.list []) with
  | .list history =>
    let entry := .dict [("destination", .str destination), ("timestamp", .float stamps.history)]
    .ok (Dict.set routed "route_history" (.list (history ++ [entry])))
  | _ => .error .attributeError

/-- `_add_routing_metadata`, which fails on metadata that is no dictionary. -/
def addRoutingMetadata (stamps : Stamps) (destination : String) (message : Message) :
    Except Exception Message :=
  match Dict.getD message "metadata" (.dict []) with
  | .dict metadata =>
    (routingMetadata stamps destination metadata).map fun metadata =>
      Dict.set message "metadata" (.dict metadata)
  | _ => .error .typeError

/-- The command types that the transformer has for the ids of rules. -/
def commandTypeOf (caseId : String) : Option String :=
  if caseId = "vil_data" then some "vilData"
  else if caseId = "precipitation_data" then some "precipitationData"
  else if caseId = "mode_change" then some "modeChange"
  else none

/-- The command type that a message type is rewritten to: that of the first rule that has the type and
an id with a command type. -/
def rewrittenType (messageType : Value) : Option String :=
  (specialCases.find? fun e =>
    listed messageType e.2.messageTypes && (commandTypeOf e.1).isSome).bind fun e => commandTypeOf e.1

/-- What the transformations for radar and display share; the names of their commands begin with
`label`. -/
def transformForSystem (registry : RoutingRegistry) (systemId systemType label : String)
    (message : Message) : Message :=
  let addressed := Dict.set message "rt_address" (registry.getRtAddressBySystem systemId)
  let typed := Dict.set addressed "metadata"
    (.dict (Dict.set ((Dict.getD addressed "metadata" .none).dict?.getD []) "system_type"
      (.str systemType)))
  match (Dict.get? typed "message_type").bind rewrittenType with
  | some commandType =>
    Dict.set (Dict.set typed "command_type" (.str commandType)) "command_name"
      (.str (label ++ commandType))
  | none => typed

/-- `_transform_for_radar`. -/
def transformForRadar (registry : RoutingRegistry) : Message → Message :=
  transformForSystem registry "radar" "radar" "radar_"

/-- `_transform_for_display`. -/
def transformForDisplay (registry : RoutingRegistry) : Message → Message :=
  transformForSystem registry "displays" "display" "displays_"

/-- A field of the message that has a value is put into its metadata, if that does not have it. -/
def preserveField (k : String) (message : Message) : Message :=
  let metadata := (Dict.getD message "metadata" .none).dict?.getD []
  if message.flag k && !Dict.has metadata k then
    Dict.set message "metadata" (.dict (Dict.set metadata k (Dict.getD message k .none)))
  else message

/-- The copy for one destination. -/
def transformFor (registry : RoutingRegistry) (stamps : Stamps) (m : Subject) (destination : String) :
    Except Exception Message :=
  (addRoutingMetadata stamps destination (objectToDict m)).map fun message =>
    let transformed :=
      if destination = "radar" then transformForRadar registry message
      else if destination = "display" then transformForDisplay registry message
      else message
    preserveField "request_id" (preserveField "command_name" transformed)

/-- The copies for the destinations that are left. -/
def transformEach (registry : RoutingRegistry) (clock : String → Stamps) (m : Subject) :
    List String → Dict String Message → Except Exception (Dict String Message)
  | [], copies => .ok copies
  | destination :: rest, copies =>
    match transformFor registry (clock destination) m destination with
    | .ok message => transformEach registry clock m rest (Dict.set copies destination message)
    | .error e => .error e

/-- `transform_message`: the copies for all destinations, or none if one of them fails. -/
def transformMessage (registry : RoutingRegistry) (clock : String → Stamps) (m : Subject)
    (destinations : List String) : Dict String Message :=
  match transformEach registry clock m destinations [] with
  | .ok copies => copies
  | .error _ => []

/-! ### When a copy can be made -/

/-- The message has no metadata, or a dictionary in which the route history, if there is one, is a
list. -/
def Stampable (m : Subject) : Prop :=
  ∃ metadata, Dict.getD (entriesOf m) "metadata" (.dict []) = .dict metadata ∧
    ∃ history, Dict.getD metadata "route_history" (.list []) = .list history

instance (m : Subject) : Decidable (Stampable m) :=
  match hmetadata : Dict.getD (entriesOf m) "metadata" (.dict []) with
  | .dict metadata =>
    match hhistory : Dict.getD metadata "route_history" (.list []) with
    | .list history => .isTrue ⟨metadata, hmetadata, history, hhistory⟩
    | .none | .bool _ | .int _ | .float _ | .str _ | .tuple _ | .dict _ =>
      .isFalse fun ⟨_, h, _, h'⟩ => by
        rw [hmetadata] at h
        cases h
        rw [hhistory] at h'
        cases h'
  | .none | .bool _ | .int _ | .float _ | .str _ | .tuple _ | .list _ =>
    .isFalse fun ⟨_, h, _⟩ => by
      rw [hmetadata] at h
      cases h

theorem get?_objectToDict {m : Subject} {k : String} (h : k ≠ "request_id") :
    Dict.get? (objectToDict m) k = Dict.get? (entriesOf m) k := by
  cases m with
  | dict entries => rfl
  | object className attributes =>
    rw [objectToDict, entriesOf]
    split_ifs
    · exact Dict.get?_set_ne attributes _ h.symm
    · rfl
  | plain => rfl

theorem addRoutingMetadata_ok_iff (stamps : Stamps) (destination : String) (m : Subject) :
    (∃ message, addRoutingMetadata stamps destination (objectToDict m) = .ok message) ↔ Stampable m := by
  have hsame : Dict.getD (objectToDict m) "metadata" (.dict []) =
      Dict.getD (entriesOf m) "metadata" (.dict []) := by
    rw [Dict.getD, Dict.getD, get?_objectToDict (by decide)]
  have hhistory : ∀ metadata : Message, Dict.getD (Dict.set (Dict.set metadata "routed_to"
      (.str destination)) "routing_timestamp" (.float stamps.routed)) "route_history" (.list []) =
      Dict.getD metadata "route_history" (.list []) := by
    intro metadata
    rw [Dict.getD, Dict.getD, Dict.get?_set_ne _ _ (by decide), Dict.get?_set_ne _ _ (by decide)]
  rw [addRoutingMetadata, hsame]
  constructor
  · rintro ⟨message, h⟩
    split at h
    · rename_i metadata hmetadata
      rw [routingMetadata, hhistory] at h
      split at h
      · rename_i history hlist
        exact ⟨metadata, hmetadata, history, hlist⟩
      · cases h
    · cases h
  · rintro ⟨metadata, hmetadata, history, hlist⟩
    rw [hmetadata]
    dsimp only
    rw [routingMetadata, hhistory, hlist]
    exact ⟨_, rfl⟩

/-- Routing metadata leave the other entries. -/
theorem get?_addRoutingMetadata {stamps : Stamps} {destination k : String} {message message' : Message}
    (h : addRoutingMetadata stamps destination message = .ok message') (hk : "metadata" ≠ k) :
    Dict.get? message' k = Dict.get? message k := by
  rw [addRoutingMetadata] at h
  split at h
  · rename_i metadata hmetadata
    cases hrouted : routingMetadata stamps destination metadata with
    | error e =>
      rw [hrouted] at h
      cases h
    | ok routed =>
      rw [hrouted] at h
      cases h
      exact Dict.get?_set_ne _ _ hk
  · cases h

theorem get?_preserveField {k j : String} (message : Message) (hj : "metadata" ≠ j) :
    Dict.get? (preserveField k message) j = Dict.get? message j := by
  rw [preserveField]
  split_ifs
  · exact Dict.get?_set_ne _ _ hj
  · rfl

/-- The label of a destination's command names. -/
def labelOf (destination : String) : String :=
  if destination = "radar" then "radar_" else "displays_"

/-- The command type that the message gets for its message type. -/
def rewriting (m : Subject) : Option String :=
  (Dict.get? (entriesOf m) "message_type").bind rewrittenType

/-- The entries of a copy for radar or display: those of its rewriting, or those of the message. -/
theorem get?_transformForSystem (registry : RoutingRegistry) (systemId systemType label : String)
    (message : Message) :
    Dict.get? (transformForSystem registry systemId systemType label message) "command_type" =
        (match (Dict.get? message "message_type").bind rewrittenType with
          | some commandType => some (.str commandType)
          | none => Dict.get? message "command_type") ∧
      Dict.get? (transformForSystem registry systemId systemType label message) "command_name" =
        (match (Dict.get? message "message_type").bind rewrittenType with
          | some commandType => some (.str (label ++ commandType))
          | none => Dict.get? message "command_name") := by
  have hkept : ∀ (k : String) (v w : Value), "rt_address" ≠ k → "metadata" ≠ k →
      Dict.get? (Dict.set (Dict.set message "rt_address" v) "metadata" w) k = Dict.get? message k := by
    intro k v w haddress hmetadata
    rw [Dict.get?_set_ne _ _ hmetadata, Dict.get?_set_ne _ _ haddress]
  rw [transformForSystem, hkept "message_type" _ _ (by decide) (by decide)]
  cases (Dict.get? message "message_type").bind rewrittenType with
  | none =>
    exact ⟨hkept _ _ _ (by decide) (by decide), hkept _ _ _ (by decide) (by decide)⟩
  | some commandType =>
    refine ⟨?_, Dict.get?_set_self _ _ _⟩
    dsimp only
    rw [Dict.get?_set_ne _ _ (by decide), Dict.get?_set_self]

theorem get?_transformFor {registry : RoutingRegistry} {stamps : Stamps} {m : Subject}
    {destination : String} {t : Message} (hsystem : destination = "radar" ∨ destination = "display")
    (h : transformFor registry stamps m destination = .ok t) :
    Dict.get? t "command_type" =
        (match rewriting m with
          | some commandType => some (.str commandType)
          | none => Dict.get? (entriesOf m) "command_type") ∧
      Dict.get? t "command_name" =
        (match rewriting m with
          | some commandType => some (.str (labelOf destination ++ commandType))
          | none => Dict.get? (entriesOf m) "command_name") := by
  rw [transformFor] at h
  cases hrouted : addRoutingMetadata stamps destination (objectToDict m) with
  | error e =>
    rw [hrouted] at h
    cases h
  | ok message =>
    rw [hrouted] at h
    cases h
    have hentry : ∀ k, "metadata" ≠ k → k ≠ "request_id" →
        Dict.get? message k = Dict.get? (entriesOf m) k := fun k hmetadata hrequest => by
      rw [get?_addRoutingMetadata hrouted hmetadata, get?_objectToDict hrequest]
    rw [get?_preserveField _ (by decide), get?_preserveField _ (by decide),
      get?_preserveField _ (by decide), get?_preserveField _ (by decide), rewriting,
      ← hentry "message_type" (by decide) (by decide),
      ← hentry "command_type" (by decide) (by decide), ← hentry "command_name" (by decide) (by decide)]
    rcases hsystem with rfl | rfl
    · exact get?_transformForSystem registry "radar" "radar" "radar_" message
    · exact get?_transformForSystem registry "displays" "display" "displays_" message

theorem transformFor_ok_iff (registry : RoutingRegistry) (stamps : Stamps) (m : Subject)
    (destination : String) :
    (∃ t, transformFor registry stamps m destination = .ok t) ↔ Stampable m := by
  rw [← addRoutingMetadata_ok_iff stamps destination m, transformFor]
  cases addRoutingMetadata stamps destination (objectToDict m) with
  | ok message => exact iff_of_true ⟨_, rfl⟩ ⟨message, rfl⟩
  | error e => exact iff_of_false (fun ⟨_, h⟩ => by cases h) fun ⟨_, h⟩ => by cases h

/-! ### The copies of a message -/

section Copies

variable (registry : RoutingRegistry) (clock : String → Stamps) {m : Subject}

/-- All copies are made, one for each destination, in addition to those made before. -/
theorem transformEach_of_stampable (h : Stampable m) (destinations : List String)
    (copies : Dict String Message) :
    ∃ copies', transformEach registry clock m destinations copies = .ok copies' ∧
      (∀ d ∉ destinations, Dict.get? copies' d = Dict.get? copies d) ∧
      ∀ d ∈ destinations, ∃ t, transformFor registry (clock d) m d = .ok t ∧
        Dict.get? copies' d = some t := by
  induction destinations generalizing copies with
  | nil => exact ⟨copies, rfl, fun _ _ => rfl, fun _ hd => (by cases hd)⟩
  | cons destination rest ih =>
    obtain ⟨t, ht⟩ := (transformFor_ok_iff registry (clock destination) m destination).mpr h
    obtain ⟨copies', hrest, hkept, hmade⟩ := ih (Dict.set copies destination t)
    refine ⟨copies', by rw [transformEach, ht]; exact hrest, fun d hd => ?_, fun d hd => ?_⟩
    · rw [List.mem_cons, not_or] at hd
      rw [hkept d hd.2, Dict.get?_set_ne _ _ (Ne.symm hd.1)]
    · by_cases hrestd : d ∈ rest
      · exact hmade d hrestd
      · have hsame := (List.mem_cons.mp hd).resolve_right hrestd
        subst hsame
        exact ⟨t, ht, by rw [hkept d hrestd, Dict.get?_set_self]⟩

theorem transformEach_of_not_stampable (h : ¬ Stampable m) {destinations : List String}
    (hne : destinations ≠ []) (copies : Dict String Message) :
    ∃ e, transformEach registry clock m destinations copies = .error e := by
  cases destinations with
  | nil => exact absurd rfl hne
  | cons destination rest =>
    rw [transformEach]
    split
    · rename_i t ht
      exact absurd ((transformFor_ok_iff registry (clock destination) m destination).mp ⟨t, ht⟩) h
    · exact ⟨_, rfl⟩

theorem transformMessage_of_not_stampable (h : ¬ Stampable m) (destinations : List String) :
    transformMessage registry clock m destinations = [] := by
  rw [transformMessage]
  cases destinations with
  | nil => rfl
  | cons destination rest =>
    obtain ⟨e, he⟩ := transformEach_of_not_stampable registry clock h
      (List.cons_ne_nil destination rest) []
    rw [he]

theorem get?_transformMessage (h : Stampable m) {destinations : List String} {d : String}
    (hd : d ∈ destinations) : ∃ t, transformFor registry (clock d) m d = .ok t ∧
      Dict.get? (transformMessage registry clock m destinations) d = some t := by
  obtain ⟨copies, hcopies, -, hmade⟩ := transformEach_of_stampable registry clock h
    destinations []
  rw [transformMessage, hcopies]
  exact hmade d hd

/-- The copies are in the order of the destinations. -/
theorem keys_transformEach (h : Stampable m) {destinations : List String} {copies : Dict String Message}
    (hnodup : (copies.map Prod.fst ++ destinations).Nodup) :
    ∃ copies', transformEach registry clock m destinations copies = .ok copies' ∧
      copies'.map Prod.fst = copies.map Prod.fst ++ destinations := by
  induction destinations generalizing copies with
  | nil => exact ⟨copies, rfl, (List.append_nil _).symm⟩
  | cons destination rest ih =>
    obtain ⟨t, ht⟩ := (transformFor_ok_iff registry (clock destination) m destination).mpr h
    have hnew : Dict.get? copies destination = none := by
      apply Dict.get?_eq_none_iff.mpr
      intro hmem
      exact List.disjoint_of_nodup_append hnodup hmem List.mem_cons_self
    have hkeys : (Dict.set copies destination t).map Prod.fst = copies.map Prod.fst ++ [destination] := by
      rw [Dict.set_eq_append hnew, List.map_append]
      rfl
    have hmore : ((Dict.set copies destination t).map Prod.fst ++ rest).Nodup := by
      rw [hkeys, List.append_assoc]
      exact hnodup
    obtain ⟨copies', hrest, hcopies⟩ := ih hmore
    refine ⟨copies', by rw [transformEach, ht]; exact hrest, ?_⟩
    rw [hcopies, hkeys, List.append_assoc]
    rfl

theorem keys_transformMessage (h : Stampable m) {destinations : List String}
    (hnodup : destinations.Nodup) :
    (transformMessage registry clock m destinations).map Prod.fst = destinations := by
  obtain ⟨copies, hcopies, hkeys⟩ := @keys_transformEach registry clock m h destinations [] hnodup
  rw [transformMessage, hcopies]
  exact hkeys

end Copies

end Fmofp.Routing

/-! The unified router: validation, the recognition of special cases, and the way of a message through
the resolver, the transformer and the dispatcher. -/

namespace Fmofp.Routing

open Python
open LoopPrevention (Subject)

/-! ### Special cases -/

/-- The test by which a special case is recognised. -/
inductive Recognition
  /-- A handler has put its flag into the metadata. -/
  | processed
  | messageType (e : String × Rule)
  | commandName (e : String × Rule)
  | vilCommand
  | precipitationCommand
  /-- A precipitation command that acknowledges. -/
  | acknowledgment
  | modeChangeCommand
  | vilTransfer
  | precipitationTransfer
  | nothing
  deriving DecidableEq

/-- `_extract_field`. -/
def extractField (m : Subject) (k : String) : Value :=
  match m with
  | .dict entries =>
    match Dict.get? entries k with
    | some v => v
    | none => ((metadataOf m).bind fun metadata => Dict.get? metadata k).getD .none
  | _ => m.field k

/-- Whether a precipitation command acknowledges, which fails on a message type that is no text. -/
def isAcknowledgment (py : Runtime) (messageType : Value) : Except Exception Bool :=
  if !messageType.truthy then .ok false
  else
    match messageType with
    | .str s =>
      .ok (contains (py.lower s) "statusword" || contains (py.lower s) "acknowledgment" ||
        contains (py.lower s) "response")
    | _ => .error .attributeError

/-- What the metadata of a block transfer say about its data. -/
def recogniseTransfer (metadata : Message) : Recognition :=
  if metadata.flag "block_transfer_complete" && (metadata.flag "vil_data" ||
      metadata.flag "vil_data_available" || metadata.flag "vil_objects" ||
      metadata.flag "vil_message") then .vilTransfer
  else if metadata.flag "block_transfer_complete" && (metadata.flag "precipitation_data" ||
      metadata.flag "precipitation_objects" || metadata.flag "precip_data_available" ||
      metadata.flag "precipitation_message") then .precipitationTransfer
  else .nothing

/-- The handlers' flags. -/
def isProcessed (m : Subject) : Bool :=
  (metadataOf m).any fun metadata =>
    metadata.flag "_processed_by_vil_handler" || metadata.flag "_processed_by_precipitation_handler" ||
      metadata.flag "_processed_by_mode_change_handler"

/-- The tests of the command type and of the metadata. -/
def recogniseContent (py : Runtime) (m : Subject) : Except Exception Recognition :=
  let commandType := m.field "command_type"
  if listed commandType ["vil_data", "weather_radar_vil_data"] then .ok .vilCommand
  else if listed commandType ["precipitation_data", "weather_radar_precipitation_data"] then
    (isAcknowledgment py (extractField m "message_type")).map fun acknowledges =>
      if acknowledges then .acknowledgment else .precipitationCommand
  else if listed commandType ["mode_change", "weather_radar_mode_change"] then .ok .modeChangeCommand
  else .ok (((metadataOf m).map recogniseTransfer).getD .nothing)

/-- The tests of `_check_special_case` in their order. -/
def recognise (py : Runtime) (m : Subject) : Except Exception Recognition :=
  let messageType := m.field "message_type"
  let commandName := m.field "command_name"
  if isProcessed m then .ok .processed
  else
    match lookup caseOfMessageType messageType with
    | some e => .ok (.messageType e)
    | none =>
      match lookup caseOfCommandName commandName with
      | some e => .ok (.commandName e)
      | none => recogniseContent py m

/-- The rule that is returned after a test. -/
def Recognition.rule : Recognition → Option Rule
  | .processed => none
  | .messageType e => some e.2
  | .commandName e => some e.2
  | .vilCommand => Dict.get? specialCases "vil_data"
  | .precipitationCommand => Dict.get? specialCases "precipitation_data"
  | .acknowledgment => none
  | .modeChangeCommand => Dict.get? specialCases "mode_change"
  | .vilTransfer => Dict.get? specialCases "vil_data"
  | .precipitationTransfer => Dict.get? specialCases "precipitation_data"
  | .nothing => none

/-- `_check_special_case`. -/
def checkSpecialCase (py : Runtime) (m : Subject) : Except Exception (Option Rule) :=
  (recognise py m).map Recognition.rule

/-! ### Validation -/

/-- `v == n` for an integer. -/
def equalsInt (v : Value) (n : ℤ) : Bool := decide (v.number? = some (n : ℚ))

/-- A name that the rules do not list is looked up in a dictionary, so it has to be hashable; unknown
names pass. -/
def checkName (names : Rule → List String) (v : Value) : Except Exception Unit :=
  if v.truthy && !(specialCases.any fun e => listed v (names e.2)) && v.key?.isNone then
    .error .typeError
  else .ok ()

/-- The command name that is validated: the message's own, or the one in its metadata. -/
def validatedCommandName (m : Subject) : Value :=
  let own := m.field "command_name"
  let named := match m with
    | .dict _ => true
    | .object _ attributes => Dict.has attributes "command_name"
    | .plain => false
  if own.truthy || !named then own
  else ((metadataOf m).bind fun metadata => Dict.get? metadata "command_name").getD .none

/-- `validate_message`: addresses of the address book, and names that can be looked up. -/
def validateMessage (registry : RoutingRegistry) (m : Subject) : Bool :=
  if !(Dict.has (entriesOf m) "rt_address" && Dict.has (entriesOf m) "sub_address") then false
  else
    match (do
      let systemId ← registry.getSystemByRtAddress (m.field "rt_address")
      match (systemId.filter fun id => id ≠ "").bind fun id => registry.systems.get? id with
      | none => pure false
      | some system =>
        let subAddress := m.field "sub_address"
        if system.subaddresses.any (fun e => equalsInt subAddress e.2) || equalsInt subAddress 31 then
          checkName Rule.messageTypes (m.field "message_type")
          checkName Rule.commandNames (validatedCommandName m)
          pure true
        else pure false : Except Exception Bool) with
    | .ok valid => valid
    | .error _ => false

/-- `_is_final_delivery_to_display`. -/
def isFinalDelivery (m : Subject) : Bool :=
  match metadataOf m with
  | none => false
  | some metadata =>
    let commandType := (Dict.get? (entriesOf m) "command_type").or (Dict.get? metadata "command_type")
    decide (Dict.get? metadata "final_delivery" = some (.bool true)) ||
      decide (Dict.get? metadata "final_delivery_to_display" = some (.bool true)) ||
      (decide (Dict.get? metadata "destination" = some (.str "display_system")) &&
        decide (Dict.get? metadata "routed_to" = some (.str "display")) &&
        decide (commandType = some (.str "mode_change_completion")))

/-! ### Routing -/

/-- What the router works with: the address book, what the display outgoing router, the loop prevention
and the handlers of special cases make of a message, and what the dispatcher answers. -/
structure Components where
  registry : RoutingRegistry
  outgoing : Subject → Except Exception Bool
  loopPrevention : Subject → LoopPrevention.Answer
  handle : String → Subject → Except Exception Bool
  dispatch : String → Message → Bool
  clock : String → Stamps

/-- The ids in `special_case_handlers`. -/
def specialCaseHandlers : List String := ["vil_handler", "precipitation_handler", "mode_change_handler"]

/-- The answer of `route_message`, with what was done for it. -/
structure Outcome where
  answer : Bool
  /-- The handler of a special case took the message. -/
  handled : Bool := false
  /-- The calls of `dispatch_message` with their answers. -/
  dispatched : List (String × Bool) := []
  deriving DecidableEq

def answerOf (result : Except Exception Bool) : Bool :=
  match result with
  | .ok answer => answer
  | .error _ => false

/-- The message as it comes to the resolver, unless it is answered before. -/
inductive Admission where
  | answered (outcome : Outcome)
  | admitted (message : Subject)

/-- `route_message` up to the resolver. -/
def admitMessage (py : Runtime) (c : Components) (m : Subject) : Admission :=
  if isFinalDelivery m then .answered { answer := answerOf (c.outgoing m) }
  else
    match c.loopPrevention m with
    | .error _ => .answered { answer := false }
    | .ok (false, _) => .answered { answer := false }
    | .ok (true, message) =>
      if !validateMessage c.registry message then .answered { answer := false }
      else
        match checkSpecialCase py message with
        | .error _ => .answered { answer := false }
        | .ok none => .admitted message
        | .ok (some rule) =>
          if rule.handler ∈ specialCaseHandlers then
            .answered { answer := answerOf (c.handle rule.handler message), handled := true }
          else .admitted message

/-- The copies are dispatched one after the other. -/
def dispatchAll (dispatch : String → Message → Bool) (copies : Dict String Message) : Outcome :=
  let dispatched := copies.map fun e => (e.1, dispatch e.1 e.2)
  { answer := dispatched.all Prod.snd, dispatched }

/-- `route_message` from the resolver on. -/
def routeAdmitted (py : Runtime) (c : Components) (message : Subject) : Outcome :=
  match resolveRoutes py c.registry message with
  | [] => { answer := false }
  | destinations =>
    dispatchAll c.dispatch (transformMessage c.registry c.clock message destinations)

/-- `route_message`. -/
def routeMessage (py : Runtime) (c : Components) (m : Subject) : Outcome :=
  match admitMessage py c m with
  | .answered outcome => outcome
  | .admitted message => routeAdmitted py c message

end Fmofp.Routing
