import Fmofp.Routing.UnifiedRouter

/-! Whether the router, the resolver and the transformer agree on special cases.  Each looks messages up
for itself: the router has an id that no rule has, the resolver reads the command name of an object only
next to a message type, and the transformer goes by message types alone and by that same id. -/

namespace Fmofp.Routing

open Python
open LoopPrevention (Subject)

/-- One of the recognising tests is reached. -/
def Recognition.Reached : Recognition → Prop
  | .processed | .acknowledgment | .nothing => False
  | _ => True

/-- The command type that messages of a rule are to get: VIL, precipitation data and mode changes. -/
def Rule.commandType (caseId : String) : Option String :=
  if caseId ∈ ["vil_request", "vil_response"] then some "vilData"
  else if caseId = "precipitation_data" then some "precipitationData"
  else if caseId = "mode_change" then some "modeChange"
  else none

/-- The copies for the destinations of the rule have its command type and the destination's name for
it. -/
def Rewritten (registry : RoutingRegistry) (clock : String → Stamps) (m : Subject)
    (e : String × Rule) : Prop :=
  ∀ commandType ∈ Rule.commandType e.1, ∀ d ∈ e.2.destinations,
    ∃ t, Dict.get? (transformMessage registry clock m e.2.destinations) d = some t ∧
      Dict.get? t "command_type" = some (.str commandType) ∧
      Dict.get? t "command_name" = some (.str (labelOf d ++ commandType))

/-- A message that reaches a recognising test gets a registered rule; if it was recognised by its
message type or command name it is routed and rewritten by that rule. -/
structure Agrees (py : Runtime) (registry : RoutingRegistry) (clock : String → Stamps) (m : Subject) :
    Prop where
  registered : ∀ r, recognise py m = .ok r → r.Reached →
    ∃ rule ∈ specialCases.map Prod.snd, checkSpecialCase py m = .ok (some rule)
  /-- No test fails. -/
  answers : ∀ e, recognise py m ≠ .error e
  routed : ∀ e, recognise py m = .ok (.messageType e) ∨ recognise py m = .ok (.commandName e) →
    resolveRoutes py registry m = e.2.destinations ∧ Rewritten registry clock m e

/-! ### The condition -/

/-- The message itself has the command type and the destination's name for it. -/
def Carries (m : Subject) (commandType d : String) : Prop :=
  Dict.get? (entriesOf m) "command_type" = some (.str commandType) ∧
    Dict.get? (entriesOf m) "command_name" = some (.str (labelOf d ++ commandType))

/-- The rules whose messages the transformer rewrites by their message types. -/
def rewritingCases : List String := ["precipitation_data", "mode_change"]

/-- What has to be so of a message for each way in which it is recognised. -/
def Consistent (py : Runtime) (registry : RoutingRegistry) (m : Subject) : Prop :=
  match recognise py m with
  | .error _ => False
  | .ok .vilCommand => False
  | .ok .vilTransfer => False
  | .ok (.messageType e) => ∀ commandType ∈ Rule.commandType e.1, Stampable m ∧
      (e.1 ∈ rewritingCases ∨ ∀ d ∈ e.2.destinations, Carries m commandType d)
  | .ok (.commandName e) =>
    (hasMessageType m = true ∨ resolveDefault py registry m = e.2.destinations) ∧
      ∀ commandType ∈ Rule.commandType e.1, Stampable m ∧
        ∀ d ∈ e.2.destinations, Carries m commandType d
  | .ok _ => True

/-! ### The table of rules -/

/-- The rules whose messages are to be rewritten lead to radar and display only. -/
theorem destinations_of_commandType : ∀ e ∈ specialCases, Rule.commandType e.1 ≠ none →
    ∀ d ∈ e.2.destinations, d = "radar" ∨ d = "display" := by
  decide +kernel

/-- A message type is rewritten to the command type of its rule, if that is one of the two which the
transformer knows by their ids, and not at all otherwise. -/
theorem rewrittenType_of_mem : ∀ e ∈ specialCases, ∀ s ∈ e.2.messageTypes,
    rewrittenType (.str s) = if e.1 ∈ rewritingCases then Rule.commandType e.1 else none := by
  decide +kernel

theorem get?_vil_data : Dict.get? specialCases "vil_data" = none := by decide +kernel

theorem exists_precipitation_data :
    ∃ rule ∈ specialCases.map Prod.snd, Dict.get? specialCases "precipitation_data" = some rule := by
  decide +kernel

theorem exists_mode_change :
    ∃ rule ∈ specialCases.map Prod.snd, Dict.get? specialCases "mode_change" = some rule := by
  decide +kernel

/-! ### Lookups -/

/-- The result of a test of the command type or the metadata. -/
def Recognition.ByContent : Recognition → Prop
  | .processed | .messageType _ | .commandName _ => False
  | _ => True

theorem recogniseTransfer_byContent (metadata : Message) : (recogniseTransfer metadata).ByContent := by
  rw [recogniseTransfer]
  split_ifs <;> trivial

theorem recogniseContent_byContent {py : Runtime} {m : Subject} {r : Recognition}
    (h : recogniseContent py m = .ok r) : r.ByContent := by
  rw [recogniseContent] at h
  split_ifs at h
  · cases h
    trivial
  · cases hacknowledges : isAcknowledgment py (extractField m "message_type") with
    | error e =>
      rw [hacknowledges] at h
      cases h
    | ok acknowledges =>
      rw [hacknowledges] at h
      cases h
      cases acknowledges <;> trivial
  · cases h
    trivial
  · cases h
    cases metadataOf m with
    | none => trivial
    | some metadata => exact recogniseTransfer_byContent metadata

theorem caseOfMessageType_eq_none {v : Value} (h : lookup caseOfMessageType v = none) :
    caseOfMessageType v = none := by
  rw [lookup] at h
  cases htruthy : v.truthy with
  | true =>
    rw [htruthy, if_pos rfl] at h
    exact h
  | false =>
    cases v with
    | str s =>
      have hempty : s = "" := by simpa [Value.truthy] using htruthy
      rw [hempty]
      decide +kernel
    | _ => exact List.find?_eq_none.mpr fun _ _ h => by cases h

section Recognised

variable {py : Runtime} {m : Subject} {e : String × Rule}

/-- The lookups of a message that is recognised by its type or its command name. -/
theorem recognise_names :
    (recognise py m = .ok (.messageType e) → lookup caseOfMessageType (m.field "message_type") = some e) ∧
      (recognise py m = .ok (.commandName e) →
        lookup caseOfMessageType (m.field "message_type") = none ∧
          lookup caseOfCommandName (m.field "command_name") = some e) := by
  rw [recognise]
  split_ifs
  · exact ⟨fun h => (by cases h), fun h => (by cases h)⟩
  · cases lookup caseOfMessageType (m.field "message_type") with
    | some e' =>
      refine ⟨fun h => ?_, fun h => (by cases h)⟩
      cases h
      rfl
    | none =>
      cases lookup caseOfCommandName (m.field "command_name") with
      | some e' =>
        refine ⟨fun h => (by cases h), fun h => ?_⟩
        cases h
        exact ⟨rfl, rfl⟩
      | none =>
        exact ⟨fun h => (recogniseContent_byContent h).elim, fun h => (recogniseContent_byContent h).elim⟩

theorem resolveSpecialCases_messageType (h : recognise py m = .ok (.messageType e)) :
    resolveSpecialCases m = some e.2.destinations := by
  rw [resolveSpecialCases, recognise_names.1 h]

/-- The resolver finds the rule of a command name if it reads it. -/
theorem resolveSpecialCases_commandName (h : recognise py m = .ok (.commandName e)) :
    resolveSpecialCases m = if hasMessageType m then some e.2.destinations else none := by
  obtain ⟨htype, hname⟩ := recognise_names.2 h
  rw [resolveSpecialCases, htype]
  cases hasMessageType m with
  | true =>
    rw [if_pos rfl, if_pos rfl, hname]
  | false => rfl

theorem resolveRoutes_commandName (registry : RoutingRegistry)
    (h : recognise py m = .ok (.commandName e)) :
    resolveRoutes py registry m = e.2.destinations ↔
      hasMessageType m = true ∨ resolveDefault py registry m = e.2.destinations := by
  have hmem : e ∈ specialCases :=
    List.mem_of_find?_eq_some (lookup_eq_some (recognise_names.2 h).2)
  have hresolved := resolveSpecialCases_commandName h
  cases hhas : hasMessageType m with
  | true =>
    rw [hhas, if_pos rfl] at hresolved
    exact iff_of_true (resolveRoutes_of_rule hmem hresolved) (.inl rfl)
  | false =>
    rw [hhas, if_neg Bool.false_ne_true] at hresolved
    rw [resolveRoutes, hresolved]
    exact (or_iff_right Bool.false_ne_true).symm

/-- The rewriting of a message that is recognised by its type is that of its rule. -/
theorem rewriting_messageType (h : recognise py m = .ok (.messageType e)) :
    rewriting m = if e.1 ∈ rewritingCases then Rule.commandType e.1 else none := by
  have hcase := lookup_eq_some (recognise_names.1 h)
  obtain ⟨s, hs, hfield⟩ := listed_iff.mp (listed_of_caseOfMessageType hcase)
  rw [field_eq] at hfield
  have hget : Dict.get? (entriesOf m) "message_type" = some (.str s) := by
    rw [Dict.getD] at hfield
    cases hget : Dict.get? (entriesOf m) "message_type" with
    | none =>
      rw [hget] at hfield
      cases hfield
    | some v =>
      rw [hget] at hfield
      exact congrArg some hfield
  rw [rewriting, hget]
  exact rewrittenType_of_mem e (List.mem_of_find?_eq_some hcase) s hs

/-- A message that is recognised by its command name is not rewritten. -/
theorem rewriting_commandName (h : recognise py m = .ok (.commandName e)) : rewriting m = none := by
  have hnone := caseOfMessageType_eq_none (recognise_names.2 h).1
  rw [field_eq, Dict.getD] at hnone
  rw [rewriting]
  cases hget : Dict.get? (entriesOf m) "message_type" with
  | none => rfl
  | some v =>
    rw [hget, Option.getD_some, caseOfMessageType, List.find?_eq_none] at hnone
    have hfind : specialCases.find? (fun e =>
        listed v e.2.messageTypes && (commandTypeOf e.1).isSome) = none := by
      apply List.find?_eq_none.mpr
      intro e' he' hlisted
      exact hnone e' he' (Bool.and_eq_true _ _ ▸ hlisted).1
    rw [Option.bind_some, rewrittenType, hfind]
    rfl

end Recognised

/-! ### Agreement -/

section Agreement

variable {registry : RoutingRegistry} {clock : String → Stamps} {m : Subject} {e : String × Rule}

/-- The copies are rewritten for the rule exactly when they can be made, and the message is rewritten to
the command type of the rule, or else has it already. -/
theorem rewritten_iff (he : e ∈ specialCases) :
    Rewritten registry clock m e ↔ ∀ commandType ∈ Rule.commandType e.1, Stampable m ∧
      ∀ d ∈ e.2.destinations, match rewriting m with
        | some commandType' => commandType' = commandType
        | none => Carries m commandType d := by
  rw [Rewritten]
  refine forall₂_congr fun commandType hcommand => ?_
  have hsystem := destinations_of_commandType e he (by rw [hcommand]; exact Option.some_ne_none _)
  have hcopy : ∀ d ∈ e.2.destinations, ∀ t, transformFor registry (clock d) m d = .ok t →
      ((Dict.get? t "command_type" = some (.str commandType) ∧
          Dict.get? t "command_name" = some (.str (labelOf d ++ commandType))) ↔
        match rewriting m with
        | some commandType' => commandType' = commandType
        | none => Carries m commandType d) := by
    intro d hd t ht
    obtain ⟨htype, hname⟩ := get?_transformFor (hsystem d hd) ht
    rw [htype, hname]
    cases rewriting m with
    | none => exact Iff.rfl
    | some commandType' =>
      constructor
      · rintro ⟨h, -⟩
        simpa using h
      · rintro rfl
        exact ⟨rfl, rfl⟩
  constructor
  · intro hrewritten
    have hstampable : Stampable m := by
      by_contra hfails
      obtain ⟨d, hd⟩ := List.exists_mem_of_ne_nil _ (destinations_nodup e he).1
      obtain ⟨t, ht, -⟩ := hrewritten d hd
      rw [transformMessage_of_not_stampable registry clock hfails] at ht
      cases ht
    refine ⟨hstampable, fun d hd => ?_⟩
    obtain ⟨t, ht, hget⟩ := get?_transformMessage registry clock hstampable hd
    obtain ⟨t', ht', hfields⟩ := hrewritten d hd
    rw [hget] at ht'
    cases ht'
    exact (hcopy d hd t ht).mp hfields
  · rintro ⟨hstampable, hcarries⟩ d hd
    obtain ⟨t, ht, hget⟩ := get?_transformMessage registry clock hstampable hd
    exact ⟨t, hget, (hcopy d hd t ht).mpr (hcarries d hd)⟩

theorem rewritten_messageType {py : Runtime} (h : recognise py m = .ok (.messageType e)) :
    Rewritten registry clock m e ↔ ∀ commandType ∈ Rule.commandType e.1, Stampable m ∧
      (e.1 ∈ rewritingCases ∨ ∀ d ∈ e.2.destinations, Carries m commandType d) := by
  have hmem : e ∈ specialCases := List.mem_of_find?_eq_some (lookup_eq_some (recognise_names.1 h))
  rw [rewritten_iff hmem, rewriting_messageType h]
  refine forall₂_congr fun commandType hcommand => and_congr_right fun _ => ?_
  by_cases hknown : e.1 ∈ rewritingCases
  · rw [if_pos hknown, hcommand]
    exact iff_of_true (fun _ _ => rfl) (.inl hknown)
  · rw [if_neg hknown]
    exact (or_iff_right hknown).symm

theorem rewritten_commandName {py : Runtime} (h : recognise py m = .ok (.commandName e)) :
    Rewritten registry clock m e ↔ ∀ commandType ∈ Rule.commandType e.1, Stampable m ∧
      ∀ d ∈ e.2.destinations, Carries m commandType d := by
  have hmem : e ∈ specialCases :=
    List.mem_of_find?_eq_some (lookup_eq_some (recognise_names.2 h).2)
  rw [rewritten_iff hmem, rewriting_commandName h]

/-- A message that is recognised otherwise agrees if its test answers with a rule. -/
theorem agrees_of_byContent {py : Runtime} {r : Recognition} (h : recognise py m = .ok r)
    (hcontent : r.ByContent ∨ ¬ r.Reached)
    (hrule : r.Reached → ∃ rule ∈ specialCases.map Prod.snd, r.rule = some rule) :
    Agrees py registry clock m where
  registered r' hr' hreached := by
    rw [h] at hr'
    cases hr'
    obtain ⟨rule, hmem, heq⟩ := hrule hreached
    exact ⟨rule, hmem, by rw [checkSpecialCase, h, ← heq]; rfl⟩
  answers e' he' := by
    rw [h] at he'
    cases he'
  routed e' he' := by
    exfalso
    rcases he' with he' | he'
    · rw [h] at he'
      cases he'
      exact hcontent.elim id fun hnot => hnot trivial
    · rw [h] at he'
      cases he'
      exact hcontent.elim id fun hnot => hnot trivial

/-- A message that is recognised by its type or command name always gets the rule that it was found
under. -/
theorem agrees_of_names {py : Runtime} {r : Recognition} (h : recognise py m = .ok r)
    (hr : r = .messageType e ∨ r = .commandName e) :
    Agrees py registry clock m ↔
      resolveRoutes py registry m = e.2.destinations ∧ Rewritten registry clock m e := by
  constructor
  · intro hagrees
    apply hagrees.routed e
    rcases hr with rfl | rfl
    · exact .inl h
    · exact .inr h
  · intro hrouted
    refine ⟨fun r' hr' _ => ?_, fun e' he' => ?_, fun e' he' => ?_⟩
    · rw [h] at hr'
      cases hr'
      rcases hr with rfl | rfl
      · have hmem := List.mem_of_find?_eq_some (lookup_eq_some (recognise_names.1 h))
        exact ⟨e.2, List.mem_map_of_mem hmem, by rw [checkSpecialCase, h]; rfl⟩
      · have hmem := List.mem_of_find?_eq_some (lookup_eq_some (recognise_names.2 h).2)
        exact ⟨e.2, List.mem_map_of_mem hmem, by rw [checkSpecialCase, h]; rfl⟩
    · rw [h] at he'
      cases he'
    · rw [h] at he'
      rcases hr with rfl | rfl
      · rcases he' with he' | he'
        · cases he'
          exact hrouted
        · cases he'
      · rcases he' with he' | he'
        · cases he'
        · cases he'
          exact hrouted

/-- A VIL command or transfer gets no rule. -/
theorem not_agrees_of_vil {py : Runtime} {r : Recognition} (h : recognise py m = .ok r)
    (hreached : r.Reached) (hrule : r.rule = Dict.get? specialCases "vil_data") :
    ¬ Agrees py registry clock m := by
  intro hagrees
  obtain ⟨rule, -, hchecked⟩ := hagrees.registered r h hreached
  rw [checkSpecialCase, h, Except.map, hrule, get?_vil_data] at hchecked
  cases hchecked

end Agreement

/-- Router, resolver and transformer agree on a message exactly when it is consistent. -/
theorem agrees_iff (py : Runtime) (registry : RoutingRegistry) (clock : String → Stamps) (m : Subject) :
    Agrees py registry clock m ↔ Consistent py registry m := by
  rw [Consistent]
  cases h : recognise py m with
  | error e => exact iff_of_false (fun hagrees => hagrees.answers e h) id
  | ok r =>
    cases r with
    | vilCommand => exact iff_of_false (not_agrees_of_vil h trivial rfl) id
    | vilTransfer => exact iff_of_false (not_agrees_of_vil h trivial rfl) id
    | messageType e =>
      have hmem := List.mem_of_find?_eq_some (lookup_eq_some (recognise_names.1 h))
      rw [agrees_of_names h (.inl rfl), rewritten_messageType h,
        resolveRoutes_of_rule hmem (resolveSpecialCases_messageType h), eq_self, true_and]
    | commandName e =>
      rw [agrees_of_names h (.inr rfl), rewritten_commandName h, resolveRoutes_commandName registry h]
    | precipitationCommand =>
      exact iff_of_true (agrees_of_byContent h (.inl trivial) fun _ => exists_precipitation_data) trivial
    | precipitationTransfer =>
      exact iff_of_true (agrees_of_byContent h (.inl trivial) fun _ => exists_precipitation_data) trivial
    | modeChangeCommand =>
      exact iff_of_true (agrees_of_byContent h (.inl trivial) fun _ => exists_mode_change) trivial
    | processed => exact iff_of_true (agrees_of_byContent h (.inr id) False.elim) trivial
    | acknowledgment => exact iff_of_true (agrees_of_byContent h (.inl trivial) False.elim) trivial
    | nothing => exact iff_of_true (agrees_of_byContent h (.inl trivial) False.elim) trivial

/-- A message with the VIL command type reaches the VIL test and gets no rule. -/
theorem not_agrees_vil_command : ¬ ∀ py registry clock m, Agrees py registry clock m := by
  intro h
  have hvil := h .ascii ⟨[], []⟩ (fun _ => ⟨0, 0⟩) (.dict [("command_type", .str "vil_data")])
  refine not_agrees_of_vil (r := .vilCommand) ?_ trivial rfl hvil
  decide +kernel

end Fmofp.Routing
