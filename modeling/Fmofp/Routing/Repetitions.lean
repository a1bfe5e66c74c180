import Fmofp.Machine.Run
import Fmofp.Routing.Resolver

/-! The message routing service.  It remembers the ids of the messages that it has seen, puts a flag into
their metadata, and only then routes them, through the unified router or straight to the communications
or mission service, whose errors it does not see.  Messages are named; what a name stands for changes
as the flag and the entries of the router come into its metadata. -/

namespace Fmofp.Routing

open Python Machine
open LoopPrevention (Subject)

/-- The metadata that the service reads: those of an object only if they are not empty. -/
def serviceMetadata (m : Subject) : Option Message :=
  match m with
  | .dict _ => metadataOf m
  | _ => (metadataOf m).filter fun metadata => !metadata.isEmpty

/-- The parts of a message's id: a request id, with a command type, and a transaction id. -/
structure IdParts where
  requestId : Option Value
  commandType : Option Value
  transactionId : Option Value
  deriving DecidableEq

def truthyOnly (v : Value) : Option Value := if v.truthy then some v else none

def idParts (m : Subject) : IdParts where
  requestId := truthyOnly (m.field "request_id")
  commandType := (truthyOnly (m.field "request_id")).bind fun _ => truthyOnly (m.field "command_type")
  transactionId := (serviceMetadata m).bind fun metadata =>
    truthyOnly (Dict.getD metadata "transaction_id" .none)

/-- The id that is remembered. -/
def messageId (py : Runtime) (m : Subject) : Option Value :=
  let parts := idParts m
  let request := parts.requestId.map fun requestId =>
    match parts.commandType with
    | some commandType => .str (py.str requestId ++ "_" ++ py.str commandType)
    | none => requestId
  match parts.transactionId, request with
  | some transactionId, some id => some (.str (py.str id ++ "_" ++ py.str transactionId))
  | some transactionId, none => some transactionId
  | none, request => request

/-- A flag against repetitions. -/
def preventsRouting (m : Subject) : Bool :=
  (serviceMetadata m).any fun metadata =>
    metadata.flag "_processed_by_routing_service" || metadata.flag "_prevent_rerouting" ||
      metadata.flag "final_delivery_to_display"

/-- The service's own flag; it needs the metadata of a dictionary to be one, and does not reach an object
without metadata. -/
def markProcessed (m : Subject) : Except Exception Subject :=
  match m with
  | .dict entries =>
    match Dict.getD entries "metadata" (.dict []) with
    | .dict metadata =>
      .ok (.dict (Dict.set entries "metadata"
        (.dict (Dict.set metadata "_processed_by_routing_service" (.bool true)))))
    | _ => .error .typeError
  | .object className attributes =>
    match serviceMetadata m with
    | some metadata =>
      .ok (.object className (Dict.set attributes "metadata"
        (.dict (Dict.set metadata "_processed_by_routing_service" (.bool true)))))
    | none => .ok m
  | .plain => .ok m

/-- The text by which messages for the communications and the mission service are told. -/
def rawType (py : Runtime) (m : Subject) : String :=
  let read := if hasMessageType m then
      (truthyOnly (m.field "message_type")).or (truthyOnly (m.field "command_type"))
    else none
  py.lower ((read.map py.str).getD "")

/-- The message goes straight to the communications or the mission service. -/
def isDirect (py : Runtime) (m : Subject) : Bool :=
  let raw := rawType py m
  contains raw "comms_" || startsWith raw "comms" || contains raw "mission_" || startsWith raw "mission"

/-- What the router, or the communications or mission service, makes of a message. -/
inductive Routed
  | accepted
  | refused
  | raised
  deriving DecidableEq

/-- A call that the service has answered: a record that it does not keep. -/
structure Entry where
  name : ℕ
  /-- The message was handed to the router or to one of the two services. -/
  handed : Bool
  accepted : Bool
  deriving DecidableEq

structure RoutingService where
  /-- `_routed_messages`. -/
  routed : List Value := []
  messages : ℕ → Subject
  /-- The calls, the last first. -/
  log : List Entry := []

/-- A call of `route_message`: what becomes of the message if it is handed on, what the routing changes
in it, and which ids are dropped if they have become too many. -/
structure RouteCall where
  name : ℕ
  routed : Routed
  alter : Subject → Subject
  choice : ℕ → ℕ

/-- `pop` until 800 are left. -/
def popRouted (choice : ℕ → ℕ) : ℕ → List Value → List Value
  | 0, ids => ids
  | n + 1, ids => popRouted choice n (ids.eraseIdx (choice n % ids.length))

def limitRouted (choice : ℕ → ℕ) (ids : List Value) : List Value :=
  if ids.length > 1000 then popRouted choice (ids.length - 800) ids else ids

/-- How far a call comes. -/
inductive Fate
  /-- An error before the message is handed on. -/
  | fails
  /-- It is taken for one that was routed before. -/
  | repetition
  | handedOn
  deriving DecidableEq

namespace RoutingService

/-- The checks of a call before it routes. -/
def fate (py : Runtime) (s : RoutingService) (name : ℕ) : Fate :=
  let m := s.messages name
  let unremembered := if preventsRouting m then .repetition
    else match markProcessed m with
      | .ok _ => .handedOn
      | .error _ => .fails
  match messageId py m with
  | none => unremembered
  | some id =>
    match id.key? with
    | none => .fails
    | some key => if key ∈ s.routed then .repetition else unremembered

/-- The id is remembered and the message marked. -/
def remember (py : Runtime) (s : RoutingService) (c : RouteCall) : RoutingService :=
  let m := s.messages c.name
  let marked := match markProcessed m with
    | .ok marked => marked
    | .error _ => m
  { s with
    routed := match (messageId py m).bind Value.key? with
      | some key => limitRouted c.choice (s.routed ++ [key])
      | none => s.routed
    messages := Function.update s.messages c.name (c.alter marked) }

/-- The answer to a message that is handed on: errors of the communications and mission services do not
show in it. -/
def answer (py : Runtime) (m : Subject) (routed : Routed) : Bool :=
  isDirect py m || decide (routed = .accepted)

/-- The router accepts the message, or the communications or mission service makes no error. -/
def accepts (py : Runtime) (m : Subject) (routed : Routed) : Bool :=
  if isDirect py m then decide (routed ≠ .raised) else decide (routed = .accepted)

def record (s : RoutingService) (name : ℕ) (handed accepted : Bool) : RoutingService :=
  { s with log := { name, handed, accepted } :: s.log }

/-- `route_message`. -/
def routeMessage (py : Runtime) (s : RoutingService) (c : RouteCall) : Bool × RoutingService :=
  match s.fate py c.name with
  | .fails => (false, s.record c.name false false)
  | .repetition => (true, s.record c.name false false)
  | .handedOn =>
    (answer py (s.messages c.name) c.routed,
      (s.remember py c).record c.name true (accepts py (s.messages c.name) c.routed))

end RoutingService

end Fmofp.Routing

/-! What the answers of the message routing service say about its messages.  It remembers a message before
it routes it and does not forget it when the routing fails, it knows messages by an id that leaves out
their type and runs its parts together, and it drops ids in no order. -/

namespace Fmofp.Routing

open Python Machine
open LoopPrevention (Subject)

/-- What makes a message the same as another: the parts of its id and its type, or, without an id, its
name. -/
inductive Identity
  | known (parts : IdParts) (messageType : Value)
  | unnamed (name : ℕ)
  deriving DecidableEq

/-- The identity of a message, as it is when it comes for the first time. -/
def identity (contents : ℕ → Subject) (name : ℕ) : Identity :=
  let parts := idParts (contents name)
  if parts.requestId.isNone && parts.transactionId.isNone then .unnamed name
  else .known parts ((contents name).field "message_type")

section Histories

variable (contents : ℕ → Subject) (log : List Entry) (name : ℕ)

/-- The message was accepted in a call of the log. -/
def AcceptedIn : Prop := ∃ e ∈ log, e.accepted = true ∧ identity contents e.name = identity contents name

/-- The message was handed on and not accepted in a call of the log. -/
def FailedIn : Prop :=
  ∃ e ∈ log, (e.handed = true ∧ e.accepted = false) ∧ identity contents e.name = identity contents name

/-- The message was accepted, and fewer than 800 other messages have come since. -/
def RecentlyAcceptedIn : Prop :=
  ∃ later e earlier, log = later ++ e :: earlier ∧ e.accepted = true ∧
    identity contents e.name = identity contents name ∧
    ((later.map fun e => identity contents e.name).filter
      fun other => other ≠ identity contents name).dedup.length < 800

instance : Decidable (AcceptedIn contents log name) := List.decidableBEx _ _

end Histories

/-- The call is answered with True only if the message is accepted in it or was before, hands a message on
that failed before and was never accepted, and hands on none that was accepted recently. -/
structure Faithful (py : Runtime) (contents : ℕ → Subject) (s : RoutingService) (c : RouteCall) :
    Prop where
  accepted : (s.routeMessage py c).1 = true → AcceptedIn contents (s.routeMessage py c).2.log c.name
  retried : FailedIn contents s.log c.name → ¬ AcceptedIn contents s.log c.name →
    (s.routeMessage py c).2.log.head?.any Entry.handed = true
  once : (s.routeMessage py c).2.log.head?.any Entry.handed = true →
    ¬ RecentlyAcceptedIn contents s.log c.name

/-- A message that is taken for a repetition was accepted before; so was one that fails although it came
as far as the routing before.  A message that is handed on was not accepted recently, and if it goes to
the communications or mission service with an error it was accepted at some time. -/
def Remembered (py : Runtime) (contents : ℕ → Subject) (s : RoutingService) (c : RouteCall) : Prop :=
  match s.fate py c.name with
  | .fails => FailedIn contents s.log c.name → AcceptedIn contents s.log c.name
  | .repetition => AcceptedIn contents s.log c.name
  | .handedOn => ¬ RecentlyAcceptedIn contents s.log c.name ∧
      (isDirect py (s.messages c.name) = true → c.routed = .raised →
        AcceptedIn contents s.log c.name)

/-- A call that does not hand the message on adds no acceptance. -/
theorem acceptedIn_cons_of_not {contents : ℕ → Subject} {log : List Entry} {name : ℕ} {e : Entry}
    (h : e.accepted = false) : AcceptedIn contents (e :: log) name ↔ AcceptedIn contents log name := by
  constructor
  · rintro ⟨e', he', haccepted, hsame⟩
    rcases List.mem_cons.mp he' with rfl | he'
    · rw [h] at haccepted
      cases haccepted
    · exact ⟨e', he', haccepted, hsame⟩
  · rintro ⟨e', he', haccepted, hsame⟩
    exact ⟨e', List.mem_cons_of_mem _ he', haccepted, hsame⟩

theorem acceptedIn_cons_self {contents : ℕ → Subject} {log : List Entry} {e : Entry}
    (h : e.accepted = true) : AcceptedIn contents (e :: log) e.name :=
  ⟨e, List.mem_cons_self, h, rfl⟩

section Calls

variable {py : Runtime} {contents : ℕ → Subject} {s : RoutingService} {c : RouteCall}

theorem faithful_iff_of_fails (h : s.fate py c.name = .fails) :
    Faithful py contents s c ↔ (FailedIn contents s.log c.name → AcceptedIn contents s.log c.name) := by
  have hcall : s.routeMessage py c = (false, s.record c.name false false) := by
    rw [RoutingService.routeMessage, h]
  constructor
  · intro hfaithful hfailed
    by_contra hnever
    have hretried := hfaithful.retried hfailed hnever
    rw [hcall] at hretried
    cases hretried
  · intro hknown
    refine ⟨fun hanswer => ?_, fun hfailed hnever => absurd (hknown hfailed) hnever, fun hhanded => ?_⟩
    · rw [hcall] at hanswer
      cases hanswer
    · rw [hcall] at hhanded
      cases hhanded

theorem faithful_iff_of_repetition (h : s.fate py c.name = .repetition) :
    Faithful py contents s c ↔ AcceptedIn contents s.log c.name := by
  have hcall : s.routeMessage py c = (true, s.record c.name false false) := by
    rw [RoutingService.routeMessage, h]
  constructor
  · intro hfaithful
    have haccepted := hfaithful.accepted (by rw [hcall])
    rw [hcall] at haccepted
    exact (acceptedIn_cons_of_not rfl).mp haccepted
  · intro haccepted
    refine ⟨fun _ => ?_, fun _ hnever => absurd haccepted hnever, fun hhanded => ?_⟩
    · rw [hcall]
      exact (acceptedIn_cons_of_not rfl).mpr haccepted
    · rw [hcall] at hhanded
      cases hhanded

theorem faithful_iff_of_handedOn (h : s.fate py c.name = .handedOn) :
    Faithful py contents s c ↔ ¬ RecentlyAcceptedIn contents s.log c.name ∧
      (isDirect py (s.messages c.name) = true → c.routed = .raised →
        AcceptedIn contents s.log c.name) := by
  have hcall : s.routeMessage py c = (RoutingService.answer py (s.messages c.name) c.routed,
      (s.remember py c).record c.name true
        (RoutingService.accepts py (s.messages c.name) c.routed)) := by
    rw [RoutingService.routeMessage, h]
  have hhanded : (s.routeMessage py c).2.log.head?.any Entry.handed = true := by
    rw [hcall]
    rfl
  constructor
  · intro hfaithful
    refine ⟨hfaithful.once hhanded, fun hdirect hraised => ?_⟩
    have haccepted := hfaithful.accepted (by rw [hcall, RoutingService.answer, hdirect, Bool.true_or])
    rw [hcall] at haccepted
    apply (acceptedIn_cons_of_not _).mp haccepted
    rw [RoutingService.accepts, if_pos hdirect, hraised]
    rfl
  · rintro ⟨hrecent, herror⟩
    refine ⟨fun hanswer => ?_, fun _ _ => hhanded, fun _ => hrecent⟩
    rw [hcall] at hanswer ⊢
    cases haccepts : RoutingService.accepts py (s.messages c.name) c.routed with
    | true => exact @acceptedIn_cons_self contents s.log { name := c.name, handed := true, accepted := true } rfl
    | false =>
      apply (acceptedIn_cons_of_not rfl).mpr
      -- Only an error of one of the two services is answered with True.
      rw [RoutingService.accepts] at haccepts
      split_ifs at haccepts with hdirect
      · exact herror hdirect (by simpa using haccepts)
      · dsimp only at hanswer
        rw [RoutingService.answer, haccepts, Bool.or_false] at hanswer
        exact absurd hanswer hdirect

end Calls

theorem faithful_iff (py : Runtime) (contents : ℕ → Subject) (s : RoutingService) (c : RouteCall) :
    Faithful py contents s c ↔ Remembered py contents s c := by
  rw [Remembered]
  cases h : s.fate py c.name with
  | fails => exact faithful_iff_of_fails h
  | repetition => exact faithful_iff_of_repetition h
  | handedOn => exact faithful_iff_of_handedOn h

end Fmofp.Routing
