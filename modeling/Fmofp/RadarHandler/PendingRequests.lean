import Fmofp.Machine.Run
import Fmofp.Python.Value

/-! The pending requests of `RadarMessageHandler` and the passes of `_cleanup_pending_requests`.  Each
part of the code between two places where it waits is one step, so that requests, responses and the
ends of transmissions can come in between. -/

namespace Fmofp.RadarHandler

open Python Machine

/-- The identifier of a pending request, the keys of `pending_requests`. -/
abbrev RequestId := ℕ

def maxRetries : ℕ := 3

/-- `PendingRequest`, and with it the request on whose behalf it was sent. -/
structure PendingRequest where
  requestType : String
  radarName : String
  timestamp : ℚ
  data : Value
  retries : ℕ
  origin : RequestId

namespace PendingRequest

def timeout (r : PendingRequest) : ℚ := if r.requestType = "mode_change" then 10 else 5

def isExpired (r : PendingRequest) (currentTime : ℚ) : Bool :=
  decide (currentTime - r.timestamp > r.timeout)

def shouldRetry (r : PendingRequest) : Bool := decide (r.retries < maxRetries)

def incrementRetry (r : PendingRequest) (now : ℚ) : PendingRequest :=
  { r with retries := r.retries + 1, timestamp := now }

end PendingRequest

/-- What a pass is doing. -/
inductive Resend where
  | idle
  /-- In `send_request` for the given entry, before the bus. -/
  | preparing (old : RequestId)
  /-- In `send_message` for the new entry. -/
  | sending (old new : RequestId)
  deriving DecidableEq

/-- `objects` are the entries that ever were, `pending` the keys of `pending_requests` now.  A pass
has its time, the rest of its snapshot and its `expired_uuids`.  The last field records on whose
behalf each call of `send_message` was. -/
structure State where
  objects : RequestId → PendingRequest
  pending : List RequestId
  sends : List RequestId
  passTime : Option ℚ
  todo : List RequestId
  expired : List RequestId
  resend : Resend
  started : Bool
  nextId : RequestId
  transmissions : List RequestId

/-- How `sendMsg.send_message` ends. -/
inductive Outcome where
  | sent
  | failed
  | raised
  deriving DecidableEq

inductive Action where
  /-- `send_request` of a caller comes to the bus. -/
  | send (requestType radarName : String) (data : Value) (now : ℚ)
  | sendDone (id : RequestId) (outcome : Outcome)
  | beginPass (now : ℚ)
  /-- The pass looks at the next entry of its snapshot. -/
  | examine (now : ℚ)
  /-- The resending comes to the bus, or ends before it. -/
  | transmit (now : ℚ)
  | refuse
  | resendDone (outcome : Outcome)
  | endPass
  /-- A response deletes an entry. -/
  | respond (id : RequestId)
  /-- The handler stops: its cleanup task is cancelled, and every entry goes. -/
  | stop
  | setStarted (started : Bool)

namespace State

variable (s : State)

/-- `del self.pending_requests[id]`; where it raises, the exception is caught at once. -/
def delete (id : RequestId) : State := { s with pending := s.pending.filter (· ≠ id) }

/-- The new entry is stored, and `send_message` is called. -/
def register (r : PendingRequest) : State :=
  { s with
    objects := Function.update s.objects s.nextId r
    pending := s.pending ++ [s.nextId]
    nextId := s.nextId + 1
    transmissions := r.origin :: s.transmissions }

/-- The handling of one entry of the snapshot at the time of the pass. -/
def examine (passTime : ℚ) (id : RequestId) (rest : List RequestId) (now : ℚ) : State :=
  if (s.objects id).isExpired passTime then
    if (s.objects id).shouldRetry && s.started then
      { s with
        objects := Function.update s.objects id ((s.objects id).incrementRetry now)
        todo := rest
        expired := s.expired ++ [id]
        resend := .preparing id }
    else { s with todo := rest, expired := s.expired ++ [id] }
  else { s with todo := rest }

/-- The end of a resending: only after a success is the count copied to the new entry. -/
def resendDone (old new : RequestId) : Outcome → State
  | .sent =>
    if new ∈ s.pending then
      { s with
        objects := Function.update s.objects new
          { s.objects new with retries := (s.objects old).retries }
        resend := .idle }
    else { s with resend := .idle }
  | .failed => { s.delete new with resend := .idle }
  | .raised => { s with resend := .idle }

end State

/-- One step; an action that does not fit the state changes nothing. -/
def nextState (s : State) : Action → State
  | .send requestType radarName data now =>
    { s.register {
        requestType := requestType
        radarName := radarName
        timestamp := now
        data := data
        retries := 0
        origin := s.nextId } with
      sends := s.nextId :: s.sends }
  | .sendDone id outcome =>
    if id ∈ s.sends then
      { (if outcome = .failed then s.delete id else s) with sends := s.sends.erase id }
    else s
  | .beginPass now =>
    if s.started then
      -- the lock of the passes
      if s.passTime = none then { s with passTime := some now, todo := s.pending } else s
    else { s with pending := [] }
  | .examine now => match s.passTime, s.resend, s.todo with
    | some passTime, .idle, id :: rest => s.examine passTime id rest now
    | _, _, _ => s
  | .transmit now => match s.resend with
    | .preparing old =>
      { s.register { s.objects old with timestamp := now, retries := 0 } with
        resend := .sending old s.nextId }
    | _ => s
  | .refuse => match s.resend with
    | .preparing _ => { s with resend := .idle }
    | _ => s
  | .resendDone outcome => match s.resend with
    | .sending old new => s.resendDone old new outcome
    | _ => s
  | .endPass => match s.passTime, s.resend, s.todo with
    | some _, .idle, [] =>
      { s with passTime := none, expired := [], pending := s.pending.filter (· ∉ s.expired) }
    | _, _, _ => s
  | .respond id => s.delete id
  | .stop =>
    { s with pending := [], passTime := none, todo := [], expired := [], resend := .idle }
  | .setStarted started => { s with started := started }

def retryStep (s : State) (a : Action) : Unit × State := ((), nextState s a)

/-- Nothing has been asked for, and the asynchronous handler runs. -/
def idleHandler : State where
  objects _ := {
    requestType := ""
    radarName := ""
    timestamp := 0
    data := .none
    retries := 0
    origin := 0 }
  pending := []
  sends := []
  passTime := none
  todo := []
  expired := []
  resend := .idle
  started := true
  nextId := 0
  transmissions := []

/-- The transmissions on behalf of a request: the first one and those of its retries. -/
def State.attempts (s : State) (origin : RequestId) : ℕ := s.transmissions.count origin

/-- A retransmission on behalf of the request raises, and its entry is still there: it stays with a
count of zero. -/
def ResetsBudget (origin : RequestId) (s : State) : Action → Prop
  | .resendDone .raised => match s.resend with
    | .sending _ new => new ∈ s.pending ∧ (s.objects new).origin = origin
    | _ => False
  | _ => False

instance (origin : RequestId) (s : State) (a : Action) : Decidable (ResetsBudget origin s a) := by
  unfold ResetsBudget
  split
  · split <;> infer_instance
  · infer_instance

end Fmofp.RadarHandler
