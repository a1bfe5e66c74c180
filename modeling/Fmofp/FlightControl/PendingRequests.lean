import Fmofp.Machine.Run
import Fmofp.Python.Value

/-! The pending requests of `FCSMessageHandler`: `send_request` up to a transmission that succeeds, the
response handlers, and the passes of `_cleanup_pending_requests`.  What happens under the lock is one
step; between taking an entry out of the table and recording the response other steps can come. -/

namespace Fmofp.FlightControl

open Python Machine

/-- The text of a `uuid4`. -/
abbrev RequestId := String

def maxRetries : ℤ := 3

structure PendingRequest where
  requestId : RequestId
  commandType : String
  timestamp : ℚ
  timeout : ℚ
  systemName : String
  data : Value
  retryCount : ℤ
  response : Option Message
  completed : Bool

namespace PendingRequest

variable (r : PendingRequest)

def isExpired (time : ℚ) : Bool := decide (time > r.timestamp + r.timeout)

def shouldRetry : Bool := !r.completed && decide (r.retryCount < maxRetries)

def incrementRetry (time : ℚ) : PendingRequest :=
  { r with retryCount := r.retryCount + 1, timestamp := time }

def setResponse (message : Message) : PendingRequest :=
  { r with response := some message, completed := true }

end PendingRequest

/-- What a handler or a pass does with a request: a pass finds its window elapsed, extends it, or gives
the request up and notifies of that, or leaves the notification out. -/
inductive Event where
  | recorded (id : RequestId)
  | elapsed (id : RequestId)
  | extended (id : RequestId)
  | timedOut (id : RequestId) (notified : Option Bool)
  deriving DecidableEq

/-- What `_notify_request_timed_out` comes upon: a loop or none, closed or not, and a response service
or none, whose use ends somehow. -/
structure Surroundings where
  loop : Option Bool
  responseService : Option (Except Exception Unit)

/-- A pass, with the readings of the clock by `is_expired` and `increment_retry` and the surroundings of
each notification. -/
structure Pass where
  check : RequestId → ℚ
  stamp : RequestId → ℚ
  surroundings : RequestId → Surroundings

/-- A message at a response handler, perhaps through `to_dict`. -/
inductive Incoming where
  | message (m : Message)
  | invalid

/-- The answer of a response handler. -/
inductive Reply where
  | processed
  | invalidFormat
  | raised (e : Exception)
  deriving DecidableEq

/-- `held` are the requests that a handler has taken out to record their response, `issued` the
`inherited_retries` of the calls of `send_request` so far. -/
structure State where
  pending : Dict RequestId PendingRequest
  held : List (PendingRequest × Message)
  issued : List ℤ
  log : List Event

inductive Action where
  | send (systemName requestType : String) (data : Value) (inheritedRetries : ℤ) (now : ℚ)
  | receive (incoming : Incoming)
  | record (i : ℕ)
  | pass (p : Pass)

def notifyRequestTimedOut (at' : Surroundings) : Bool :=
  match at'.loop with
  | none => false
  | some true => false
  | some false => match at'.responseService with
    | none => false
    | some (.ok _) => true
    -- caught and logged
    | some (.error _) => false

/-- The part of the pass that comes after the removal of an entry. -/
def Pass.notification (p : Pass) (r : PendingRequest) : Option Bool :=
  if r.commandType ≠ "" ∧ (p.surroundings r.requestId).responseService.isSome then
    some (notifyRequestTimedOut (p.surroundings r.requestId))
  else none

/-- The loop over `retry_requests`; it ends at a key that is not there. -/
def extendWindows (p : Pass) : List RequestId → Dict RequestId PendingRequest →
    List Event × Dict RequestId PendingRequest × Bool
  | [], pending => ([], pending, true)
  | id :: rest, pending => match Dict.get? pending id with
    | none => ([], pending, false)
    | some r =>
      let result := extendWindows p rest (Dict.set pending id (r.incrementRetry (p.stamp id)))
      (.extended id :: result.1, result.2)

/-- The loop over `expired_requests`. -/
def removeExpired (p : Pass) : List RequestId → Dict RequestId PendingRequest →
    List Event × Dict RequestId PendingRequest
  | [], pending => ([], pending)
  | id :: rest, pending => match Dict.get? pending id with
    | none => ([], pending)
    | some r =>
      let result := removeExpired p rest (Dict.erase pending id)
      (.timedOut id (p.notification r) :: result.1, result.2)

/-- The entries whose window the pass finds elapsed. -/
def Pass.found (p : Pass) (pending : Dict RequestId PendingRequest) : Dict RequestId PendingRequest :=
  pending.filter fun e => e.2.isExpired (p.check e.1)

def cleanupPendingRequests (p : Pass) (pending : Dict RequestId PendingRequest) :
    List Event × Dict RequestId PendingRequest :=
  let found := p.found pending
  let retryRequests := (found.filter fun e => e.2.shouldRetry).map Prod.fst
  let expiredRequests := (found.filter fun e => !e.2.shouldRetry).map Prod.fst
  let (extensions, pending, completed) := extendWindows p retryRequests pending
  let events := found.map (fun e => .elapsed e.1) ++ extensions
  if completed then
    let (removals, pending) := removeExpired p expiredRequests pending
    (events ++ removals, pending)
  else (events, pending)

/-- `self.pending_requests.pop(message.get('request_id', None), None)`. -/
def popRequest (pending : Dict RequestId PendingRequest) (m : Message) :
    Except Exception (Option PendingRequest × Dict RequestId PendingRequest) :=
  match (Dict.getD m "request_id" .none).key? with
  | none => .error .typeError
  | some (.str id) => .ok (Dict.get? pending id, Dict.erase pending id)
  | some _ => .ok (none, pending)

/-- The response handlers for mode changes, control inputs, orientation data and status, up to
`set_response`. -/
def handleResponse (s : State) : Incoming → Reply × State
  | .invalid => (.invalidFormat, s)
  | .message m => match popRequest s.pending m with
    | .error e => (.raised e, s)
    | .ok (none, pending) => (.processed, { s with pending := pending })
    | .ok (some r, pending) =>
      (.processed, { s with pending := pending, held := s.held ++ [(r, m)] })

/-- The entry that `send_request` makes. -/
def newRequest (id : RequestId) (systemName requestType : String) (data : Value)
    (inheritedRetries : ℤ) (now : ℚ) : PendingRequest where
  requestId := id
  commandType := requestType
  timestamp := now
  timeout := 5
  systemName := systemName
  data := data
  retryCount := inheritedRetries
  response := none
  completed := false

/-- One step, where the `n`-th call of `uuid4` returns `uuid n`. -/
def nextState (uuid : ℕ → RequestId) (s : State) : Action → State
  | .send systemName requestType data inheritedRetries now =>
    let id := uuid s.issued.length
    { s with
      pending := Dict.set s.pending id (newRequest id systemName requestType data inheritedRetries now)
      issued := s.issued ++ [inheritedRetries] }
  | .receive incoming => (handleResponse s incoming).2
  | .record i => match s.held[i]? with
    | none => s
    | some (r, m) =>
      { s with held := s.held.eraseIdx i, log := s.log ++ [.recorded (r.setResponse m).requestId] }
  | .pass p =>
    let (events, pending) := cleanupPendingRequests p s.pending
    { s with pending := pending, log := s.log ++ events }

def handlerStep (uuid : ℕ → RequestId) (s : State) (a : Action) : Unit × State :=
  ((), nextState uuid s a)

def start : State where
  pending := []
  held := []
  issued := []
  log := []

namespace State

variable (s : State) (id : RequestId)

def records : ℕ := s.log.count (.recorded id)

def findings : ℕ := s.log.count (.elapsed id)

def extensions : ℕ := s.log.count (.extended id)

/-- `Event.timedOut` of `id`, whatever became of the notification. -/
def timeouts : ℕ := s.log.countP fun e => match e with
  | .timedOut i _ => decide (i = id)
  | _ => false

end State

/-- Every request ends once.  `budget` says how many extensions a request has that inherits so many
retries. -/
structure EndsOnce (uuid : ℕ → RequestId) (budget : ℤ → ℕ) (s : State) : Prop where
  /-- A response recorded once, or one timeout. -/
  once : ∀ id, s.records id + s.timeouts id ≤ 1
  /-- A request that no response has come for waits or has timed out. -/
  accounted : ∀ n < s.issued.length, Dict.has s.pending (uuid n) = true ∨
    (∃ h ∈ s.held, h.1.requestId = uuid n) ∨ s.records (uuid n) = 1 ∨ s.timeouts (uuid n) = 1
  /-- The passes that find the window elapsed extend it up to the budget; the next one gives the request
  up. -/
  windows : ∀ n k, s.issued[n]? = some k →
    s.extensions (uuid n) = min (s.findings (uuid n)) (budget k) ∧
      s.timeouts (uuid n) = if budget k < s.findings (uuid n) then 1 else 0
  /-- A pass notifies of every request that it gives up, whatever becomes of the other
  notifications. -/
  notified : ∀ (p : Pass) id r, Dict.get? s.pending id = some r → r.isExpired (p.check id) = true →
    r.shouldRetry = false →
    .timedOut id (p.notification r) ∈ (cleanupPendingRequests p s.pending).1

end Fmofp.FlightControl
