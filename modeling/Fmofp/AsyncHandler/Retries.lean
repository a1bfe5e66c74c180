import Fmofp.AsyncHandler.QueueThreads
import Fmofp.Machine.Run

/-! The retries of `AsyncMessageHandler` while it processes messages.  A message is tracked from
`add_message` until its handler has completed, the queue keeps a table of retries of its own, and each
watchdog pass puts messages from either back into the queue.  What a thread does without the lock of
the other threads in between is one step. -/

namespace Fmofp.AsyncHandler.Retry

open Python Machine

def maxRetries : ℕ := 3
def retryDelay : ℚ := 5
def messageTimeout : ℚ := 30

/-- An entry of `_message_tracking`, without the system and the message, which stay the same. -/
structure Tracked where
  timestamp : ℚ
  priority : Priority
  retryCount : ℕ
  deriving DecidableEq

/-- Where a worker is with a message. -/
inductive Work where
  | idle
  | handling (id : Value)
  /-- The task is done in the queue, and the message is still tracked. -/
  | completed (id : Value)
  deriving DecidableEq

/-- What happens to a message. -/
inductive Event where
  | put (id : Value)
  | handed (id : Value)
  | completed (id : Value) (success : Bool)
  deriving DecidableEq

/-- The items of the queue are the identifiers of their messages.  `candidates` are those that passes
have collected and not yet dealt with, each with the time of its pass, and `log` is what has happened
so far, the last event first. -/
structure State where
  tracking : Dict Value Tracked
  buffer : Priority → List Value
  queue : PriorityQueue Value
  workers : ℕ → Work
  candidates : List (ℚ × Value)
  added : List Value
  log : List Event

inductive Action where
  /-- `add_message`; `valid` is the verdict of `_validate_message`, here and below. -/
  | add (id : Value) (priority : Priority) (valid : Bool) (now : ℚ)
  /-- `add_message` while the handler is neither `RUNNING` nor `DEGRADED`. -/
  | buffer (id : Value) (priority : Priority)
  /-- `_flush_buffer_to_queue`, by a worker or a pass. -/
  | flush (valid : Value → Bool) (now : ℚ)
  /-- A worker takes a message, in `STOPPING` one of high priority only. -/
  | take (worker : ℕ) (stopping : Bool)
  /-- The handler returns or raises. -/
  | finish (worker : ℕ) (success : Bool) (now : ℚ)
  | untrack (worker : ℕ)
  /-- The part of a pass for messages that have timed out; `healthy` says that the state is `RUNNING`
  or `DEGRADED`. -/
  | timeouts (now : ℚ) (healthy : Bool) (valid : Value → Bool)
  /-- `get_retry_candidates` of a pass. -/
  | collect (passTime now : ℚ)
  /-- A pass deals with one of its candidates. -/
  | retry (index : ℕ) (valid : Bool) (now : ℚ)

/-- `_handle_message_async` catches what a handler raises, so that it returns in either case. -/
def handleMessageAsync (_success : Bool) : Bool := true

/-- The identifier under which `_process_single_message` reports a message. -/
def taskId (id : Value) : Value := if id.truthy then id else .str "unknown"

namespace State

variable (s : State)

def put (id : Value) (priority : Priority) (now : ℚ) : State :=
  { s with queue := s.queue.put id id priority now, log := .put id :: s.log }

/-- The messages in the buffer, in the order of the priorities. -/
def buffered : List Value := priorities.flatMap s.buffer

/-- `get_all_messages`. -/
def allMessages : List (Priority × Value) :=
  priorities.flatMap fun p => (s.buffer p).map fun id => (p, id)

/-- A flush puts the valid messages into the queue, where they are not tracked. -/
def flushMessage (valid : Value → Bool) (now : ℚ) (m : Priority × Value) : State :=
  if valid m.2 then s.put m.2 m.1 now else s

/-- A message is put back with high priority if it is valid, and else no longer tracked. -/
def requeue (id : Value) (t : Tracked) (passTime : ℚ) (valid : Bool) (now : ℚ) : State :=
  if valid then
    { s with
      tracking := Dict.set s.tracking id
        { t with timestamp := passTime, retryCount := t.retryCount + 1 } }.put id .high now
  else { s with tracking := Dict.erase s.tracking id }

/-- The rule for a message that has timed out. -/
def shouldRetry (t : Tracked) (healthy : Bool) : Bool :=
  (decide (t.priority = .high) || (healthy && decide (t.priority = .normal))) &&
    decide (t.retryCount < maxRetries)

def handleTimedOut (now : ℚ) (healthy : Bool) (valid : Value → Bool) (e : Value × Tracked) : State :=
  if shouldRetry e.2 healthy then s.requeue e.1 e.2 now (valid e.1) now
  else { s with tracking := Dict.erase s.tracking e.1 }

/-- The messages that have timed out. -/
def timedOut (now : ℚ) : List (Value × Tracked) :=
  s.tracking.filter fun e => decide (now - e.2.timestamp > messageTimeout)

/-- `_process_single_message` after the handler. -/
def finish (worker : ℕ) (id : Value) (success : Bool) (now : ℚ) : State :=
  let s := { s with
    workers := Function.update s.workers worker (.completed id)
    log := .completed id success :: s.log }
  if handleMessageAsync success then { s with queue := s.queue.taskDone (taskId id) true now }
  else
    { s with
      queue := s.queue.taskDone (taskId id) false now
      tracking := Dict.modify s.tracking (taskId id) fun t =>
        { t with timestamp := now, retryCount := t.retryCount + 1 } }

end State

def nextState (s : State) : Action → State
  | .add id priority valid now =>
    let s := { s with
      tracking := Dict.set s.tracking id ⟨now, priority, 0⟩
      added := id :: s.added }
    if valid then s.put id priority now else s
  | .buffer id priority =>
    { s with
      buffer := Function.update s.buffer priority (s.buffer priority ++ [id])
      added := id :: s.added }
  | .flush valid now =>
    s.allMessages.foldl (fun s m => s.flushMessage valid now m) { s with buffer := fun _ => [] }
  | .take worker stopping =>
    match s.workers worker, if stopping then s.queue.takeFrom .high else s.queue.get with
    | .idle, some (id, queue) =>
      { s with
        queue := queue
        workers := Function.update s.workers worker (.handling id)
        log := .handed id :: s.log }
    | _, _ => s
  | .finish worker success now => match s.workers worker with
    | .handling id => s.finish worker id success now
    | _ => s
  | .untrack worker => match s.workers worker with
    | .completed id =>
      { s with
        workers := Function.update s.workers worker .idle
        tracking := Dict.erase s.tracking (taskId id) }
    | _ => s
  | .timeouts now healthy valid =>
    (s.timedOut now).foldl (fun s e => s.handleTimedOut now healthy valid e) s
  | .collect passTime now =>
    let (ids, queue) := s.queue.getRetryCandidates maxRetries retryDelay now
    { s with queue := queue, candidates := s.candidates ++ ids.map fun id => (passTime, id) }
  | .retry index valid now => match s.candidates[index]? with
    | some (passTime, id) =>
      let s := { s with candidates := s.candidates.eraseIdx index }
      match Dict.get? s.tracking id with
      | some t => s.requeue id t passTime valid now
      | none => s
    | none => s

def retryStep (s : State) (a : Action) : Unit × State := ((), nextState s a)

def idleHandler : State where
  tracking := []
  buffer _ := []
  queue := .new
  workers _ := .idle
  candidates := []
  added := []
  log := []

/-- Nothing is handed to a handler after a handler has completed it. -/
def NeverAgain (id : Value) : List Event → Prop
  | [] => True
  | e :: earlier => (e = .handed id → .completed id true ∉ earlier) ∧ NeverAgain id earlier

instance decidableNeverAgain (id : Value) : ∀ log, Decidable (NeverAgain id log)
  | [] => .isTrue trivial
  | e :: earlier => have := decidableNeverAgain id earlier
    inferInstanceAs (Decidable ((e = .handed id → .completed id true ∉ earlier) ∧ NeverAgain id earlier))

end Fmofp.AsyncHandler.Retry
